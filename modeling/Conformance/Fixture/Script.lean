import Conformance.Fixture.Basic
import Conformance.Property.Typed
import Conformance.Response.Form

/-!
Tests written as a list of actions on the property store, the clock and the responder. The actions
are carried out in order; the first that ends the test gives the verdict.
-/

namespace Conformance

inductive ScriptAction where
  | set (property : String) (value : Json)
  /-- Fails unless the property has the value. -/
  | expect (property : String) (value : Json)
  /-- Writes the value of one property to another; without it the test is broken. -/
  | copy (source target : String)
  /-- Adds to an integer property; fails if it is not one. -/
  | add (property : String) (amount : Int)
  | return (verdict : TestState)
  | sleep (span : Span)
  /-- Waits as long as after a broadcast write. -/
  | settle
  | warn (text : String)
  | record (kind : RequestKind) (elapsed : Span)
  /-- Sends a GET, times it, and may save the payload of the answer as a property. -/
  | get (pid : ParameterId) (subDevice : UInt16) (data : List UInt8) (save : Option String)

namespace ScriptAction

/-- What follows the answer to a GET: a warning for a refusal, and the payload where it is wanted. -/
def saved (save : Option String) (response : Response) (next : Body) : Body :=
  let kept : Body := match save with
    | none => next
    | some property =>
      let document := match response.payload with
        | some payload => (encode payload).canonical
        | none => .null
      .write property document next
  match response.nackReason? with
  | some reason => .warn reason.display kept
  | none => kept

/-- The body that carries out one action and then the rest. -/
def body (setup : TestSetup) (next : Body) : ScriptAction → Body
  | .set property value => .write property value next
  | .expect property value =>
    .read property fun
      | some found => if found.same value then next else .done .failed
      | none => .done .failed
  | .copy source target =>
    .read source fun
      | some found => .write target found next
      | none => .note (.propertyError (.missing source)) (.done .broken)
  | .add property amount =>
    .read property fun
      | none => .note (.propertyError (.missing property)) (.done .failed)
      | some found =>
        match PropertyType.i64.read found with
        | .ok value => .write property (.int (value + amount)) next
        | .error reason => .note (.propertyError (.wrongType property reason)) (.done .failed)
  | .return verdict => .done verdict
  | .sleep span => .sleep span next
  | .settle => .sleep setup.broadcastWriteDelay next
  | .warn text => .warn text next
  | .record kind elapsed => .record kind elapsed next
  | .get pid subDevice data save =>
    .clock fun sent =>
      .get ⟨setup.universeId, setup.uid, subDevice, pid, data⟩ fun result =>
        .clock fun received =>
          .record .get (.ofNanos (received - sent)) <|
            match result with
            | .error error => .warn error.message (.done .failed)
            | .ok response => saved save response next

/-- The body of a list of actions; a test that comes to its end has passed. -/
def bodyOf (setup : TestSetup) (actions : List ScriptAction) : Body :=
  actions.foldr (fun action next => action.body setup next) (.done .passed)

/-- Whether the action works on the property store alone. -/
def isPlain : ScriptAction → Bool
  | .set _ _ | .expect _ _ | .copy _ _ | .add _ _ | .return _ => true
  | .sleep _ | .settle | .warn _ | .record _ _ | .get _ _ _ _ => false

/-- The body of a test that reaches nothing but the property store: all other actions are passed over. -/
def plainBodyOf (setup : TestSetup) (actions : List ScriptAction) : Body :=
  bodyOf setup (actions.filter isPlain)

end ScriptAction

end Conformance
