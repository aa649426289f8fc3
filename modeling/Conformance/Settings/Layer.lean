import Conformance.Settings.Basic
import Conformance.Settings.Value

/-!
Settings from layers. A source of settings is a layer of names with values; layers are laid one over
the other, and what none of them names has its default.
-/

namespace Conformance

/-- Names with values, in the order in which they are set: of two values for a name the later counts. -/
abbrev Layer := List (String × Setting)

namespace Layer

/-- Whether names within a key are made of the character; spaces are part of them. -/
def isNameChar (c : Char) : Bool := c.isAlphanum || c == '_' || c == '-' || c == ' '

def isGap (c : Char) : Bool := c == ' ' || c == '\t'

/-- The text after an index of 64 bits and its closing bracket; gaps may stand around the index. -/
def afterIndex? (text : List Char) : Option (List Char) :=
  let (negative, text) := match text.dropWhile isGap with
    | '-' :: rest => (true, rest)
    | text => (false, text)
  match Text.spanDigits text with
  | (d :: ds, rest) =>
    match Text.signed64? negative (d :: ds), rest.dropWhile isGap with
    | some _, ']' :: rest => some rest
    | _, _ => none
  | ([], _) => none

/-- Whether the text goes on from a name to names and indices within it; each takes a character or more. -/
def isPath : (fuel : Nat) → List Char → Bool
  | 0, text => text.isEmpty
  | _ + 1, [] => true
  | fuel + 1, '.' :: rest => !(rest.takeWhile isNameChar).isEmpty && isPath fuel (rest.dropWhile isNameChar)
  | fuel + 1, '[' :: rest =>
    match afterIndex? rest with
    | some rest => isPath fuel rest
    | none => false
  | _ + 1, _ :: _ => false

/--
What a source sets by giving a value, or an empty group of values, to a key; case does not matter. A
key such as `a.b` or `a[0]` sets something within `a`, which then is fit for no setting; any other
text is a name as a whole. An empty group adds nothing to what its name already has.
-/
def entry? (key : String) (value : Option Setting) : Option (String × Setting) :=
  let name := key.toList.takeWhile isNameChar
  let rest := key.toList.dropWhile isNameChar
  if name.isEmpty || rest.isEmpty || !isPath rest.length rest then value.map (Text.lower key, ·)
  else some (Text.lower (String.ofList name), .unfit)

def value? (layer : Layer) (name : String) : Option Setting := layer.reverse.lookup name

/-- The reading of a name's value, or the default of a name without one. -/
def read? (layer : Layer) (name : String) (reading : Setting → Option α) (default : α) : Option α :=
  match layer.value? name with
  | some value => reading value
  | none => some default

end Layer

/-- The settings of a layer, if every value is fit for its setting. -/
def Settings.ofLayer? (layer : Layer) : Option Settings := do
  let d := Settings.default
  some {
    universeId := ← layer.read? "universe" Setting.word32? d.universeId
    uid := ← layer.read? "uid" Setting.uid? d.uid
    broadcastWriteDelayMs := ← layer.read? "broadcast_write_delay_ms" Setting.word64? d.broadcastWriteDelayMs
    interTestDelayMs := ← layer.read? "inter_test_delay_ms" Setting.word64? d.interTestDelayMs
    timestamp := ← layer.read? "timestamp" Setting.flag? d.timestamp
    queuedMessageLimit := ← layer.read? "queued_message_limit" Setting.word32? d.queuedMessageLimit
    ackTimerLimit := ← layer.read? "ack_timer_limit" Setting.word32? d.ackTimerLimit }

end Conformance
