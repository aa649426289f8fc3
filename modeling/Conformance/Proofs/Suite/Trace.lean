import Conformance.Proofs.Suite.Build

/-!
# The calls of the builder

`instantiateWithin` is `instantiate` with a limit to the calls that may be open at a time. It writes down every
call when it is made and when it returns, and gives up where the limit is reached. The calls that are open after
some moves (`openAfter`) are a stack that is kept by these moves alone and not by the path of the builder.
`Follows` says that such a trace comes to what the builder comes to, with a property that all its calls have.
-/

namespace Conformance.Builder

/-- A call of `instantiate`, with the chain of tests that leads to it and the builder that it finds. -/
structure Call (σ : Type) where
  chain : List String
  test : TestDefinition
  builder : Builder σ

/-- A call is made, or the last of those that are open returns. -/
inductive Move (σ : Type) where
  | call (c : Call σ)
  | back

variable {σ : Type} {α β : Type}

namespace Move

def next (stack : List TestDefinition) : Move σ → List TestDefinition
  | call c => stack ++ [c.test]
  | back => stack.dropLast

/-- The test whose fixture is made in a call: only one that was not met before needs it. -/
def made? : Move σ → Option String
  | call c => if c.builder.memo.contains c.test.name then none else some c.test.name
  | back => none

end Move

/-- The tests whose calls are open after the moves, the outermost first. -/
def openAfter (stack : List TestDefinition) (moves : List (Move σ)) : List TestDefinition := moves.foldl Move.next stack

/-- What a step of the builder comes to, with the moves on the way. -/
structure Traced (σ α : Type) where
  outcome : Except SuiteError α × Builder σ
  moves : List (Move σ)

namespace Traced

/-- Goes on with the builder that a step left, unless the step failed. -/
def andThen (first : Traced σ α) (next : α → Builder σ → Option (Traced σ β)) : Option (Traced σ β) :=
  match first.outcome with
  | (.error error, b) => some ⟨(.error error, b), first.moves⟩
  | (.ok a, b) => (next a b).map fun second => ⟨second.outcome, first.moves ++ second.moves⟩

/-- The step is all that a call does. -/
def within (c : Call σ) (inner : Traced σ α) : Traced σ α := ⟨inner.outcome, .call c :: (inner.moves ++ [.back])⟩

end Traced

/-- `resolve`, with `call` in the place of `instantiate`. -/
def resolveBy (call : TestDefinition → Builder σ → Option (Traced σ Nat)) (r : Registry) (path : List String) :
    List String → SortedSet Nat → Builder σ → Option (Traced σ (SortedSet Nat))
  | [], targets, b => some ⟨(.ok targets, b), []⟩
  | name :: rest, targets, b =>
    if name ∈ path then
      some ⟨(.error (.circularDependency (path.dropWhile (· ≠ name))), b), []⟩
    else
      match r.require name with
      | .error error => some ⟨(.error error, b), []⟩
      | .ok d =>
        (call d b).bind fun first =>
          first.andThen fun index b => resolveBy call r path rest (targets.insert index) b

/-- `instantiate` along the chain to the test, as long as no more calls are open at a time than the limit allows. -/
def instantiateWithin [Transport σ] (r : Registry) (setup : TestSetup) :
    Nat → List String → TestDefinition → Builder σ → Option (Traced σ Nat)
  | 0, _, _, _ => none
  | limit + 1, chain, d, b =>
    let path := chain ++ [d.name]
    let inner : Option (Traced σ Nat) :=
      match b.memo.get? d.name with
      | some index => some ⟨(.ok index, b), []⟩
      | none =>
        let (n, entered) := b.enter setup d
        match r.dependenciesOf n with
        | .error error => some ⟨(.error error, entered), []⟩
        | .ok dependencies =>
          (resolveBy (instantiateWithin r setup limit path) r path dependencies.toList ∅
            (entered.pushNode n)).bind fun resolved =>
              resolved.andThen fun targets b' => some ⟨(.ok b.graph.size, b'.setEdges b.graph.size targets), []⟩
    inner.map (Traced.within ⟨chain, d, b⟩)

/-- `selectAll`, with the same limit for each of the tests. -/
def selectAllWithin [Transport σ] (r : Registry) (setup : TestSetup) (limit : Nat) :
    List TestDefinition → Builder σ → Option (Traced σ Unit)
  | [], b => some ⟨(.ok (), b), []⟩
  | d :: rest, b =>
    (instantiateWithin r setup limit [] d b).bind fun first =>
      first.andThen fun _ b => selectAllWithin r setup limit rest b

section Equations

variable [Transport σ] {r : Registry} {setup : TestSetup} {limit : Nat} {chain : List String} {d : TestDefinition}
  {b : Builder σ}

theorem instantiateWithin_met {i : Nat} (met : b.memo.get? d.name = some i) :
    instantiateWithin r setup (limit + 1) chain d b =
      (some ⟨(.ok i, b), []⟩ : Option (Traced σ Nat)).map (Traced.within ⟨chain, d, b⟩) := by
  rw [instantiateWithin, met]

theorem instantiateWithin_unresolved {error : SuiteError} (fresh : b.memo.get? d.name = none)
    (failed : r.dependenciesOf (b.node setup d) = .error error) :
    instantiateWithin r setup (limit + 1) chain d b =
      (some ⟨(.error error, (b.enter setup d).2), []⟩ : Option (Traced σ Nat)).map
        (Traced.within ⟨chain, d, b⟩) := by
  rw [node] at failed
  rw [instantiateWithin, fresh]
  simp only [failed]

theorem instantiateWithin_resolved {dependencies : SortedSet String} (fresh : b.memo.get? d.name = none)
    (found : r.dependenciesOf (b.node setup d) = .ok dependencies) :
    instantiateWithin r setup (limit + 1) chain d b =
      ((resolveBy (instantiateWithin r setup limit (chain ++ [d.name])) r (chain ++ [d.name]) dependencies.toList ∅
        (b.visit setup d)).bind fun resolved => resolved.andThen fun targets b' =>
          some ⟨(.ok b.graph.size, b'.setEdges b.graph.size targets), []⟩).map (Traced.within ⟨chain, d, b⟩) := by
  rw [node] at found
  rw [instantiateWithin, fresh]
  simp only [found]
  rfl

end Equations

/-! ### Moves of a step -/

variable {P : List TestDefinition → Call σ → Prop} {stack : List TestDefinition} {b b' b'' : Builder σ}
  {moves others : List (Move σ)} {c : Call σ}

theorem made?_met {i : Nat} (met : c.builder.memo.get? c.test.name = some i) : (Move.call c).made? = none := by
  rw [Move.made?, SortedMap.contains, met]
  rfl

theorem built_visit [Transport σ] (setup : TestSetup) (fresh : c.builder.memo.get? c.test.name = none) :
    (c.builder.visit setup c.test).built = c.builder.built ++ (Move.call c).made?.toList := by
  rw [Move.made?, SortedMap.contains, fresh]
  exact List.map_append

theorem openAfter_append (stack : List TestDefinition) (moves others : List (Move σ)) :
    openAfter stack (moves ++ others) = openAfter (openAfter stack moves) others := List.foldl_append

/-- The property holds of every call, with the calls that are open when it is made. -/
def AtCalls (P : List TestDefinition → Call σ → Prop) : List TestDefinition → List (Move σ) → Prop
  | _, [] => True
  | stack, move :: rest => (∀ c, move = .call c → P stack c) ∧ AtCalls P (move.next stack) rest

theorem atCalls_append :
    AtCalls P stack (moves ++ others) ↔ AtCalls P stack moves ∧ AtCalls P (openAfter stack moves) others := by
  induction moves generalizing stack with
  | nil => simp [AtCalls, openAfter]
  | cons move rest ih =>
    rw [List.cons_append, AtCalls, AtCalls, ih, and_assoc]
    rfl

theorem AtCalls.at_call {before after : List (Move σ)} (holds : AtCalls P stack (before ++ .call c :: after)) :
    P (openAfter stack before) c :=
  (atCalls_append.mp holds).2.1 c rfl

/-- The moves of a step from one builder to another, which starts and ends with the calls of the stack open. -/
structure Course (P : List TestDefinition → Call σ → Prop) (stack : List TestDefinition) (b b' : Builder σ)
    (moves : List (Move σ)) : Prop where
  calls : AtCalls P stack moves
  returns : openAfter stack moves = stack
  made : b'.built = b.built ++ moves.filterMap Move.made?

namespace Course

theorem stay (same : b'.built = b.built) : Course P stack b b' [] := by
  refine ⟨trivial, rfl, ?_⟩
  rw [same, List.filterMap_nil, List.append_nil]

theorem append (first : Course P stack b b' moves) (second : Course P stack b' b'' others) :
    Course P stack b b'' (moves ++ others) := by
  refine ⟨atCalls_append.mpr ⟨first.calls, ?_⟩, ?_, ?_⟩
  · rw [first.returns]
    exact second.calls
  · rw [openAfter_append, first.returns, second.returns]
  · rw [second.made, first.made, List.filterMap_append, List.append_assoc]

/-- A call is open while its own moves are made. -/
theorem call (holds : P stack c) (entered : b.built = c.builder.built ++ (Move.call c).made?.toList)
    (inner : Course P (stack ++ [c.test]) b b' moves) :
    Course P stack c.builder b' (.call c :: (moves ++ [.back])) := by
  refine ⟨⟨?_, atCalls_append.mpr ⟨inner.calls, nofun, trivial⟩⟩, ?_, ?_⟩
  · rintro c' same
    rwa [← Move.call.inj same]
  · show openAfter (stack ++ [c.test]) (moves ++ [.back]) = stack
    rw [openAfter_append, inner.returns]
    exact List.dropLast_concat
  · have quiet : [(Move.back : Move σ)].filterMap Move.made? = [] := rfl
    rw [inner.made, entered, List.filterMap_cons, List.filterMap_append, quiet, List.append_nil, List.append_assoc]
    cases (Move.call c).made? <;> rfl

end Course

/-! ### Traces of the builder -/

/-- The trace comes to what the step comes to, and its moves are those of a step. -/
def Follows (P : List TestDefinition → Call σ → Prop) (stack : List TestDefinition) (b : Builder σ)
    (step : Except SuiteError α × Builder σ) (traced : Option (Traced σ α)) : Prop :=
  ∃ moves, traced = some ⟨step, moves⟩ ∧ Course P stack b step.2 moves

namespace Follows

variable {step : Except SuiteError α × Builder σ} {traced : Option (Traced σ α)} {error : SuiteError} {a : α}
  {next : α → Builder σ → Option (Traced σ β)} {further : Except SuiteError β × Builder σ}

theorem stop (same : step.2.built = b.built) : Follows P stack b step (some ⟨step, []⟩) := ⟨[], rfl, .stay same⟩

theorem fail (first : Follows P stack b (.error error, b') traced) :
    Follows P stack b (.error error, b') (traced.bind (·.andThen next)) := by
  obtain ⟨moves, rfl, course⟩ := first
  exact ⟨moves, rfl, course⟩

theorem goOn (first : Follows P stack b (.ok a, b') traced) (second : Follows P stack b' further (next a b')) :
    Follows P stack b further (traced.bind (·.andThen next)) := by
  obtain ⟨moves, rfl, course⟩ := first
  obtain ⟨others, found, course'⟩ := second
  have joined : (next a b').map (fun second => ⟨second.outcome, moves ++ second.moves⟩) =
      some (⟨further, moves ++ others⟩ : Traced σ β) := by rw [found, Option.map_some]
  exact ⟨moves ++ others, joined, course.append course'⟩

theorem call (holds : P stack c) (entered : b.built = c.builder.built ++ (Move.call c).made?.toList)
    (inner : Follows P (stack ++ [c.test]) b step traced) :
    Follows P stack c.builder step (traced.map (Traced.within c)) := by
  obtain ⟨moves, rfl, course⟩ := inner
  exact ⟨_, rfl, course.call holds entered⟩

end Follows

end Conformance.Builder
