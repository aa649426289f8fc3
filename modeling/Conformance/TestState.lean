/-!
The states of a test: pending or skipped, or one of three verdicts.
-/

namespace Conformance

inductive TestState where
  | notRun
  | passed
  | failed
  | broken
deriving DecidableEq, Inhabited

namespace TestState

def all : List TestState := [.notRun, .passed, .failed, .broken]

def name : TestState → String
  | .notRun => "NotRun"
  | .passed => "Passed"
  | .failed => "Failed"
  | .broken => "Broken"

def display : TestState → String
  | .notRun => "Not Run"
  | .passed => "Passed"
  | .failed => "Failed"
  | .broken => "Broken"

def isTerminal (state : TestState) : Bool := state != .notRun

end TestState

end Conformance
