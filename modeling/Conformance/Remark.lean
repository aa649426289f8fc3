/-!
Levels of the log, and free remarks: log lines whose wording is the writer's own business, such as
those of transports and of test bodies.
-/

namespace Conformance

inductive Level where
  | error
  | warn
  | info
  | debug
deriving DecidableEq, Inhabited

namespace Level

def display : Level → String
  | .error => "ERROR"
  | .warn => "WARN"
  | .info => "INFO"
  | .debug => "DEBUG"

def rank : Level → Nat
  | .error => 1
  | .warn => 2
  | .info => 3
  | .debug => 4

end Level

structure Remark where
  level : Level
  message : String
  fields : List (String × String)
deriving DecidableEq

end Conformance
