import Conformance.Settings.Environment
import Conformance.Settings.File
import Conformance.Suite.Error

/-!
Loading settings: defaults, over them a file, over that the environment. Settings that no run could
start with are refused.
-/

namespace Conformance

inductive LoadError where
  /-- The file is not of its format, or a value is not one of its setting. -/
  | unreadable
  | refused (problem : SuiteError)
deriving DecidableEq

/-- The layer of the file that is meant by a name; a file that is not there is an empty one. -/
def Directory.layer? (directory : Directory) (name : String) : Option Layer :=
  match directory.find? name with
  | some (format, text) => Layer.ofText? format text
  | none => some []

/-- The settings of a file, if one is named, and of the environment. -/
def Settings.load (directory : Directory) (file : Option String) (environment : Environment) :
    Except LoadError Settings :=
  let fromFile : Option Layer := match file with
    | some name => directory.layer? name
    | none => some []
  match fromFile.bind fun layer => Settings.ofLayer? (layer ++ environment.layer) with
  | none => .error .unreadable
  | some settings =>
    match settings.problem? with
    | some problem => .error (.refused (.settings problem))
    | none => .ok settings

end Conformance
