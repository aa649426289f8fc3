/-!
What can be wrong with a suite of tests or with its settings. Each of these keeps a run from
starting.
-/

namespace Conformance

inductive SuiteError where
  | duplicateProperty (property existing declaredBy : String)
  | duplicateTest (name : String)
  | missingProperty (property requiredBy : String)
  | circularDependency (chain : List String)
  | unknownDependency (name requiredBy : String)
  | unknownParameter (name : String)
  | unknownTest (name : String)
  | settings (text : String)
deriving DecidableEq

namespace SuiteError

/-- A cycle is shown by its members and its first member again. -/
def cycleText (chain : List String) : String := " -> ".intercalate (chain ++ chain.take 1)

def message : SuiteError → String
  | duplicateProperty property existing declaredBy =>
    s!"{property} is declared in more than one test ({existing} and {declaredBy})"
  | duplicateTest name => s!"Test {name} is already registered"
  | missingProperty property requiredBy =>
    s!"{property} (required by {requiredBy}) not listed in any PROVIDES list"
  | circularDependency chain => s!"Circular dependency found: {cycleText chain}"
  | unknownDependency name requiredBy => s!"{requiredBy} depends on unregistered test {name}"
  | unknownParameter name => s!"Parameter {name} is not in the parameter catalog"
  | unknownTest name => s!"Test not found: {name}"
  | settings text => s!"Configuration error: {text}"

end SuiteError

end Conformance
