import Conformance.Fixture.Factory

/-!
Definitions of tests: the name of a test, the properties that it provides and requires, the tests
that it depends on by name, and how its fixture is made.
-/

namespace Conformance

structure TestDefinition where
  name : String
  description : String
  provides : SortedSet String
  requires : SortedSet String
  deps : SortedSet String
  factory : TestSetup → Factory

namespace TestDefinition

def make [Transport σ] (d : TestDefinition) (setup : TestSetup) (w : Workshop σ) : Fixture × Workshop σ :=
  (d.factory setup).run w

def display (d : TestDefinition) : String :=
  let names (s : SortedSet String) : String := Text.braced (s.toList.map Text.quoted)
  Text.openRecord "TestDefinition" [("name", Text.quoted d.name), ("provides", names d.provides),
    ("requires", names d.requires), ("deps", names d.deps)]

end TestDefinition

end Conformance
