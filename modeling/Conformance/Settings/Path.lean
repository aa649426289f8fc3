/-!
Paths of files: names with slashes between them. An empty name and a point lead nowhere, so that the
same file has many paths; one that ends in either is the path of a directory and of no file.
-/

namespace Conformance.Path

/-- Whether the path starts at the root and not where its reader is. -/
def isRooted (path : String) : Bool := path.toList.head? == some '/'

def parts (path : String) : List String := path.splitOn "/"

def leads (part : String) : Bool := part != "" && part != "."

/-- The names that a path leads through; the last is that of its file. -/
def names (path : String) : List String := (parts path).filter leads

/-- Whether a file may be at the path, as far as its form tells. -/
def mayBeFile (path : String) : Bool := (parts path).getLast?.any leads

/-- The names of a path with an ending after the last; a path that leads to a parent has no such name. -/
def withEnding (ending : String) : List String → Option (List String)
  | [] | [".."] => none
  | [name] => some [name ++ ending]
  | name :: rest => (withEnding ending rest).map (name :: ·)

end Conformance.Path
