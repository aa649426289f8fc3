/-!
TOML documents as trees, and the rules for putting one together: no key is given twice, a table has
one header at most, and dotted keys stay out of tables that were written in another way.
-/

namespace Conformance

/-- How a table was written, which decides what may be added to it. -/
inductive TableOrigin where
  /-- Between braces. -/
  | braces
  /-- Under a header of its own, or as the document itself. -/
  | header
  /-- By the header of a table within it. -/
  | implied
  /-- By a dotted key. -/
  | dotted
deriving DecidableEq

inductive Toml where
  | bool (value : Bool)
  | int (value : Int)
  | float (value : Float)
  | str (value : String)
  /-- A date, a time of day, or both, as it is written. -/
  | moment (text : String)
  | arr (items : List Toml)
  | table (origin : TableOrigin) (members : List (String × Toml))
  /-- The tables under headers of one name, the last of them first. -/
  | tables (elements : List (List (String × Toml)))
deriving Inhabited

namespace Toml

/-- What a table holds, in the order in which the keys come in the document. -/
abbrev Members := List (String × Toml)

def member? (key : String) (members : Members) : Option Toml := members.lookup key

/-- Gives a value to a key, in its place if it has one and else after all others. -/
def put (key : String) (value : Toml) : Members → Members
  | [] => [(key, value)]
  | (other, former) :: rest =>
    if other = key then (key, value) :: rest else (other, former) :: put key value rest

/--
Edits the table at the end of a path. A table that is not there is opened on the way, and of tables
under headers of one name the last is meant. Nothing leads into braces, and dotted keys do not lead
into a table that has a header to itself.
-/
def editAt? (dotted : Bool) (edit : TableOrigin → Members → Option Members) :
    (path : List String) → TableOrigin → Members → Option Members
  | [], origin, members => edit origin members
  | key :: path, _, members =>
    match member? key members with
    | none =>
      let origin := if dotted then .dotted else .implied
      (editAt? dotted edit path origin []).map fun inner => put key (.table origin inner) members
    | some (.table origin inner) =>
      if origin = .braces ∨ dotted ∧ origin = .header then none
      else (editAt? dotted edit path origin inner).map fun inner => put key (.table origin inner) members
    | some (.tables (last :: earlier)) =>
      (editAt? dotted edit path .header last).map fun last => put key (.tables (last :: earlier)) members
    | some _ => none

/-- Gives a value to a key that has none; a dotted key adds only to tables that dotted keys opened. -/
def assign? (path : List String) (key : String) (value : Toml) : TableOrigin → Members → Option Members :=
  editAt? true (fun origin members =>
    if (path.isEmpty || origin = .dotted) && (member? key members).isNone then some (put key value members)
    else none) path

/-- Opens the table of a header. It may be there only as the parent of an earlier one, whose place it leaves. -/
def openTable? (path : List String) (key : String) : Members → Option Members :=
  editAt? false (fun _ members =>
    match member? key members with
    | none => some (put key (.table .header []) members)
    | some (.table .implied inner) =>
      some (put key (.table .header inner) (members.filter fun (other, _) => other != key))
    | some _ => none) path .header

/-- Opens one more of the tables under headers of one name. -/
def openElement? (path : List String) (key : String) : Members → Option Members :=
  editAt? false (fun _ members =>
    match member? key members with
    | none => some (put key (.tables [[]]) members)
    | some (.tables elements) => some (put key (.tables ([] :: elements)) members)
    | some _ => none) path .header

/-- A document as far as it is read: what it holds, and the header that the next keys stand under. -/
structure Draft where
  members : Members
  header : List String

namespace Draft

def empty : Draft := ⟨[], []⟩

def assign? (d : Draft) (path : List String) (key : String) (value : Toml) : Option Draft :=
  (editAt? false (Toml.assign? path key value) d.header .header d.members).map ({ d with members := · })

def openTable? (d : Draft) (path : List String) (key : String) : Option Draft :=
  (Toml.openTable? path key d.members).map (⟨·, path ++ [key]⟩)

def openElement? (d : Draft) (path : List String) (key : String) : Option Draft :=
  (Toml.openElement? path key d.members).map (⟨·, path ++ [key]⟩)

end Draft

end Toml

end Conformance
