import Conformance.Toml.Moment

/-!
Tables that stand for dates. A table with `dateKey` before all its other keys is the date that the
text of that key tells, whatever else it holds; a document in which that is no date is refused.
-/

namespace Conformance.Toml

def dateKey : String := "$__toml_private_datetime"

/-- Whether the text as a whole is a date, a time of day or both, as one is written without quotes. -/
def isDate (text : List Char) : Bool := (Reader.afterMoment? text).any List.isEmpty

mutual

/-- Whether every table that stands for a date has the text of one. -/
def datesHold : Toml → Bool
  | .arr items => datesHoldInItems items
  | .table _ members => datesHoldInTable members
  | .tables elements => datesHoldInElements elements
  | _ => true

def datesHoldInItems : List Toml → Bool
  | [] => true
  | item :: rest => datesHold item && datesHoldInItems rest

def datesHoldInTable : List (String × Toml) → Bool
  | [] => true
  | (key, value) :: rest =>
    if key = dateKey then
      match value with
      | .str text => isDate text.toList
      | _ => false
    else datesHold value && datesHoldInMembers rest

def datesHoldInMembers : List (String × Toml) → Bool
  | [] => true
  | (_, value) :: rest => datesHold value && datesHoldInMembers rest

def datesHoldInElements : List (List (String × Toml)) → Bool
  | [] => true
  | members :: rest => datesHoldInTable members && datesHoldInElements rest

end

/-- Whether the members make a document: it is no date itself, and what stands for one tells it. -/
def isDocument (members : Members) : Bool :=
  (members.head?.map Prod.fst) != some dateKey && datesHoldInMembers members

end Conformance.Toml
