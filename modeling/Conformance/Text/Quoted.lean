import Conformance.Text.Hex
import Conformance.Text.Hidden

/-!
Text in double quotes, and the notation for lists, sets, maps and records of such texts. Quotes,
backslashes, line ends, tabs and hidden characters are escaped.
-/

namespace Conformance.Text

def escaped (c : Char) : String :=
  if c = '"' then "\\\""
  else if c = '\\' then "\\\\"
  else if c = '\n' then "\\n"
  else if c = '\r' then "\\r"
  else if c = '\t' then "\\t"
  else if c.toNat = 0 then "\\0"
  else if isHidden c then "\\u\x7b" ++ String.ofList (Hex.digits c.toNat) ++ "\x7d"
  else c.toString

def quoted (text : String) : String :=
  "\"" ++ text.toList.foldl (fun written c => written ++ escaped c) "" ++ "\""

def separated (items : List String) : String := ", ".intercalate items

def bracketed (items : List String) : String := "[" ++ separated items ++ "]"

def braced (items : List String) : String := "\x7b" ++ separated items ++ "\x7d"

def mapping (entries : List (String × String)) : String :=
  braced (entries.map fun (key, value) => key ++ ": " ++ value)

def record (name : String) (fields : List (String × String)) : String :=
  name ++ " \x7b " ++ separated (fields.map fun (key, value) => key ++ ": " ++ value) ++ " \x7d"

def openRecord (name : String) (fields : List (String × String)) : String :=
  name ++ " \x7b " ++ separated (fields.map (fun (key, value) => key ++ ": " ++ value) ++ [".."]) ++ " \x7d"

end Conformance.Text
