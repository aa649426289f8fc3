import Conformance.Json.Number
import Conformance.Text.Hex

/-!
JSON documents as text: `compact` puts no blanks between the parts, `pretty` one member or item on a
line with two spaces for each level. Only quotes, backslashes and control characters are escaped.
-/

namespace Conformance.Json

def escapeChar (c : Char) : String :=
  if c = '"' then "\\\""
  else if c = '\\' then "\\\\"
  else if c = '\n' then "\\n"
  else if c = '\r' then "\\r"
  else if c = '\t' then "\\t"
  else if c.toNat = 8 then "\\b"
  else if c.toNat = 12 then "\\f"
  else if c.toNat < 32 then "\\u" ++ String.ofList (Hex.padded 4 c.toNat)
  else c.toString

def quoted (text : String) : String :=
  "\"" ++ text.toList.foldl (fun written c => written ++ escapeChar c) "" ++ "\""

def scalarText : Json → String
  | .null => "null"
  | .bool value => if value then "true" else "false"
  | .int value => toString value
  | .float value => floatText value
  | .str value => quoted value
  | .arr _ => "[]"
  | .obj _ => "\x7b\x7d"

mutual

def compact : Json → String
  | .arr [] => "[]"
  | .arr (item :: rest) => "[" ++ compact item ++ compactItems rest ++ "]"
  | .obj [] => "\x7b\x7d"
  | .obj ((key, value) :: rest) =>
    "\x7b" ++ quoted key ++ ":" ++ compact value ++ compactMembers rest ++ "\x7d"
  | other => scalarText other

def compactItems : List Json → String
  | [] => ""
  | item :: rest => "," ++ compact item ++ compactItems rest

def compactMembers : List (String × Json) → String
  | [] => ""
  | (key, value) :: rest => "," ++ quoted key ++ ":" ++ compact value ++ compactMembers rest

end

def newLine (level : Nat) : String := "\n" ++ String.ofList (List.replicate (2 * level) ' ')

mutual

def prettyAt (level : Nat) : Json → String
  | .arr [] => "[]"
  | .arr (item :: rest) =>
    "[" ++ newLine (level + 1) ++ prettyAt (level + 1) item ++ prettyItems (level + 1) rest
      ++ newLine level ++ "]"
  | .obj [] => "\x7b\x7d"
  | .obj ((key, value) :: rest) =>
    "\x7b" ++ newLine (level + 1) ++ quoted key ++ ": " ++ prettyAt (level + 1) value
      ++ prettyMembers (level + 1) rest ++ newLine level ++ "\x7d"
  | other => scalarText other

def prettyItems (level : Nat) : List Json → String
  | [] => ""
  | item :: rest => "," ++ newLine level ++ prettyAt level item ++ prettyItems level rest

def prettyMembers (level : Nat) : List (String × Json) → String
  | [] => ""
  | (key, value) :: rest =>
    "," ++ newLine level ++ quoted key ++ ": " ++ prettyAt level value ++ prettyMembers level rest

end

def pretty (document : Json) : String := prettyAt 0 document

end Conformance.Json
