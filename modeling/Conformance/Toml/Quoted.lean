import Conformance.Text.Hex
import Conformance.Text.Scan

/-!
Strings in TOML: between one mark on each side they stay on their line, between three they may run
over lines. The marks are double quotes, which admit escapes, or single quotes, which do not.
-/

namespace Conformance.Toml.Reader

def isSpace (c : Char) : Bool := c == ' ' || c == '\t'

def skipSpaces (text : List Char) : List Char := text.dropWhile isSpace

/-- Characters that may stand in a line: a tab, and whatever is no control character. -/
def isLineChar (c : Char) : Bool := c == '\t' || (32 ≤ c.toNat && c.toNat != 127)

def afterNewline? : List Char → Option (List Char)
  | '\n' :: rest => some rest
  | '\r' :: '\n' :: rest => some rest
  | _ => none

/-- The character of a code with a fixed count of digits; halves of pairs and codes past the last have none. -/
def coded (width : Nat) (text : List Char) : Option (Char × List Char) := do
  let code ← if text.length < width then none else Hex.value? (text.take width)
  if h : code.isValidChar then some (Char.ofNatAux code h, text.drop width) else none

def escape : List Char → Option (Char × List Char)
  | 'b' :: rest => some (Char.ofNat 8, rest)
  | 't' :: rest => some ('\t', rest)
  | 'n' :: rest => some ('\n', rest)
  | 'f' :: rest => some (Char.ofNat 12, rest)
  | 'r' :: rest => some ('\r', rest)
  | '"' :: rest => some ('"', rest)
  | '\\' :: rest => some ('\\', rest)
  | 'u' :: rest => coded 4 rest
  | 'U' :: rest => coded 8 rest
  | _ => none

/-- The rest of a string on one line, after its mark; `read` holds its characters so far, last first. -/
def lineBody (mark : Char) : (fuel : Nat) → (read : List Char) → List Char → Option (String × List Char)
  | 0, _, _ => none
  | _ + 1, _, [] => none
  | fuel + 1, read, c :: rest =>
    if c = mark then some (String.ofList read.reverse, rest)
    else if c = '\\' ∧ mark = '"' then do
      let (c, rest) ← escape rest
      lineBody mark fuel (c :: read) rest
    else if isLineChar c then lineBody mark fuel (c :: read) rest
    else none

/-- The text after a backslash that ends its line, without the blanks and line ends that follow. -/
def afterContinuation? (text : List Char) : Option (List Char) :=
  (afterNewline? (skipSpaces text)).map skipBlankLines
where
  skipBlankLines : List Char → List Char
    | '\r' :: '\n' :: rest => skipBlankLines rest
    | c :: rest => if c == '\n' || isSpace c then skipBlankLines rest else c :: rest
    | [] => []

/--
The rest of a string that may run over lines. Of the marks in a row that end it the last three are
its end, and at most two before them belong to it. Line ends are read as line feeds.
-/
def blockBody (mark : Char) : (fuel : Nat) → (read : List Char) → List Char → Option (String × List Char)
  | 0, _, _ => none
  | _ + 1, _, [] => none
  | fuel + 1, read, c :: rest =>
    if c = mark then
      let marks := (c :: rest).takeWhile (· == mark)
      let after := (c :: rest).dropWhile (· == mark)
      if marks.length < 3 then blockBody mark fuel (marks ++ read) after
      else if marks.length ≤ 5 then some (String.ofList (marks.drop 3 ++ read).reverse, after)
      else none
    else
      match afterNewline? (c :: rest) with
      | some rest => blockBody mark fuel ('\n' :: read) rest
      | none =>
        if c = '\\' ∧ mark = '"' then
          match afterContinuation? rest with
          | some rest => blockBody mark fuel read rest
          | none => do
            let (c, rest) ← escape rest
            blockBody mark fuel (c :: read) rest
        else if isLineChar c then blockBody mark fuel (c :: read) rest
        else none

def lineString : List Char → Option (String × List Char)
  | '"' :: rest => lineBody '"' (rest.length + 1) [] rest
  | '\'' :: rest => lineBody '\'' (rest.length + 1) [] rest
  | _ => none

/-- A string of either kind; a line end right after three marks is not part of it. -/
def string (text : List Char) : Option (String × List Char) :=
  let block (mark : Char) (rest : List Char) : Option (String × List Char) :=
    blockBody mark (rest.length + 1) [] ((afterNewline? rest).getD rest)
  match text with
  | '"' :: '"' :: '"' :: rest => block '"' rest
  | '\'' :: '\'' :: '\'' :: rest => block '\'' rest
  | text => lineString text

end Conformance.Toml.Reader
