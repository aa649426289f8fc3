import Conformance.Toml.Moment
import Conformance.Toml.Number
import Conformance.Toml.Quoted

/-!
Reading TOML text, version 1.0 of the format. Values may nest 79 levels deep, and a key may have as
many parts.
-/

namespace Conformance.Toml.Reader

open Text (expect?)

/-- The greatest depth of a value and the greatest count of the parts of a key. -/
def depthLimit : Nat := 79

def isBareChar (c : Char) : Bool := c.isAlphanum || c == '_' || c == '-'

def keyPart (text : List Char) : Option (String × List Char) :=
  match lineString text with
  | some found => some found
  | none =>
    match text.takeWhile isBareChar with
    | [] => none
    | name => some (String.ofList name, text.dropWhile isBareChar)

/-- The parts of a key with spaces around them; `more` of them may still come. -/
def keyParts : (more : Nat) → List Char → Option ((List String × String) × List Char)
  | 0, _ => none
  | more + 1, text => do
    let (part, rest) ← keyPart (skipSpaces text)
    match skipSpaces rest with
    | '.' :: rest => (keyParts more rest).map fun ((path, key), rest) => ((part :: path, key), rest)
    | rest => some (([], part), rest)

/-- A key: the names of the tables that it leads through, and its name in the last of them. -/
def key (text : List Char) : Option ((List String × String) × List Char) := keyParts depthLimit text

/-- The text after a comment, which runs to the end of its line. -/
def afterComment (text : List Char) : List Char :=
  match text with
  | '#' :: rest => rest.dropWhile isLineChar
  | text => text

/-- The text after blanks, line ends and comments; each call drops a character or more. -/
def skipFiller : (fuel : Nat) → List Char → List Char
  | 0, text => text
  | fuel + 1, text =>
    match afterNewline? (afterComment (skipSpaces text)) with
    | some rest => skipFiller fuel rest
    | none => skipSpaces text

/-- The text after the end of a line, before which only spaces and a comment may stand. -/
def afterLine? (text : List Char) : Option (List Char) :=
  match afterComment (skipSpaces text) with
  | [] => some []
  | rest => afterNewline? rest

mutual

/-- One value; every call reads a character or more, so a fuel of the text's length is enough. -/
def value : (fuel depth : Nat) → List Char → Option (Toml × List Char)
  | 0, _, _ => none
  | fuel + 1, depth, text =>
    match text, depth with
    | '[' :: _, 0 | '\x7b' :: _, 0 => none
    | '[' :: rest, depth + 1 => items fuel depth [] rest
    | '\x7b' :: rest, depth + 1 =>
      match skipSpaces rest with
      | '\x7d' :: rest => some (.table .braces [], rest)
      | rest => members fuel depth [] rest
    | 't' :: rest, _ => (expect? ['r', 'u', 'e'] rest).map (.bool true, ·)
    | 'f' :: rest, _ => (expect? ['a', 'l', 's', 'e'] rest).map (.bool false, ·)
    | text, _ => (string text).map (fun (s, rest) => (.str s, rest)) <|> moment text <|> number text

/-- The items of an array up to its closing bracket; a comma may follow the last. -/
def items : (fuel depth : Nat) → (read : List Toml) → List Char → Option (Toml × List Char)
  | 0, _, _, _ => none
  | fuel + 1, depth, read, text =>
    match skipFiller text.length text with
    | ']' :: rest => some (.arr read.reverse, rest)
    | text =>
      match value fuel depth text with
      | none => none
      | some (item, rest) =>
        match skipFiller rest.length rest with
        | ',' :: rest => items fuel depth (item :: read) rest
        | ']' :: rest => some (.arr (item :: read).reverse, rest)
        | _ => none

/-- The members of a table between braces, up to the closing one. -/
def members : (fuel depth : Nat) → (read : Members) → List Char → Option (Toml × List Char)
  | 0, _, _, _ => none
  | fuel + 1, depth, read, text =>
    match key text with
    | some ((path, name), '=' :: rest) =>
      match value fuel depth (skipSpaces rest) with
      | none => none
      | some (item, rest) =>
        match assign? path name item .braces read with
        | none => none
        | some read =>
          match skipSpaces rest with
          | ',' :: rest => members fuel depth read rest
          | '\x7d' :: rest => some (.table .braces read, rest)
          | _ => none
    | _ => none

end

def header (draft : Draft) (text : List Char) : Option (Draft × List Char) :=
  match text with
  | '[' :: '[' :: rest =>
    match key rest with
    | some ((path, name), ']' :: ']' :: rest) =>
      (draft.openElement? path name).bind fun draft => (afterLine? rest).map (draft, ·)
    | _ => none
  | '[' :: rest =>
    match key rest with
    | some ((path, name), ']' :: rest) =>
      (draft.openTable? path name).bind fun draft => (afterLine? rest).map (draft, ·)
    | _ => none
  | _ => none

def assignment (draft : Draft) (text : List Char) : Option (Draft × List Char) :=
  match key text with
  | some ((path, name), '=' :: rest) => do
    let (item, rest) ← value (2 * rest.length + 2) depthLimit (skipSpaces rest)
    let draft ← draft.assign? path name item
    (afterLine? rest).map (draft, ·)
  | _ => none

/-- The lines of a document; each is a character or more, so a fuel of the text's length is enough. -/
def lines : (fuel : Nat) → Draft → List Char → Option Draft
  | 0, _, _ => none
  | fuel + 1, draft, text =>
    match skipSpaces text with
    | [] => some draft
    | '[' :: rest => (header draft ('[' :: rest)).bind fun (draft, rest) => lines fuel draft rest
    | c :: rest =>
      if c = '#' ∨ c = '\n' ∨ c = '\r' then (afterLine? (c :: rest)).bind (lines fuel draft)
      else (assignment draft (c :: rest)).bind fun (draft, rest) => lines fuel draft rest

end Conformance.Toml.Reader

/-- Reads a whole text as one document; a byte order mark may stand before it. -/
def Conformance.Toml.ofText? (text : String) : Option Conformance.Toml.Members :=
  let chars := match text.toList with
    | '\ufeff' :: rest => rest
    | chars => chars
  (Conformance.Toml.Reader.lines (chars.length + 1) .empty chars).map (·.members)
