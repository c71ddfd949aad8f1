import DatasetSearch.Decimal.Printer
import DatasetSearch.Decimal.Whole
import DatasetSearch.Json.Value
import DatasetSearch.Text.Basic

/-! JSON values as text.

The compact form has no spaces; the indented form puts each item and member on a line of its own,
two spaces further in than its list or object, and leaves an empty list or object on one line.
Strings escape the quote, the backslash and the control characters below the space. -/
namespace DatasetSearch.Json

def escapeChar (c : Char) : List Char :=
  match c with
  | '"' => ['\\', '"']
  | '\\' => ['\\', '\\']
  | '\x08' => ['\\', 'b']
  | '\x0c' => ['\\', 'f']
  | '\n' => ['\\', 'n']
  | '\r' => ['\\', 'r']
  | '\t' => ['\\', 't']
  | c =>
    if c.toNat < 0x20 then
      ['\\', 'u', '0', '0', Text.lowerHex (c.toNat / 16), Text.lowerHex (c.toNat % 16)]
    else [c]

def textChars (s : String) : List Char := '"' :: s.toList.flatMap escapeChar ++ ['"']

/-- The text of a value that holds no others. -/
def leafChars : Json → List Char
  | null => ['n', 'u', 'l', 'l']
  | bool true => ['t', 'r', 'u', 'e']
  | bool false => ['f', 'a', 'l', 's', 'e']
  | int n => wholeChars n
  | double x => x.chars .json
  | text s => textChars s
  | list _ => ['[', ']']
  | object _ => ['\x7b', '\x7d']

/-! ### On one line -/

mutual

def compactChars : Json → List Char
  | list (x :: items) => '[' :: compactChars x ++ compactItems items
  | object (m :: members) =>
    '\x7b' :: textChars m.1 ++ ':' :: compactChars m.2 ++ compactMembers members
  | x => leafChars x

def compactItems : List Json → List Char
  | [] => [']']
  | x :: items => ',' :: compactChars x ++ compactItems items

def compactMembers : List (String × Json) → List Char
  | [] => ['\x7d']
  | m :: members => ',' :: textChars m.1 ++ ':' :: compactChars m.2 ++ compactMembers members

end

def compact (x : Json) : String := String.ofList x.compactChars

/-! ### On many lines -/

/-- A new line with `depth` steps of indentation. -/
def newLine (depth : Nat) : List Char := '\n' :: List.replicate (2 * depth) ' '

mutual

def prettyChars (depth : Nat) : Json → List Char
  | list (x :: items) =>
    '[' :: newLine (depth + 1) ++ prettyChars (depth + 1) x ++ prettyItems depth items
  | object (m :: members) =>
    '\x7b' :: newLine (depth + 1) ++ textChars m.1 ++ ':' :: ' ' :: prettyChars (depth + 1) m.2 ++
      prettyMembers depth members
  | x => leafChars x

def prettyItems (depth : Nat) : List Json → List Char
  | [] => newLine depth ++ [']']
  | x :: items =>
    ',' :: newLine (depth + 1) ++ prettyChars (depth + 1) x ++ prettyItems depth items

def prettyMembers (depth : Nat) : List (String × Json) → List Char
  | [] => newLine depth ++ ['\x7d']
  | m :: members =>
    ',' :: newLine (depth + 1) ++ textChars m.1 ++ ':' :: ' ' :: prettyChars (depth + 1) m.2 ++
      prettyMembers depth members

end

def pretty (x : Json) : String := String.ofList (x.prettyChars 0)

end DatasetSearch.Json
