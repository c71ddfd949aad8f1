import DatasetSearch.Text.Basic

/-! The grammar of JSON texts.

`Source.ofText?` reads a text into the tree of its values, with numbers and strings as they are
spelled. Which of these spell a value is a question of its own (`Json.Reader`), so a part of a
text that nobody asks for need only be well-formed. The grammar is strict: no commas at the end, no
comments, nothing after the value. -/
namespace DatasetSearch.Json

/-- A number as it is spelled. -/
structure Numeral where
  negative : Bool
  whole : List Char
  /-- The digits after the point; without a point there are none. -/
  fraction : List Char
  /-- Whether the exponent is negative, and its digits. -/
  exponent : Option (Bool × List Char)
deriving DecidableEq, Repr

/-- A piece of a string: a character, or a UTF-16 unit given by its number. -/
inductive Piece where
  | char (c : Char)
  | unit (code : Nat)
deriving DecidableEq, Repr

inductive Source where
  | null
  | bool (value : Bool)
  | number (numeral : Numeral)
  | text (pieces : List Piece)
  | list (items : List Source)
  | object (members : List (List Piece × Source))
deriving Repr, Inhabited

namespace Source

def isSpace (c : Char) : Bool := c == ' ' || c == '\n' || c == '\t' || c == '\r'

def skipSpace (cs : List Char) : List Char := cs.dropWhile isSpace

/-! ### Strings -/

/-- The character that a backslash and a letter stand for. -/
def escape? : Char → Option Char
  | '"' => some '"'
  | '\\' => some '\\'
  | '/' => some '/'
  | 'b' => some '\x08'
  | 'f' => some '\x0c'
  | 'n' => some '\n'
  | 'r' => some '\r'
  | 't' => some '\t'
  | _ => none

/-- The pieces of a string up to its closing quote, and what follows. -/
def pieces? : List Char → Option (List Piece × List Char)
  | [] => none
  | '"' :: rest => some ([], rest)
  | '\\' :: 'u' :: a :: b :: c :: d :: rest =>
    match Text.hexValue? a, Text.hexValue? b, Text.hexValue? c, Text.hexValue? d with
    | some w, some x, some y, some z =>
      (pieces? rest).map fun p => (.unit (((w * 16 + x) * 16 + y) * 16 + z) :: p.1, p.2)
    | _, _, _, _ => none
  | '\\' :: e :: rest =>
    match escape? e with
    | some c => (pieces? rest).map fun p => (.char c :: p.1, p.2)
    | none => none
  | c :: rest =>
    if c.toNat < 0x20 then none else (pieces? rest).map fun p => (.char c :: p.1, p.2)

/-! ### Numbers -/

def digits? (cs : List Char) : Option (List Char × List Char) :=
  let ds := cs.takeWhile Char.isDigit
  if ds.isEmpty then none else some (ds, cs.dropWhile Char.isDigit)

/-- A point and digits, if a point comes next. -/
def fraction? : List Char → Option (List Char × List Char)
  | '.' :: rest => digits? rest
  | rest => some ([], rest)

def exponent? (cs : List Char) : Option (Option (Bool × List Char) × List Char) :=
  match cs with
  | [] => some (none, [])
  | c :: rest =>
    if c = 'e' ∨ c = 'E' then
      match rest with
      | '-' :: rest => (digits? rest).map fun d => (some (true, d.1), d.2)
      | '+' :: rest => (digits? rest).map fun d => (some (false, d.1), d.2)
      | rest => (digits? rest).map fun d => (some (false, d.1), d.2)
    else some (none, cs)

/-- A number without its sign; only a lone zero may begin with a zero. -/
def numeral? (negative : Bool) (cs : List Char) : Option (Numeral × List Char) :=
  match digits? cs with
  | none => none
  | some (whole, rest) =>
    if whole.head? = some '0' ∧ whole.length ≠ 1 then none
    else
      match fraction? rest with
      | none => none
      | some (fraction, rest) =>
        (exponent? rest).map fun e => (⟨negative, whole, fraction, e.1⟩, e.2)

/-! ### Values -/

mutual

/-- A value at the front of a text, and what follows it. -/
def value? : Nat → List Char → Option (Source × List Char)
  | 0, _ => none
  | fuel + 1, cs =>
    match skipSpace cs with
    | 'n' :: 'u' :: 'l' :: 'l' :: rest => some (.null, rest)
    | 't' :: 'r' :: 'u' :: 'e' :: rest => some (.bool true, rest)
    | 'f' :: 'a' :: 'l' :: 's' :: 'e' :: rest => some (.bool false, rest)
    | '"' :: rest => (pieces? rest).map fun p => (.text p.1, p.2)
    | '[' :: rest =>
      match skipSpace rest with
      | ']' :: rest => some (.list [], rest)
      | rest => (items? fuel rest).map fun p => (.list p.1, p.2)
    | '\x7b' :: rest =>
      match skipSpace rest with
      | '\x7d' :: rest => some (.object [], rest)
      | rest => (members? fuel rest).map fun p => (.object p.1, p.2)
    | '-' :: rest => (numeral? true rest).map fun p => (.number p.1, p.2)
    | rest => (numeral? false rest).map fun p => (.number p.1, p.2)

/-- The items of a list, at least one, and the bracket that closes it. -/
def items? : Nat → List Char → Option (List Source × List Char)
  | 0, _ => none
  | fuel + 1, cs =>
    match value? fuel cs with
    | none => none
    | some (x, rest) =>
      match skipSpace rest with
      | ']' :: rest => some ([x], rest)
      | ',' :: rest => (items? fuel rest).map fun p => (x :: p.1, p.2)
      | _ => none

/-- The members of an object, at least one, and the brace that closes it. -/
def members? : Nat → List Char → Option (List (List Piece × Source) × List Char)
  | 0, _ => none
  | fuel + 1, cs =>
    match skipSpace cs with
    | '"' :: rest =>
      match pieces? rest with
      | none => none
      | some (name, rest) =>
        match skipSpace rest with
        | ':' :: rest =>
          match value? fuel rest with
          | none => none
          | some (x, rest) =>
            match skipSpace rest with
            | '\x7d' :: rest => some ([(name, x)], rest)
            | ',' :: rest => (members? fuel rest).map fun p => ((name, x) :: p.1, p.2)
            | _ => none
        | _ => none
    | _ => none

end

/-- The tree of a text. Every two steps into it pass a character, which bounds their number. -/
def ofText? (s : String) : Option Source :=
  let cs := s.toList
  match value? (2 * cs.length + 2) cs with
  | some (x, rest) => if (skipSpace rest).isEmpty then some x else none
  | none => none

end Source

/-- Stands for the place and kind of a fault in a JSON text. -/
def faultText : String := "<json>"

end DatasetSearch.Json
