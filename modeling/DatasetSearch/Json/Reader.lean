import DatasetSearch.Json.Number
import DatasetSearch.Sorted

/-! Reading values out of JSON texts.

A `Reader α` takes a tree and either makes an `α` of it or refuses it. It is told how many more
lists and objects it may go into; a text may nest 127 of them where they are read. A record is an
object, whose unknown members are passed over and whose known members may come once, or the list
of its fields in order. -/
namespace DatasetSearch.Json

/-- A way to read an `α`, given the levels it may go down. -/
abbrev Reader (α : Type) := Nat → Source → Option α

/-- How deep lists and objects may be nested. -/
def maxDepth : Nat := 127

/-- Reads a whole text. -/
def Reader.run (r : Reader α) (s : String) : Option α := (Source.ofText? s).bind (r maxDepth)

/-! ### Strings -/

/-- The characters of a string; the two halves of a surrogate pair belong together, and neither
stands alone. -/
def Piece.chars? : List Piece → Option (List Char)
  | [] => some []
  | .char c :: rest => (chars? rest).map (c :: ·)
  | [.unit n] => if 0xD800 ≤ n ∧ n < 0xE000 then none else some [Char.ofNat n]
  | .unit n :: .unit m :: rest =>
    if 0xD800 ≤ n ∧ n < 0xDC00 then
      if 0xDC00 ≤ m ∧ m < 0xE000 then
        (chars? rest).map (Char.ofNat (0x10000 + (n - 0xD800) * 0x400 + (m - 0xDC00)) :: ·)
      else none
    else if 0xDC00 ≤ n ∧ n < 0xE000 then none
    else (chars? (.unit m :: rest)).map (Char.ofNat n :: ·)
  | .unit n :: .char c :: rest =>
    if 0xD800 ≤ n ∧ n < 0xE000 then none
    else (chars? (.char c :: rest)).map (Char.ofNat n :: ·)

def Piece.text? (ps : List Piece) : Option String := (chars? ps).map String.ofList

/-! ### Any value -/

mutual

def Source.json? : Nat → Source → Option Json
  | _, .null => some .null
  | _, .bool b => some (.bool b)
  | _, .number n => n.value?
  | _, .text ps => (Piece.text? ps).map .text
  | 0, .list _ => none
  | 0, .object _ => none
  | levels + 1, .list items => (jsonItems? levels items).map .list
  | levels + 1, .object members => (jsonMembers? levels members).map .object

def Source.jsonItems? : Nat → List Source → Option (List Json)
  | _, [] => some []
  | levels, x :: items =>
    match json? levels x, jsonItems? levels items with
    | some y, some rest => some (y :: rest)
    | _, _ => none

/-- The members in the order of their names; of one name the last stays. -/
def Source.jsonMembers? : Nat → List (List Piece × Source) → Option (List (String × Json))
  | _, [] => some []
  | levels, (name, x) :: members =>
    match Piece.text? name, json? levels x, jsonMembers? levels members with
    | some k, some y, some rest =>
      some (if (rest.lookup k).isSome then rest else Sorted.place k y rest)
    | _, _, _ => none

end

/-- The value of a text. -/
def ofText? (s : String) : Option Json := Reader.run Source.json? s

namespace Reader
variable {α β : Type}

/-! ### Readers of single values -/

def text : Reader String
  | _, .text ps => Piece.text? ps
  | _, _ => none

/-- An integer between two bounds, both included. -/
def int (low high : Int) : Reader Int
  | _, .number n =>
    match n.value? with
    | some (.int i) => if low ≤ i ∧ i ≤ high then some i else none
    | _ => none
  | _, _ => none

def int64 : Reader Int := int leastInt64 greatestInt64

/-- A natural number below a limit. -/
def nat (limit : Nat) : Reader Nat := fun levels x => (int 0 (limit - 1) levels x).map Int.toNat

def double : Reader Double
  | _, .number n => n.value?.bind Json.asDouble?
  | _, _ => none

def bool : Reader Bool
  | _, .bool b => some b
  | _, _ => none

def json : Reader Json := Source.json?

/-- One of some names, by itself or as the only member of an object with the value null. -/
def name (values : List (String × α)) : Reader α
  | _, .text ps => (Piece.text? ps).bind (List.lookup · values)
  | _ + 1, .object [(ps, .null)] => (Piece.text? ps).bind (List.lookup · values)
  | _, _ => none

/-! ### Readers of many values -/

def optional (r : Reader α) : Reader (Option α)
  | _, .null => some none
  | levels, x => (r levels x).map some

def list (r : Reader α) : Reader (List α)
  | levels + 1, .list items => items.mapM (r levels)
  | _, _ => none

def pair (r : Reader α) : Reader (α × α)
  | levels + 1, .list [x, y] =>
    match r levels x, r levels y with
    | some a, some b => some (a, b)
    | _, _ => none
  | _, _ => none

/-- The members of an object with their names, in the order of the text. -/
def members (r : Reader α) : Reader (List (String × α))
  | levels + 1, .object ms =>
    ms.mapM fun m =>
      match Piece.text? m.1, r levels m.2 with
      | some k, some a => some (k, a)
      | _, _ => none
  | _, _ => none

/-! ### Records -/

/-- The fields that a text gives for a record. -/
structure Fields where
  levels : Nat
  given : List (String × Source)

/-- The fields of a record with these names. -/
def fields (names : List String) : Reader Fields
  | levels + 1, .list items =>
    if items.length ≤ names.length then some ⟨levels, names.zip items⟩ else none
  | levels + 1, .object ms =>
    match ms.mapM fun m => (Piece.text? m.1).map (·, m.2) with
    | none => none
    | some named =>
      let known := named.filter fun m => names.contains m.1
      if (known.map (·.1)).Nodup then some ⟨levels, known⟩ else none
  | _, _ => none

namespace Fields

def required (f : Fields) (name : String) (r : Reader α) : Option α :=
  (f.given.lookup name).bind (r f.levels)

/-- A field that may be left out. -/
def orElse (f : Fields) (name : String) (r : Reader α) (other : α) : Option α :=
  match f.given.lookup name with
  | some x => r f.levels x
  | none => some other

end Fields
end Reader
end DatasetSearch.Json
