import DatasetSearch.Decimal.Printer
import DatasetSearch.Decimal.Whole
import DatasetSearch.Keyed
import DatasetSearch.Text.Basic
import DatasetSearch.Text.Percent

/-! Query parameters and the query string they make.

Parameters stand in the order in which their keys first came. In the query string the scalar
values come first and then one pair for each item of each list. A scalar that is empty, zero, not
a number, false or null writes nothing; an empty list has no items to write. To be read back, a query
string is split at `&` and each piece at its first `=`; both sides are percent-decoded. The empty
text has no pairs. -/
namespace DatasetSearch.Query

/-- What a parameter may be set to. -/
inductive Value where
  | text (value : String)
  | int (value : Int)
  | double (value : Double)
  | bool (value : Bool)
  | list (items : List String)
  | null
deriving DecidableEq, Repr

namespace Value

/-- Whether a value counts as unset. A list never does, not even an empty one. -/
def isFalsy : Value → Bool
  | text s => s.isEmpty
  | int n => n == 0
  | double x => x.isZero || x.isNaN
  | bool b => !b
  | list _ => false
  | null => true

/-- A value that is not a list, as text. -/
def scalarText? : Value → Option String
  | text s => some s
  | int n => some (wholeText n)
  | double x => some (x.text .plain)
  | bool b => some (if b then "true" else "false")
  | list _ => none
  | null => some ""

def ofOption (s : Option String) : Value :=
  match s with
  | some s => text s
  | none => null

end Value

/-- Parameters in the order they are written. -/
abbrev Params := Keyed (α := String × Value) Prod.fst

/-! ### The pairs of a query string -/

/-- The pair that a scalar value writes. -/
def scalarPair? (p : String × Value) : Option (String × String) :=
  if p.2.isFalsy then none else p.2.scalarText?.map (p.1, ·)

/-- The pairs that a list value writes. -/
def listPairs (p : String × Value) : List (String × String) :=
  match p.2 with
  | .list items => items.map (p.1, ·)
  | _ => []

/-- All pairs in the order they are written. -/
def pairs (params : Params) : List (String × String) :=
  params.items.filterMap scalarPair? ++ params.items.flatMap listPairs

/-! ### The query string -/

def encodePair (p : String × String) : String :=
  Text.Percent.encode p.1 ++ "=" ++ Text.Percent.encode p.2

def encodePairs (ps : List (String × String)) : String := "&".intercalate (ps.map encodePair)

/-- The query string of parameters. -/
def encode (params : Params) : String := encodePairs (pairs params)

/-! ### Reading a query string back -/

def decodePair (cs : List Char) : Option (String × String) :=
  let (key, value) := Text.splitFirst '=' cs
  match Text.Percent.decodeText key, Text.Percent.decodeText value with
  | some k, some v => some (k, v)
  | _, _ => none

/-- The pairs of a query string, if every part is UTF-8. -/
def decode (s : String) : Option (List (String × String)) :=
  match s.toList with
  | [] => some []
  | cs => (Text.splitAll '&' cs).mapM decodePair

end DatasetSearch.Query
