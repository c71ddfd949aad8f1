import DatasetSearch.Decimal.Double

/-! JSON values.

A number is an integer when its text is one that fits 64 bits, signed or unsigned, and a double
otherwise. The members of an object read from text stand in the order of their names, each name
once; an object that is only written keeps the order it is given. -/
namespace DatasetSearch

inductive Json where
  | null
  | bool (value : Bool)
  | int (value : Int)
  | double (value : Double)
  | text (value : String)
  | list (items : List Json)
  | object (members : List (String × Json))
deriving Repr, Inhabited

namespace Json

/-! ### Taking a value apart -/

/-- The member of an object by its name. -/
def member? (name : String) : Json → Option Json
  | object members => members.lookup name
  | _ => none

/-- The first item of a list. -/
def head? : Json → Option Json
  | list items => items.head?
  | _ => none

def asText? : Json → Option String
  | text s => some s
  | _ => none

def asList? : Json → Option (List Json)
  | list items => some items
  | _ => none

/-- A number of either kind as a double. -/
def asDouble? : Json → Option Double
  | int n => some (.ofInt n)
  | double x => some x
  | _ => none

/-- An integer of 64 bits with a sign. -/
def asInt64? : Json → Option Int
  | int n => if leastInt64 ≤ n ∧ n ≤ greatestInt64 then some n else none
  | _ => none

def isNull : Json → Bool
  | null => true
  | _ => false

end Json
end DatasetSearch
