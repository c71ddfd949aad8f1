import DatasetSearch.Decimal.Double
import DatasetSearch.Decimal.Printer
import DatasetSearch.Text.Basic
import DatasetSearch.Text.Quoted

/-! The values of a filter.

A filter's kind fixes the shape of its value. `shapedAs` brings a value of any shape into the one
of a kind: what carries over is kept, and the rest becomes the kind's empty value, for a range the
whole of the given bounds. -/
namespace DatasetSearch

/-- A range of years or other whole numbers, ends included. -/
structure Bounds where
  low : Int
  high : Int
deriving DecidableEq, Repr

inductive FilterKind where
  | range
  | selectOne
  | selectMultiple
  | number
  | text
deriving DecidableEq, Repr

inductive FilterValue where
  | range (bounds : Bounds)
  | multiple (items : List String)
  | text (value : Option String)
  | number (value : Option Double)
deriving DecidableEq, Repr

namespace FilterValue

/-- Whether a value counts as present. Ranges and lists do, even an empty list. -/
def isTruthy : FilterValue → Bool
  | range _ => true
  | multiple _ => true
  | text s => s.any (!·.isEmpty)
  | number x => x.any fun x => !x.isZero && !x.isNaN

/-- A number in a text with white space around it. -/
def numberIn? (s : String) : Option Double := Double.read? (Text.trimChars s.toList)

/-- The value of a kind that nothing is selected by. -/
def empty (kind : FilterKind) (initial : Bounds) : FilterValue :=
  match kind with
  | .range => range initial
  | .selectMultiple => multiple []
  | .number => number none
  | .selectOne | .text => text none

/-- The value in the shape of a kind. -/
def shapedAs (kind : FilterKind) (initial : Bounds) (v : FilterValue) : FilterValue :=
  match kind, v with
  | .range, range b => range b
  | .selectMultiple, multiple items => multiple items
  | .selectMultiple, text s => multiple s.toList
  | .number, number x => number x
  | .number, text s => number (s.bind numberIn?)
  | .selectOne, text s | .text, text s => text s
  | .selectOne, number x | .text, number x => text (x.map (·.text .plain))
  | .selectOne, multiple items | .text, multiple items => text items.head?
  | kind, _ => empty kind initial

/-- Whether a value has the shape of a kind. -/
def HasShape : FilterKind → FilterValue → Prop
  | .range, range _ => True
  | .selectMultiple, multiple _ => True
  | .number, number _ => True
  | .selectOne, text _ => True
  | .text, text _ => True
  | _, _ => False

theorem hasShape_shapedAs (kind : FilterKind) (initial : Bounds) (v : FilterValue) :
    HasShape kind (v.shapedAs kind initial) := by
  cases kind <;> cases v <;> trivial

theorem shapedAs_of_hasShape {kind : FilterKind} {v : FilterValue} (initial : Bounds)
    (h : HasShape kind v) : v.shapedAs kind initial = v := by
  cases kind <;> cases v <;> first | rfl | exact h.elim

/-! ### Description -/

def describeOption (s : Option String) : String :=
  match s with
  | some s => "Some(" ++ s ++ ")"
  | none => "None"

/-- A value by the name of its shape and its content. -/
def describe : FilterValue → String
  | range b => "Range([" ++ wholeText b.low ++ ", " ++ wholeText b.high ++ "])"
  | multiple items => "Multiple([" ++ ", ".intercalate (items.map Text.quoted) ++ "])"
  | text s => "Text(" ++ describeOption (s.map Text.quoted) ++ ")"
  | number x => "Number(" ++ describeOption (x.map (·.text .described)) ++ ")"

end FilterValue
end DatasetSearch
