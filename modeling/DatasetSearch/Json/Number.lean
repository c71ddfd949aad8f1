import DatasetSearch.Decimal.Double
import DatasetSearch.Json.Source
import DatasetSearch.Json.Value

/-! The value of a spelled number.

The digits are gathered into a whole number of 64 bits; those it has no room for only count as
places. A text without a point and an exponent whose digits all found room is an integer, unless it
is below the least integer of 64 bits or `-0`. Any other number is the gathered one, made a double,
times or over one power of ten, itself a double: the result may be a unit off the nearest. -/
namespace DatasetSearch.Json

namespace Numeral

/-- Gathers digits into `v` while the result stays below 64 bits; gives it with the number of
digits taken and the number left. -/
def gather (v : Nat) : List Char → Nat × Nat × Nat
  | [] => (v, 0, 0)
  | c :: rest =>
    let w := 10 * v + (c.toNat - 0x30)
    if w < twoPow 64 then
      let (r, taken, left) := gather w rest
      (r, taken + 1, left)
    else (v, 0, rest.length + 1)

def powerOfTen (k : Nat) : Double := .ofNat (tenPow k)

/-- `x · 10 ^ e`; a result beyond the doubles is none. The fuel bounds the divisions that take an
exponent out of the range of the powers of ten. -/
def scale : Nat → Double → Int → Option Double
  | fuel, x, e =>
    if 0 ≤ e ∧ e ≤ 308 then
      let y := x.mul (powerOfTen e.toNat)
      if y.isFinite then some y else none
    else if e < 0 ∧ -308 ≤ e then some (x.div (powerOfTen (-e).toNat))
    else if x.isZero then some x
    else if 0 < e then none
    else
      match fuel with
      | 0 => some (.zero x.negative)
      | fuel + 1 => scale fuel (x.div (powerOfTen 308)) (e + 308)

/-- The double of a gathered number and a power of ten. -/
def double? (negative : Bool) (v : Nat) (e : Int) : Option Double :=
  (scale 4 (.ofNat v) e).map fun x => if negative then x.neg else x

/-- Exponents that no 32 bits hold. -/
def hugeExponent (digits : List Char) : Bool := twoPow 31 ≤ digitsValue digits

def value? (n : Numeral) : Option Json :=
  let (v, _, left) := gather 0 n.whole
  let (w, taken, _) := gather v n.fraction
  let places : Int := (left : Int) - taken
  match n.exponent with
  | some (minus, digits) =>
    if hugeExponent digits then
      if w ≠ 0 ∧ !minus then none else some (.double (.zero n.negative))
    else
      let e : Int := digitsValue digits
      (double? n.negative w (places + if minus then -e else e)).map .double
  | none =>
    if n.fraction.isEmpty ∧ left = 0 then
      if !n.negative then some (.int v)
      else if v = 0 ∨ twoPow 63 < v then some (.double (Double.ofNat v).neg)
      else some (.int (-v))
    else (double? n.negative w places).map .double

end Numeral
end DatasetSearch.Json
