import DatasetSearch.Decimal.Double

/-! How a double is written out.

The reals that round to a double form an interval, its ends included when the significand is
even. Among the decimals in that interval with the fewest digits, `shortest` gives the one nearest
to the double; when two are equally near, the digits' parity or the larger one decides. All
comparisons are between natural numbers. Three layouts are in use for the digits. They agree on them
but for ties, and differ in which numbers are written without an exponent, in how a whole number ends
and in the look of the exponent. -/
namespace DatasetSearch.Double

/-! ### The shortest decimal -/

/-- `digits · 10 ^ exponent`. -/
structure Decimal where
  digits : Nat
  exponent : Int
deriving DecidableEq, Repr

/-- Which of two equally near decimals is taken. -/
inductive Tie where
  | even
  | up
deriving DecidableEq, Repr

/-- The number of decimal digits of `n`. -/
def digitCount (n : Nat) : Nat := (Nat.toDigits 10 n).length

/-- The exponent of the leading decimal digit of `num / den`. -/
def leadingExponent (num den : Nat) : Int :=
  if den ≤ num then (digitCount (num / den) : Int) - 1 else -(digitCount (den / num) : Int)

/-- The interval that rounds to `m · 2 ^ e`, in units of a quarter of `2 ^ e`. -/
structure Interval where
  low : Nat
  middle : Nat
  high : Nat
  closed : Bool

/-- Below a power of two the doubles stand twice as close. -/
def intervalOf (m : Nat) (e : Int) : Interval where
  low := 4 * m - (if m = twoPow 52 ∧ leastExponent < e then 1 else 2)
  middle := 4 * m
  high := 4 * m + 2
  closed := m % 2 == 0

/-- The decimal `d · 10 ^ p` nearest to the middle of the interval, if one lies in it. -/
def onGrid (tie : Tie) (i : Interval) (e p : Int) : Option Nat :=
  let num := twoPow (e - 2).toNat * tenPow (-p).toNat
  let den := twoPow (2 - e).toNat * tenPow p.toNat
  let inside (d : Nat) : Bool :=
    if i.closed then i.low * num ≤ d * den && d * den ≤ i.high * num
    else i.low * num < d * den && d * den < i.high * num
  let d := i.middle * num / den
  match inside d, inside (d + 1) with
  | true, true =>
    let twice := 2 * (i.middle * num)
    let half := (2 * d + 1) * den
    if twice < half then some d
    else if half < twice then some (d + 1)
    else if tie = .even ∧ d % 2 = 0 then some d
    else some (d + 1)
  | true, false => some d
  | false, true => some (d + 1)
  | false, false => none

/-- The same decimal without zeros at its end; `fuel` bounds their number. -/
def stripZeros : Nat → Decimal → Decimal
  | 0, x => x
  | fuel + 1, x =>
    if x.digits ≠ 0 ∧ x.digits % 10 = 0 then stripZeros fuel ⟨x.digits / 10, x.exponent + 1⟩ else x

/-- The shortest decimal of `m · 2 ^ e`; seventeen digits always suffice. -/
def shortest (tie : Tie) (m : Nat) (e : Int) : Decimal :=
  if m = 0 then ⟨0, 0⟩
  else
    let i := intervalOf m e
    let lead := leadingExponent (m * twoPow e.toNat) (twoPow (-e).toNat)
    let found := (List.range 17).findSome? fun (k : Nat) =>
      let p := lead - k
      (onGrid tie i e p).map fun d => stripZeros 18 ⟨d, p⟩
    found.getD ⟨0, 0⟩

/-! ### Layouts -/

/-- The decisions of one way to write a double. -/
structure Layout where
  tie : Tie
  /-- The exponents of leading digits that are written without an exponent; none bars any. -/
  positional : Option (Int × Int)
  /-- A whole number ends in `.0`. -/
  pointZero : Bool
  /-- An exponent that is not negative has a plus sign. -/
  plus : Bool

namespace Layout

/-- Values in queries and routes: never an exponent, whole numbers without a fraction. -/
def plain : Layout := ⟨.up, none, false, false⟩

/-- Numbers in JSON texts. -/
def json : Layout := ⟨.even, some (-5, 15), true, true⟩

/-- Numbers in the description of a filter's storage. -/
def described : Layout := ⟨.up, some (-4, 15), true, false⟩

end Layout

/-- Digits with the point after the first `whole` of them, zeros filled in on either side. -/
def pointed (pointZero : Bool) (digits : List Char) (whole : Int) : List Char :=
  let n : Int := digits.length
  if whole ≤ 0 then ['0', '.'] ++ List.replicate (-whole).toNat '0' ++ digits
  else if n ≤ whole then
    digits ++ List.replicate (whole - n).toNat '0' ++ (if pointZero then ['.', '0'] else [])
  else digits.take whole.toNat ++ '.' :: digits.drop whole.toNat

/-- One digit, the others after the point, and the exponent. -/
def scientific (plus : Bool) (digits : List Char) (exponent : Int) : List Char :=
  let mantissa :=
    match digits with
    | d :: e :: rest => d :: '.' :: e :: rest
    | short => short
  let sign := if exponent < 0 then ['-'] else if plus then ['+'] else []
  mantissa ++ 'e' :: sign ++ Nat.toDigits 10 exponent.natAbs

def signed (negative : Bool) (cs : List Char) : List Char := if negative then '-' :: cs else cs

def chars (l : Layout) : Double → List Char
  | nan => ['N', 'a', 'N']
  | infinite s => signed s ['i', 'n', 'f']
  | finite s m e =>
    let x := shortest l.tie m e
    let digits := Nat.toDigits 10 x.digits
    let lead : Int := if m = 0 then 0 else x.exponent + digits.length - 1
    let fits := match l.positional with
      | none => true
      | some (low, high) => decide (low ≤ lead) && decide (lead ≤ high)
    signed s
      (if m = 0 || fits then pointed l.pointZero digits (lead + 1)
       else scientific l.plus digits lead)

/-- The text of a double in a layout. -/
def text (l : Layout) (x : Double) : String := String.ofList (x.chars l)

end DatasetSearch.Double
