import DatasetSearch.Decimal.Whole

/-! Binary floating point of 64 bits, exactly.

A finite `Double` is `± significand · 2 ^ exponent`. `ofRatio` is the only place where a value is
rounded: it takes the nearest double to a fraction, of two equally near ones the one with an even
significand, and infinity from half a unit above the largest double on. Products and quotients of
doubles are the exact ones, rounded by it. Its results have the normal form of the type: a
significand of 53 bits, or the least exponent.

As a text a number is an optional sign and then digits with at most one point among them, at least
one digit, and an optional exponent, or one of the words `inf`, `infinity` and `nan` in any case. The
double read is the one nearest to the decimal. -/
namespace DatasetSearch

inductive Double where
  | nan
  | infinite (negative : Bool)
  | finite (negative : Bool) (significand : Nat) (exponent : Int)
deriving DecidableEq, Repr

namespace Double

/-! ### Rounding -/

/-- The exponent of the doubles closest to zero. -/
def leastExponent : Int := -1074

/-- The exponent of the largest doubles. -/
def greatestExponent : Int := 971

/-- `num / den / 2 ^ e` as a numerator and a denominator. -/
def scaled (num den : Nat) (e : Int) : Nat × Nat :=
  (num * twoPow (-e).toNat, den * twoPow e.toNat)

/-- The natural number nearest to `num / den`, of two the even one. -/
def roundEven (num den : Nat) : Nat :=
  let q := num / den
  let r := num % den
  if 2 * r < den then q
  else if den < 2 * r then q + 1
  else if q % 2 = 0 then q else q + 1

/-- The exponent at which `num / den` has a significand of 53 bits, or the least exponent. -/
def exponentFor (num den : Nat) : Int :=
  let e : Int := (Nat.log2 num : Int) - (Nat.log2 den : Int) - 53
  let s := scaled num den e
  max leastExponent (if s.1 / s.2 < twoPow 53 then e else e + 1)

def zero (negative : Bool) : Double := .finite negative 0 leastExponent

/-- The double nearest to `± num / den`. -/
def ofRatio (negative : Bool) (num den : Nat) : Double :=
  if num = 0 then zero negative
  else
    let e := exponentFor num den
    let s := scaled num den e
    let m := roundEven s.1 s.2
    let (m, e) := if m = twoPow 53 then (twoPow 52, e + 1) else (m, e)
    if greatestExponent < e then .infinite negative else .finite negative m e

def ofNat (n : Nat) : Double := ofRatio false n 1

def ofInt (n : Int) : Double := ofRatio (n < 0) n.natAbs 1

/-! ### Signs and classes -/

def negative : Double → Bool
  | nan => false
  | infinite s => s
  | finite s _ _ => s

def neg : Double → Double
  | nan => nan
  | infinite s => infinite !s
  | finite s m e => finite (!s) m e

def isNaN : Double → Bool
  | nan => true
  | _ => false

def isFinite : Double → Bool
  | finite _ _ _ => true
  | _ => false

/-- Whether the value is zero, of either sign. -/
def isZero : Double → Bool
  | finite _ m _ => m == 0
  | _ => false

/-! ### Arithmetic -/

def mul : Double → Double → Double
  | finite s m e, finite t n f =>
    ofRatio (s != t) (m * n * twoPow (e + f).toNat) (twoPow (-(e + f)).toNat)
  | x, y =>
    if x.isNaN || y.isNaN || x.isZero || y.isZero then nan else infinite (x.negative != y.negative)

def div : Double → Double → Double
  | finite s m e, finite t n f =>
    if n = 0 then (if m = 0 then nan else infinite (s != t))
    else ofRatio (s != t) (m * twoPow (e - f).toNat) (n * twoPow (f - e).toNat)
  | finite s _ _, infinite t => zero (s != t)
  | infinite s, finite t _ _ => infinite (s != t)
  | _, _ => nan

/-! ### Whole numbers -/

/-- The least and the greatest integer of 64 bits stand for what lies beyond them. -/
def saturate64 (n : Int) : Int := max leastInt64 (min n greatestInt64)

/-- The whole part of a value as an integer of 64 bits. -/
def toInt64 : Double → Int
  | nan => 0
  | infinite s => if s then leastInt64 else greatestInt64
  | finite s m e =>
    let n : Nat := m * twoPow e.toNat / twoPow (-e).toNat
    saturate64 (if s then -n else n)

/-! ### Decimals -/

/-- The double nearest to `± m · 10 ^ e`. Far outside the range of doubles it is known from the
number of digits. -/
def ofDecimal (negative : Bool) (m : Nat) (e : Int) : Double :=
  if m = 0 then zero negative
  else
    let lead : Int := (Nat.toDigits 10 m).length + e
    if 400 < lead then infinite negative
    else if lead < -400 then zero negative
    else ofRatio negative (m * tenPow e.toNat) (tenPow (-e).toNat)

/-- An exponent `e…` up to the end of the text; without one it is zero. -/
def readExponent : List Char → Option Int
  | [] => some 0
  | c :: rest =>
    if c = 'e' ∨ c = 'E' then
      let (minus, digits) := takeSign rest
      if digits.isEmpty || !digits.all Char.isDigit then none
      else some (if minus then -(digitsValue digits : Int) else digitsValue digits)
    else none

/-- Digits, a point among them perhaps, and an exponent. -/
def readUnsigned (negative : Bool) (cs : List Char) : Option Double :=
  let (whole, rest) := spanDigits cs
  let (fraction, rest) := match rest with
    | '.' :: rest => spanDigits rest
    | rest => ([], rest)
  if whole.isEmpty && fraction.isEmpty then none
  else
    (readExponent rest).map fun e =>
      ofDecimal negative (digitsValue (whole ++ fraction)) (e - fraction.length)

/-- A number, up to the end of the text. -/
def read? (cs : List Char) : Option Double :=
  let (negative, rest) := takeSign cs
  let word := rest.map Char.toLower
  if word = ['i', 'n', 'f'] ∨ word = ['i', 'n', 'f', 'i', 'n', 'i', 't', 'y'] then
    some (infinite negative)
  else if word = ['n', 'a', 'n'] then some nan
  else readUnsigned negative rest

end Double
end DatasetSearch
