/-! Whole numbers: the limits that a number of bits sets, and decimal digits.

`wholeText` writes an integer; `readWhole` reads a natural number of limited size and tells why a
text is none. -/
namespace DatasetSearch

/-! ### Powers and limits -/

/-- Two to the power `k`: the number of values that `k` bits have. -/
def twoPow (k : Nat) : Nat := Nat.pow 2 k

/-- Ten to the power `k`. -/
def tenPow (k : Nat) : Nat := Nat.pow 10 k

/-- The least integer of 64 bits. -/
def leastInt64 : Int := -9223372036854775808

/-- The greatest integer of 64 bits. -/
def greatestInt64 : Int := 9223372036854775807

theorem leastInt64_eq : leastInt64 = -(twoPow 63 : Int) := by decide

/-! ### Digits -/

/-- The digits at the front of a text, and what follows them. -/
def spanDigits (cs : List Char) : List Char × List Char :=
  (cs.takeWhile Char.isDigit, cs.dropWhile Char.isDigit)

/-- The number that decimal digits write. -/
def digitsValue (cs : List Char) : Nat := Nat.ofDigitChars 10 cs 0

/-- A sign at the front of a text: whether it is a minus, and the rest. -/
def takeSign : List Char → Bool × List Char
  | '-' :: rest => (true, rest)
  | '+' :: rest => (false, rest)
  | cs => (false, cs)

/-! ### Writing -/

def wholeChars (n : Int) : List Char :=
  if n < 0 then '-' :: Nat.toDigits 10 n.natAbs else Nat.toDigits 10 n.natAbs

/-- An integer in decimal digits, after a minus sign when it is negative. -/
def wholeText (n : Int) : String := String.ofList (wholeChars n)

/-! ### Reading with a limit -/

inductive WholeError where
  | empty
  | invalidDigit
  | tooLarge
deriving DecidableEq, Repr

def WholeError.message : WholeError → String
  | .empty => "cannot parse integer from empty string"
  | .invalidDigit => "invalid digit found in string"
  | .tooLarge => "number too large to fit in target type"

/-- Reads on from the value `v` of the digits so far; the first fault decides. -/
def readDigits (limit v : Nat) : List Char → Except WholeError Nat
  | [] => .ok v
  | c :: rest =>
    if !c.isDigit then .error .invalidDigit
    else if limit ≤ 10 * v + (c.toNat - 0x30) then .error .tooLarge
    else readDigits limit (10 * v + (c.toNat - 0x30)) rest

/-- A whole number below `limit`: digits after an optional plus sign. -/
def readWhole (limit : Nat) (s : String) : Except WholeError Nat :=
  match s.toList with
  | [] => .error .empty
  | ['+'] => .error .invalidDigit
  | '+' :: rest => readDigits limit 0 rest
  | cs => readDigits limit 0 cs

end DatasetSearch
