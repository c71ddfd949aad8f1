/-! Texts as lists of characters.

Which characters belong to a set, what is cut off the ends of a text, how it is cut where a
character stands, whether one text stands in another, the lines of a text, and the digits that
escapes are written with. -/
namespace DatasetSearch.Text

/-! ### Sets of characters -/

/-- Whether a character lies in one of the ranges, ends included. -/
def inRanges (ranges : List (Nat × Nat)) (c : Char) : Bool :=
  ranges.any fun r => r.1 ≤ c.toNat && c.toNat ≤ r.2

/-! ### Letters that stand for others -/

/-- Code points `first`, `first + step`, … up to `last`, each of which stands for the one `shift`
further on. -/
structure Run where
  first : Nat
  last : Nat
  step : Nat
  shift : Int

def Run.holds (r : Run) (n : Nat) : Bool :=
  r.first ≤ n && n ≤ r.last && (n - r.first) % r.step == 0

/-- The character that the first run with `c` in it takes `c` to. -/
def shifted? (runs : List Run) (c : Char) : Option Char :=
  (runs.find? (·.holds c.toNat)).map fun r => Char.ofNat ((c.toNat : Int) + r.shift).toNat

/-! ### White space, and the ends of a text -/

/-- The property White_Space, which core's `Char.isWhitespace` covers for ASCII only. -/
def isBlank (c : Char) : Bool :=
  let n := c.toNat
  (0x9 ≤ n && n ≤ 0xD) || n == 0x20 || n == 0x85 || n == 0xA0 || n == 0x1680 ||
    (0x2000 ≤ n && n ≤ 0x200A) || n == 0x2028 || n == 0x2029 || n == 0x202F || n == 0x205F ||
    n == 0x3000

/-- Drops the characters at the end that `p` holds of. -/
def dropEndWhile (p : Char → Bool) (cs : List Char) : List Char :=
  (cs.reverse.dropWhile p).reverse

/-- What is left when the white space at both ends is cut off. -/
def trimChars (cs : List Char) : List Char := dropEndWhile isBlank (cs.dropWhile isBlank)

/-- A text without the slashes at its end. -/
def trimSlashes (s : String) : String := String.ofList (dropEndWhile (· == '/') s.toList)

/-- Whether a text is empty or all white space. -/
def isBlankText (s : String) : Bool := s.toList.all isBlank

/-! ### Where a character stands -/

/-- The pieces between the places where `sep` stands; there is always one. -/
def splitAll (sep : Char) : List Char → List (List Char)
  | [] => [[]]
  | c :: rest =>
    match splitAll sep rest with
    | piece :: pieces => if c = sep then [] :: piece :: pieces else (c :: piece) :: pieces
    | [] => [[c]]

/-- What stands before the first `sep` and what stands after it. -/
def splitFirst (sep : Char) : List Char → List Char × List Char
  | [] => ([], [])
  | c :: rest =>
    if c = sep then ([], rest)
    else
      let (before, after) := splitFirst sep rest
      (c :: before, after)

/-! ### A text inside another -/

/-- Whether `needle` stands somewhere in `hay`. -/
def containsChars (needle : List Char) : List Char → Bool
  | [] => needle.isEmpty
  | c :: rest => needle.isPrefixOf (c :: rest) || containsChars needle rest

theorem containsChars_iff {needle hay : List Char} :
    containsChars needle hay = true ↔ needle <:+: hay := by
  induction hay with
  | nil => simp [containsChars]
  | cons c rest ih => simp [containsChars, ih, List.infix_cons_iff]

/-! ### Lines

A line ends with a line feed, which may have a carriage return before it; what follows the last
line feed is a line too, unless it is empty. -/

/-- The lines of a text, each with the line feed that ends it. -/
def fullLines : List Char → List (List Char)
  | [] => []
  | c :: rest =>
    if c = '\n' then ['\n'] :: fullLines rest
    else
      match fullLines rest with
      | line :: lines => (c :: line) :: lines
      | [] => [[c]]

/-- A line without what ends it. -/
def dropLineEnd (line : List Char) : List Char :=
  match line.reverse with
  | '\n' :: '\r' :: before => before.reverse
  | '\n' :: before => before.reverse
  | _ => line

/-! ### Hexadecimal digits -/

/-- The upper-case digit of a number below sixteen. -/
def upperHex (n : Nat) : Char := if n < 10 then Char.ofNat (0x30 + n) else Char.ofNat (0x37 + n)

/-- The lower-case digit of a number below sixteen. -/
def lowerHex (n : Nat) : Char := if n < 10 then Char.ofNat (0x30 + n) else Char.ofNat (0x57 + n)

/-- The value of a digit of either case. -/
def hexValue? (c : Char) : Option Nat :=
  if '0' ≤ c ∧ c ≤ '9' then some (c.toNat - 0x30)
  else if 'A' ≤ c ∧ c ≤ 'F' then some (c.toNat - 0x37)
  else if 'a' ≤ c ∧ c ≤ 'f' then some (c.toNat - 0x57)
  else none

theorem hexValue?_upperHex {n : Nat} (h : n < 16) : hexValue? (upperHex n) = some n := by
  have : ∀ m : Fin 16, hexValue? (upperHex m) = some m.val := by decide
  exact this ⟨n, h⟩

theorem hexValue?_lowerHex {n : Nat} (h : n < 16) : hexValue? (lowerHex n) = some n := by
  have : ∀ m : Fin 16, hexValue? (lowerHex m) = some m.val := by decide
  exact this ⟨n, h⟩

end DatasetSearch.Text
