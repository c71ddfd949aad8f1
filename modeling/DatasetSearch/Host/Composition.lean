import DatasetSearch.Host.CompositionTable

/-! The composed form of a text.

A letter and the marks after it have one composed form, whatever order of independent marks and
whatever degree of composition they were written in: the letters are taken apart, the marks are put
in the order of their combining classes, and what can be put together is, from the left. The tables
cover the characters that a name may hold. -/
namespace DatasetSearch.Host

/-- The canonical combining class; marks of one class keep their order. -/
def combiningClass (c : Char) : Nat :=
  if c.toNat < 0x300 then 0
  else
    match combiningClasses.find? fun r => r.1 ≤ c.toNat && c.toNat ≤ r.2.1 with
    | some r => r.2.2
    | none => 0

/-! ### Korean syllables

A syllable is a leading consonant, a vowel and possibly a trailing consonant, and the syllables are
numbered in that order. -/

def firstSyllable : Nat := 0xAC00
def firstLeading : Nat := 0x1100
def firstVowel : Nat := 0x1161
/-- One before the first trailing consonant: the number of a syllable that has none. -/
def noTrailing : Nat := 0x11A7
def leadingCount : Nat := 19
def vowelCount : Nat := 21
def trailingCount : Nat := 28

/-- Whether a syllable has no trailing consonant. -/
def isOpenSyllable (n : Nat) : Bool :=
  firstSyllable ≤ n && n < firstSyllable + leadingCount * vowelCount * trailingCount &&
    (n - firstSyllable) % trailingCount == 0

def syllable? (a b : Nat) : Option Nat :=
  if firstLeading ≤ a ∧ a < firstLeading + leadingCount ∧
      firstVowel ≤ b ∧ b < firstVowel + vowelCount then
    some (firstSyllable +
      ((a - firstLeading) * vowelCount + (b - firstVowel)) * trailingCount)
  else if isOpenSyllable a ∧ noTrailing < b ∧ b < noTrailing + trailingCount then
    some (a + (b - noTrailing))
  else none

def syllableParts? (n : Nat) : Option (List Nat) :=
  if firstSyllable ≤ n ∧ n < firstSyllable + leadingCount * vowelCount * trailingCount then
    let k := n - firstSyllable
    let head :=
      [firstLeading + k / (vowelCount * trailingCount),
        firstVowel + k % (vowelCount * trailingCount) / trailingCount]
    some (if k % trailingCount = 0 then head else head ++ [noTrailing + k % trailingCount])
  else none

/-! ### Taking apart and putting together -/

/-- The two characters that a composed one is made of. -/
def parts? (c : Char) : Option (Char × Char) :=
  (compositions.find? (·.1 == c.toNat)).map fun t => (Char.ofNat t.2.1, Char.ofNat t.2.2)

/-- The letter and the marks that a character is made of; a letter has at most `depth` marks. -/
def decomposeUpTo : Nat → Char → List Char
  | 0, c => [c]
  | depth + 1, c =>
    match parts? c with
    | some (a, b) => decomposeUpTo depth a ++ [b]
    | none => [c]

def decompose (c : Char) : List Char :=
  if c.toNat < 0xC0 then [c]
  else
    match syllableParts? c.toNat with
    | some ns => ns.map Char.ofNat
    | none => decomposeUpTo 4 c

/-- What two characters in a row are put together to. -/
def composite? (a b : Char) : Option Char :=
  if b.toNat < 0x300 then none
  else
    match syllable? a.toNat b.toNat with
    | some n => some (Char.ofNat n)
    | none =>
      (compositions.find? fun t => t.2.1 == a.toNat && t.2.2 == b.toNat).map (Char.ofNat ·.1)

/-- Puts a mark before the marks of higher classes that a text, given last character first, ends
in. -/
def placeMark (c : Char) : List Char → List Char
  | [] => [c]
  | d :: before =>
    if 0 < combiningClass c ∧ combiningClass c < combiningClass d then d :: placeMark c before
    else c :: d :: before

def orderMarks (cs : List Char) : List Char :=
  (cs.foldl (fun before c => placeMark c before) []).reverse

/-- Composes what follows the letter `letter` and the marks after it that stay, last one first. A
mark is composed with the letter unless one of its class or a higher one stands between them. -/
def composeAfter (letter : Char) (marks : List Char) : List Char → List Char
  | [] => letter :: marks.reverse
  | c :: rest =>
    let blocked := marks.head?.any (combiningClass c ≤ combiningClass ·)
    match if blocked then none else composite? letter c with
    | some l => composeAfter l marks rest
    | none =>
      if combiningClass c = 0 then letter :: marks.reverse ++ composeAfter c [] rest
      else composeAfter letter (c :: marks) rest

/-- Composes a text that is taken apart and ordered. -/
def composeOrdered : List Char → List Char
  | [] => []
  | c :: rest => if combiningClass c = 0 then composeAfter c [] rest else c :: composeOrdered rest

/-- The composed form of a text. -/
def compose (cs : List Char) : List Char :=
  if cs.all (·.toNat < 0x300) then cs else composeOrdered (orderMarks (cs.flatMap decompose))

end DatasetSearch.Host
