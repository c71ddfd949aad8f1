import DatasetSearch.Json.Printer
import DatasetSearch.Json.Reader
import DatasetSearch.Proofs.Decimal.Exact

/-! Strings and whole numbers as they are spelled when they are written.

`pieces?_textChars` and `numeral?_toDigits`: the grammar takes a written string or number off the
front of a text and leaves the rest. `text?_written` and `value?_ofInt`: what it took stands for the
string or number that was written. -/
namespace DatasetSearch.Json

/-! ### Strings -/

namespace Piece

/-- The piece that a character is written as: a control character that no letter stands for is
given by its number. -/
def written (c : Char) : Piece :=
  if c.toNat < 0x20 ∧ c ∉ ['\x08', '\x0c', '\n', '\r', '\t'] then .unit c.toNat else .char c

def writtenText (s : String) : List Piece := s.toList.map written

/-- A unit that is no half of a surrogate pair stands alone, whatever follows. -/
theorem chars?_unit {n : Nat} (h : n < 0xD800) (rest : List Piece) :
    chars? (.unit n :: rest) = (chars? rest).map (Char.ofNat n :: ·) := by
  have hlow : ¬(0xD800 ≤ n ∧ n < 0xDC00) := by omega
  have hhigh : ¬(0xDC00 ≤ n ∧ n < 0xE000) := by omega
  have hhalf : ¬(0xD800 ≤ n ∧ n < 0xE000) := by omega
  cases rest with
  | nil => simp only [chars?, if_neg hhalf, Option.map_some]
  | cons p rest =>
    cases p with
    | char c => rw [chars?.eq_def]; simp only [if_neg hhalf]
    | unit m => rw [chars?, if_neg hlow, if_neg hhigh]

theorem chars?_map_written (cs : List Char) : chars? (cs.map written) = some cs := by
  induction cs with
  | nil => rfl
  | cons c cs ih =>
    rw [List.map_cons, written]
    split
    · next hc => rw [chars?_unit (by omega), ih, Char.ofNat_toNat]; rfl
    · rw [chars?, ih]; rfl

@[simp] theorem text?_writtenText (s : String) : text? (writtenText s) = some s := by
  rw [text?, writtenText, chars?_map_written, Option.map_some, String.ofList_toList]

end Piece

namespace Source
open Piece

/-- A character that is not escaped is taken as it is. -/
theorem pieces?_char {c : Char} (hquote : c ≠ '"') (hslash : c ≠ '\\') (hc : ¬c.toNat < 0x20)
    (rest : List Char) :
    pieces? (c :: rest) = (pieces? rest).map fun p => (.char c :: p.1, p.2) := by
  rw [pieces?.eq_def]
  split
  · next h => cases h
  · next h => exact absurd (List.cons.inj h).1 hquote
  · next h => exact absurd (List.cons.inj h).1 hslash
  · next h => exact absurd (List.cons.inj h).1 hslash
  · next h =>
    obtain ⟨rfl, rfl⟩ := List.cons.inj h
    rw [if_neg hc]

theorem pieces?_unit {n : Nat} (h : n < 0x20) (rest : List Char) :
    pieces? (['\\', 'u', '0', '0', Text.lowerHex (n / 16), Text.lowerHex (n % 16)] ++ rest) =
      (pieces? rest).map fun p => (.unit n :: p.1, p.2) := by
  have hzero : Text.hexValue? '0' = some 0 := by decide
  have hvalue : ((0 * 16 + 0) * 16 + n / 16) * 16 + n % 16 = n := by omega
  simp only [List.cons_append, List.nil_append, pieces?, hzero,
    Text.hexValue?_lowerHex (show n / 16 < 16 by omega),
    Text.hexValue?_lowerHex (show n % 16 < 16 by omega), hvalue]

/-- A written character is read as the piece it is written as. -/
theorem pieces?_escapeChar (c : Char) (rest : List Char) :
    pieces? (escapeChar c ++ rest) = (pieces? rest).map fun p => (written c :: p.1, p.2) := by
  rw [escapeChar.eq_def]
  split
  -- the characters that a letter stands for
  iterate 7 next => rfl
  next hquote hslash hb hf hn hr ht =>
    by_cases hc : c.toNat < 0x20
    · have hnamed : c ∉ ['\x08', '\x0c', '\n', '\r', '\t'] := by
        simp only [List.mem_cons, List.not_mem_nil, or_false, not_or]
        exact ⟨hb, hf, hn, hr, ht⟩
      have hwritten : written c = .unit c.toNat := if_pos ⟨hc, hnamed⟩
      rw [if_pos hc, pieces?_unit hc, hwritten]
    · have hwritten : written c = .char c := if_neg fun h => hc h.1
      rw [if_neg hc, List.singleton_append, pieces?_char hquote hslash hc, hwritten]

/-- After its first quote a written string is read up to its last. -/
theorem pieces?_textChars (s : String) (rest : List Char) :
    pieces? (s.toList.flatMap escapeChar ++ '"' :: rest) = some (writtenText s, rest) := by
  rw [writtenText]
  induction s.toList with
  | nil => rfl
  | cons c cs ih =>
    rw [List.flatMap_cons, List.append_assoc, pieces?_escapeChar, ih]
    rfl

end Source

/-! ### Numbers -/

namespace Numeral

/-- The spelling of an integer. -/
def ofInt (n : Int) : Numeral := ⟨n < 0, Nat.toDigits 10 n.natAbs, [], none⟩

theorem le_ofDigitChars (v : Nat) (cs : List Char) : v ≤ Nat.ofDigitChars 10 cs v := by
  induction cs generalizing v with
  | nil => exact Nat.le_refl v
  | cons c cs ih =>
    calc v ≤ 10 * v + (c.toNat - '0'.toNat) := by omega
      _ ≤ Nat.ofDigitChars 10 (c :: cs) v := ih _

/-- Digits of a number of 64 bits all find room. -/
theorem gather_eq {v : Nat} {cs : List Char} (h : Nat.ofDigitChars 10 cs v < twoPow 64) :
    gather v cs = (Nat.ofDigitChars 10 cs v, cs.length, 0) := by
  induction cs generalizing v with
  | nil => rfl
  | cons c cs ih =>
    have hstep : 10 * v + (c.toNat - 0x30) < twoPow 64 :=
      Nat.lt_of_le_of_lt (le_ofDigitChars _ cs) h
    have hrest : gather (10 * v + (c.toNat - 0x30)) cs =
        (Nat.ofDigitChars 10 (c :: cs) v, cs.length, 0) := ih h
    simp only [gather, if_pos hstep, hrest, List.length_cons]

theorem gather_toDigits {m : Nat} (h : m < twoPow 64) :
    gather 0 (Nat.toDigits 10 m) = (m, (Nat.toDigits 10 m).length, 0) := by
  have hvalue : Nat.ofDigitChars 10 (Nat.toDigits 10 m) 0 = m := Nat.ofDigitChars_ten_toDigits
  rw [gather_eq (by rwa [hvalue]), hvalue]

/-- An integer that fits 64 bits, signed or unsigned, is read from its spelling. -/
theorem value?_ofInt {n : Int} (hleast : leastInt64 ≤ n) (hmost : n < twoPow 64) :
    (ofInt n).value? = some (.int n) := by
  rw [leastInt64_eq] at hleast
  have hpow : twoPow 64 = 2 * twoPow 63 := by decide
  have hroom : n.natAbs < twoPow 64 := by omega
  by_cases hn : n < 0
  · have habs : ¬(n.natAbs = 0 ∨ twoPow 63 < n.natAbs) := by omega
    have hneg : -(n.natAbs : Int) = n := by omega
    simp only [value?, ofInt, gather_toDigits hroom, hn, habs, hneg]
    rfl
  · have hpos : (n.natAbs : Int) = n := by omega
    simp [value?, ofInt, gather_toDigits hroom, hn, hpos]

end Numeral

namespace Source

/-- What may follow a number: nothing that would be part of it. -/
def EndsNumber (rest : List Char) : Prop :=
  ∀ c ∈ rest.head?, c.isDigit = false ∧ c ≠ '.' ∧ c ≠ 'e' ∧ c ≠ 'E'

theorem digits?_append {ds rest : List Char} (hds : ∀ c ∈ ds, c.isDigit = true) (hne : ds ≠ [])
    (hrest : EndsNumber rest) : digits? (ds ++ rest) = some (ds, rest) := by
  have hstop : rest.takeWhile Char.isDigit = [] ∧ rest.dropWhile Char.isDigit = rest := by
    cases rest with
    | nil => exact ⟨rfl, rfl⟩
    | cons c rest =>
      have hc : ¬c.isDigit = true := by simp [(hrest c rfl).1]
      exact ⟨List.takeWhile_cons_of_neg hc, List.dropWhile_cons_of_neg hc⟩
  rw [digits?, List.takeWhile_append_of_pos hds, List.dropWhile_append_of_pos hds, hstop.1, hstop.2,
    List.append_nil]
  simp [hne]

theorem fraction?_of_endsNumber {rest : List Char} (h : EndsNumber rest) :
    fraction? rest = some ([], rest) := by
  rw [fraction?.eq_def]
  split
  · exact absurd rfl (h '.' rfl).2.1
  · rfl

theorem exponent?_of_endsNumber {rest : List Char} (h : EndsNumber rest) :
    exponent? rest = some (none, rest) := by
  cases rest with
  | nil => rfl
  | cons c rest =>
    obtain ⟨_, _, hlower, hupper⟩ := h c rfl
    rw [exponent?.eq_def]
    simp [hlower, hupper]

/-- No number but zero is written with a zero in front. -/
theorem head?_toDigits_ne {m : Nat} (h : m ≠ 0) : (Nat.toDigits 10 m).head? ≠ some '0' := by
  induction m using Nat.strongRecOn with
  | ind m ih =>
    rw [Nat.toDigits_eq_if (by decide)]
    split
    · next hm =>
      have all : ∀ d : Fin 10, d.val ≠ 0 → d.val.digitChar ≠ '0' := by decide
      simpa using all ⟨m, hm⟩ h
    · next hm =>
      obtain ⟨d, ds, hds⟩ :=
        List.exists_cons_of_ne_nil (Nat.toDigits_ne_nil (n := m / 10) (b := 10))
      have hfront := ih (m / 10) (by omega) (by omega)
      rw [hds] at hfront ⊢
      exact hfront

/-- The digits of a written number are taken to its end. -/
theorem numeral?_toDigits (negative : Bool) (m : Nat) {rest : List Char} (h : EndsNumber rest) :
    numeral? negative (Nat.toDigits 10 m ++ rest) =
      some (⟨negative, Nat.toDigits 10 m, [], none⟩, rest) := by
  have hzero : ¬((Nat.toDigits 10 m).head? = some '0' ∧ (Nat.toDigits 10 m).length ≠ 1) := by
    intro hlead
    by_cases hm : m = 0
    · subst hm
      exact hlead.2 rfl
    · exact head?_toDigits_ne hm hlead.1
  simp only [numeral?, digits?_append (fun c hc => Double.isDigit_of_mem hc) Nat.toDigits_ne_nil h,
    if_neg hzero, fraction?_of_endsNumber h, exponent?_of_endsNumber h, Option.map_some]

end Source
end DatasetSearch.Json
