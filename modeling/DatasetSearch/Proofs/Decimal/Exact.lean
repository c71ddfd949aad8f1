import DatasetSearch.Decimal.Double
import DatasetSearch.Filter.Basic
import DatasetSearch.Proofs.Decimal.Nearest

/-! Whole numbers written and read.

The decimal digits of an integer are read as a double, so what comes back is the nearest double
(`numberIn?_wholeText`). A bound of a range in a route is read so too (`boundIn_wholeText`). An
integer that is no larger than `2 ^ 53` is a double itself and comes back as it was
(`boundIn_of_exact`). -/
namespace DatasetSearch

/-- The integers that doubles hold exactly without a gap. -/
def Exact (n : Int) : Prop := n.natAbs ≤ 2 ^ 53

instance (n : Int) : Decidable (Exact n) := inferInstanceAs (Decidable (_ ≤ _))

theorem Exact.representable {n : Int} (h : Exact n) : Double.Representable n := by
  rcases Nat.lt_or_eq_of_le h with hlt | heq
  · exact ⟨_, 0, hlt, (Nat.mul_one _).symm⟩
  · exact ⟨1, 53, by decide, heq⟩

namespace Double
variable {m : Nat}

/-! ### Reading what was written -/

theorem spanDigits_of_all {cs : List Char} (h : ∀ c ∈ cs, c.isDigit = true) :
    spanDigits cs = (cs, []) := by
  rw [spanDigits]
  induction cs with
  | nil => rfl
  | cons c cs ih =>
    obtain ⟨hc, hcs⟩ := List.forall_mem_cons.mp h
    obtain ⟨htake, hdrop⟩ := Prod.mk.inj (ih hcs)
    rw [List.takeWhile_cons_of_pos hc, List.dropWhile_cons_of_pos hc, htake, hdrop]

theorem isDigit_of_mem {c : Char} {n : Nat} (h : c ∈ Nat.toDigits 10 n) : c.isDigit = true :=
  Nat.isDigit_of_mem_toDigits (by decide) (by decide) h

theorem ne_of_isDigit {d c : Char} (hd : d.isDigit = true) (hc : c.isDigit = false) : d ≠ c := by
  rintro rfl
  rw [hd] at hc
  cases hc

/-- A number of few digits is neither too large nor too small for rounding. -/
theorem ofDecimal_whole (negative : Bool) (h : m < 2 ^ 64) :
    ofDecimal negative m 0 = ofRatio negative m 1 := by
  by_cases hm : m = 0
  · subst hm
    rfl
  · have hlen : (Nat.toDigits 10 m).length ≤ 20 :=
      (Nat.length_toDigits_le_iff (by decide) (by decide)).mpr (Nat.lt_trans h (by decide))
    have hlead : ¬400 < ((Nat.toDigits 10 m).length : Int) + 0 := by omega
    have hleast : ¬((Nat.toDigits 10 m).length : Int) + 0 < -400 := by omega
    simp only [ofDecimal, hm, if_false, hlead, hleast]
    exact congrArg (ofRatio negative · 1) (Nat.mul_one m)

theorem readUnsigned_toDigits (negative : Bool) (m : Nat) :
    readUnsigned negative (Nat.toDigits 10 m) = some (ofDecimal negative m 0) := by
  have hne : (Nat.toDigits 10 m).isEmpty = false := by simp
  rw [readUnsigned, spanDigits_of_all fun c hc => isDigit_of_mem hc]
  simp [hne, readExponent, digitsValue, Nat.ofDigitChars_ten_toDigits]

theorem toLower_of_isDigit {c : Char} (h : c.isDigit = true) : c.toLower = c := by
  simp only [Char.isDigit, Bool.and_eq_true, decide_eq_true_eq] at h
  have hlower : ¬(c.val ≥ 'A'.val ∧ c.val ≤ 'Z'.val) :=
    fun hupper => absurd (UInt32.le_trans hupper.1 h.2) (by decide)
  exact dif_neg hlower

/-- Digits are no word, and a sign is taken off them. -/
theorem read?_wholeChars (n : Int) :
    read? (wholeChars n) = some (ofDecimal (n < 0) n.natAbs 0) := by
  obtain ⟨d, ds, hds⟩ := List.exists_cons_of_ne_nil (Nat.toDigits_ne_nil (n := n.natAbs) (b := 10))
  have hd : d.isDigit = true := isDigit_of_mem (hds ▸ List.mem_cons_self ..)
  have hne (c : Char) (hc : c.isDigit = false) : d ≠ c := ne_of_isDigit hd hc
  have hsign : takeSign (wholeChars n) = (decide (n < 0), Nat.toDigits 10 n.natAbs) := by
    by_cases hn : n < 0
    · simp [wholeChars, hn, takeSign]
    · simp [wholeChars, hn, hds, takeSign, hne '-' rfl, hne '+' rfl]
  have hread := readUnsigned_toDigits (n < 0) n.natAbs
  rw [read?, hsign]
  rw [hds] at hread ⊢
  simp [toLower_of_isDigit hd, hne 'i' rfl, hne 'n' rfl, hread]

end Double

/-! ### Numbers in texts -/

theorem isBlank_of_isDigit {c : Char} (h : c.isDigit = true ∨ c = '-') : Text.isBlank c = false := by
  rcases h with h | rfl
  · simp only [Char.isDigit, Bool.and_eq_true, decide_eq_true_eq, ge_iff_le, UInt32.le_iff_toNat_le] at h
    have hlow : 48 ≤ c.toNat := h.1
    have hhigh : c.toNat ≤ 57 := h.2
    simp only [Text.isBlank]
    simp
    omega
  · decide

theorem trimChars_of_forall {cs : List Char} (h : ∀ c ∈ cs, Text.isBlank c = false) :
    Text.trimChars cs = cs := by
  have hdrop : ∀ l : List Char, (∀ c ∈ l, Text.isBlank c = false) → l.dropWhile Text.isBlank = l := by
    intro l hl
    cases l with
    | nil => rfl
    | cons c l => exact List.dropWhile_cons_of_neg (by simp [hl c (List.mem_cons_self ..)])
  rw [Text.trimChars, hdrop cs h, Text.dropEndWhile, hdrop, List.reverse_reverse]
  exact fun c hc => h c (List.mem_reverse.mp hc)

theorem mem_wholeChars {c : Char} {n : Int} (h : c ∈ wholeChars n) : c.isDigit = true ∨ c = '-' := by
  rw [wholeChars] at h
  split at h
  · rcases List.mem_cons.mp h with rfl | h
    · exact .inr rfl
    · exact .inl (Double.isDigit_of_mem h)
  · exact .inl (Double.isDigit_of_mem h)

/-- The text of an integer is read as the nearest double. -/
theorem numberIn?_wholeText {n : Int} (h : n.natAbs < 2 ^ 64) :
    ∃ x, FilterValue.numberIn? (wholeText n) = some x ∧ x.isFinite = true ∧
      x.toInt64 = Double.nearest64 n := by
  obtain ⟨hfinite, hvalue⟩ := Double.toInt64_ofRatio (n < 0) h
  refine ⟨_, ?_, hfinite, ?_⟩
  · rw [FilterValue.numberIn?, wholeText, String.toList_ofList,
      trimChars_of_forall fun c hc => isBlank_of_isDigit (mem_wholeChars hc), Double.read?_wholeChars,
      Double.ofDecimal_whole _ h]
  · rw [hvalue, Double.nearest64, Double.nearest]
    by_cases hn : n < 0 <;> simp [hn]

/-! ### Bounds in routes -/

namespace Filter

/-- What is read of a bound does not hang on the initial one. -/
theorem boundIn_wholeText {n : Int} (h : leastInt64 ≤ n ∧ n ≤ greatestInt64) (initial : Int) :
    boundIn initial (some (wholeText n)) = Double.nearest64 n := by
  have hsize : n.natAbs < 2 ^ 64 := by
    simp only [leastInt64, greatestInt64] at h
    omega
  obtain ⟨x, hx, hfinite, hvalue⟩ := numberIn?_wholeText hsize
  simp only [boundIn, Option.bind_some, hx, hfinite, if_true, hvalue]

theorem boundIn_of_exact {n : Int} (h : Exact n) (initial : Int) :
    boundIn initial (some (wholeText n)) = n := by
  have hsize : n.natAbs ≤ 2 ^ 53 := h
  have hrange : leastInt64 ≤ n ∧ n ≤ greatestInt64 := by
    simp only [leastInt64, greatestInt64]
    omega
  rw [boundIn_wholeText hrange, Double.nearest64_eq_iff hrange]
  exact .inl h.representable

end Filter
end DatasetSearch
