import DatasetSearch.Decimal.Double
import Mathlib.Algebra.Group.Nat.Defs

/-! The double nearest to a whole number.

A double has 53 bits, so the doubles around a whole number lie a `unit` apart: one up to `2 ^ 53`,
then two, then four. Rounding picks the multiple of the unit that is nearest (`nearest`). Nothing
that a double can hold is nearer (`nearest_le`), and what a double can hold is left as it is
(`nearest_eq_iff`). The double made from a whole number has the value `nearest` says, cut to 64 bits
when it is taken for an integer again (`toInt64_ofRatio`); of the integers of 64 bits those that are
doubles come through this, and the greatest (`nearest64_eq_iff`). -/
namespace DatasetSearch

theorem twoPow_eq (k : Nat) : twoPow k = 2 ^ k := rfl

namespace Double
variable {m d : Nat} {n : Int}

/-! ### Rounding to a multiple -/

theorem roundEven_cases (m d : Nat) :
    (roundEven m d = m / d ∧ 2 * (m % d) ≤ d) ∨
      (roundEven m d = m / d + 1 ∧ d ≤ 2 * (m % d)) := by
  simp only [roundEven]
  split
  · exact .inl ⟨rfl, by omega⟩
  · split
    · exact .inr ⟨rfl, by omega⟩
    · split
      · exact .inl ⟨rfl, by omega⟩
      · exact .inr ⟨rfl, by omega⟩

theorem roundEven_mul_of_dvd (hd : 0 < d) (h : d ∣ m) : roundEven m d * d = m := by
  have hmod : m % d = 0 := Nat.mod_eq_zero_of_dvd h
  rcases roundEven_cases m d with ⟨hround, _⟩ | ⟨_, hfar⟩
  · rw [hround, Nat.div_mul_cancel h]
  · omega

theorem roundEven_one (m : Nat) : roundEven m 1 = m := by
  simpa using roundEven_mul_of_dvd Nat.one_pos (Nat.one_dvd m)

theorem roundEven_le {k : Nat} (h : m < k * d) : roundEven m d ≤ k := by
  have hdiv : m / d < k := Nat.div_lt_of_lt_mul (by rwa [Nat.mul_comm])
  rcases roundEven_cases m d with ⟨hround, _⟩ | ⟨hround, _⟩ <;> omega

/-- How far apart two natural numbers are. -/
def apart (a b : Nat) : Nat := (a - b) + (b - a)

/-- No multiple is nearer than the one that is rounded to. -/
theorem apart_roundEven_le (hd : 0 < d) (k : Nat) :
    apart (roundEven m d * d) m ≤ apart (k * d) m := by
  have hsplit : m / d * d + m % d = m := by rw [Nat.mul_comm]; exact Nat.div_add_mod m d
  have hrest : m % d < d := Nat.mod_lt m hd
  -- a multiple lies at the quotient or below it, or one up or above that
  have hside : k * d ≤ m / d * d ∨ (m / d + 1) * d ≤ k * d := by
    rcases Nat.lt_or_ge (m / d) k with h | h
    · exact .inr (Nat.mul_le_mul_right d h)
    · exact .inl (Nat.mul_le_mul_right d h)
  rw [Nat.add_mul, Nat.one_mul] at hside
  simp only [apart]
  rcases roundEven_cases m d with ⟨hround, hnear⟩ | ⟨hround, hnear⟩
  · rw [hround]
    omega
  · rw [hround, Nat.add_mul, Nat.one_mul]
    omega

/-! ### The unit of a whole number -/

/-- How far the doubles around `m` lie apart, and one where they are closer than whole numbers. -/
def unit (m : Nat) : Nat := 2 ^ (m.log2 - 52)

theorem unit_pos (m : Nat) : 0 < unit m := Nat.pow_pos (by decide)

theorem lt_mul_unit (m : Nat) : m < 2 ^ 53 * unit m := by
  calc m < 2 ^ (m.log2 + 1) := Nat.lt_log2_self
    _ ≤ 2 ^ (53 + (m.log2 - 52)) := Nat.pow_le_pow_right (by decide) (by omega)
    _ = 2 ^ 53 * unit m := Nat.pow_add ..

theorem mul_unit_le (hm : m ≠ 0) (h : 52 ≤ m.log2) : 2 ^ 52 * unit m ≤ m := by
  calc 2 ^ 52 * unit m = 2 ^ m.log2 := by rw [unit, ← Nat.pow_add]; congr 1; omega
    _ ≤ m := Nat.log2_self_le hm

/-- The nearest whole number that is a double, of two the one with the even significand. -/
def nearestNat (m : Nat) : Nat := roundEven m (unit m) * unit m

theorem roundEven_unit_le (m : Nat) : roundEven m (unit m) ≤ 2 ^ 53 := roundEven_le (lt_mul_unit m)

/-! ### The nearest double -/

/-- The nearest integer that is a double, of two the one with the even significand. -/
def nearest (n : Int) : Int := if n < 0 then -nearestNat n.natAbs else nearestNat n.natAbs

/-- An integer that is a double: up to 53 bits, and zeros after them. -/
def Representable (n : Int) : Prop := ∃ k e : Nat, k < 2 ^ 53 ∧ n.natAbs = k * 2 ^ e

theorem natAbs_nearest (n : Int) : (nearest n).natAbs = nearestNat n.natAbs := by
  rw [nearest]
  split <;> omega

theorem representable_nearest (n : Int) : Representable (nearest n) := by
  rw [Representable, natAbs_nearest]
  rcases Nat.lt_or_eq_of_le (roundEven_unit_le n.natAbs) with h | h
  · exact ⟨_, _, h, rfl⟩
  · -- a significand that is rounded up to 54 bits is a power of two
    refine ⟨1, 53 + (n.natAbs.log2 - 52), by decide, ?_⟩
    rw [nearestNat, h, Nat.one_mul, Nat.pow_add]
    rfl

/-- A double is a multiple of the unit, unless it is smaller than all numbers with that unit. -/
theorem representable_grid {k e : Nat} (hk : k < 2 ^ 53) (m : Nat) :
    unit m ∣ k * 2 ^ e ∨ (52 ≤ m.log2 ∧ k * 2 ^ e < 2 ^ 52 * unit m) := by
  rcases Nat.lt_or_ge e (m.log2 - 52) with he | he
  · refine .inr ⟨by omega, ?_⟩
    calc k * 2 ^ e < 2 ^ 53 * 2 ^ e := Nat.mul_lt_mul_of_pos_right hk (Nat.pow_pos (by decide))
      _ = 2 ^ (53 + e) := (Nat.pow_add ..).symm
      _ ≤ 2 ^ (52 + (m.log2 - 52)) := Nat.pow_le_pow_right (by decide) (by omega)
      _ = 2 ^ 52 * unit m := Nat.pow_add ..
  · exact .inl (Nat.dvd_mul_left_of_dvd (Nat.pow_dvd_pow 2 he) k)

theorem nearest_of_representable (h : Representable n) : nearest n = n := by
  obtain ⟨k, e, hk, hn⟩ := h
  have hnat : nearestNat n.natAbs = n.natAbs := by
    rcases Nat.eq_zero_or_pos n.natAbs with hzero | hpos
    · rw [hzero]
      rfl
    rcases representable_grid (e := e) hk n.natAbs with hdvd | ⟨hlog, hlt⟩
    · exact roundEven_mul_of_dvd (unit_pos _) (hn ▸ hdvd)
    · have := mul_unit_le (Nat.pos_iff_ne_zero.mp hpos) hlog
      omega
  rw [nearest, hnat]
  split <;> omega

/-- Just the integers that are doubles are left as they are. -/
theorem nearest_eq_iff : nearest n = n ↔ Representable n :=
  ⟨fun h => h ▸ representable_nearest n, nearest_of_representable⟩

instance (n : Int) : Decidable (Representable n) := decidable_of_iff _ nearest_eq_iff

/-- No integer that is a double is nearer. -/
theorem nearest_le {r : Int} (h : Representable r) : (nearest n - n).natAbs ≤ (r - n).natAbs := by
  obtain ⟨k, e, hk, hr⟩ := h
  have hnat : apart (nearestNat n.natAbs) n.natAbs ≤ apart r.natAbs n.natAbs := by
    rcases representable_grid (e := e) hk n.natAbs with ⟨q, hq⟩ | ⟨hlog, hlt⟩
    · rw [hr, hq, Nat.mul_comm]
      exact apart_roundEven_le (unit_pos _) q
    · have hne : n.natAbs ≠ 0 := by
        intro hzero
        rw [hzero] at hlog
        exact absurd hlog (by decide)
      have hbelow := mul_unit_le hne hlog
      have hpower := apart_roundEven_le (m := n.natAbs) (unit_pos n.natAbs) (2 ^ 52)
      rw [nearestNat]
      simp only [apart] at hpower ⊢
      omega
  simp only [nearest, apart] at hnat ⊢
  split <;> omega

/-! ### The double made from a whole number -/

theorem exponentFor_whole (hm : m ≠ 0) : exponentFor m 1 = (m.log2 : Int) - 52 := by
  have hone : Nat.log2 1 = 0 := by decide
  have hup : (-((m.log2 : Int) - (0 : Nat) - 53)).toNat = 53 - m.log2 := by omega
  have hdown : ((m.log2 : Int) - (0 : Nat) - 53).toNat = m.log2 - 53 := by omega
  have hpow : 2 ^ 53 ≤ m * 2 ^ (53 - m.log2) / 2 ^ (m.log2 - 53) := by
    rw [Nat.le_div_iff_mul_le (Nat.pow_pos (by decide))]
    calc 2 ^ 53 * 2 ^ (m.log2 - 53) = 2 ^ m.log2 * 2 ^ (53 - m.log2) := by
          rw [← Nat.pow_add, ← Nat.pow_add]; congr 1; omega
      _ ≤ m * 2 ^ (53 - m.log2) := Nat.mul_le_mul_right _ (Nat.log2_self_le hm)
  simp only [exponentFor, scaled, hone, hup, hdown, twoPow_eq, Nat.one_mul,
    if_neg (Nat.not_lt.mpr hpow), leastExponent]
  omega

/-- Below `2 ^ 52` the significand is only shifted. -/
theorem ofRatio_below (negative : Bool) (hm : m ≠ 0) (h : m.log2 < 52) :
    ofRatio negative m 1 = .finite negative (m * 2 ^ (52 - m.log2)) ((m.log2 : Int) - 52) := by
  have hup : (-((m.log2 : Int) - 52)).toNat = 52 - m.log2 := by omega
  have hdown : ((m.log2 : Int) - 52).toNat = 0 := by omega
  have hlt : m * 2 ^ (52 - m.log2) < 2 ^ 53 := by
    calc m * 2 ^ (52 - m.log2) < 2 ^ (m.log2 + 1) * 2 ^ (52 - m.log2) :=
          Nat.mul_lt_mul_of_pos_right Nat.lt_log2_self (Nat.pow_pos (by decide))
      _ = 2 ^ 53 := by rw [← Nat.pow_add]; congr 1; omega
  have hgreatest : ¬greatestExponent < (m.log2 : Int) - 52 := by
    rw [greatestExponent]
    omega
  simp only [ofRatio, hm, if_false, exponentFor_whole hm, scaled, hup, hdown, twoPow_eq,
    Nat.pow_zero, Nat.mul_one, roundEven_one, Nat.ne_of_lt hlt, hgreatest]

/-- From there on it is rounded, and a 54th bit goes into the exponent. -/
theorem ofRatio_above (negative : Bool) (hm : m ≠ 0) (hlow : 52 ≤ m.log2) (hhigh : m.log2 < 64) :
    ofRatio negative m 1 =
      if roundEven m (unit m) = 2 ^ 53 then .finite negative (2 ^ 52) ((m.log2 : Int) - 52 + 1)
      else .finite negative (roundEven m (unit m)) ((m.log2 : Int) - 52) := by
  have hup : (-((m.log2 : Int) - 52)).toNat = 0 := by omega
  have hdown : 1 * 2 ^ ((m.log2 : Int) - 52).toNat = unit m := by
    rw [Nat.one_mul, unit]
    congr 1
    omega
  have hgreatest : ¬greatestExponent < (m.log2 : Int) - 52 := by
    rw [greatestExponent]
    omega
  have hcarried : ¬greatestExponent < (m.log2 : Int) - 52 + 1 := by
    rw [greatestExponent]
    omega
  simp only [ofRatio, hm, if_false, exponentFor_whole hm, scaled, hup, hdown, twoPow_eq,
    Nat.pow_zero, Nat.mul_one]
  split <;> rfl

/-- The significand and the exponent that are made give the nearest whole number. -/
theorem ofRatio_whole (negative : Bool) (h : m < 2 ^ 64) :
    ∃ k e, ofRatio negative m 1 = .finite negative k e ∧
      k * 2 ^ e.toNat / 2 ^ (-e).toNat = nearestNat m := by
  by_cases hm : m = 0
  · subst hm
    exact ⟨0, leastExponent, rfl, by decide +kernel⟩
  rcases Nat.lt_or_ge m.log2 52 with hlow | hlow
  · have hup : (-((m.log2 : Int) - 52)).toNat = 52 - m.log2 := by omega
    have hdown : ((m.log2 : Int) - 52).toNat = 0 := by omega
    refine ⟨_, _, ofRatio_below negative hm hlow, ?_⟩
    have hunit : unit m = 1 := by rw [unit, Nat.sub_eq_zero_of_le (Nat.le_of_lt hlow), Nat.pow_zero]
    rw [hup, hdown, Nat.pow_zero, Nat.mul_one, Nat.mul_div_cancel _ (Nat.pow_pos (by decide)),
      nearestNat, hunit, roundEven_one, Nat.mul_one]
  · rw [ofRatio_above negative hm hlow ((Nat.log2_lt hm).mpr h)]
    split
    · next hcarry =>
      have hup : (-((m.log2 : Int) - 52 + 1)).toNat = 0 := by omega
      have hdown : ((m.log2 : Int) - 52 + 1).toNat = m.log2 - 52 + 1 := by omega
      refine ⟨_, _, rfl, ?_⟩
      rw [hup, hdown, Nat.pow_zero, Nat.div_one, nearestNat, hcarry, unit, ← Nat.pow_add,
        ← Nat.pow_add]
      congr 1
      omega
    · have hup : (-((m.log2 : Int) - 52)).toNat = 0 := by omega
      have hdown : ((m.log2 : Int) - 52).toNat = m.log2 - 52 := by omega
      refine ⟨_, _, rfl, ?_⟩
      rw [hup, hdown, Nat.pow_zero, Nat.div_one]
      rfl

/-- The whole part of `± m`, taken as a double, is the nearest that `± m` has. -/
theorem toInt64_ofRatio (negative : Bool) (h : m < 2 ^ 64) :
    (ofRatio negative m 1).isFinite = true ∧
      (ofRatio negative m 1).toInt64 =
        saturate64 (if negative then -(nearestNat m : Int) else nearestNat m) := by
  obtain ⟨k, e, hfinite, hvalue⟩ := ofRatio_whole negative h
  rw [hfinite]
  refine ⟨rfl, ?_⟩
  simp only [toInt64, twoPow_eq, hvalue]

/-! ### Integers of 64 bits -/

/-- The integer of 64 bits that the nearest double is taken for. -/
def nearest64 (n : Int) : Int := saturate64 (nearest n)

theorem saturate64_eq_self (h : leastInt64 ≤ n ∧ n ≤ greatestInt64) : saturate64 n = n := by
  rw [saturate64]
  omega

/-- An integer of 64 bits stays what it is just when it is a double, or the greatest of them, whose
nearest double is greater by one and is cut. -/
theorem nearest64_eq_iff (h : leastInt64 ≤ n ∧ n ≤ greatestInt64) :
    nearest64 n = n ↔ Representable n ∨ n = greatestInt64 := by
  rw [nearest64]
  constructor
  · intro hsame
    by_cases hlow : n = leastInt64
    · subst hlow
      exact .inl (by decide +kernel)
    by_cases hhigh : n = greatestInt64
    · exact .inr hhigh
    -- between the ends nothing was cut
    · rw [saturate64] at hsame
      exact .inl (nearest_eq_iff.mp (by omega))
  · rintro (hrep | rfl)
    · rw [nearest_of_representable hrep, saturate64_eq_self h]
    · decide +kernel

end Double
end DatasetSearch
