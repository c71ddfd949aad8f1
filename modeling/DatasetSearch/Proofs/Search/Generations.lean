import DatasetSearch.Proofs.Search.Endings
import DatasetSearch.Proofs.Search.Moves

/-! The generations of a run.

The generation of the store counts the searches and clearings begun so far (`generation_eq`), so
two places of a run are of one generation exactly when none begins between them. -/
namespace DatasetSearch.Search.Run
variable {R : Run} {m n : Nat}

/-! ### Counting generations -/

theorem generationAt_succ_of_supersedes (h : R.Supersedes m) :
    R.generationAt (m + 1) = R.generationAt m + 1 := by
  cases hm : R.moves[m]? with
  | none => simp [Supersedes, hm] at h
  | some mv =>
    have hmv : mv.supersedes = true := (supersedes_iff hm).mp h
    rw [generationAt, List.take_add_one, hm, List.countP_append]
    simp [generationAt, hmv]

theorem generationAt_succ_of_not (h : ¬R.Supersedes m) :
    R.generationAt (m + 1) = R.generationAt m := by
  cases hm : R.moves[m]? with
  | none => rw [generationAt, List.take_add_one, hm, Option.toList_none, List.append_nil, generationAt]
  | some mv =>
    have hmv : mv.supersedes = false := by
      rw [Bool.eq_false_iff]
      exact fun ht => h ((supersedes_iff hm).mpr ht)
    rw [generationAt, List.take_add_one, hm, List.countP_append]
    simp [generationAt, hmv]

theorem generationAt_le (R : Run) {a b : Nat} (h : a ≤ b) : R.generationAt a ≤ R.generationAt b := by
  induction h with
  | refl => exact Nat.le_refl _
  | @step b _ ih =>
    by_cases hs : R.Supersedes b
    · rw [generationAt_succ_of_supersedes hs]
      omega
    · rw [generationAt_succ_of_not hs]
      exact ih

/-- The count moves exactly where a search or a clearing begins. -/
theorem generationAt_ne_iff (R : Run) {a b : Nat} (h : a ≤ b) :
    R.generationAt b ≠ R.generationAt a ↔ ∃ k, a ≤ k ∧ k < b ∧ R.Supersedes k := by
  constructor
  · induction h with
    | refl => exact fun hne => absurd rfl hne
    | @step b hab ih =>
      intro hne
      by_cases hs : R.Supersedes b
      · exact ⟨b, hab, Nat.lt_succ_self b, hs⟩
      · rw [generationAt_succ_of_not hs] at hne
        obtain ⟨k, hak, hkb, hk⟩ := ih hne
        exact ⟨k, hak, Nat.lt_succ_of_lt hkb, hk⟩
  · rintro ⟨k, hak, hkb, hs⟩
    have h1 := R.generationAt_le hak
    have h2 := generationAt_succ_of_supersedes hs
    have h3 := R.generationAt_le (show k + 1 ≤ b from hkb)
    omega

theorem generation_eq (R : Run) (m : Nat) : (R.storeAt m).generation = R.generationAt m := by
  induction m with
  | zero => rfl
  | succ m ih =>
    have kept (h : ¬R.Supersedes m) (hs : (R.storeAt (m + 1)).generation = (R.storeAt m).generation) :
        (R.storeAt (m + 1)).generation = R.generationAt (m + 1) := by
      rw [generationAt_succ_of_not h, hs, ih]
    cases R.happens m with
    | search r move leaves =>
      rw [leaves.store, generationAt_succ_of_supersedes (supersedes_of_search move), ← ih]
      rfl
    | clear move leaves =>
      rw [leaves.store, generationAt_succ_of_supersedes (supersedes_of_clear move), ← ih]
      rfl
    | begins w begun noSearch quiet leaves => exact kept quiet (by rw [leaves.store])
    | nothingMore r move none leaves =>
      exact kept (by simp [supersedes_iff move, Move.supersedes]) (by rw [leaves.store])
    | searchEnds n t found waits how leaves => exact kept how.not_supersedes (by simp [leaves.store])
    | moreEnds n c reply waits move leaves =>
      exact kept (by simp [supersedes_iff move, Move.supersedes]) (by simp [leaves.store])
    | textsEnd n url reply waits move leaves =>
      exact kept (by simp [supersedes_iff move, Move.supersedes]) (by rw [leaves.store])
    | abandoned n move leaves =>
      exact kept (by simp [supersedes_iff move, Move.supersedes]) (by rw [leaves.store])
    | nothing quiet _ _ leaves => exact kept quiet (by rw [leaves.store])

end DatasetSearch.Search.Run
