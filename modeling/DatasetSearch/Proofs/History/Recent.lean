import DatasetSearch.Proofs.Lookup
import DatasetSearch.History
import Mathlib.Data.List.Nodup

/-! Hints for an empty input.

They are the ten newest entries of a kind, where of two entries with one date the one that stands
first in the history counts as newer (`Newer`). Sorting keeps entries with one date in their order
(`pairwise_mergeSort_stable`), so the sorted entries stand from the newest to the oldest
(`pairwise_newer`), and those beyond the tenth are older than all that are hints
(`recent_are_newest`). -/
namespace DatasetSearch

/-! ### Stability -/

section
variable {α : Type} {a b : α} {l : List α}

theorem pair_sublist_or (ha : a ∈ l) (hb : b ∈ l) (hne : a ≠ b) :
    [a, b].Sublist l ∨ [b, a].Sublist l := by
  obtain ⟨before, after, rfl⟩ := List.append_of_mem ha
  rcases List.mem_append.mp hb with hbefore | hafter
  · right
    have hb : [b].Sublist before := List.singleton_sublist.mpr hbefore
    have ha : [a].Sublist (a :: after) := List.singleton_sublist.mpr (List.mem_cons_self ..)
    exact hb.append ha
  · left
    have hmem : b ∈ after := (List.mem_cons.mp hafter).resolve_left (Ne.symm hne)
    exact ((List.singleton_sublist.mpr hmem).cons_cons a).trans (List.sublist_append_right ..)

/-- Two items of a list without repetitions stand in one order only. -/
theorem not_pair_sublist_of_nodup (hnodup : l.Nodup) (hab : [a, b].Sublist l) :
    ¬[b, a].Sublist l := by
  intro hba
  induction l with
  | nil => cases hab
  | cons x rest ih =>
    obtain ⟨hx, hrest⟩ := List.nodup_cons.mp hnodup
    cases hab with
    | cons _ hab =>
      cases hba with
      | cons _ hba => exact ih hrest hab hba
      | cons_cons _ _ => exact hx (hab.subset (by simp))
    | cons_cons _ hb =>
      cases hba with
      | cons _ hba => exact hx (hba.subset (by simp))
      | cons_cons _ ha => exact hx (ha.subset (by simp))

/-- A list without repetitions is sorted with its ties in the order in which they stood. -/
theorem pairwise_mergeSort_stable {le : α → α → Bool}
    (trans : ∀ a b c, le a b = true → le b c = true → le a c = true)
    (total : ∀ a b, (le a b || le b a) = true) (hnodup : l.Nodup) :
    (l.mergeSort le).Pairwise fun a b => le a b = true ∧ (le b a = true → [a, b].Sublist l) := by
  have hsorted := List.pairwise_mergeSort trans total l
  have hnodup' : (l.mergeSort le).Nodup := (List.mergeSort_perm l le).nodup_iff.mpr hnodup
  rw [List.pairwise_iff_forall_sublist] at hsorted ⊢
  intro a b hab
  refine ⟨hsorted hab, fun hle => ?_⟩
  have ha : a ∈ l := List.mem_mergeSort.mp (hab.subset (by simp))
  have hb : b ∈ l := List.mem_mergeSort.mp (hab.subset (by simp))
  have hne : a ≠ b := by
    have hpair := List.nodup_cons.mp (hnodup'.sublist hab)
    simpa using hpair.1
  rcases pair_sublist_or ha hb hne with hstood | hstood
  · exact hstood
  · -- otherwise the tie would come out in the other order
    have hba := List.pair_sublist_mergeSort trans total hle hstood
    exact absurd hba (not_pair_sublist_of_nodup hnodup' hab)

end

namespace History

/-- An entry has a later date than another, or has its date and stands before it. -/
def Newer (h : History) (a b : HistoryEntry) : Prop :=
  b.date < a.date ∨ a.date = b.date ∧ [a, b].Sublist h.items

theorem nodup_ofKind (h : History) (kind : HistoryKind) : (h.ofKind kind).Nodup :=
  (List.Nodup.of_map _ h.distinct).filter _

/-- The entries of a kind, sorted by their dates, stand from the newest to the oldest. -/
theorem pairwise_newer (h : History) (kind : HistoryKind) :
    ((h.ofKind kind).mergeSort fun a b => b.date ≤ a.date).Pairwise (Newer h) := by
  have trans (a b c : HistoryEntry) (hab : decide (b.date ≤ a.date) = true)
      (hbc : decide (c.date ≤ b.date) = true) : decide (c.date ≤ a.date) = true := by
    simp only [decide_eq_true_eq] at hab hbc ⊢
    omega
  have total (a b : HistoryEntry) :
      (decide (b.date ≤ a.date) || decide (a.date ≤ b.date)) = true := by
    simp only [Bool.or_eq_true, decide_eq_true_eq]
    omega
  apply (pairwise_mergeSort_stable trans total (nodup_ofKind h kind)).imp
  intro a b ⟨hle, htie⟩
  simp only [decide_eq_true_eq] at hle htie
  show b.date < a.date ∨ _
  by_cases hdate : a.date = b.date
  · exact .inr ⟨hdate, (htie (by omega)).trans List.filter_sublist⟩
  · exact .inl (by omega)

/-- The hints for an empty input are ten entries of the kind, or all when there are fewer, each once
and the newest first; every entry of the kind that is left out is older than each of them. -/
theorem recent_are_newest (h : History) (kind : HistoryKind) :
    let recent := h.hints "" kind
    recent.length = min 10 (h.items.countP (·.kind = kind)) ∧
      recent.Nodup ∧ (∀ e ∈ recent, e ∈ h.items ∧ e.kind = kind) ∧
      recent.Pairwise (Newer h) ∧
      ∀ e ∈ h.items, e.kind = kind → e ∉ recent → ∀ a ∈ recent, Newer h a e := by
  intro recent
  let sorted := (h.ofKind kind).mergeSort fun a b => b.date ≤ a.date
  have hperm : sorted.Perm (h.ofKind kind) := List.mergeSort_perm ..
  have hnewer : (recent ++ sorted.drop 10).Pairwise (Newer h) := by
    show (sorted.take 10 ++ sorted.drop 10).Pairwise (Newer h)
    rw [List.take_append_drop]
    exact pairwise_newer h kind
  obtain ⟨hrecent, -, hrest⟩ := List.pairwise_append.mp hnewer
  have hsub : recent.Sublist sorted := List.take_sublist ..
  refine ⟨?_, ?_, ?_, hrecent, ?_⟩
  · show (sorted.take 10).length = _
    rw [List.length_take, hperm.length_eq, List.countP_eq_length_filter]
    rfl
  · exact hsub.nodup (hperm.nodup_iff.mpr (nodup_ofKind h kind))
  · intro e he
    have hmem := hperm.mem_iff.mp (hsub.subset he)
    simpa [ofKind] using hmem
  · intro e he hkind hout a ha
    have hmem : e ∈ recent ++ sorted.drop 10 := by
      show e ∈ sorted.take 10 ++ sorted.drop 10
      rw [List.take_append_drop]
      exact hperm.mem_iff.mpr (by simp [ofKind, he, hkind])
    exact hrest a ha e ((List.mem_append.mp hmem).resolve_left hout)

end History
end DatasetSearch
