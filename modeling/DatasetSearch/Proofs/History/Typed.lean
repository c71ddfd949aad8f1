import DatasetSearch.Proofs.History.Hints
import DatasetSearch.Proofs.Text.DottedCapital

/-! What was typed among its own hints.

An entry that is the input but for upper and lower case is left out because it is not longer than
the input. But it can be longer, where the input has a dotted capital I and the entry spells it with
a small one. Such an entry is a hint just when it has fewer dotted capitals than the input, so what
was typed is never a hint just when it has none (`typed_is_no_hint_iff`). -/
namespace DatasetSearch.History
open Text

/-- An entry that is the input in lower case is a hint just when it has fewer dotted capitals. -/
theorem mem_hints_iff_of_lower_eq {h : History} {text : String} (htext : text ≠ "")
    {kind : HistoryKind} {e : HistoryEntry} (hlower : lower e.key = lower text) :
    e ∈ h.hints text kind ↔
      e ∈ h.items ∧ e.kind = kind ∧ e.key.toList.count 'İ' < text.toList.count 'İ' := by
  have hchars : lowerFrom [] e.key.toList = lowerFrom [] text.toList := String.ofList_inj.mp hlower
  have hcontained : lowerFrom [] text.toList <:+: lowerFrom [] e.key.toList :=
    hchars ▸ List.infix_refl _
  rw [mem_hints_iff htext, length_lt_iff_of_lower_eq hlower.symm]
  simp only [hcontained, and_true]

/-- No hint for an input that is not empty is the input but for upper and lower case, whatever is
remembered, just when the input has no capital I with a dot above. Where it has some, an entry that
is the input but for the case is a hint just when it has fewer of them. -/
theorem typed_is_no_hint_iff {text : String} (htext : text ≠ "") :
    ((∀ (h : History) (kind : HistoryKind), ∀ e ∈ h.hints text kind, lower e.key ≠ lower text) ↔
      'İ' ∉ text.toList) ∧
    ∀ (h : History) (kind : HistoryKind), ∀ e ∈ h.items, e.kind = kind →
      lower e.key = lower text →
      (e ∈ h.hints text kind ↔ e.key.toList.count 'İ' < text.toList.count 'İ') := by
  refine ⟨⟨?_, ?_⟩, ?_⟩
  · intro hall hdotted
    -- the input with its dotted capitals spelled with small ones may be all that is remembered
    let e : HistoryEntry := ⟨String.ofList (spelled text.toList), 0, .term⟩
    have hmem : e ∈ (Keyed.empty.put e : History).items := List.mem_cons_self ..
    have hlower : lower e.key = lower text := lower_spelled text
    have hnone : e.key.toList.count 'İ' = 0 := by
      show (String.ofList (spelled text.toList)).toList.count 'İ' = 0
      rw [String.toList_ofList]
      exact List.count_eq_zero.mpr (not_mem_spelled _)
    have hfewer : e.key.toList.count 'İ' < text.toList.count 'İ' := by
      rw [hnone]
      exact List.count_pos_iff.mpr hdotted
    exact hall _ .term e ((mem_hints_iff_of_lower_eq htext hlower).mpr ⟨hmem, rfl, hfewer⟩) hlower
  · intro hdotted h kind e he hlower
    obtain ⟨-, -, hfewer⟩ := (mem_hints_iff_of_lower_eq htext hlower).mp he
    rw [List.count_eq_zero.mpr hdotted] at hfewer
    exact Nat.not_lt_zero _ hfewer
  · intro h kind e he hkind hlower
    rw [mem_hints_iff_of_lower_eq htext hlower]
    simp only [he, hkind, true_and]

/-- A text that was remembered in another case is left out, and a longer one is not. -/
theorem typed_in_capitals_is_no_hint :
    let e : HistoryEntry := ⟨"rain", 2, .term⟩
    let longer : HistoryEntry := ⟨"Rainfall", 3, .term⟩
    let h : History := .ofList [longer, e]
    "RAIN" ≠ "" ∧ e ∈ h.items ∧ lower e.key = lower "RAIN" ∧ longer ∈ h.hints "RAIN" .term ∧
      e ∉ h.hints "RAIN" .term := by
  intro e longer h
  have hmem : e ∈ h.items := by decide
  have hlower : lower e.key = lower "RAIN" := by decide +kernel
  have hlonger : longer ∈ h.hints "RAIN" .term := by decide +kernel
  have htext : "RAIN" ≠ "" := by decide
  have hiff := (typed_is_no_hint_iff htext).2 h .term e hmem rfl hlower
  exact ⟨htext, hmem, hlower, hlonger, fun hhint => absurd (hiff.mp hhint) (by decide)⟩

/-- A name typed with a dotted capital has itself as a hint when it was remembered with a small
one. -/
theorem dotted_capital_is_hinted :
    let e : HistoryEntry := ⟨"i\u0307zmir", 1, .term⟩
    let h := History.log .empty e.key e.kind e.date
    "İzmir" ≠ "" ∧ h.hints "İzmir" .term = [e] ∧ lower e.key = lower "İzmir" := by
  decide +kernel

end DatasetSearch.History
