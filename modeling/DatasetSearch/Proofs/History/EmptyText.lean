import DatasetSearch.Proofs.History.Hints
import DatasetSearch.Proofs.History.Recent
import DatasetSearch.Proofs.History.Trace

/-! The empty text among what is remembered.

Remembering leaves the empty text out, but loading stored entries does not: an entry with an empty
key is held until it is erased (`empty_mem_run`). No hint for an input that has letters is empty;
for an empty input, an entry is a hint just when fewer than ten of its kind are newer
(`mem_recent_iff`), and so is the one with the empty key (`empty_remembered_iff`). -/
namespace DatasetSearch.History

/-! ### Places in a sorted list -/

section
variable {α : Type} {r : α → α → Bool} {a : α} {l : List α} {n : Nat}

/-- An item is among the first `n` of a sorted list just when fewer than `n` items precede it. -/
theorem mem_take_iff_countP_lt (asymm : ∀ a b, r a b = true → r b a = false)
    (hsorted : l.Pairwise fun a b => r a b = true) (ha : a ∈ l) :
    a ∈ l.take n ↔ l.countP (r · a) < n := by
  obtain ⟨before, after, rfl⟩ := List.append_of_mem ha
  obtain ⟨-, hrest, hbefore⟩ := List.pairwise_append.mp hsorted
  have hirrefl : r a a = false := by
    cases haa : r a a with
    | false => rfl
    | true => exact haa.symm.trans (asymm a a haa)
  have hnot : a ∉ before := fun hmem => by
    have haa := hbefore a hmem a (List.mem_cons_self ..)
    rw [hirrefl] at haa
    cases haa
  have hcount : (before ++ a :: after).countP (r · a) = before.length := by
    have hall : before.countP (r · a) = before.length :=
      List.countP_eq_length.mpr fun b hb => hbefore b hb a (List.mem_cons_self ..)
    have hnone : after.countP (r · a) = 0 := by
      rw [List.countP_eq_zero]
      intro b hb
      have hab := List.rel_of_pairwise_cons hrest hb
      rw [asymm a b hab]
      exact Bool.false_ne_true
    rw [List.countP_append, List.countP_cons, hall, hnone, hirrefl]
    rfl
  rw [hcount, List.take_append, List.mem_append]
  constructor
  · rintro (hmem | hmem)
    · exact absurd (List.mem_of_mem_take hmem) hnot
    · have hpos : n - before.length ≠ 0 := fun hzero => by
        rw [hzero] at hmem
        cases hmem
      omega
  · intro hlt
    obtain ⟨k, hk⟩ : ∃ k, n - before.length = k + 1 := ⟨n - before.length - 1, by omega⟩
    rw [hk, List.take_succ_cons]
    exact .inr (List.mem_cons_self ..)

end

/-! ### Hints for an empty input -/

instance (h : History) (a b : HistoryEntry) : Decidable (Newer h a b) :=
  inferInstanceAs (Decidable (_ ∨ _))

theorem Newer.asymm {h : History} {a b : HistoryEntry} (hab : Newer h a b) : ¬Newer h b a := by
  have hnodup : h.items.Nodup := List.Nodup.of_map _ h.distinct
  rintro (hdate | ⟨hdate, hba⟩)
  · rcases hab with hlater | ⟨heq, -⟩ <;> omega
  · rcases hab with hlater | ⟨-, hab⟩
    · omega
    · exact not_pair_sublist_of_nodup hnodup hab hba

/-- An entry is a hint for an empty input just when fewer than ten of its kind are newer. -/
theorem mem_recent_iff {h : History} {e : HistoryEntry} (he : e ∈ h.items) :
    e ∈ h.hints "" e.kind ↔
      (h.items.filter (·.kind = e.kind)).countP (fun a => Newer h a e) < 10 := by
  let sorted := (h.ofKind e.kind).mergeSort fun a b => b.date ≤ a.date
  have hperm : sorted.Perm (h.ofKind e.kind) := List.mergeSort_perm ..
  have hmem : e ∈ sorted := hperm.mem_iff.mpr (by simp [ofKind, he])
  have hsorted : sorted.Pairwise fun a b => decide (Newer h a b) = true :=
    (pairwise_newer h e.kind).imp fun hab => decide_eq_true hab
  have hkind : h.ofKind e.kind = h.items.filter (·.kind = e.kind) := by
    refine List.filter_congr fun a _ => ?_
    rw [Bool.eq_iff_iff, beq_iff_eq, decide_eq_true_iff]
  rw [← hkind, ← hperm.countP_eq]
  have hasymm : ∀ a b, decide (Newer h a b) = true → decide (Newer h b a) = false :=
    fun a b hab => decide_eq_false (of_decide_eq_true hab).asymm
  exact mem_take_iff_countP_lt hasymm hsorted hmem

/-! ### The empty text -/

section
variable {h : History} {rs : List StoredEntry} {es : List Edit}

theorem empty_mem_ofStored : "" ∈ (ofStored rs).keys ↔ ∃ r ∈ rs, r.key = "" := by
  rw [ofStored, Keyed.keys_ofList, List.mem_eraseDups, List.map_map, List.mem_map]
  rfl

/-- Only erasing it takes the empty text out, and nothing brings it in. -/
theorem empty_mem_edit (e : Edit) : "" ∈ (h.edit e).keys ↔ "" ∈ h.keys ∧ e ≠ .forget "" := by
  cases e with
  | log key kind date =>
    rw [History.edit, log]
    split
    · simp
    · next hkey =>
      have hne : "" ≠ key := fun heq => hkey (heq ▸ rfl)
      rw [Keyed.keys_put]
      split <;> simp [hne]
  | forget key =>
    show "" ∈ (h.erase key).keys ↔ _
    rw [Keyed.keys_erase, List.mem_filter, bne_iff_ne]
    simp [eq_comm]
  | reload => simp [History.edit, ofStored_toStored]

theorem empty_mem_run : "" ∈ (h.run es).keys ↔ "" ∈ h.keys ∧ .forget "" ∉ es := by
  induction es generalizing h with
  | nil => simp [run]
  | cons e rest ih =>
    rw [run, ih, empty_mem_edit, List.mem_cons, not_or, and_assoc, ne_comm]

/-- No empty text is held just when no stored entry has one or it was erased since. Whatever is held,
no hint for an input that is not empty is empty; for an empty input, an entry is a hint just when it
is held and fewer than ten entries of its kind are newer, and so is one that is empty. -/
theorem empty_remembered_iff (rs : List StoredEntry) (es : List Edit) :
    let h := (ofStored rs).run es
    ((∀ e ∈ h.items, e.key ≠ "") ↔ (∀ r ∈ rs, r.key ≠ "") ∨ .forget "" ∈ es) ∧
    ∀ kind, (∀ text ≠ "", ∀ e ∈ h.hints text kind, e.key ≠ "") ∧
      ∀ e, e ∈ h.hints "" kind ↔ e ∈ h.items ∧ e.kind = kind ∧
        (h.items.filter (·.kind = kind)).countP (fun a => Newer h a e) < 10 := by
  intro h
  refine ⟨?_, fun kind => ⟨fun text htext e he hkey => ?_, fun e => ?_⟩⟩
  · have hkeys : (∀ e ∈ h.items, e.key ≠ "") ↔ "" ∉ h.keys := by simp [Keyed.keys]
    rw [hkeys, empty_mem_run, empty_mem_ofStored, not_and_or, not_not]
    simp
  · obtain ⟨-, -, hlength, -⟩ := (mem_hints_iff htext).mp he
    rw [hkey] at hlength
    exact Nat.not_lt_zero _ hlength
  · constructor
    · intro he
      obtain ⟨-, -, hall, -⟩ := recent_are_newest h kind
      obtain ⟨hmem, rfl⟩ := hall e he
      exact ⟨hmem, rfl, (mem_recent_iff hmem).mp he⟩
    · rintro ⟨hmem, rfl, hfew⟩
      exact (mem_recent_iff hmem).mpr hfew

/-- A stored entry with an empty key is loaded, and suggested. -/
theorem empty_text_is_loaded :
    let h := (ofStored [⟨"", 1, some "term"⟩]).run [.log "" .term 2, .reload]
    h.items = [⟨"", 1, .term⟩] ∧ h.hints "" .term = [⟨"", 1, .term⟩] := by
  decide +kernel

end
end DatasetSearch.History
