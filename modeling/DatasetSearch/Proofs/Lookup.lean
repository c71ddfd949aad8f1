/-! Looking a key up in a list of entries. -/
namespace DatasetSearch
variable {α β : Type} [DecidableEq α] {l : List (α × β)} {k key : α} {v : β}

theorem lookup_cons_eq (l : List (α × β)) :
    ((key, v) :: l).lookup k = if k = key then some v else l.lookup k := by
  by_cases h : k = key
  · simp [h]
  · rw [List.lookup_cons, beq_false_of_ne h, if_neg h]

theorem lookup_eq_none_of_not_mem (h : k ∉ l.map Prod.fst) : l.lookup k = none := by
  rw [List.lookup_eq_none_iff]
  intro p hp
  simpa using fun heq : k = p.1 => h (List.mem_map.mpr ⟨p, hp, heq.symm⟩)

/-- Where all keys are different, what is found for a key is what is there. -/
theorem lookup_eq_some_iff_mem (h : (l.map Prod.fst).Nodup) : l.lookup k = some v ↔ (k, v) ∈ l := by
  induction l with
  | nil => simp
  | cons p rest ih =>
    obtain ⟨k', v'⟩ := p
    obtain ⟨hp, hr⟩ := List.nodup_cons.mp h
    rw [lookup_cons_eq, List.mem_cons]
    by_cases hk : k = k'
    · subst hk
      have hn : (k, v) ∉ rest := fun hm => hp (List.mem_map.mpr ⟨(k, v), hm, rfl⟩)
      simp [hn, eq_comm]
    · simp [ih hr, hk]

/-! ### Without one key -/

section
variable {α : Type} [BEq α] [LawfulBEq α] {k key : α}

theorem lookup_filter_self (l : List (α × β)) : (l.filter (·.1 != key)).lookup key = none := by
  rw [List.lookup_eq_none_iff]
  intro p hp
  rw [bne_comm]
  exact (List.mem_filter.mp hp).2

theorem lookup_filter_of_ne (h : k ≠ key) (l : List (α × β)) :
    (l.filter (·.1 != key)).lookup k = l.lookup k := by
  induction l with
  | nil => rfl
  | cons p rest ih =>
    obtain ⟨k', v⟩ := p
    by_cases hk : k' = key
    · rw [List.filter_cons_of_neg (by simp [hk]), List.lookup_cons, ih, hk, beq_false_of_ne h]
    · rw [List.filter_cons_of_pos (by simp [hk]), List.lookup_cons, List.lookup_cons, ih]

end

/-! ### First and last -/

section
variable {α β : Type}

/-- Leaving candidates out does not change which is first just when each that is left out has one
of the others before it. -/
theorem find?_or_eq_iff {p q : α → Bool} {l : List α} (hnodup : l.Nodup)
    (hapart : ∀ a, p a = true → q a = false) :
    l.find? (fun a => p a || q a) = l.find? p ↔
      ∀ a ∈ l, q a = true → ∃ b, p b = true ∧ [b, a].Sublist l := by
  induction l with
  | nil => simp
  | cons x rest ih =>
    obtain ⟨hx, hrest⟩ := List.nodup_cons.mp hnodup
    cases hp : p x with
    | true =>
      have hq := hapart x hp
      refine iff_of_true (by simp [hp]) fun a ha hqa => ⟨x, hp, ?_⟩
      rcases List.mem_cons.mp ha with rfl | ha
      · rw [hq] at hqa; cases hqa
      · exact (List.singleton_sublist.mpr ha).cons_cons x
    | false =>
      cases hq : q x with
      | true =>
        refine iff_of_false (fun heq => ?_) fun hall => ?_
        · rw [List.find?_cons_of_pos (by simp [hq])] at heq
          simpa [hp] using List.find?_some heq.symm
        · obtain ⟨b, hb, hsub⟩ := hall x (List.mem_cons_self ..) hq
          cases hsub with
          | cons _ hsub => exact hx (hsub.subset (by simp))
          | cons_cons _ hsub => rw [hp] at hb; cases hb
      | false =>
        rw [List.find?_cons_of_neg (by simp [hp, hq]), List.find?_cons_of_neg (by simp [hp]), ih hrest]
        constructor
        · intro hall a ha hqa
          rcases List.mem_cons.mp ha with rfl | ha
          · rw [hq] at hqa; cases hqa
          · obtain ⟨b, hb, hsub⟩ := hall a ha hqa
            exact ⟨b, hb, hsub.cons x⟩
        · intro hall a ha hqa
          obtain ⟨b, hb, hsub⟩ := hall a (List.mem_cons_of_mem x ha) hqa
          cases hsub with
          | cons _ hsub => exact ⟨b, hb, hsub⟩
          | cons_cons _ hsub => rw [hp] at hb; cases hb

/-- Where the second halves stand in an order, the first pair with a first half is the one whose
second half comes first. -/
theorem find?_fst_eq [DecidableEq α] [DecidableEq β] {l : List (α × β)} {order : List β}
    (hnodup : order.Nodup) (h : (l.map Prod.snd).Sublist order) (a : α) :
    l.find? (·.1 == a) = (order.find? fun b => (a, b) ∈ l).map (a, ·) := by
  induction order generalizing l with
  | nil =>
    rw [List.map_eq_nil_iff.mp (List.sublist_nil.mp h)]
    rfl
  | cons b rest ih =>
    obtain ⟨hb, hrest⟩ := List.nodup_cons.mp hnodup
    generalize hseconds : l.map Prod.snd = seconds at h
    cases h with
    | cons _ h =>
      subst hseconds
      have hnot : (a, b) ∉ l := fun hmem => hb (h.subset (List.mem_map_of_mem hmem))
      rw [List.find?_cons_of_neg (by simpa using hnot)]
      exact ih hrest h
    | cons_cons _ h =>
      obtain ⟨⟨a', b'⟩, others, rfl, rfl, rfl⟩ := List.map_eq_cons_iff.mp hseconds
      by_cases ha : a' = a
      · subst ha
        simp
      · -- the first pair has another first half, and its second half does not come again
        have hhead : (a, b') ∉ (a', b') :: others := by
          rintro (_ | ⟨_, hmem⟩)
          · exact ha rfl
          · exact hb (h.subset (List.mem_map.mpr ⟨(a, b'), hmem, rfl⟩))
        rw [List.find?_cons_of_neg (by simpa using ha), List.find?_cons_of_neg (by simpa using hhead),
          ih hrest h]
        simp [Ne.symm ha]

theorem getLast?_filter (p : α → Bool) (l : List α) :
    (l.filter p).getLast? = l.reverse.find? p := by
  rw [List.getLast?_eq_head?_reverse, ← List.filter_reverse, List.head?_filter]

end
end DatasetSearch
