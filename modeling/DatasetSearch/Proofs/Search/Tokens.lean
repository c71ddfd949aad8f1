import DatasetSearch.Proofs.Search.Waiting

/-! The tokens of a run.

The tokens tell which of the waiting searches were overtaken: a search that is not of the store's
generation is cancelled, and the one that is holds the token in flight. So a search finds itself
cancelled exactly when its generation is past (`isCancelled_iff`). -/
namespace DatasetSearch.Search.Run
variable {R : Run} {m n : Nat}

/-- How the tokens tell the waiting searches of the store's own generation from the others. -/
structure Guarded (R : Run) (m : Nat) : Prop where
  cancelled_issued : ∀ k ∈ (R.storeAt m).tokens.cancelled, k.number < (R.storeAt m).tokens.issued
  inFlight_issued : ∀ k, (R.storeAt m).inFlight = some k → k.number < (R.storeAt m).tokens.issued
  /-- The token in flight is not cancelled. -/
  live : ∀ k, (R.storeAt m).inFlight = some k → k ∉ (R.storeAt m).tokens.cancelled
  /-- A search of the store's generation holds the token in flight. -/
  current : ∀ n t, (n, .search t) ∈ R.waitingAt m → t.generation = (R.storeAt m).generation →
    (R.storeAt m).inFlight = some t.token
  /-- The token of any other search is cancelled. -/
  overtaken : ∀ n t, (n, .search t) ∈ R.waitingAt m → t.generation ≠ (R.storeAt m).generation →
    t.token ∈ (R.storeAt m).tokens.cancelled

/-- A search that waits is of no later generation than the store. -/
theorem ticket_generation_le {t : Ticket} (h : (n, .search t) ∈ R.waitingAt m) :
    t.generation ≤ (R.storeAt m).generation := by
  obtain ⟨hn, hb⟩ := (R.named m).begun _ _ h
  obtain ⟨r, _, hg, _⟩ := ticket_of_begun hb
  rw [hg, generation_eq]
  exact R.generationAt_le hn

/-- Two waiting searches of one generation are the same call. -/
theorem ticket_generation_inj {n' : Nat} {t t' : Ticket} (h : (n, .search t) ∈ R.waitingAt m)
    (h' : (n', .search t') ∈ R.waitingAt m) (hg : t.generation = t'.generation) : n = n' := by
  obtain ⟨r, hr, ht, _⟩ := ticket_of_begun ((R.named m).begun _ _ h).2
  obtain ⟨r', hr', ht', _⟩ := ticket_of_begun ((R.named m).begun _ _ h').2
  have hs := generationAt_succ_of_supersedes (supersedes_of_search hr)
  have hs' := generationAt_succ_of_supersedes (supersedes_of_search hr')
  rcases Nat.lt_trichotomy n n' with hlt | heq | hgt
  · have := R.generationAt_le (show n + 1 ≤ n' from hlt)
    omega
  · exact heq
  · have := R.generationAt_le (show n' + 1 ≤ n from hgt)
    omega

/-- Beginning a search or clearing cancels the token in flight, and with it whatever waits. -/
theorem Guarded.cancels (h : R.Guarded m) {t : Ticket} (hm : (n, .search t) ∈ R.waitingAt m) :
    t.token ∈ ((R.storeAt m).tokens.cancelAny (R.storeAt m).inFlight).cancelled := by
  rw [Tokens.cancelAny_cancelled]
  by_cases hg : t.generation = (R.storeAt m).generation
  · rw [h.current n t hm hg]
    exact List.mem_append_left _ (List.mem_singleton_self _)
  · exact List.mem_append_right _ (h.overtaken n t hm hg)

theorem Guarded.cancelAny_issued (h : R.Guarded m) {k : Token}
    (hk : k ∈ ((R.storeAt m).tokens.cancelAny (R.storeAt m).inFlight).cancelled) :
    k.number < (R.storeAt m).tokens.issued := by
  rw [Tokens.cancelAny_cancelled] at hk
  rcases List.mem_append.mp hk with hk | hk
  · exact h.inFlight_issued k (Option.mem_toList.mp hk)
  · exact h.cancelled_issued k hk

theorem Guarded.search (h : R.Guarded m) {r : Request}
    (leaves : R.Leaves m ((R.storeAt m).begin R.base r).1
      (R.waitingAt m ++ [(m, .search ((R.storeAt m).begin R.base r).2)]) []) :
    R.Guarded (m + 1) := by
  obtain ⟨hs, hw, _⟩ := leaves
  have htokens : (R.storeAt (m + 1)).tokens =
      ((R.storeAt m).tokens.cancelAny (R.storeAt m).inFlight).issue := by rw [hs]; rfl
  have hflight : (R.storeAt (m + 1)).inFlight = some ⟨(R.storeAt m).tokens.issued⟩ := by
    rw [hs]
    simp [Store.begin, Tokens.next]
  have hgeneration : (R.storeAt (m + 1)).generation = (R.storeAt m).generation + 1 := by rw [hs]; rfl
  refine ⟨fun k hk => ?_, fun k hk => ?_, fun k hk hc => ?_, fun n t hm hg => ?_, fun n t hm hg => ?_⟩
  · rw [htokens] at hk ⊢
    have := h.cancelAny_issued hk
    simp only [Tokens.issue, Tokens.cancelAny_issued]
    omega
  · rw [hflight] at hk
    rw [htokens, ← Option.some.inj hk]
    simp [Tokens.issue]
  · rw [hflight] at hk
    rw [htokens] at hc
    have := h.cancelAny_issued hc
    rw [← Option.some.inj hk] at this
    exact Nat.lt_irrefl _ this
  · rw [hw] at hm
    rcases List.mem_append.mp hm with hm | hm
    · have := ticket_generation_le hm
      omega
    · simp only [List.mem_singleton, Prod.mk.injEq, Waiting.search.injEq] at hm
      rw [hflight, hm.2]
      simp [Store.begin, Tokens.next]
  · rw [hw] at hm
    rcases List.mem_append.mp hm with hm | hm
    · rw [htokens]
      exact h.cancels hm
    · simp only [List.mem_singleton, Prod.mk.injEq, Waiting.search.injEq] at hm
      rw [hm.2, hgeneration] at hg
      exact absurd rfl hg

theorem Guarded.clear (h : R.Guarded m)
    (leaves : R.Leaves m (R.storeAt m).clear (R.waitingAt m) []) : R.Guarded (m + 1) := by
  obtain ⟨hs, hw, _⟩ := leaves
  refine ⟨fun k hk => ?_, fun k hk => ?_, fun k hk => ?_, fun n t hm hg => ?_, fun n t hm hg => ?_⟩
  · rw [hs] at hk ⊢
    simpa [Store.clear] using h.cancelAny_issued hk
  · simp [hs, Store.clear] at hk
  · simp [hs, Store.clear] at hk
  · rw [hw] at hm
    have hle := ticket_generation_le hm
    have hc : (R.storeAt (m + 1)).generation = (R.storeAt m).generation + 1 := by rw [hs]; rfl
    omega
  · rw [hw] at hm
    rw [hs]
    exact h.cancels hm

/-- Nothing changes when the store keeps its generation and tokens and no search comes to wait. -/
theorem Guarded.kept (h : R.Guarded m)
    (hg : (R.storeAt (m + 1)).generation = (R.storeAt m).generation)
    (ht : (R.storeAt (m + 1)).tokens = (R.storeAt m).tokens)
    (hf : (R.storeAt (m + 1)).inFlight = (R.storeAt m).inFlight)
    (hw : ∀ n t, (n, .search t) ∈ R.waitingAt (m + 1) → (n, .search t) ∈ R.waitingAt m) :
    R.Guarded (m + 1) := by
  refine ⟨?_, ?_, ?_, fun n t hm => ?_, fun n t hm => ?_⟩
  · rw [ht]
    exact h.cancelled_issued
  · rw [ht, hf]
    exact h.inFlight_issued
  · rw [ht, hf]
    exact h.live
  · rw [hg, hf]
    exact h.current n t (hw n t hm)
  · rw [hg, ht]
    exact h.overtaken n t (hw n t hm)

theorem Guarded.of_same_store (h : R.Guarded m) (hs : R.storeAt (m + 1) = R.storeAt m)
    (hw : ∀ n t, (n, .search t) ∈ R.waitingAt (m + 1) → (n, .search t) ∈ R.waitingAt m) :
    R.Guarded (m + 1) :=
  h.kept (by rw [hs]) (by rw [hs]) (by rw [hs]) hw

/-- A call that ends leaves no search waiting that did not wait before. -/
theorem mem_of_without {call : Nat} (hw : R.waitingAt (m + 1) = without (R.waitingAt m) call)
    (n : Nat) (t : Ticket) (hm : (n, .search t) ∈ R.waitingAt (m + 1)) :
    (n, .search t) ∈ R.waitingAt m := by
  rw [hw] at hm
  exact (mem_without.mp hm).1

theorem Guarded.searchEnds (h : R.Guarded m) {t : Ticket} {found : Except Error (List Record)}
    {answers : List (Nat × Answer)} (waits : (R.waitingAt m).lookup n = some (.search t))
    (leaves : R.Leaves m ((R.storeAt m).settle t found).1 (without (R.waitingAt m) n) answers) :
    R.Guarded (m + 1) := by
  obtain ⟨hs, hw, _⟩ := leaves
  have hmem (n' : Nat) (t' : Ticket) (hm : (n', .search t') ∈ R.waitingAt (m + 1)) :
      (n', .search t') ∈ R.waitingAt m ∧ n' ≠ n := by
    rw [hw] at hm
    exact mem_without.mp hm
  by_cases hg : (R.storeAt m).generation = t.generation
  · have hf : (R.storeAt (m + 1)).inFlight = none := by rw [hs]; exact Store.settle_inFlight found hg
    refine ⟨?_, by simp [hf], by simp [hf], fun n' t' hm hg' => ?_, fun n' t' hm => ?_⟩
    · rw [hs, Store.settle_tokens]
      exact h.cancelled_issued
    · -- the one search of this generation is the one that ends
      rw [hs, Store.settle_generation] at hg'
      have := ticket_generation_inj (hmem n' t' hm).1 (R.lookup_iff.mp waits) (by rw [hg', hg])
      exact absurd this (hmem n' t' hm).2
    · rw [hs, Store.settle_generation, Store.settle_tokens]
      exact h.overtaken n' t' (hmem n' t' hm).1
  · have hkept : R.storeAt (m + 1) = R.storeAt m := by rw [hs, Store.settle_of_ne found hg]
    exact h.of_same_store hkept (mem_of_without hw)

theorem guarded (R : Run) (m : Nat) : R.Guarded m := by
  induction m with
  | zero =>
    refine ⟨?_, ?_, ?_, ?_, ?_⟩ <;> simp [storeAt, waitingAt, deskAt, Desk.run]
  | succ m ih =>
    cases R.happens m with
    | search r move leaves => exact ih.search leaves
    | clear move leaves => exact ih.clear leaves
    | searchEnds n t found waits how leaves => exact ih.searchEnds waits leaves
    | begins w begun noSearch _ leaves =>
      refine ih.of_same_store leaves.store fun n t hm => ?_
      rw [leaves.waiting] at hm
      rcases List.mem_append.mp hm with hm | hm
      · exact hm
      · simp only [List.mem_singleton, Prod.mk.injEq] at hm
        exact absurd hm.2.symm (noSearch t)
    | moreEnds n c reply waits move leaves =>
      exact ih.kept (by simp [leaves.store]) (by simp [leaves.store]) (by simp [leaves.store])
        (mem_of_without leaves.waiting)
    | textsEnd n url reply waits move leaves =>
      exact ih.of_same_store leaves.store (mem_of_without leaves.waiting)
    | abandoned n move leaves => exact ih.of_same_store leaves.store (mem_of_without leaves.waiting)
    | nothingMore r move none leaves =>
      refine ih.of_same_store leaves.store fun n t hm => ?_
      rwa [leaves.waiting] at hm
    | nothing _ _ _ leaves =>
      refine ih.of_same_store leaves.store fun n t hm => ?_
      rwa [leaves.waiting] at hm

/-- A waiting search is cancelled exactly when it is not of the store's generation. -/
theorem isCancelled_iff {t : Ticket} (h : (n, .search t) ∈ R.waitingAt m) :
    (R.storeAt m).tokens.isCancelled t.token = true ↔
      (R.storeAt m).generation ≠ t.generation := by
  rw [Tokens.isCancelled_iff]
  constructor
  · intro hc hg
    exact (R.guarded m).live _ ((R.guarded m).current n t h hg.symm) hc
  · exact fun hg => (R.guarded m).overtaken n t h (Ne.symm hg)

end DatasetSearch.Search.Run
