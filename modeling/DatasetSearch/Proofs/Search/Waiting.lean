import DatasetSearch.Proofs.Lookup
import DatasetSearch.Proofs.Search.Generations

/-! The waiting calls of a run.

The calls that wait before a move are exactly those that were begun and have neither been answered
nor abandoned (`mem_waitingAt_iff`), each as it was begun. A search waits with the generation that
it started, a call for more records with the one it was begun in. -/
namespace DatasetSearch.Search.Run
variable {R : Run} {m n : Nat}

theorem ticket_of_begun {t : Ticket} (h : R.begun n = some (.search t)) :
    ∃ r, R.moves[n]? = some (.search r) ∧ t.generation = R.generationAt (n + 1) ∧
      t.url = searchUrl R.base r ∧ t.pageSize = r.pageSize := by
  cases hm : R.moves[n]? with
  | none => simp [begun, hm] at h
  | some mv =>
    cases mv with
    | search r =>
      simp only [begun, hm, Option.some.injEq, Waiting.search.injEq] at h
      subst h
      refine ⟨r, rfl, ?_, rfl, rfl⟩
      rw [generationAt_succ_of_supersedes (supersedes_of_search hm), ← generation_eq]
      rfl
    | _ => simp [begun, hm] at h

theorem continuation_of_begun {c : Continuation} (h : R.begun n = some (.more c)) :
    ∃ r, R.moves[n]? = some (.fetchMore r) ∧ c.generation = R.generationAt n ∧
      (R.storeAt n).results.lastToken? = some c.cursor ∧
      c.url = searchUrl R.base { r with token := some c.cursor } ∧ c.pageSize = r.pageSize := by
  cases hm : R.moves[n]? with
  | none => simp [begun, hm] at h
  | some mv =>
    cases mv with
    | fetchMore r =>
      simp only [begun, hm, Store.beginMore, Option.map_map, Option.map_eq_some_iff] at h
      obtain ⟨cursor, hcursor, hc⟩ := h
      simp only [Function.comp, Waiting.more.injEq] at hc
      subst hc
      exact ⟨r, rfl, generation_eq R n, hcursor, rfl, rfl⟩
    | _ => simp [begun, hm] at h

/-- The waiting calls by name: no name twice, and each call as it was begun. -/
structure Named (R : Run) (m : Nat) : Prop where
  distinct : ((R.waitingAt m).map Prod.fst).Nodup
  begun : ∀ n w, (n, w) ∈ R.waitingAt m → n < m ∧ R.begun n = some w

theorem Named.append (h : R.Named m) {w : Waiting} (hb : R.begun m = some w)
    (hw : R.waitingAt (m + 1) = R.waitingAt m ++ [(m, w)]) : R.Named (m + 1) := by
  refine ⟨?_, fun n w' hp => ?_⟩
  · rw [hw]
    refine nodup_names_append w h.distinct fun a ha => ?_
    obtain ⟨p, hp, rfl⟩ := List.mem_map.mp ha
    exact (h.begun p.1 p.2 hp).1
  · rw [hw] at hp
    rcases List.mem_append.mp hp with hp | hp
    · exact ⟨Nat.lt_succ_of_lt (h.begun n w' hp).1, (h.begun n w' hp).2⟩
    · obtain ⟨rfl, rfl⟩ := Prod.mk.inj (List.mem_singleton.mp hp)
      exact ⟨Nat.lt_succ_self n, hb⟩

theorem Named.sublist (h : R.Named m) (hw : (R.waitingAt (m + 1)).Sublist (R.waitingAt m)) :
    R.Named (m + 1) :=
  ⟨(hw.map _).nodup h.distinct, fun n w hp =>
    ⟨Nat.lt_succ_of_lt (h.begun n w (hw.subset hp)).1, (h.begun n w (hw.subset hp)).2⟩⟩

theorem named (R : Run) (m : Nat) : R.Named m := by
  induction m with
  | zero => exact ⟨by simp [waitingAt, deskAt, Desk.run], by simp [waitingAt, deskAt, Desk.run]⟩
  | succ m ih =>
    cases R.happens m with
    | search r move leaves => exact ih.append (by simp only [Run.begun, move]) leaves.waiting
    | begins w begun _ _ leaves => exact ih.append begun leaves.waiting
    | clear _ leaves => exact ih.sublist (leaves.waiting ▸ List.Sublist.refl _)
    | nothingMore _ _ _ leaves => exact ih.sublist (leaves.waiting ▸ List.Sublist.refl _)
    | nothing _ _ _ leaves => exact ih.sublist (leaves.waiting ▸ List.Sublist.refl _)
    | searchEnds n _ _ _ _ leaves => exact ih.sublist (leaves.waiting ▸ List.filter_sublist)
    | moreEnds n _ _ _ _ leaves => exact ih.sublist (leaves.waiting ▸ List.filter_sublist)
    | textsEnd n _ _ _ _ leaves => exact ih.sublist (leaves.waiting ▸ List.filter_sublist)
    | abandoned n _ leaves => exact ih.sublist (leaves.waiting ▸ List.filter_sublist)

theorem lookup_iff (R : Run) {w : Waiting} :
    (R.waitingAt m).lookup n = some w ↔ (n, w) ∈ R.waitingAt m :=
  lookup_eq_some_iff_mem (R.named m).distinct

theorem begun_of_lookup {w : Waiting} (h : (R.waitingAt m).lookup n = some w) :
    n < m ∧ R.begun n = some w :=
  (R.named m).begun n w (R.lookup_iff.mp h)

theorem waits_succ (R : Run) :
    R.Waits n (m + 1) ↔ (R.Waits n m ∨ n = m) ∧
      (∀ a, (n, a) ∉ R.answersAt m) ∧ R.moves[m]? ≠ some (.abandon n) := since_succ

/-- One move adds the call that it begins and removes those that it answers or abandons. -/
theorem mem_waitingAt_succ (R : Run) {w : Waiting} :
    (n, w) ∈ R.waitingAt (m + 1) ↔
      ((n, w) ∈ R.waitingAt m ∨ n = m ∧ R.begun m = some w) ∧
        (∀ a, (n, a) ∉ R.answersAt m) ∧ R.moves[m]? ≠ some (.abandon n) := by
  cases R.happens m with
  | search r move leaves => simp [leaves.waiting, leaves.answers, move, begun, eq_comm]
  | begins w' hb _ _ leaves =>
    have hmove : R.moves[m]? ≠ some (.abandon n) := fun h => by simp [begun, h] at hb
    simp [leaves.waiting, leaves.answers, hb, hmove, eq_comm]
  | nothingMore r move none leaves =>
    have hb : R.begun m = Option.none := by simp [begun, move, none]
    have hn (h : (n, w) ∈ R.waitingAt m) : n ≠ m := Nat.ne_of_lt ((R.named m).begun n w h).1
    simp only [leaves.waiting, leaves.answers, move, hb, List.mem_singleton, Prod.mk.injEq]
    grind
  | clear move leaves => simp [leaves.waiting, leaves.answers, move, begun]
  | searchEnds n' t found waits how leaves =>
    have hmove : R.moves[m]? ≠ some (.abandon n) := by cases how <;> simp_all
    simp [leaves.waiting, leaves.answers, mem_without, how.not_begun, hmove]
  | moreEnds n' c reply waits move leaves =>
    simp [leaves.waiting, leaves.answers, mem_without, move, begun]
  | textsEnd n' url reply waits move leaves =>
    simp [leaves.waiting, leaves.answers, mem_without, move, begun]
  | abandoned n' move leaves =>
    simp [leaves.waiting, leaves.answers, mem_without, move, begun, eq_comm]
  | nothing _ stays hb leaves => simp [leaves.waiting, leaves.answers, hb, stays]

theorem mem_waitingAt_iff (R : Run) {w : Waiting} :
    (n, w) ∈ R.waitingAt m ↔ R.begun n = some w ∧ R.Waits n m := by
  induction m with
  | zero => simp [waitingAt, deskAt, Desk.run, Waits]
  | succ m ih =>
    rw [mem_waitingAt_succ, ih, waits_succ]
    constructor
    · rintro ⟨⟨hb, hw⟩ | ⟨rfl, hb⟩, hk⟩
      · exact ⟨hb, .inl hw, hk⟩
      · exact ⟨hb, .inr rfl, hk⟩
    · rintro ⟨hb, hw | rfl, hk⟩
      · exact ⟨.inl ⟨hb, hw⟩, hk⟩
      · exact ⟨.inr ⟨rfl, hb⟩, hk⟩

theorem waits_of_lookup {w : Waiting} (h : (R.waitingAt m).lookup n = some w) : R.Waits n m :=
  (R.mem_waitingAt_iff.mp (R.lookup_iff.mp h)).2

end DatasetSearch.Search.Run
