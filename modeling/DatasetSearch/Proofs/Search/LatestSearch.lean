import DatasetSearch.Proofs.Search.Held

/-! The latest search wins.

However calls and replies interleave, a search ends as superseded exactly when another search or a
clearing began while it waited, and then it leaves no trace; any other search ends with its own
reply. So once a search has succeeded, nothing that was asked for before it is shown. -/
namespace DatasetSearch.Search.Run
variable {R : Run} {m n : Nat} {r : Request}

/-- What a search that was not overtaken makes of its reply. -/
def outcomeOf (R : Run) (r : Request) (reply : Http.Reply) : Except Error Outcome :=
  (recordsIn (searchUrl R.base r) reply).map fun records => .ofPage records.length r.pageSize

theorem outcomeOf_ne_superseded (reply : Http.Reply) : R.outcomeOf r reply ≠ .error .superseded := by
  have := recordsIn_ne_superseded (searchUrl R.base r) reply
  cases h : recordsIn (searchUrl R.base r) reply <;> simp_all [outcomeOf, Except.map]

/-! ### Answers to a search -/

/-- A waiting search ends with the move that brings its reply or lets it notice that it was
overtaken. -/
theorem search_answered (hb : R.moves[n]? = some (.search r)) (hw : R.Waits n m) :
    (∀ reply, R.moves[m]? = some (.reply n reply) → ∃ result, R.Answers n m result) ∧
      (R.moves[m]? = some (.notice n) → R.Overtaken n m → ∃ result, R.Answers n m result) := by
  have hmem : (n, .search ((R.storeAt n).begin R.base r).2) ∈ R.waitingAt m :=
    R.mem_waitingAt_iff.mpr ⟨by simp only [begun, hb], hw⟩
  have hlookup := R.lookup_iff.mpr hmem
  refine ⟨fun reply hm => ⟨_, answers_of_leaves (leaves_search_reply hm hlookup)⟩, fun hm ho => ?_⟩
  have hc := (isCancelled_iff hmem).mpr ((generation_ne_iff hlookup).mpr ho)
  exact ⟨_, answers_of_leaves (leaves_cancelled hm hlookup hc)⟩

/-- An overtaken search is superseded and leaves the records and the status as they are. -/
theorem overtaken_search (hb : R.moves[n]? = some (.search r)) {result : Except Error Outcome}
    (ha : R.Answers n m result) (ho : R.Overtaken n m) :
    result = .error .superseded ∧ R.recordsAt (m + 1) = R.recordsAt m ∧
      R.statusAt (m + 1) = R.statusAt m := by
  cases (searchEnds_of_answers hb ha).2 with
  | overtaken _ leaves =>
    refine ⟨?_, by rw [recordsAt, leaves.store, recordsAt], by rw [statusAt, leaves.store, statusAt]⟩
    simpa [Answers, leaves.answers] using ha
  | succeeds newest => exact absurd ho newest
  | fails newest => exact absurd ho newest

/-- Any other search ends with its own reply. -/
theorem newest_search (hb : R.moves[n]? = some (.search r)) {result : Except Error Outcome}
    (ha : R.Answers n m result) (ho : ¬R.Overtaken n m) :
    ∃ reply, R.moves[m]? = some (.reply n reply) ∧ result = R.outcomeOf r reply ∧
      R.recordsAt (m + 1) =
        match recordsIn (searchUrl R.base r) reply with
        | .ok records => records
        | .error _ => R.recordsAt m := by
  cases (searchEnds_of_answers hb ha).2 with
  | overtaken overtaken => exact absurd overtaken ho
  | succeeds newest reply move records found leaves =>
    refine ⟨reply, move, ?_, ?_⟩
    · simpa [Answers, leaves.answers, outcomeOf, found, Except.map] using ha
    · rw [found, recordsAt, leaves.store]
  | fails newest reply move e found leaves =>
    refine ⟨reply, move, ?_, ?_⟩
    · simpa [Answers, leaves.answers, outcomeOf, found, Except.map] using ha
    · rw [found, recordsAt, leaves.store]
      rfl

theorem superseded_iff (hb : R.moves[n]? = some (.search r)) {result : Except Error Outcome}
    (ha : R.Answers n m result) : result = .error .superseded ↔ R.Overtaken n m := by
  constructor
  · intro hs
    apply Classical.byContradiction
    intro ho
    obtain ⟨reply, _, hr, _⟩ := newest_search hb ha ho
    exact outcomeOf_ne_superseded reply (hr ▸ hs)
  · exact fun ho => (overtaken_search hb ha ho).1

/-! ### What is shown afterwards -/

theorem broughtAt_of_search (hb : R.moves[n]? = some (.search r)) {o : Outcome}
    (ha : R.Answers n m (.ok o)) : ∃ records, R.broughtAt m = some (n, records) := by
  cases (searchEnds_of_answers hb ha).2 with
  | overtaken _ leaves => simp [Answers, leaves.answers] at ha
  | succeeds newest reply move records found leaves =>
    exact ⟨records, broughtAt_of_succeeds move (recordsIn_eq_ok_iff.mp found) leaves.answers⟩
  | fails newest reply move e found leaves => simp [Answers, leaves.answers] at ha

/-- Whatever brings records after a search has begun was begun no earlier than it. -/
theorem not_before_of_broughtAt {k : Nat} {records : List Record}
    (hb : R.moves[n]? = some (.search r)) (hn : n < m) (h : R.broughtAt m = some (k, records)) :
    n ≤ k := by
  apply Decidable.byContradiction
  intro hk
  have ho : R.Overtaken k m := ⟨n, Nat.lt_of_not_le hk, hn, supersedes_of_search hb⟩
  rcases (ends_of_broughtAt h).2 with ⟨_, hnewest⟩ | ⟨_, hsame⟩
  · exact hnewest ho
  · exact hsame.1 ho

theorem held_since_search {k : Nat} {o : Outcome} (hb : R.moves[n]? = some (.search r))
    (ha : R.Answers n k (.ok o)) (hm : k < m) : ∀ p ∈ R.heldAt m, n ≤ p.1 := by
  have hn : n < k := (searchEnds_of_answers hb ha).1.1
  induction hm with
  | refl =>
    obtain ⟨records, hr⟩ := broughtAt_of_search hb ha
    rw [heldAt_succ_of_search hr hb]
    intro p hp
    obtain ⟨record, _, rfl⟩ := List.mem_map.mp hp
    exact Nat.le_refl n
  | @step m hm ih =>
    intro p hp
    rcases mem_heldAt_succ hp with hp | ⟨records, hr⟩
    · exact ih p hp
    · exact not_before_of_broughtAt hb (Nat.lt_trans hn hm) hr

/-- The latest search wins. A waiting search is answered when its reply comes, or when it
notices that another search or a clearing began after it, and it is answered once. It is superseded
exactly when one did, and then the move that answers it changes neither the records nor the status,
whatever the reply. Otherwise it is answered with the outcome of its own reply, and the records are
those of the reply if there are any, else what they were. After a search has succeeded, no record
shown was brought by a call that began before it. -/
theorem latest_search_wins (R : Run) :
    (∀ n m r, R.moves[n]? = some (.search r) → R.Waits n m →
      (∀ reply, R.moves[m]? = some (.reply n reply) → ∃ result, R.Answers n m result) ∧
        (R.moves[m]? = some (.notice n) → R.Overtaken n m → ∃ result, R.Answers n m result)) ∧
    (∀ n m r result, R.moves[n]? = some (.search r) → R.Answers n m result →
      (∀ m' result', R.Answers n m' result' → m' = m) ∧
      (result = .error .superseded ↔ R.Overtaken n m) ∧
      (R.Overtaken n m →
        R.recordsAt (m + 1) = R.recordsAt m ∧ R.statusAt (m + 1) = R.statusAt m) ∧
      (¬R.Overtaken n m →
        ∃ reply, R.moves[m]? = some (.reply n reply) ∧ result = R.outcomeOf r reply ∧
          R.recordsAt (m + 1) =
            match recordsIn (searchUrl R.base r) reply with
            | .ok records => records
            | .error _ => R.recordsAt m)) ∧
    (∀ n k m r o, R.moves[n]? = some (.search r) → R.Answers n k (.ok o) → k < m →
      ∀ p ∈ R.heldAt m, n ≤ p.1) ∧
    ∀ m, (R.heldAt m).map Prod.snd = R.recordsAt m := by
  refine ⟨fun n m r hb hw => search_answered hb hw, fun n m r result hb ha => ?_,
    fun n k m r o hb ha hm => held_since_search hb ha hm, map_snd_heldAt R⟩
  exact ⟨fun m' result' ha' => answers_once ha' ha, superseded_iff hb ha,
    fun ho => (overtaken_search hb ha ho).2, newest_search hb ha⟩

/-- Two searches, the reply to the first when the second has begun, and the reply to the second. -/
def twoSearches : Run where
  base := "http://server/api"
  moves := [.search { term := "rain" }, .search { term := "snow" },
    .reply 0 (.response ⟨200, "[]"⟩), .reply 1 (.response ⟨200, "[]"⟩)]

theorem latest_of_two_searches :
    twoSearches.Answers 0 2 (.error .superseded) ∧ twoSearches.Overtaken 0 2 ∧
      twoSearches.Answers 1 3 (.ok ⟨0, false⟩) ∧ ¬twoSearches.Overtaken 1 3 := by
  have first : twoSearches.Answers 0 2 (.error .superseded) := List.mem_singleton.mpr rfl
  have second : twoSearches.Answers 1 3 (.ok ⟨0, false⟩) := List.mem_singleton.mpr rfl
  have ends := (latest_search_wins twoSearches).2.1
  refine ⟨first, (ends 0 2 _ _ rfl first).2.1.mp rfl, second, fun ho => ?_⟩
  exact nomatch (ends 1 3 _ _ rfl second).2.1.mpr ho

end DatasetSearch.Search.Run
