import DatasetSearch.Proofs.Search.Tokens

/-! How calls for records end in a run.

Whether a search was overtaken can be told from the moves alone. `SearchEnds` and `MoreEnds` list
what can come of a call for records, and `ends_of_answers` says that nothing else does. -/
namespace DatasetSearch.Search.Run
variable {R : Run} {m n : Nat}

theorem generation_ne_iff {t : Ticket} (waits : (R.waitingAt m).lookup n = some (.search t)) :
    (R.storeAt m).generation ≠ t.generation ↔ R.Overtaken n m := by
  obtain ⟨hn, hb⟩ := begun_of_lookup waits
  obtain ⟨r, _, hg, _⟩ := ticket_of_begun hb
  rw [generation_eq, hg]
  exact R.generationAt_ne_iff hn

/-- A search that ends overtaken leaves the store as it is, whatever its reply. -/
theorem settle_of_overtaken {t : Ticket} (waits : (R.waitingAt m).lookup n = some (.search t))
    (ho : R.Overtaken n m) (found : Except Error (List Record)) :
    (R.storeAt m).settle t found = (R.storeAt m, .error .superseded) :=
  Store.settle_of_ne found ((generation_ne_iff waits).mpr ho)

/-- A search that was not overtaken ends with its reply. -/
theorem found_of_not_overtaken {t : Ticket} (waits : (R.waitingAt m).lookup n = some (.search t))
    (ho : ¬R.Overtaken n m) :
    (R.storeAt m).generation = t.generation ∧ ∀ {found}, R.Found m n t found →
      ∃ reply, R.moves[m]? = some (.reply n reply) ∧ found = recordsIn t.url reply := by
  have hgen : (R.storeAt m).generation = t.generation :=
    Decidable.byContradiction fun hne => ho ((generation_ne_iff waits).mp hne)
  have hlive : (R.storeAt m).tokens.isCancelled t.token = false := by
    rw [Bool.eq_false_iff]
    exact fun hc => (isCancelled_iff (R.lookup_iff.mp waits)).mp hc hgen
  refine ⟨hgen, fun how => ?_⟩
  cases how with
  | reply reply move => exact ⟨reply, move, by rw [hlive]; rfl⟩
  | notice move hc => rw [hlive] at hc; cases hc

/-- No search or clearing began between two places, and the page ends with the same token. -/
def SameEnd (R : Run) (n m : Nat) : Prop :=
  ¬R.Overtaken n m ∧ (R.storeAt m).results.lastToken? = (R.storeAt n).results.lastToken?

theorem continues_iff {c : Continuation} (waits : (R.waitingAt m).lookup n = some (.more c)) :
    (R.storeAt m).Continues c ↔ R.SameEnd n m := by
  obtain ⟨hn, hb⟩ := begun_of_lookup waits
  obtain ⟨r, hr, hg, hcursor, _⟩ := continuation_of_begun hb
  have hkept : ¬R.Supersedes n := by simp [supersedes_iff hr, Move.supersedes]
  have ho : R.Overtaken n m ↔ (R.storeAt m).generation ≠ c.generation := by
    rw [generation_eq, hg, ← generationAt_succ_of_not hkept, R.generationAt_ne_iff hn]
    rfl
  rw [Store.Continues, SameEnd, hcursor, ho, ne_eq, Decidable.not_not]

/-- What can come of a search for `r` begun at `n` that ends at `m`. -/
inductive SearchEnds (R : Run) (m n : Nat) (r : Request) : Prop where
  | overtaken (overtaken : R.Overtaken n m)
      (leaves : R.Leaves m (R.storeAt m) (without (R.waitingAt m) n)
        [(n, .outcome (.error .superseded))])
  | succeeds (newest : ¬R.Overtaken n m) (reply : Http.Reply)
      (move : R.moves[m]? = some (.reply n reply)) (records : List Record)
      (found : recordsIn (searchUrl R.base r) reply = .ok records)
      (leaves : R.Leaves m
        { R.storeAt m with results := ⟨records⟩, status := .succeeded, inFlight := none }
        (without (R.waitingAt m) n) [(n, .outcome (.ok (.ofPage records.length r.pageSize)))])
  | fails (newest : ¬R.Overtaken n m) (reply : Http.Reply)
      (move : R.moves[m]? = some (.reply n reply)) (e : Error)
      (found : recordsIn (searchUrl R.base r) reply = .error e)
      (leaves : R.Leaves m { R.storeAt m with status := .failed, inFlight := none }
        (without (R.waitingAt m) n) [(n, .outcome (.error e))])

/-- What can come of a call for more records begun at `n` that ends at `m`. -/
inductive MoreEnds (R : Run) (m n : Nat) (r : Request) : Prop where
  | discarded (changed : ¬R.SameEnd n m)
      (leaves : R.Leaves m (R.storeAt m) (without (R.waitingAt m) n)
        [(n, .outcome (.error .superseded))])
  | succeeds (same : R.SameEnd n m) (reply : Http.Reply)
      (move : R.moves[m]? = some (.reply n reply)) (records : List Record)
      (found : recordsOf? reply = some records)
      (leaves : R.Leaves m { R.storeAt m with results := ⟨R.recordsAt m ++ records⟩ }
        (without (R.waitingAt m) n) [(n, .outcome (.ok (.ofPage records.length r.pageSize)))])
  | fails (same : R.SameEnd n m) (reply : Http.Reply) (move : R.moves[m]? = some (.reply n reply))
      (e : Error) (none : recordsOf? reply = none) (ours : e ≠ .superseded)
      (leaves : R.Leaves m (R.storeAt m) (without (R.waitingAt m) n) [(n, .outcome (.error e))])

theorem search_ends {t : Ticket} {found : Except Error (List Record)}
    (waits : (R.waitingAt m).lookup n = some (.search t)) (how : R.Found m n t found)
    (leaves : R.Leaves m ((R.storeAt m).settle t found).1 (without (R.waitingAt m) n)
      [(n, .outcome ((R.storeAt m).settle t found).2)]) :
    ∃ r, R.moves[n]? = some (.search r) ∧ R.SearchEnds m n r := by
  obtain ⟨r, hr, _, hurl, hsize⟩ := ticket_of_begun (begun_of_lookup waits).2
  refine ⟨r, hr, ?_⟩
  by_cases ho : R.Overtaken n m
  · rw [settle_of_overtaken waits ho] at leaves
    exact .overtaken ho leaves
  · obtain ⟨hgen, hfound⟩ := found_of_not_overtaken waits ho
    obtain ⟨reply, move, rfl⟩ := hfound how
    cases hf : recordsIn t.url reply with
    | ok records =>
      rw [hf, Store.settle_ok records hgen, hsize] at leaves
      exact .succeeds ho reply move records (hurl ▸ hf) leaves
    | error e =>
      rw [hf, Store.settle_error e hgen] at leaves
      exact .fails ho reply move e (hurl ▸ hf) leaves

theorem more_ends {c : Continuation} {reply : Http.Reply}
    (waits : (R.waitingAt m).lookup n = some (.more c))
    (move : R.moves[m]? = some (.reply n reply))
    (leaves : R.Leaves m ((R.storeAt m).finishMore c reply).1 (without (R.waitingAt m) n)
      [(n, .outcome ((R.storeAt m).finishMore c reply).2)]) :
    ∃ r, R.moves[n]? = some (.fetchMore r) ∧ R.MoreEnds m n r := by
  obtain ⟨r, hr, _, _, _, hsize⟩ := continuation_of_begun (begun_of_lookup waits).2
  refine ⟨r, hr, ?_⟩
  by_cases hs : R.SameEnd n m
  · have hc := (continues_iff waits).mpr hs
    cases hf : recordsIn c.url reply with
    | ok records =>
      rw [Store.finishMore_ok hc hf, hsize] at leaves
      exact .succeeds hs reply move records (recordsIn_eq_ok_iff.mp hf) leaves
    | error e =>
      rw [Store.finishMore_error hc hf] at leaves
      exact .fails hs reply move e (recordsOf?_eq_none hf)
        (fun he => recordsIn_ne_superseded c.url reply (he ▸ hf)) leaves
  · have hc : ¬(R.storeAt m).Continues c := fun hc => hs ((continues_iff waits).mp hc)
    rw [Store.finishMore_of_not_continues hc] at leaves
    exact .discarded hs leaves

/-- An answer about records comes when a call ends, or at once when no records are shown. -/
theorem ends_of_answers {result : Except Error Outcome} (ha : R.Answers n m result) :
    R.Waits n m ∧ ((∃ r, R.moves[n]? = some (.search r) ∧ R.SearchEnds m n r) ∨
      ∃ r, R.moves[n]? = some (.fetchMore r) ∧ R.MoreEnds m n r) ∨
    n = m ∧ ∃ r, R.moves[n]? = some (.fetchMore r) := by
  rw [Answers] at ha
  cases R.happens m with
  | searchEnds n' t found waits how leaves =>
    obtain ⟨rfl, -⟩ := eq_of_answers leaves ha
    exact .inl ⟨waits_of_lookup waits, .inl (search_ends waits how leaves)⟩
  | moreEnds n' c reply waits move leaves =>
    obtain ⟨rfl, -⟩ := eq_of_answers leaves ha
    exact .inl ⟨waits_of_lookup waits, .inr (more_ends waits move leaves)⟩
  | nothingMore r move none leaves =>
    obtain ⟨rfl, -⟩ := eq_of_answers leaves ha
    exact .inr ⟨rfl, r, move⟩
  | search r move leaves => exact absurd ha (not_answers leaves)
  | clear move leaves => exact absurd ha (not_answers leaves)
  | begins w begun noSearch kept leaves => exact absurd ha (not_answers leaves)
  | textsEnd n' url reply waits move leaves => exact nomatch (eq_of_answers leaves ha).2
  | abandoned n' move leaves => exact absurd ha (not_answers leaves)
  | nothing kept stays noCall leaves => exact absurd ha (not_answers leaves)

theorem searchEnds_of_answers {r : Request} (hb : R.moves[n]? = some (.search r))
    {result : Except Error Outcome} (ha : R.Answers n m result) :
    R.Waits n m ∧ R.SearchEnds m n r := by
  rcases ends_of_answers ha with ⟨hw, ⟨r', hr', he⟩ | ⟨r', hr', _⟩⟩ | ⟨_, r', hr'⟩
  · rw [hb] at hr'
    cases hr'
    exact ⟨hw, he⟩
  · rw [hb] at hr'
    cases hr'
  · rw [hb] at hr'
    cases hr'

theorem waits_of_answers {result : Except Error Outcome} (ha : R.Answers n m result) :
    R.Waits n m ∨ n = m := by
  rcases ends_of_answers ha with ⟨hw, _⟩ | ⟨heq, _⟩
  · exact .inl hw
  · exact .inr heq

/-- A call for records is answered once. -/
theorem answers_once {result result' : Except Error Outcome} {m' : Nat}
    (h : R.Answers n m result) (h' : R.Answers n m' result') : m = m' := by
  have before {m m' : Nat} {result result' : Except Error Outcome} (h : R.Answers n m result)
      (h' : R.Answers n m' result') : ¬m < m' := by
    intro hlt
    have hn : n ≤ m := by
      rcases waits_of_answers h with hw | rfl
      · exact Nat.le_of_lt hw.1
      · exact Nat.le_refl _
    rcases waits_of_answers h' with hw | rfl
    · exact (hw.2 m hn hlt).1 _ h
    · omega
  have := before h h'
  have := before h' h
  omega

end DatasetSearch.Search.Run
