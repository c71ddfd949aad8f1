import DatasetSearch.Proofs.Search.Ends

/-! What the status of a search store stands for.

The status tells of the latest search: whether there is none since the records were last cleared,
whether it is still unanswered, and how it was answered. `Standing` says so together with the token
in flight, and one move leads from one standing to the next (`Standing.next`). From it follows what
the tokens say of the other searches that nobody has answered: all of them are cancelled, be it that
their callers still wait or have turned away. -/
namespace DatasetSearch.Search.Run
variable {R : Run} {m n : Nat}

/-- The search begun at `n` is the latest of the searches and clearings begun before `m`. -/
structure Current (R : Run) (n m : Nat) : Prop where
  before : n < m
  search : ∃ r, R.moves[n]? = some (.search r)
  newest : ¬R.Overtaken n m

/-- The search begun at `n` has not been answered before `m`. -/
structure Open (R : Run) (n m : Nat) (t : Ticket) : Prop where
  before : n < m
  begun : R.begun n = some (.search t)
  unanswered : ∀ k result, k < m → ¬R.Answers n k result

/-- A move leaves the status, the generation and the token in flight as they are. -/
structure KeepsBooks (R : Run) (m : Nat) : Prop where
  status : R.statusAt (m + 1) = R.statusAt m
  generation : (R.storeAt (m + 1)).generation = (R.storeAt m).generation
  inFlight : (R.storeAt (m + 1)).inFlight = (R.storeAt m).inFlight

/-! ### The latest search -/

theorem overtaken_succ : R.Overtaken n (m + 1) ↔ R.Overtaken n m ∨ n < m ∧ R.Supersedes m := by
  constructor
  · rintro ⟨k, hnk, hkm, hk⟩
    rcases Nat.lt_or_eq_of_le (Nat.le_of_lt_succ hkm) with hlt | rfl
    · exact .inl ⟨k, hnk, hlt, hk⟩
    · exact .inr ⟨hnk, hk⟩
  · rintro (⟨k, hnk, hkm, hk⟩ | ⟨hnm, hm⟩)
    · exact ⟨k, hnk, Nat.lt_succ_of_lt hkm, hk⟩
    · exact ⟨m, hnm, Nat.lt_succ_self m, hm⟩

theorem Current.not_after {n' : Nat} (h : R.Current n m) (h' : R.Current n' m) : ¬n < n' := by
  intro hlt
  obtain ⟨r, hr⟩ := h'.search
  exact h.newest ⟨n', hlt, h'.before, supersedes_of_search hr⟩

theorem Current.unique {n' : Nat} (h : R.Current n m) (h' : R.Current n' m) : n = n' := by
  have := h.not_after h'
  have := h'.not_after h
  omega

theorem current_of_search {r : Request} (hm : R.moves[m]? = some (.search r)) :
    R.Current m (m + 1) :=
  ⟨Nat.lt_succ_self m, ⟨r, hm⟩, fun ⟨k, hk, hk', _⟩ => by omega⟩

/-- Other moves do not change which search is the latest. -/
theorem current_succ_iff (hm : ¬R.Supersedes m) : R.Current n (m + 1) ↔ R.Current n m := by
  constructor
  · intro h
    obtain ⟨r, hr⟩ := h.search
    have hne : n ≠ m := fun he => hm (he ▸ supersedes_of_search hr)
    have := h.before
    exact ⟨by omega, h.search, fun ho => h.newest (overtaken_succ.mpr (.inl ho))⟩
  · intro h
    refine ⟨Nat.lt_succ_of_lt h.before, h.search, fun ho => ?_⟩
    rcases overtaken_succ.mp ho with ho | ⟨_, hs⟩
    · exact h.newest ho
    · exact hm hs

theorem not_current_of_clear (hm : R.moves[m]? = some .clear) : ¬R.Current n (m + 1) := by
  intro h
  obtain ⟨r, hr⟩ := h.search
  have hne : n ≠ m := fun he => by rw [he, hm] at hr; cases hr
  have := h.before
  exact h.newest (overtaken_succ.mpr (.inr ⟨by omega, supersedes_of_clear hm⟩))

/-- There is no latest search exactly when every search was followed by a clearing. -/
theorem forall_not_current_iff :
    (∀ n, ¬R.Current n m) ↔ ∀ n r, n < m → R.moves[n]? = some (.search r) →
      ∃ k, n < k ∧ k < m ∧ R.moves[k]? = some .clear := by
  constructor
  · intro h n r hn hr
    -- on the distance to the end: a later search, if there is one, was itself followed
    induction hd : m - n using Nat.strongRecOn generalizing n r with
    | ind d ih =>
      have ho : R.Overtaken n m := Classical.byContradiction fun ho => h n ⟨hn, ⟨r, hr⟩, ho⟩
      obtain ⟨k, hnk, hkm, hk⟩ := ho
      cases hmove : R.moves[k]? with
      | none => simp [Supersedes, hmove] at hk
      | some mv =>
        have hs := (supersedes_iff hmove).mp hk
        cases mv with
        | clear => exact ⟨k, hnk, hkm, hmove⟩
        | search r' =>
          obtain ⟨j, hkj, hjm, hj⟩ := ih (m - k) (by omega) k r' hkm hmove rfl
          exact ⟨j, by omega, hjm, hj⟩
        | _ => simp [Move.supersedes] at hs
  · intro h n hc
    obtain ⟨r, hr⟩ := hc.search
    obtain ⟨k, hnk, hkm, hk⟩ := h n r hc.before hr
    exact hc.newest ⟨k, hnk, hkm, supersedes_of_clear hk⟩

theorem lt_of_answers_search {r : Request} (hn : R.moves[n]? = some (.search r))
    {result : Except Error Outcome} (ha : R.Answers n m result) : n < m :=
  (searchEnds_of_answers hn ha).1.1

/-! ### Open searches -/

theorem Open.search {t : Ticket} (h : R.Open n m t) : ∃ r, R.moves[n]? = some (.search r) := by
  obtain ⟨r, hr, _⟩ := ticket_of_begun h.begun
  exact ⟨r, hr⟩

theorem Open.of_succ {t : Ticket} (h : R.Open n (m + 1) t) (hn : n < m) : R.Open n m t :=
  ⟨hn, h.begun, fun k result hk => h.unanswered k result (Nat.lt_succ_of_lt hk)⟩

/-- A search that waits is open. -/
theorem open_of_lookup {t : Ticket} (h : (R.waitingAt m).lookup n = some (.search t)) :
    R.Open n m t := by
  have hw := waits_of_lookup h
  obtain ⟨_, hb⟩ := begun_of_lookup h
  obtain ⟨r, hr, _⟩ := ticket_of_begun hb
  refine ⟨hw.1, hb, fun k result hk ha => ?_⟩
  have hnk := lt_of_answers_search hr ha
  exact (hw.2 k (Nat.le_of_lt hnk) hk).1 _ ha

/-- An open search is of the store's generation exactly when it is the latest. -/
theorem Open.generation_eq_iff {t : Ticket} (h : R.Open n m t) :
    t.generation = (R.storeAt m).generation ↔ R.Current n m := by
  obtain ⟨r, hr, hg, _⟩ := ticket_of_begun h.begun
  have hne : R.generationAt m ≠ R.generationAt (n + 1) ↔ R.Overtaken n m :=
    R.generationAt_ne_iff h.before
  rw [hg, generation_eq, eq_comm]
  constructor
  · exact fun he => ⟨h.before, ⟨r, hr⟩, fun ho => hne.mpr ho he⟩
  · exact fun hc => Decidable.byContradiction fun h' => hc.newest (hne.mp h')

/-! ### What the status stands for -/

/-- What the status and the token in flight say of the latest search. -/
inductive Standing (R : Run) (m : Nat) : Prop where
  | idle (none : ∀ n, ¬R.Current n m) (status : R.statusAt m = .idle)
      (inFlight : (R.storeAt m).inFlight = Option.none)
  | searching (n : Nat) (t : Ticket) (current : R.Current n m) (isOpen : R.Open n m t)
      (status : R.statusAt m = .searching) (inFlight : (R.storeAt m).inFlight = some t.token)
  | succeeded (n k : Nat) (o : Outcome) (current : R.Current n m) (before : k < m)
      (answered : R.Answers n k (.ok o)) (status : R.statusAt m = .succeeded)
      (inFlight : (R.storeAt m).inFlight = none)
  | failed (n k : Nat) (e : Error) (current : R.Current n m) (before : k < m)
      (answered : R.Answers n k (.error e)) (status : R.statusAt m = .failed)
      (inFlight : (R.storeAt m).inFlight = none)

/-- A move that keeps the books, begins nothing anew and does not answer the latest search keeps
the standing. -/
theorem Standing.kept (h : R.Standing m) (hm : ¬R.Supersedes m) (books : R.KeepsBooks m)
    (silent : ∀ n result, R.Current n m → ¬R.Answers n m result) : R.Standing (m + 1) := by
  have hs (s : Status) (h : R.statusAt m = s) : R.statusAt (m + 1) = s := books.status.trans h
  have hf (k : Option Token) (h : (R.storeAt m).inFlight = k) :
      (R.storeAt (m + 1)).inFlight = k := books.inFlight.trans h
  cases h with
  | idle none status inFlight =>
    exact .idle (fun n hc => none n ((current_succ_iff hm).mp hc)) (hs _ status) (hf _ inFlight)
  | searching n t current isOpen status inFlight =>
    refine .searching n t ((current_succ_iff hm).mpr current) ?_ (hs _ status) (hf _ inFlight)
    refine ⟨Nat.lt_succ_of_lt current.before, isOpen.begun, fun k result hk => ?_⟩
    rcases Nat.lt_or_eq_of_le (Nat.le_of_lt_succ hk) with hlt | rfl
    · exact isOpen.unanswered k result hlt
    · exact silent n result current
  | succeeded n k o current before answered status inFlight =>
    exact .succeeded n k o ((current_succ_iff hm).mpr current) (Nat.lt_succ_of_lt before) answered
      (hs _ status) (hf _ inFlight)
  | failed n k e current before answered status inFlight =>
    exact .failed n k e ((current_succ_iff hm).mpr current) (Nat.lt_succ_of_lt before) answered
      (hs _ status) (hf _ inFlight)

theorem keepsBooks_of_same_store (h : R.storeAt (m + 1) = R.storeAt m) : R.KeepsBooks m :=
  ⟨by rw [statusAt, h, statusAt], by rw [h], by rw [h]⟩

theorem keepsBooks_of_finishMore {c : Continuation} {reply : Http.Reply}
    (h : R.storeAt (m + 1) = ((R.storeAt m).finishMore c reply).1) : R.KeepsBooks m := by
  refine ⟨?_, by rw [h, Store.finishMore_generation], by rw [h, Store.finishMore_inFlight]⟩
  rw [statusAt, h, Store.finishMore_eq, statusAt]

/-- A search is open as soon as it has begun. -/
theorem open_of_search {r : Request} (hm : R.moves[m]? = some (.search r)) :
    R.Open m (m + 1) ((R.storeAt m).begin R.base r).2 := by
  refine ⟨Nat.lt_succ_self m, by simp only [begun, hm], fun k result hk ha => ?_⟩
  have := lt_of_answers_search hm ha
  omega

/-- The end of a search: the latest one gives the store its status, any other changes nothing. -/
theorem Standing.searchEnds (h : R.Standing m) {t : Ticket} {found : Except Error (List Record)}
    (waits : (R.waitingAt m).lookup n = some (.search t)) (how : R.Found m n t found)
    (leaves : R.Leaves m ((R.storeAt m).settle t found).1 (without (R.waitingAt m) n)
      [(n, .outcome ((R.storeAt m).settle t found).2)]) : R.Standing (m + 1) := by
  have hm := how.not_supersedes
  have hn := (waits_of_lookup waits).1
  obtain ⟨r, hr, hends⟩ := search_ends waits how leaves
  have current (newest : ¬R.Overtaken n m) : R.Current n (m + 1) :=
    (current_succ_iff hm).mpr ⟨hn, ⟨r, hr⟩, newest⟩
  cases hends with
  | overtaken overtaken leaves =>
    refine h.kept hm (keepsBooks_of_same_store leaves.store) fun n' result hc ha => ?_
    obtain ⟨rfl, -⟩ := eq_of_answers leaves ha
    exact hc.newest overtaken
  | succeeds newest reply move records found leaves =>
    exact .succeeded n m _ (current newest) (Nat.lt_succ_self m) (answers_of_leaves leaves)
      (by rw [statusAt, leaves.store]) (by rw [leaves.store])
  | fails newest reply move e found leaves =>
    exact .failed n m e (current newest) (Nat.lt_succ_self m) (answers_of_leaves leaves)
      (by rw [statusAt, leaves.store]) (by rw [leaves.store])

theorem Standing.next (h : R.Standing m) : R.Standing (m + 1) := by
  cases R.happens m with
  | search r move leaves =>
    exact .searching m _ (current_of_search move) (open_of_search move)
      (by rw [statusAt, leaves.store]; rfl) (by rw [leaves.store]; rfl)
  | clear move leaves =>
    exact .idle (fun n => not_current_of_clear move) (by rw [statusAt, leaves.store]; rfl)
      (by rw [leaves.store]; rfl)
  | searchEnds n t found waits how leaves => exact h.searchEnds waits how leaves
  | moreEnds n c reply waits move leaves =>
    refine h.kept (by simp [supersedes_iff move, Move.supersedes])
      (keepsBooks_of_finishMore leaves.store) fun n' result hc ha => ?_
    -- the call that is answered is no search
    obtain ⟨r, hr, _⟩ := continuation_of_begun (begun_of_lookup waits).2
    obtain ⟨r', hr'⟩ := hc.search
    obtain ⟨rfl, -⟩ := eq_of_answers leaves ha
    rw [hr] at hr'
    cases hr'
  | nothingMore r move none leaves =>
    refine h.kept (by simp [supersedes_iff move, Move.supersedes])
      (keepsBooks_of_same_store leaves.store) fun n' result hc ha => ?_
    obtain ⟨rfl, -⟩ := eq_of_answers leaves ha
    exact Nat.lt_irrefl _ hc.before
  | begins w begun noSearch kept leaves =>
    exact h.kept kept (keepsBooks_of_same_store leaves.store) fun _ _ _ ha =>
      absurd ha (not_answers leaves)
  | textsEnd n url reply waits move leaves =>
    refine h.kept (by simp [supersedes_iff move, Move.supersedes])
      (keepsBooks_of_same_store leaves.store) fun _ _ _ ha => ?_
    cases (eq_of_answers leaves ha).2
  | abandoned n move leaves =>
    exact h.kept (by simp [supersedes_iff move, Move.supersedes])
      (keepsBooks_of_same_store leaves.store) fun _ _ _ ha =>
        absurd ha (not_answers leaves)
  | nothing kept stays noCall leaves =>
    exact h.kept kept (keepsBooks_of_same_store leaves.store) fun _ _ _ ha =>
      absurd ha (not_answers leaves)

theorem standing (R : Run) (m : Nat) : R.Standing m := by
  induction m with
  | zero => exact .idle (fun n h => absurd h.before (Nat.not_lt_zero n)) rfl rfl
  | succ m ih => exact ih.next

/-! ### The tokens of open searches -/

/-- Nothing revives a cancelled token. -/
theorem cancelled_succ {k : Token} (h : k ∈ (R.storeAt m).tokens.cancelled) :
    k ∈ (R.storeAt (m + 1)).tokens.cancelled := by
  have cancelAny : k ∈ ((R.storeAt m).tokens.cancelAny (R.storeAt m).inFlight).cancelled := by
    rw [Tokens.cancelAny_cancelled]
    exact List.mem_append_right _ h
  cases R.happens m with
  | search r move leaves => rw [leaves.store]; exact cancelAny
  | clear move leaves => rw [leaves.store]; exact cancelAny
  | searchEnds n t found waits how leaves => rwa [leaves.store, Store.settle_tokens]
  | moreEnds n c reply waits move leaves => rwa [leaves.store, Store.finishMore_tokens]
  | begins w begun noSearch kept leaves => rwa [leaves.store]
  | nothingMore r move none leaves => rwa [leaves.store]
  | textsEnd n url reply waits move leaves => rwa [leaves.store]
  | abandoned n move leaves => rwa [leaves.store]
  | nothing kept stays noCall leaves => rwa [leaves.store]

/-- A search or a clearing cancels the token in flight. -/
theorem cancelled_of_supersedes (hm : R.Supersedes m) {k : Token}
    (hk : (R.storeAt m).inFlight = some k) : k ∈ (R.storeAt (m + 1)).tokens.cancelled := by
  have cancelAny : k ∈ ((R.storeAt m).tokens.cancelAny (R.storeAt m).inFlight).cancelled := by
    rw [Tokens.cancelAny_cancelled, hk]
    exact List.mem_append_left _ (List.mem_singleton_self k)
  cases R.happens m with
  | search r move leaves => rw [leaves.store]; exact cancelAny
  | clear move leaves => rw [leaves.store]; exact cancelAny
  | searchEnds n t found waits how leaves => exact absurd hm how.not_supersedes
  | begins w begun noSearch kept leaves => exact absurd hm kept
  | nothing kept stays noCall leaves => exact absurd hm kept
  | moreEnds n c reply waits move leaves => simp [supersedes_iff move, Move.supersedes] at hm
  | nothingMore r move none leaves => simp [supersedes_iff move, Move.supersedes] at hm
  | textsEnd n url reply waits move leaves => simp [supersedes_iff move, Move.supersedes] at hm
  | abandoned n move leaves => simp [supersedes_iff move, Move.supersedes] at hm

/-- The latest search, while it is open, holds the token in flight. -/
theorem Open.inFlight {t : Ticket} (h : R.Open n m t) (hc : R.Current n m) :
    (R.storeAt m).inFlight = some t.token := by
  have answered {n' k : Nat} {result : Except Error Outcome} (hc' : R.Current n' m) (hk : k < m)
      (ha : R.Answers n' k result) : False := by
    rw [← hc.unique hc'] at ha
    exact h.unanswered k result hk ha
  cases R.standing m with
  | idle none status inFlight => exact absurd hc (none n)
  | searching n' t' current isOpen status inFlight =>
    have he := isOpen.begun
    rw [← hc.unique current, h.begun] at he
    cases he
    exact inFlight
  | succeeded n' k o current before ha status inFlight => exact (answered current before ha).elim
  | failed n' k e current before ha status inFlight => exact (answered current before ha).elim

theorem Open.cancelled {t : Ticket} (h : R.Open n m t) (ho : R.Overtaken n m) :
    t.token ∈ (R.storeAt m).tokens.cancelled := by
  induction m with
  | zero => exact absurd h.before (Nat.not_lt_zero n)
  | succ m ih =>
    have hn : n < m := by
      obtain ⟨k, hnk, hkm, _⟩ := ho
      omega
    by_cases hbefore : R.Overtaken n m
    · exact cancelled_succ (ih (h.of_succ hn) hbefore)
    · have hm : R.Supersedes m := ((overtaken_succ.mp ho).resolve_left hbefore).2
      exact cancelled_of_supersedes hm ((h.of_succ hn).inFlight ⟨hn, h.search, hbefore⟩)

/-- The token of an open search is cancelled exactly when another search or a clearing began
since. -/
theorem Open.isCancelled_iff {t : Ticket} (h : R.Open n m t) :
    (R.storeAt m).tokens.isCancelled t.token = true ↔
      t.generation ≠ (R.storeAt m).generation := by
  rw [Tokens.isCancelled_iff, ne_eq, h.generation_eq_iff]
  constructor
  · exact fun hk hc => (R.guarded m).live _ (h.inFlight hc) hk
  · intro hc
    have ho : R.Overtaken n m := Classical.byContradiction fun ho => hc ⟨h.before, h.search, ho⟩
    exact h.cancelled ho

/-! ### The books of the store -/

theorem answer_unique {r : Request} {k k' : Nat} {a b : Except Error Outcome}
    (hn : R.moves[n]? = some (.search r)) (ha : R.Answers n k a) (hb : R.Answers n k' b) :
    a = b := by
  have hk : k = k' := answers_once ha hb
  subst hk
  have single {c : Except Error Outcome} (h : R.answersAt k = [(n, .outcome c)]) : a = b := by
    rw [Answers, h] at ha hb
    simp only [List.mem_singleton, Prod.mk.injEq, Answer.outcome.injEq, true_and] at ha hb
    rw [ha, hb]
  cases (searchEnds_of_answers hn ha).2 with
  | overtaken _ leaves => exact single leaves.answers
  | succeeds _ _ _ _ _ leaves => exact single leaves.answers
  | fails _ _ _ _ _ leaves => exact single leaves.answers

/-- What each status tells of the searches and clearings begun before `m`. -/
def Tells (R : Run) (m : Nat) : Status → Prop
  | .idle => ∀ n r, n < m → R.moves[n]? = some (.search r) →
      ∃ k, n < k ∧ k < m ∧ R.moves[k]? = some .clear
  | .searching => ∃ n t, R.Current n m ∧ R.Open n m t
  | .succeeded => ∃ n k o, R.Current n m ∧ k < m ∧ R.Answers n k (.ok o)
  | .failed => ∃ n k e, R.Current n m ∧ k < m ∧ R.Answers n k (.error e)

theorem tells_statusAt (R : Run) (m : Nat) : R.Tells m (R.statusAt m) := by
  cases R.standing m with
  | idle none status => rw [status]; exact forall_not_current_iff.mp none
  | searching n t current isOpen status => rw [status]; exact ⟨n, t, current, isOpen⟩
  | succeeded n k o current before answered status =>
    rw [status]
    exact ⟨n, k, o, current, before, answered⟩
  | failed n k e current before answered status =>
    rw [status]
    exact ⟨n, k, e, current, before, answered⟩

/-- Only the status that the store has tells what is so. -/
theorem statusAt_of_tells : ∀ {s : Status}, R.Tells m s → R.statusAt m = s
  | .idle, h => by
    have none := forall_not_current_iff.mpr h
    cases R.standing m with
    | idle _ status => exact status
    | searching n _ current => exact absurd current (none n)
    | succeeded n _ _ current => exact absurd current (none n)
    | failed n _ _ current => exact absurd current (none n)
  | .searching, ⟨n, t, hc, ho⟩ => by
    have hflight := ho.inFlight hc
    cases R.standing m with
    | searching _ _ _ _ status => exact status
    | idle _ _ inFlight => rw [inFlight] at hflight; cases hflight
    | succeeded _ _ _ _ _ _ _ inFlight => rw [inFlight] at hflight; cases hflight
    | failed _ _ _ _ _ _ _ inFlight => rw [inFlight] at hflight; cases hflight
  | .succeeded, ⟨n, k, o, hc, hk, ha⟩ => by
    obtain ⟨r, hr⟩ := hc.search
    cases R.standing m with
    | idle none => exact absurd hc (none n)
    | searching n' t current isOpen =>
      exact absurd (hc.unique current ▸ ha) (isOpen.unanswered k _ hk)
    | succeeded _ _ _ _ _ _ status => exact status
    | failed n' k' e current _ answered =>
      have answered' : R.Answers n k' (.error e) := hc.unique current ▸ answered
      exact nomatch answer_unique hr ha answered'
  | .failed, ⟨n, k, e, hc, hk, ha⟩ => by
    obtain ⟨r, hr⟩ := hc.search
    cases R.standing m with
    | idle none => exact absurd hc (none n)
    | searching n' t current isOpen =>
      exact absurd (hc.unique current ▸ ha) (isOpen.unanswered k _ hk)
    | succeeded n' k' o current _ answered =>
      have answered' : R.Answers n k' (.ok o) := hc.unique current ▸ answered
      exact nomatch answer_unique hr ha answered'
    | failed _ _ _ _ _ _ status => exact status

/-- What the store's books say before the move at a place. -/
structure BooksTell (R : Run) (m : Nat) : Prop where
  /-- There is a token in flight exactly while the store searches. -/
  inFlight : (R.storeAt m).inFlight.isSome = true ↔ R.statusAt m = .searching
  /-- It is not cancelled, and it belongs to the one open search of the store's generation. -/
  live : ∀ k, (R.storeAt m).inFlight = some k → (R.storeAt m).tokens.isCancelled k = false ∧
    ∃ n t, R.Open n m t ∧ t.token = k ∧ t.generation = (R.storeAt m).generation ∧
      ∀ n' t', R.Open n' m t' → t'.generation = (R.storeAt m).generation → n' = n
  /-- The tokens of the other open searches are cancelled. -/
  cancelled : ∀ n t, R.Open n m t → t.generation ≠ (R.storeAt m).generation →
    (R.storeAt m).tokens.isCancelled t.token = true
  /-- The generation counts the searches and clearings begun. -/
  generation : (R.storeAt m).generation = R.generationAt m
  status : ∀ s, R.statusAt m = s ↔ R.Tells m s

theorem Standing.inFlight_iff (h : R.Standing m) :
    (R.storeAt m).inFlight.isSome = true ↔ R.statusAt m = .searching := by
  cases h with
  | idle _ status inFlight => simp [status, inFlight]
  | searching _ _ _ _ status inFlight => simp [status, inFlight]
  | succeeded _ _ _ _ _ _ status inFlight => simp [status, inFlight]
  | failed _ _ _ _ _ _ status inFlight => simp [status, inFlight]

theorem booksTell_live {k : Token} (hk : (R.storeAt m).inFlight = some k) :
    (R.storeAt m).tokens.isCancelled k = false ∧
      ∃ n t, R.Open n m t ∧ t.token = k ∧ t.generation = (R.storeAt m).generation ∧
        ∀ n' t', R.Open n' m t' → t'.generation = (R.storeAt m).generation → n' = n := by
  have hsearching : R.statusAt m = .searching := (R.standing m).inFlight_iff.mp (by simp [hk])
  obtain ⟨n, t, hc, ho⟩ : R.Tells m .searching := hsearching ▸ R.tells_statusAt m
  refine ⟨?_, n, t, ho, ?_, ho.generation_eq_iff.mpr hc, fun n' t' ho' hg => ?_⟩
  · exact Tokens.isCancelled_eq_false_iff.mpr ((R.guarded m).live k hk)
  · exact Option.some.inj ((ho.inFlight hc).symm.trans hk)
  · exact (ho'.generation_eq_iff.mp hg).unique hc

theorem booksTell (R : Run) (m : Nat) : R.BooksTell m where
  inFlight := (R.standing m).inFlight_iff
  live := fun _ hk => booksTell_live hk
  cancelled := fun _ _ ho hg => ho.isCancelled_iff.mpr hg
  generation := generation_eq R m
  status := fun _ => ⟨fun hs => hs ▸ R.tells_statusAt m, statusAt_of_tells⟩

/-! ### Calls for more records -/

theorem keepsBooks_of_fetchMore {r : Request} (hm : R.moves[m]? = some (.fetchMore r)) :
    R.KeepsBooks m := by
  cases hc : (R.storeAt m).beginMore R.base r with
  | none => exact keepsBooks_of_same_store (leaves_nothing_more hm hc).store
  | some c => exact keepsBooks_of_same_store (leaves_more hm hc).store

theorem keepsBooks_of_more_answered {r : Request} (hn : R.moves[n]? = some (.fetchMore r))
    {result : Except Error Outcome} (ha : R.Answers n m result) : R.KeepsBooks m := by
  rcases ends_of_answers ha with ⟨_, ⟨r', hr', _⟩ | ⟨r', _, hends⟩⟩ | ⟨rfl, _⟩
  · rw [hn] at hr'
    cases hr'
  · cases hends with
    | discarded _ leaves => exact keepsBooks_of_same_store leaves.store
    | succeeds _ _ _ _ _ leaves =>
      exact ⟨by rw [statusAt, leaves.store]; rfl, by rw [leaves.store], by rw [leaves.store]⟩
    | fails _ _ _ _ _ _ leaves => exact keepsBooks_of_same_store leaves.store
  · exact keepsBooks_of_fetchMore hn

/-- The books of a search store. However calls and replies interleave, there is a token in flight
exactly while the status is searching. It is not cancelled and is that of the only search of the
store's generation that nobody has answered; every other search that nobody has answered is
cancelled. The generation counts the searches and clearings begun, and the status tells which of
them is the latest and how it ended. Neither the beginning nor the end of a call for more records
changes any of this. -/
theorem books_tell (R : Run) :
    (∀ m, R.BooksTell m) ∧
    (∀ m r, R.moves[m]? = some (.fetchMore r) → R.KeepsBooks m) ∧
    ∀ n m r result, R.moves[n]? = some (.fetchMore r) → R.Answers n m result → R.KeepsBooks m :=
  ⟨R.booksTell, fun _ _ hm => keepsBooks_of_fetchMore hm,
    fun _ _ _ _ hn ha => keepsBooks_of_more_answered hn ha⟩

/-- A search is begun while another waits; the reply to the first comes, then that to the second. -/
def overlapping : Run where
  base := "http://server/api"
  moves := [.search { term := "rain" }, .search { term := "snow" },
    .reply 0 (.response ⟨200, "[]"⟩), .reply 1 (.response ⟨500, ""⟩)]

theorem books_of_overlapping :
    overlapping.statusAt 2 = .searching ∧ (overlapping.storeAt 2).generation = 2 ∧
      (∃ t, overlapping.Open 0 2 t ∧ (overlapping.storeAt 2).tokens.isCancelled t.token = true) ∧
      (∃ n k e, overlapping.Current n 4 ∧ k < 4 ∧ overlapping.Answers n k (.error e)) := by
  have books := (books_tell overlapping).1
  have first : overlapping.Open 0 2 ((overlapping.storeAt 0).begin overlapping.base _).2 :=
    open_of_lookup rfl
  refine ⟨rfl, (books 2).generation, ⟨_, first, (books 2).cancelled 0 _ first (by decide)⟩, ?_⟩
  exact ((books 4).status .failed).mp rfl

end DatasetSearch.Search.Run
