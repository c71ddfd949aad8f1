import DatasetSearch.Proofs.Account.Inbox

/-! A login that nothing disturbs.

While nothing happens but what concerns one login, it is as if all that was sent to it had come
before a single turn, whenever it had its turns in between (`turns_as_one`). So the first acceptable
message decides it, and neither the messages that it ignores nor those after the first acceptable
one make any difference (`first_acceptable_decides`). -/
namespace DatasetSearch.Account.Run

/-- From the login begun at `n` on, before `m`, only what concerns it happens, and nothing is sent to
it once its window is closed. -/
structure Undisturbed (R : Run) (n m : Nat) : Prop where
  before : n < m
  login : R.moves[n]? = some .login
  only : ∀ k, n < k → k < m → ∃ mv, R.moves[k]? = some mv ∧ mv.concerns n = true
  silent : ∀ j k msg, n < j → j < k → k < m → R.moves[j]? = some (.close n) →
    R.moves[k]? ≠ some (.message n msg)

variable {R : Run} {m n k : Nat} {f : Flow}

theorem Undisturbed.mono (h : R.Undisturbed n m) (hn : n < k) (hk : k ≤ m) : R.Undisturbed n k where
  before := hn
  login := h.login
  only j hj hjk := h.only j hj (Nat.lt_of_lt_of_le hjk hk)
  silent i j msg hi hij hjk := h.silent i j msg hi hij (Nat.lt_of_lt_of_le hjk hk)

/-- A turn disturbs nothing. -/
theorem Undisturbed.turn (h : R.Undisturbed n m) (hm : R.moves[m]? = some (.turn n)) :
    R.Undisturbed n (m + 1) where
  before := Nat.lt_succ_of_lt h.before
  login := h.login
  only k hk hkm := by
    rcases Nat.lt_or_eq_of_le (Nat.le_of_lt_succ hkm) with hlt | rfl
    · exact h.only k hk hlt
    · exact ⟨_, hm, beq_self_eq_true n⟩
  silent j k msg hj hjk hkm := by
    rcases Nat.lt_or_eq_of_le (Nat.le_of_lt_succ hkm) with hlt | rfl
    · exact h.silent j k msg hj hjk hlt
    · rw [hm]
      exact fun _ => nofun

/-- No other login is begun, so it is not cancelled. -/
theorem Undisturbed.live (h : R.Undisturbed n m) (hl : R.Listens n m f) :
    (R.storeAt m).tokens.isCancelled f.token = false := by
  rw [← Bool.not_eq_true, isCancelled_iff hl]
  rintro ⟨k, hk⟩
  obtain ⟨mv, hmv, hc⟩ := h.only k hk.order.1 hk.order.2
  rw [hk.newer] at hmv
  cases hmv
  cases hc

/-! ### Step by step -/

/-- How a login stands before a move: it waits and the store is as it was after it had begun, or it
has ended. -/
inductive Stands (R : Run) (n m : Nat) : Prop where
  | waits (waits : R.Waits n m) (store : R.storeAt m = R.storeAt (n + 1))
  | accepted (k : Nat) (msg : Message) (place : n < k ∧ k < m)
      (returns : R.Returns n k (.ok msg.session)) (first : R.firstAcceptable? n k = some msg)
      (store : R.storeAt m =
        ((R.storeAt (n + 1)).endFlow (R.flowAt n)).setLoggedIn msg.session)
  | closed (k : Nat) (place : n < k ∧ k < m) (returns : R.Returns n k (.error .windowClosed))
      (store : R.storeAt m = ((R.storeAt (n + 1)).endFlow (R.flowAt n)).announce .loggedOut)

/-- What comes to a login after it was answered changes nothing. -/
theorem storeAt_succ_of_answered {mv : Move} (hm : R.moves[m]? = some mv)
    (hc : mv.concerns n = true) (place : n < k ∧ k < m) {a : Answer} (ha : R.Answers n k a) :
    R.storeAt (m + 1) = R.storeAt m := by
  have hnot : ¬R.Waits n m := fun hw => hw.2 k a (Nat.le_of_lt place.1) place.2 ha
  cases concerned hm hc with
  | quiet store _ => exact store
  | superseded _ _ _ waits => exact absurd (waits_of_lookup waits) hnot
  | loginEnds _ _ _ _ _ waits => exact absurd (waits_of_lookup waits) hnot
  | asked _ _ waits => exact absurd (waits_of_lookup waits) hnot

theorem Stands.succ (h : R.Undisturbed n (m + 1)) (hn : n < m) (stands : R.Stands n m) :
    R.Stands n (m + 1) := by
  obtain ⟨mv, hm, hc⟩ := h.only m hn (Nat.lt_succ_self m)
  have later {k : Nat} (place : n < k ∧ k < m) : n < k ∧ k < m + 1 :=
    ⟨place.1, Nat.lt_succ_of_lt place.2⟩
  cases stands with
  | accepted k msg place returns first store =>
    refine .accepted k msg (later place) returns first ?_
    rw [storeAt_succ_of_answered hm hc place returns, store]
  | closed k place returns store =>
    refine .closed k (later place) returns ?_
    rw [storeAt_succ_of_answered hm hc place returns, store]
  | waits hw store =>
    have hl := listens_of_waits h.login hw
    cases concerned hm hc with
    | quiet store' noAnswer =>
      exact .waits (waits_succ.mpr ⟨.inl hw, noAnswer n⟩) (store'.trans store)
    | superseded f _ _ waits cancelled _ =>
      have hlive := (h.mono hn (Nat.le_succ m)).live (listens_of_lookup waits)
      rw [cancelled] at hlive
      cases hlive
    | asked w noLogin waits =>
      obtain ⟨inbox, closed, hlookup⟩ := hl.lookup
      rw [hlookup] at waits
      exact absurd (Option.some.inj waits).symm (noLogin _ _ _)
    | loginEnds f inbox closed store' result waits live ends leaves =>
      have hreturns : R.Returns n m result := answers_of_leaves leaves
      cases hl.unique waits
      have place : n < m ∧ m < m + 1 := ⟨hn, Nat.lt_succ_self m⟩
      cases ends with
      | accepted session found =>
        obtain ⟨msg, hfirst, rfl⟩ := message_of_returns hreturns
        exact .accepted m msg place hreturns hfirst (by rw [leaves.store, store])
      | closed none isClosed => exact .closed m place hreturns (by rw [leaves.store, store])

/-- At all times a login that nothing disturbed waits or has ended. -/
theorem Undisturbed.stands (h : R.Undisturbed n m) : R.Stands n m := by
  have hn := h.before
  induction hn with
  | refl => exact .waits (waits_of_login h.login) rfl
  | step hn ih => exact (ih (h.mono hn (Nat.le_succ _))).succ h hn

/-! ### What was sent until later -/

theorem firstAcceptable?_of_le {msg : Message} (hn : n < k) (hk : k ≤ m)
    (h : R.firstAcceptable? n k = some msg) : R.firstAcceptable? n m = some msg := by
  obtain ⟨more, hmore⟩ := exists_received_append (R := R) hn hk
  rw [firstAcceptable?] at h
  rw [firstAcceptable?, hmore, List.find?_append, h, Option.some_or]

/-- Nothing is sent to a login any more whose window is closed. -/
theorem Undisturbed.received_of_closed (h : R.Undisturbed n m) (hn : n < k) (hk : k ≤ m)
    (hclosed : R.closedBy n k = true) :
    R.received n m = R.received n k ∧ R.closedBy n m = true := by
  obtain ⟨mv, hmv, hcloses⟩ := List.any_eq_true.mp hclosed
  rw [Move.eq_close hcloses] at hmv
  obtain ⟨j, hj, hjk, hclose⟩ := exists_of_mem_between hmv
  induction hk with
  | refl => exact ⟨rfl, hclosed⟩
  | @step m hk ih =>
    have hnm : n < m := Nat.lt_of_lt_of_le hn hk
    obtain ⟨hreceived, hclosed'⟩ := ih (h.mono hnm (Nat.le_succ m))
    have hnone : R.moves[m]?.bind (Move.messageTo? n) = none := by
      cases hm : R.moves[m]? with
      | none => rfl
      | some mv =>
        cases hto : mv.messageTo? n with
        | none => exact hto
        | some msg =>
          have hsilent := h.silent j m msg hj (Nat.lt_of_lt_of_le hjk hk) (Nat.lt_succ_self m) hclose
          rw [hm, Move.eq_message hto] at hsilent
          exact absurd rfl hsilent
    refine ⟨?_, ?_⟩
    · rw [received_succ hnm, hnone, hreceived]
      exact List.append_nil _
    · rw [closedBy_succ hnm, hclosed']
      rfl

/-! ### All turns as one -/

/-- A call is answered once. -/
theorem answers_unique {a a' : Answer} (h : R.Answers n k a) (h' : R.Answers n m a') : a' = a := by
  have hw := waits_of_answers h
  have hw' := waits_of_answers h'
  have hkm : k = m := by
    rcases Nat.lt_trichotomy k m with hlt | heq | hgt
    · exact absurd h (hw'.2 k a (Nat.le_of_lt hw.1) hlt)
    · exact heq
    · exact absurd h' (hw.2 m a' (Nat.le_of_lt hw'.1) hgt)
  subst hkm
  have same {store : Store} {waiting : List (Nat × Waiting)} {call : Nat} {b : Answer}
      (leaves : R.Leaves k store waiting [(call, b)]) : a' = a :=
    (eq_of_answers leaves h').2.trans (eq_of_answers leaves h).2.symm
  cases R.happens k with
  | superseded _ _ _ _ _ _ _ leaves => exact same leaves
  | loginEnds _ _ _ _ _ _ _ _ _ _ leaves => exact same leaves
  | checked _ _ _ _ leaves => exact same leaves
  | loggedOut _ _ _ _ leaves => exact same leaves
  | restored _ _ leaves => exact absurd h (not_answers leaves)
  | loginBegins _ leaves => exact absurd h (not_answers leaves)
  | asks _ _ _ leaves => exact absurd h (not_answers leaves)
  | listens _ _ _ _ _ _ _ _ leaves => exact absurd h (not_answers leaves)
  | nothing _ leaves => exact absurd h (not_answers leaves)

/-- A login that has its turn and is not answered was sent nothing acceptable, and more can come. -/
theorem Undisturbed.listens_on (h : R.Undisturbed n m) (hm : R.moves[m]? = some (.turn n))
    (hw : R.Waits n (m + 1)) : R.firstAcceptable? n m = none ∧ R.closedBy n m = false := by
  obtain ⟨hbefore, hanswer⟩ := waits_succ.mp hw
  have hl := listens_of_waits h.login (hbefore.resolve_right (Nat.ne_of_lt h.before))
  obtain ⟨inbox, closed, hlookup⟩ := hl.lookup
  have hlive := h.live hl
  have hheard := heard hlookup
  cases hs : inbox.findSome? (R.storeAt m).accept with
  | some session =>
    have leaves := leaves_turn hm hlookup (Store.proceed_accepts hlive hs)
    exact absurd (answers_of_leaves leaves) (hanswer _)
  | none =>
    cases closed with
    | true =>
      have leaves := leaves_turn hm hlookup (Store.proceed_closed hlive hs)
      exact absurd (answers_of_leaves leaves) (hanswer _)
    | false =>
      rw [hheard.findSome?_accept, Option.map_eq_none_iff] at hs
      exact ⟨hs, hheard.isClosed.symm⟩

theorem Undisturbed.live_at_first (h : R.Undisturbed n m) :
    (R.storeAt (n + 1)).tokens.isCancelled (R.flowAt n).token = false :=
  (h.mono (Nat.lt_succ_self n) h.before).live (listens_of_waits h.login (waits_of_login h.login))

/-- A login that nothing disturbs ends as if all that was sent to it had come before one turn. -/
theorem Undisturbed.turns_as_one (h : R.Undisturbed n m) (hm : R.moves[m]? = some (.turn n)) :
    let all := (R.storeAt (n + 1)).proceed (R.flowAt n) (R.received n m) (R.closedBy n m)
    R.storeAt (m + 1) = all.1 ∧ ∀ result, (∃ k ≤ m, R.Returns n k result) ↔ all.2 = some result := by
  have hlive := h.live_at_first
  have hfind := R.findSome?_received n m (n + 1)
  -- the only result is the one that was returned
  have returned {k : Nat} {result : Except LoginError Session} (place : n < k ∧ k < m + 1)
      (returns : R.Returns n k result) (result' : Except LoginError Session) :
      (∃ k ≤ m, R.Returns n k result') ↔ some result = some result' := by
    constructor
    · rintro ⟨k', -, returns'⟩
      cases answers_unique returns returns'
      rfl
    · rintro ⟨⟩
      exact ⟨k, Nat.le_of_lt_succ place.2, returns⟩
  cases (h.turn hm).stands with
  | accepted k msg place returns first store =>
    rw [firstAcceptable?_of_le place.1 (Nat.le_of_lt_succ place.2) first] at hfind
    rw [Store.proceed_accepts hlive hfind]
    exact ⟨store, returned place returns⟩
  | closed k place returns store =>
    obtain ⟨hnone, hclosed⟩ := closed_of_returns returns
    obtain ⟨hreceived, hclosed'⟩ :=
      h.received_of_closed place.1 (Nat.le_of_lt_succ place.2) hclosed
    have hnone' : R.firstAcceptable? n m = none := by
      rw [firstAcceptable?, hreceived]
      exact hnone
    rw [hnone'] at hfind
    rw [hclosed', Store.proceed_closed hlive hfind]
    exact ⟨store, returned place returns⟩
  | waits hw store =>
    obtain ⟨hnone, hopen⟩ := h.listens_on hm hw
    rw [hnone] at hfind
    rw [hopen, Store.proceed_listens hlive hfind]
    refine ⟨store, fun result => ?_⟩
    constructor
    · rintro ⟨k, hk, returns⟩
      have hn := (waits_of_answers returns).1
      exact absurd returns (hw.2 k _ (Nat.le_of_lt hn) (Nat.lt_succ_of_le hk))
    · intro hnone
      cases hnone

/-! ### How it ends -/

theorem storeAt_succ_of_login (h : R.moves[n]? = some .login) :
    R.storeAt (n + 1) = (R.storeAt n).beginLogin.1 :=
  (leaves_login h).store

theorem Undisturbed.accepts (h : R.Undisturbed n m) (hm : R.moves[m]? = some (.turn n))
    {msg : Message} (hfirst : R.firstAcceptable? n m = some msg) :
    (∀ result, (∃ k ≤ m, R.Returns n k result) ↔ result = .ok msg.session) ∧
      R.stateAt (m + 1) = .loggedIn msg.session ∧
      R.cookieAt (m + 1) = some (authorization msg.session) := by
  have hfind := R.findSome?_received n m (n + 1)
  obtain ⟨hstore, hreturns⟩ := h.turns_as_one hm
  rw [hfirst] at hfind
  rw [Store.proceed_accepts h.live_at_first hfind] at hstore hreturns
  refine ⟨fun result => ?_, ?_, ?_⟩
  · rw [hreturns, Option.some_inj, eq_comm]
  · rw [stateAt, hstore]
    rfl
  · rw [cookieAt, hstore]
    rfl

theorem Undisturbed.closes (h : R.Undisturbed n m) (hm : R.moves[m]? = some (.turn n))
    (hfirst : R.firstAcceptable? n m = none) (hclosed : R.closedBy n m = true) :
    (∀ result, (∃ k ≤ m, R.Returns n k result) ↔ result = .error .windowClosed) ∧
      R.stateAt (m + 1) = .loggedOut ∧ R.cookieAt (m + 1) = R.cookieAt n := by
  have hfind := R.findSome?_received n m (n + 1)
  obtain ⟨hstore, hreturns⟩ := h.turns_as_one hm
  rw [hfirst] at hfind
  rw [hclosed, Store.proceed_closed h.live_at_first hfind] at hstore hreturns
  refine ⟨fun result => ?_, ?_, ?_⟩
  · rw [hreturns, Option.some_inj, eq_comm]
  · rw [stateAt, hstore]
    rfl
  · have hcookie : (R.storeAt (m + 1)).cookie = (R.storeAt n).cookie := by
      rw [hstore]
      refine Store.endFlow_cookie.trans ?_
      rw [storeAt_succ_of_login h.login]
      rfl
    rw [cookieAt, cookieAt, Store.cookieHeader, hcookie]
    rfl

theorem Undisturbed.waits (h : R.Undisturbed n m) (hm : R.moves[m]? = some (.turn n))
    (hfirst : R.firstAcceptable? n m = none) (hopen : R.closedBy n m = false) :
    R.Waits n (m + 1) ∧ R.stateAt (m + 1) = .loggingIn ∧ R.cookieAt (m + 1) = R.cookieAt n := by
  have hfind := R.findSome?_received n m (n + 1)
  obtain ⟨hstore, hreturns⟩ := h.turns_as_one hm
  rw [hfirst] at hfind
  rw [hopen, Store.proceed_listens h.live_at_first hfind] at hstore hreturns
  rw [storeAt_succ_of_login h.login] at hstore
  refine ⟨⟨Nat.lt_succ_of_lt h.before, fun k a _ hk ha => ?_⟩, ?_, ?_⟩
  · obtain ⟨result, rfl, -⟩ := answer_of_login h.login ha
    exact nomatch (hreturns result).mp ⟨k, Nat.le_of_lt_succ hk, ha⟩
  · rw [stateAt, hstore]
    rfl
  · rw [cookieAt, hstore]
    rfl

/-! ### Runs with one beginning -/

variable {R' : Run} {m' : Nat}

/-- Two runs are the same before a place. -/
structure SameBefore (R R' : Run) (n : Nat) : Prop where
  appUrl : R.appUrl = R'.appUrl
  moves : R.moves.take n = R'.moves.take n

theorem SameBefore.deskAt (h : SameBefore R R' n) : R.deskAt n = R'.deskAt n := by
  have hevents (Q : Run) : Q.events.take n = (Q.moves.take n).mapIdx Move.event := by
    refine List.ext_getElem? fun i => ?_
    rw [events, List.getElem?_take, List.getElem?_mapIdx, List.getElem?_mapIdx, List.getElem?_take]
    split <;> rfl
  rw [Run.deskAt, Run.deskAt, hevents, hevents, h.appUrl, h.moves]

theorem SameBefore.storeAt (h : SameBefore R R' n) : R.storeAt n = R'.storeAt n :=
  congrArg Desk.store h.deskAt

/-- Only the first acceptable message makes a difference, and the end of the messages where there is
none. -/
theorem SameBefore.ends_same (h : SameBefore R R' n) (hu : R.Undisturbed n m)
    (hm : R.moves[m]? = some (.turn n)) (hu' : R'.Undisturbed n m')
    (hm' : R'.moves[m']? = some (.turn n))
    (hfirst : R.firstAcceptable? n m = R'.firstAcceptable? n m')
    (hclosed : R.firstAcceptable? n m = none → R.closedBy n m = R'.closedBy n m') :
    (∀ result, (∃ k ≤ m, R.Returns n k result) ↔ ∃ k ≤ m', R'.Returns n k result) ∧
      R.storeAt (m + 1) = R'.storeAt (m' + 1) := by
  have hbegun : R.storeAt (n + 1) = R'.storeAt (n + 1) := by
    rw [storeAt_succ_of_login hu.login, storeAt_succ_of_login hu'.login, h.storeAt]
  have hflow : R.flowAt n = R'.flowAt n := by rw [flowAt, flowAt, h.storeAt]
  have hfind := R.findSome?_received n m (n + 1)
  have hall : (R.storeAt (n + 1)).proceed (R.flowAt n) (R.received n m) (R.closedBy n m) =
      (R'.storeAt (n + 1)).proceed (R'.flowAt n) (R'.received n m') (R'.closedBy n m') := by
    rw [← hbegun, ← hflow]
    refine Store.proceed_congr ?_ fun hnone => ?_
    · rw [hfind, hfirst, ← R'.findSome?_received n m' (n + 1), hbegun]
    · rw [hfind, Option.map_eq_none_iff] at hnone
      exact hclosed hnone
  obtain ⟨hstore, hreturns⟩ := hu.turns_as_one hm
  obtain ⟨hstore', hreturns'⟩ := hu'.turns_as_one hm'
  refine ⟨fun result => ?_, ?_⟩
  · rw [hreturns, hreturns', hall]
  · rw [hstore, hstore', hall]

/-- The first acceptable message decides a login. Let nothing disturb the login begun at `n`, and let
it have a turn at `m`. If an acceptable message was sent to it, then it returns the session of the
first one and nothing else, and that session is logged in, with its cookie. If none was sent and its
window was closed, then it ends as closed, nobody is logged in, and the cookie is what it was. If
none was sent and more can come, then it waits on and somebody is logging in. Two such logins with
the same beginning that were sent the same first acceptable message, or none and whose windows are
both closed or both open, return the same and leave the same store, whatever else was sent to them
before it or after it. And in every run, whatever happens in it, a session that is logged in
was restored, or sent to a login in an acceptable message. -/
theorem first_acceptable_decides :
    (∀ (R : Run) (n m : Nat), R.Undisturbed n m → R.moves[m]? = some (.turn n) →
      (∀ msg, R.firstAcceptable? n m = some msg →
        (∀ result, (∃ k ≤ m, R.Returns n k result) ↔ result = .ok msg.session) ∧
        R.stateAt (m + 1) = .loggedIn msg.session ∧
        R.cookieAt (m + 1) = some (authorization msg.session)) ∧
      (R.firstAcceptable? n m = none → R.closedBy n m = true →
        (∀ result, (∃ k ≤ m, R.Returns n k result) ↔ result = .error .windowClosed) ∧
        R.stateAt (m + 1) = .loggedOut ∧ R.cookieAt (m + 1) = R.cookieAt n) ∧
      (R.firstAcceptable? n m = none → R.closedBy n m = false →
        R.Waits n (m + 1) ∧ R.stateAt (m + 1) = .loggingIn ∧
        R.cookieAt (m + 1) = R.cookieAt n)) ∧
    (∀ (R R' : Run) (n m m' : Nat), SameBefore R R' n →
      R.Undisturbed n m → R.moves[m]? = some (.turn n) →
      R'.Undisturbed n m' → R'.moves[m']? = some (.turn n) →
      R.firstAcceptable? n m = R'.firstAcceptable? n m' →
      (R.firstAcceptable? n m = none → R.closedBy n m = R'.closedBy n m') →
      (∀ result, (∃ k ≤ m, R.Returns n k result) ↔ ∃ k ≤ m', R'.Returns n k result) ∧
        R.storeAt (m + 1) = R'.storeAt (m' + 1)) ∧
    ∀ (R : Run) (m : Nat) (session : Session), R.stateAt m = .loggedIn session →
      R.Origin m session :=
  ⟨fun _ _ _ h hm => ⟨fun _ hfirst => h.accepts hm hfirst,
      fun hfirst hclosed => h.closes hm hfirst hclosed,
      fun hfirst hopen => h.waits hm hfirst hopen⟩,
    fun _ _ _ _ _ hbefore h hm h' hm' hfirst hclosed =>
      hbefore.ends_same h hm h' hm' hfirst hclosed,
    fun _ _ _ h => origin_of_loggedIn h⟩

/-- A message of the application with a token, and with seconds that are no number. -/
def welcome : Message :=
  ⟨"https://app.test//", .object [("token", .text "tok"), ("expiresIn", .text "soon")]⟩

/-- A login that is sent a message from elsewhere, one without a token, then two that it would accept,
and has turns in between. -/
def beset : Run where
  appUrl := "https://app.test/"
  moves := [.login, .message 0 ⟨"https://evil.test", .object [("token", .text "stolen")]⟩, .turn 0,
    .message 0 ⟨"https://app.test", .object [("token", .text "")]⟩, .message 0 welcome,
    .message 0 ⟨"https://app.test", .object [("token", .text "late")]⟩, .turn 0]

/-- A login that is sent the one message alone. -/
def spared : Run where
  appUrl := "https://app.test/"
  moves := [.login, .message 0 welcome, .turn 0]

theorem undisturbed_beset : beset.Undisturbed 0 6 where
  before := by decide
  login := rfl
  only k hk hkm := by
    have hplaces : k = 1 ∨ k = 2 ∨ k = 3 ∨ k = 4 ∨ k = 5 := by omega
    rcases hplaces with rfl | rfl | rfl | rfl | rfl <;> exact ⟨_, rfl, rfl⟩
  silent j k msg hj hjk hkm hclose := by
    have hplaces : j = 1 ∨ j = 2 ∨ j = 3 ∨ j = 4 := by omega
    rcases hplaces with rfl | rfl | rfl | rfl <;> cases hclose

theorem undisturbed_spared : spared.Undisturbed 0 2 where
  before := by decide
  login := rfl
  only k hk hkm := by
    have hplace : k = 1 := by omega
    subst hplace
    exact ⟨_, rfl, rfl⟩
  silent j k msg hj hjk hkm := by omega

theorem beset_ends_as_spared :
    (∀ result, (∃ k ≤ 6, beset.Returns 0 k result) ↔ result = .ok ⟨"tok", "", 0⟩) ∧
      beset.stateAt 7 = .loggedIn ⟨"tok", "", 0⟩ ∧
      beset.cookieAt 7 = some (authorization ⟨"tok", "", 0⟩) ∧
      beset.storeAt 7 = spared.storeAt 3 ∧ beset.Origin 7 ⟨"tok", "", 0⟩ := by
  obtain ⟨decides, same, origin⟩ := first_acceptable_decides
  have hfirst : beset.firstAcceptable? 0 6 = some welcome := rfl
  have hfirst' : spared.firstAcceptable? 0 2 = some welcome := rfl
  have hends := (decides beset 0 6 undisturbed_beset rfl).1 welcome hfirst
  have hsame := same beset spared 0 6 2 ⟨rfl, rfl⟩ undisturbed_beset rfl undisturbed_spared rfl
    (hfirst.trans hfirst'.symm) fun hnone => nomatch hfirst.symm.trans hnone
  exact ⟨hends.1, hends.2.1, hends.2.2, hsame.2, origin beset 7 _ hends.2.1⟩

end DatasetSearch.Account.Run
