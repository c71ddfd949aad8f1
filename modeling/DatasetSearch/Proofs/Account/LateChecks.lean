import DatasetSearch.Proofs.Account.Inbox

/-! Checks whose replies come late.

A check asks the server about the session that there is when it is begun, and its reply is taken as
being about whoever is logged in when it comes. A reply that confirms the session leaves the store
as it is; any other logs out. Nothing tells the two sessions apart: one that was established while
the check was waiting outlives its reply exactly when the reply confirms the session before it
(`late_check_spares_iff`). -/
namespace DatasetSearch.Account

/-- A reply that says that a session is good. -/
def Confirms (reply : Http.Reply) : Prop := ∃ body, reply = .response ⟨200, body⟩

namespace Store
variable {s : Store} {reply : Http.Reply}

theorem finishCheck_confirmed (h : Confirms reply) : s.finishCheck reply = (s, true) := by
  obtain ⟨body, rfl⟩ := h
  rfl

theorem finishCheck_refused (h : ¬Confirms reply) :
    s.finishCheck reply = (s.setLoggedOut, false) := by
  unfold finishCheck
  split
  · next body => exact absurd ⟨body, rfl⟩ h
  · rfl

end Store

namespace Run

/-- A move logs a session in: it restores it, or a login returns it. -/
def Established (R : Run) (k : Nat) (session : Session) : Prop :=
  R.moves[k]? = some (.restore session) ∨ ∃ n, R.Returns n k (.ok session)

/-- The check begun at `n` is replied to at `m`, while a session is logged in that was established
after it was begun, at `k`. -/
structure Overtaken (R : Run) (n k m : Nat) (session : Session) (reply : Http.Reply) : Prop where
  check : R.moves[n]? = some .check
  established : R.Established k session
  order : n < k ∧ k < m
  loggedIn : R.stateAt m = .loggedIn session
  waits : R.Waits n m
  replied : R.moves[m]? = some (.reply n reply)

/-- No check ends a session that was established after it was begun. -/
def NewerSessionsStay (R : Run) : Prop :=
  ∀ n k m session reply, R.Overtaken n k m session reply →
    R.stateAt (m + 1) = .loggedIn session ∧ R.cookieAt (m + 1) = some (authorization session)

variable {R : Run} {m n k : Nat} {session : Session} {reply : Http.Reply}

/-! ### The reply to a check -/

/-- A call that is no login waits as it is until it is answered. -/
theorem mem_waitingAt_succ {w : Waiting} (noLogin : ∀ f inbox closed, w ≠ .login f inbox closed)
    (h : (n, w) ∈ R.waitingAt m) (noAnswer : ∀ a, ¬R.Answers n m a) :
    (n, w) ∈ R.waitingAt (m + 1) := by
  have others {store : Store} {call : Nat} {a : Answer}
      (leaves : R.Leaves m store (without (R.waitingAt m) call) [(call, a)]) :
      (n, w) ∈ R.waitingAt (m + 1) := by
    rw [leaves.waiting]
    refine mem_without.mpr ⟨h, fun hn => ?_⟩
    cases hn
    exact noAnswer a (answers_of_leaves leaves)
  cases R.happens m with
  | restored _ _ leaves => exact leaves.waiting ▸ h
  | nothing _ leaves => exact leaves.waiting ▸ h
  | loginBegins _ leaves => exact leaves.waiting ▸ List.mem_append_left _ h
  | asks _ _ _ leaves => exact leaves.waiting ▸ List.mem_append_left _ h
  | listens call _ _ _ _ _ waits _ leaves =>
    have hne : n ≠ call := by
      rintro rfl
      rw [(lookup_eq_some_iff_mem (R.named m).distinct).mpr h] at waits
      exact noLogin _ _ _ (Option.some.inj waits)
    rw [leaves.waiting]
    exact List.mem_map.mpr ⟨_, h, if_neg hne⟩
  | superseded _ _ _ _ _ _ _ leaves => exact others leaves
  | loginEnds _ _ _ _ _ _ _ _ _ _ leaves => exact others leaves
  | checked _ _ _ _ leaves => exact others leaves
  | loggedOut _ _ _ _ leaves => exact others leaves

theorem leaves_check (h : R.moves[m]? = some .check) :
    R.Leaves m (R.storeAt m) (R.waitingAt m ++ [(m, .check)]) [] :=
  leaves_of_step h { requests := [_] } rfl

theorem mem_waitingAt_of_check (hn : R.moves[n]? = some .check) (hw : R.Waits n m) :
    (n, .check) ∈ R.waitingAt m := by
  have hlt := hw.1
  induction hlt with
  | refl =>
    rw [(leaves_check hn).waiting]
    exact List.mem_append_right _ (List.mem_singleton_self _)
  | @step m hlt ih =>
    obtain ⟨hbefore, noAnswer⟩ := waits_succ.mp hw
    have hwaits := hbefore.resolve_right (Nat.ne_of_lt hlt)
    exact mem_waitingAt_succ nofun (ih hwaits) noAnswer

theorem leaves_check_reply (hn : R.moves[n]? = some .check) (hw : R.Waits n m)
    (hm : R.moves[m]? = some (.reply n reply)) :
    R.Leaves m ((R.storeAt m).finishCheck reply).1 (without (R.waitingAt m) n)
      [(n, .check ((R.storeAt m).finishCheck reply).2)] := by
  have hlookup := (lookup_eq_some_iff_mem (R.named m).distinct).mpr (mem_waitingAt_of_check hn hw)
  have hstep := step_reply (R := R) (m := m) (n := n) reply
  rw [hlookup] at hstep
  exact leaves_of_step hm _ hstep

theorem check_confirmed (hn : R.moves[n]? = some .check) (hw : R.Waits n m)
    (hm : R.moves[m]? = some (.reply n reply)) (h : Confirms reply) :
    R.Answers n m (.check true) ∧ R.storeAt (m + 1) = R.storeAt m := by
  have leaves := leaves_check_reply hn hw hm
  rw [Store.finishCheck_confirmed h] at leaves
  exact ⟨answers_of_leaves leaves, leaves.store⟩

theorem check_refused (hn : R.moves[n]? = some .check) (hw : R.Waits n m)
    (hm : R.moves[m]? = some (.reply n reply)) (h : ¬Confirms reply) :
    R.Answers n m (.check false) ∧ R.stateAt (m + 1) = .loggedOut ∧ R.cookieAt (m + 1) = none := by
  have leaves := leaves_check_reply hn hw hm
  rw [Store.finishCheck_refused h] at leaves
  refine ⟨answers_of_leaves leaves, ?_, ?_⟩
  · rw [stateAt, leaves.store]
    rfl
  · rw [cookieAt, leaves.store]
    rfl

/-! ### Sessions that are logged in -/

theorem cookieAt_of_loggedIn (h : R.stateAt m = .loggedIn session) :
    R.cookieAt m = some (authorization session) := by
  rw [cookieAt_eq, heldAt_of_loggedIn h]
  rfl

theorem Established.loggedIn (h : R.Established k session) :
    R.stateAt (k + 1) = .loggedIn session := by
  rcases h with hk | ⟨n, ha⟩
  · have leaves : R.Leaves k ((R.storeAt k).restore session) (R.waitingAt k) [] :=
      leaves_of_step hk {} rfl
    rw [stateAt, leaves.store]
    rfl
  · cases R.happens k with
    | loginEnds call f inbox closed store result waits move live ends leaves =>
      obtain ⟨-, hresult⟩ := eq_of_answers leaves ha
      cases hresult
      rw [stateAt, leaves.store]
      cases ends
      rfl
    | superseded _ _ _ _ _ _ _ leaves => cases (eq_of_answers leaves ha).2
    | checked _ _ _ _ leaves => cases (eq_of_answers leaves ha).2
    | loggedOut _ _ _ _ leaves => cases (eq_of_answers leaves ha).2
    | restored _ _ leaves => exact absurd ha (not_answers leaves)
    | loginBegins _ leaves => exact absurd ha (not_answers leaves)
    | asks _ _ _ leaves => exact absurd ha (not_answers leaves)
    | listens _ _ _ _ _ _ _ _ leaves => exact absurd ha (not_answers leaves)
    | nothing _ leaves => exact absurd ha (not_answers leaves)

/-- A move that announces no state leaves it. -/
theorem stateAt_succ_of_silent (h : R.Silent m) : R.stateAt (m + 1) = R.stateAt m := by
  have same {waiting : List (Nat × Waiting)} {answers : List (Nat × Answer)}
      (leaves : R.Leaves m (R.storeAt m) waiting answers) : R.stateAt (m + 1) = R.stateAt m := by
    rw [stateAt, leaves.store, stateAt]
  cases R.happens m with
  | restored _ _ leaves => exact absurd h (loud_of_announce leaves.store rfl)
  | loginBegins _ leaves => exact absurd h (loud_of_announce leaves.store rfl)
  | loginEnds _ _ _ _ _ _ _ _ _ ends leaves =>
    cases ends with
    | accepted => exact absurd h (loud_of_announce leaves.store Store.endFlow_announced)
    | closed => exact absurd h (loud_of_announce leaves.store Store.endFlow_announced)
  | checked _ reply _ _ leaves =>
    by_cases hr : Confirms reply
    · rw [Store.finishCheck_confirmed hr] at leaves
      exact same leaves
    · rw [Store.finishCheck_refused hr] at leaves
      exact absurd h (loud_of_announce leaves.store rfl)
  | loggedOut _ _ _ _ leaves => exact absurd h (loud_of_announce leaves.store rfl)
  | asks _ _ _ leaves => exact same leaves
  | listens _ _ _ _ _ _ _ _ leaves => exact same leaves
  | superseded _ _ _ _ _ _ _ leaves => exact same leaves
  | nothing _ leaves => exact same leaves

/-- An established session is logged in until another state is announced. -/
theorem Established.stays (h : R.Established k session) (hk : k < m)
    (silent : ∀ j, k < j → j < m → R.Silent j) : R.stateAt m = .loggedIn session := by
  induction hk with
  | refl => exact h.loggedIn
  | @step m hk ih =>
    rw [stateAt_succ_of_silent (silent m hk (Nat.lt_succ_self m))]
    exact ih fun j hkj hjm => silent j hkj (Nat.lt_succ_of_lt hjm)

/-! ### Overtaken checks -/

theorem Overtaken.spares_iff (h : R.Overtaken n k m session reply) :
    (R.stateAt (m + 1) = .loggedIn session ∧ R.cookieAt (m + 1) = some (authorization session)) ↔
      Confirms reply := by
  constructor
  · rintro ⟨hstate, -⟩
    refine Classical.byContradiction fun hr => ?_
    rw [(check_refused h.check h.waits h.replied hr).2.1] at hstate
    cases hstate
  · intro hr
    have hstate : R.stateAt (m + 1) = .loggedIn session := by
      rw [stateAt, (check_confirmed h.check h.waits h.replied hr).2]
      exact h.loggedIn
    exact ⟨hstate, cookieAt_of_loggedIn hstate⟩

/-- What the reply to a check does. One that confirms the session leaves the store as it is, and any
other, also one that failed, leaves nobody logged in and no cookie. A session that was established
stays logged in, with its cookie, until a state is announced. If it is logged in when the reply to a
check comes that was begun before it, then it stays, with its cookie, exactly when that reply
confirms. So newer sessions stay all along a run exactly when all replies to overtaken checks
confirm. -/
theorem late_check_spares_iff (R : Run) :
    (∀ n m reply, R.moves[n]? = some .check → R.Waits n m →
      R.moves[m]? = some (.reply n reply) →
      (Confirms reply → R.Answers n m (.check true) ∧ R.storeAt (m + 1) = R.storeAt m) ∧
      (¬Confirms reply → R.Answers n m (.check false) ∧ R.stateAt (m + 1) = .loggedOut ∧
        R.cookieAt (m + 1) = none)) ∧
    (∀ k m session, R.Established k session → k < m → (∀ j, k < j → j < m → R.Silent j) →
      R.stateAt m = .loggedIn session ∧ R.cookieAt m = some (authorization session)) ∧
    (∀ n k m session reply, R.Overtaken n k m session reply →
      (R.stateAt (m + 1) = .loggedIn session ∧
        R.cookieAt (m + 1) = some (authorization session) ↔ Confirms reply)) ∧
    (R.NewerSessionsStay ↔
      ∀ n k m session reply, R.Overtaken n k m session reply → Confirms reply) := by
  refine ⟨fun n m reply hn hw hm => ⟨check_confirmed hn hw hm, check_refused hn hw hm⟩,
    fun k m session hk hlt silent => ?_, fun n k m session reply h => h.spares_iff, ?_, ?_⟩
  · have hstate := hk.stays hlt silent
    exact ⟨hstate, cookieAt_of_loggedIn hstate⟩
  · exact fun stay n k m session reply h => h.spares_iff.mp (stay n k m session reply h)
  · exact fun confirm n k m session reply h => h.spares_iff.mpr (confirm n k m session reply h)

/-- A message of the application with a token. -/
def renewal : Message := ⟨"https://app.test", .object [("token", .text "new")]⟩

/-- A session is checked. While the check waits, the user logs in anew; then its reply comes. -/
def loginDuringCheck (status : Nat) : Run where
  appUrl := "https://app.test"
  moves := [.restore ⟨"old", "0000-0002-1825-0097", 3600⟩, .check, .login, .message 2 renewal, .turn 2,
    .reply 1 (.response ⟨status, ""⟩)]

/-- The login returns the session of its message. -/
theorem leaves_loginDuringCheck (status : Nat) :
    let R := loginDuringCheck status
    R.Leaves 4 (((R.storeAt 4).endFlow (R.flowAt 2)).setLoggedIn renewal.session)
      (without (R.waitingAt 4) 2) [(2, .login (.ok renewal.session))] := by
  intro R
  have hlookup : (R.waitingAt 4).lookup 2 = some (.login (R.flowAt 2) [renewal] false) := rfl
  have hacceptable : renewal.Acceptable "https://app.test" := by decide
  have hfound : [renewal].findSome? (R.storeAt 4).accept = some renewal.session := by
    rw [Store.findSome?_accept (appUrl_storeAt R 4), List.find?_cons_of_pos (by simpa)]
    rfl
  exact leaves_turn rfl hlookup (Store.proceed_accepts rfl hfound)

theorem overtaken_loginDuringCheck (status : Nat) :
    (loginDuringCheck status).Overtaken 1 4 5 renewal.session (.response ⟨status, ""⟩) := by
  have leaves := leaves_loginDuringCheck status
  have established : (loginDuringCheck status).Established 4 renewal.session :=
    .inr ⟨2, answers_of_leaves leaves⟩
  have waits : ((loginDuringCheck status).waitingAt 5).lookup 1 = some .check :=
    leaves.waiting ▸ rfl
  exact ⟨rfl, established, by decide, established.loggedIn, waits_of_lookup waits, rfl⟩

/-- The server still knows the old session, and the new one stays. -/
theorem late_check_spares :
    (loginDuringCheck 200).stateAt 6 = .loggedIn ⟨"new", "", 0⟩ ∧
      (loginDuringCheck 200).cookieAt 6 = some (authorization ⟨"new", "", 0⟩) :=
  ((late_check_spares_iff (loginDuringCheck 200)).2.2.1 1 4 5 renewal.session _
    (overtaken_loginDuringCheck 200)).mpr ⟨"", rfl⟩

/-- The old session has run out, and the new one is logged out. -/
theorem late_check_ends_newer : ¬(loginDuringCheck 401).NewerSessionsStay := by
  intro stay
  have overtaken := overtaken_loginDuringCheck 401
  have hstate := (stay 1 4 5 _ _ overtaken).1
  have hrefused : ¬Confirms (.response ⟨401, ""⟩) := fun ⟨_, h⟩ => nomatch h
  rw [(check_refused overtaken.check overtaken.waits overtaken.replied hrefused).2.1] at hstate
  cases hstate

end Run
end DatasetSearch.Account
