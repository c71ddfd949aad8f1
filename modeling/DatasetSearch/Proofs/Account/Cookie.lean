import DatasetSearch.Proofs.Account.Moves

/-! The cookie and the login state.

The cookie is that of the session that was logged in last, until a check or a logout takes it away.
Whoever is logged in has the cookie of that session. A login whose window is closed announces that
nobody is logged in but leaves the cookie alone; if a session was held when it began, its cookie
stays. `cookie_follows_iff` says that this is the only way to be logged out with a cookie. -/
namespace DatasetSearch.Account

/-- The header with the cookie for a session. -/
def authorization (session : Session) : String :=
  Store.cookieText (Store.bearer session.token)

namespace Run

/-- The cookie header before the move at a place. -/
def cookieAt (R : Run) (m : Nat) : Option String := (R.storeAt m).cookieHeader

/-- The session that was logged in last, unless one was logged out since. -/
def heldAt (R : Run) : Nat → Option Session
  | 0 => none
  | m + 1 =>
    match R.moves[m]?, R.answersAt m with
    | some (.restore session), _ => some session
    | _, [(_, .login (.ok session))] => some session
    | _, [(_, .check false)] => none
    | _, [(_, .logout)] => none
    | _, _ => R.heldAt m

/-- The cookie is that of who is logged in, and there is none when nobody is. -/
structure CookieFollows (R : Run) (m : Nat) : Prop where
  loggedOut : R.stateAt m = .loggedOut → R.cookieAt m = none
  loggedIn : ∀ session, R.stateAt m = .loggedIn session →
    R.cookieAt m = some (authorization session)

/-- A move announces no state. -/
def Silent (R : Run) (m : Nat) : Prop :=
  (R.storeAt (m + 1)).announced = (R.storeAt m).announced

/-- A login window was closed while a session was held, and no state was announced since. -/
def Stale (R : Run) (m : Nat) : Prop :=
  ∃ n k, k < m ∧ R.Returns n k (.error .windowClosed) ∧ R.heldAt k ≠ none ∧
    ∀ j, k < j → j < m → R.Silent j

variable {R : Run} {m n : Nat}

/-! ### What a move does to state and cookie -/

/-- What a move is to the state and the cookie. -/
inductive CookieMove (R : Run) (m : Nat) : Prop where
  | logsIn (session : Session) (noWindow : ∀ n, ¬R.Returns n m (.error .windowClosed))
      (state : R.stateAt (m + 1) = .loggedIn session)
      (cookie : (R.storeAt (m + 1)).cookie = some (Store.bearer session.token))
      (held : R.heldAt (m + 1) = some session)
  | logsOut (loud : ¬R.Silent m) (noWindow : ∀ n, ¬R.Returns n m (.error .windowClosed))
      (state : R.stateAt (m + 1) = .loggedOut)
      (cookie : (R.storeAt (m + 1)).cookie = none) (held : R.heldAt (m + 1) = none)
  | begins (noWindow : ∀ n, ¬R.Returns n m (.error .windowClosed))
      (state : R.stateAt (m + 1) = .loggingIn)
      (cookie : (R.storeAt (m + 1)).cookie = (R.storeAt m).cookie)
      (held : R.heldAt (m + 1) = R.heldAt m)
  | windowCloses (n : Nat) (loud : ¬R.Silent m) (window : R.Returns n m (.error .windowClosed))
      (state : R.stateAt (m + 1) = .loggedOut)
      (cookie : (R.storeAt (m + 1)).cookie = (R.storeAt m).cookie)
      (held : R.heldAt (m + 1) = R.heldAt m)
  | silent (silent : R.Silent m) (noWindow : ∀ n, ¬R.Returns n m (.error .windowClosed))
      (state : R.stateAt (m + 1) = R.stateAt m)
      (cookie : (R.storeAt (m + 1)).cookie = (R.storeAt m).cookie)
      (held : R.heldAt (m + 1) = R.heldAt m)

/-- A move that leaves the store as it is and logs nobody in or out. -/
theorem cookieMove_of_same_store (hs : R.storeAt (m + 1) = R.storeAt m)
    (noWindow : ∀ n, ¬R.Returns n m (.error .windowClosed))
    (held : R.heldAt (m + 1) = R.heldAt m) : R.CookieMove m :=
  .silent (by rw [Silent, hs]) noWindow (by rw [stateAt, hs, stateAt]) (by rw [hs]) held

theorem loud_of_announce {s : Store} {state : State}
    (hs : R.storeAt (m + 1) = s.announce state) (ha : s.announced = (R.storeAt m).announced) :
    ¬R.Silent m := by
  rw [Silent, hs, ← ha]
  exact Nat.succ_ne_self s.announced

theorem heldAt_succ_of_quiet {store : Store} {waiting : List (Nat × Waiting)}
    (leaves : R.Leaves m store waiting []) (hm : ∀ session, R.moves[m]? ≠ some (.restore session)) :
    R.heldAt (m + 1) = R.heldAt m := by
  simp only [heldAt, leaves.answers]

theorem cookieMove_loginEnds {f : Flow} {inbox : List Message} {closed : Bool} {store : Store}
    {result : Except LoginError Session} (move : R.moves[m]? = some (.turn n))
    (ends : Ends (R.storeAt m) f inbox closed store result)
    (leaves : R.Leaves m store (without (R.waitingAt m) n) [(n, .login result)]) :
    R.CookieMove m := by
  cases ends with
  | accepted session _ =>
    refine .logsIn session (fun _ ha => nomatch (eq_of_answers leaves ha).2) ?_ ?_
      (by simp [heldAt, move, leaves.answers])
    · rw [stateAt, leaves.store]
      rfl
    · rw [leaves.store]
      rfl
  | closed _ _ =>
    refine .windowCloses n ?_ (answers_of_leaves leaves) ?_ ?_
      (by simp [heldAt, move, leaves.answers])
    · exact loud_of_announce leaves.store Store.endFlow_announced
    · rw [stateAt, leaves.store]
      rfl
    · rw [leaves.store]
      exact Store.endFlow_cookie

theorem cookieMove_loggedOut {waiting : List (Nat × Waiting)} {a : Answer}
    (leaves : R.Leaves m (R.storeAt m).setLoggedOut waiting [(n, a)])
    (noWindow : a ≠ .login (.error .windowClosed)) (held : R.heldAt (m + 1) = none) :
    R.CookieMove m := by
  refine .logsOut ?_ (fun n ha => noWindow (eq_of_answers leaves ha).2.symm) ?_ ?_ held
  · exact loud_of_announce leaves.store rfl
  · rw [stateAt, leaves.store]
    rfl
  · rw [leaves.store]
    rfl

theorem cookieMove_checked {reply : Http.Reply} (move : R.moves[m]? = some (.reply n reply))
    (leaves : R.Leaves m ((R.storeAt m).finishCheck reply).1 (without (R.waitingAt m) n)
      [(n, .check ((R.storeAt m).finishCheck reply).2)]) : R.CookieMove m := by
  unfold Store.finishCheck at leaves
  split at leaves
  · exact cookieMove_of_same_store leaves.store
      (fun _ ha => nomatch (eq_of_answers leaves ha).2) (by simp [heldAt, move, leaves.answers])
  · exact cookieMove_loggedOut leaves nofun (by simp [heldAt, move, leaves.answers])

theorem cookieMove (R : Run) (m : Nat) : R.CookieMove m := by
  cases R.happens m with
  | restored session move leaves =>
    refine .logsIn session (fun _ => not_answers leaves) ?_ ?_ (by simp [heldAt, move])
    · rw [stateAt, leaves.store]
      rfl
    · rw [leaves.store]
      rfl
  | loginBegins move leaves =>
    refine .begins (fun _ => not_answers leaves) ?_ ?_
      (heldAt_succ_of_quiet leaves (by simp [move]))
    · rw [stateAt, leaves.store]
      rfl
    · rw [leaves.store]
      rfl
  | loginEnds n f inbox closed store result waits move live ends leaves =>
    exact cookieMove_loginEnds move ends leaves
  | checked n reply waits move leaves => exact cookieMove_checked move leaves
  | loggedOut n reply waits move leaves =>
    exact cookieMove_loggedOut leaves nofun (by simp [heldAt, move, leaves.answers])
  | superseded n f inbox closed waits move cancelled leaves =>
    exact cookieMove_of_same_store leaves.store
      (fun _ ha => nomatch (eq_of_answers leaves ha).2) (by simp [heldAt, move, leaves.answers])
  | asks w noLogin move leaves =>
    exact cookieMove_of_same_store leaves.store (fun _ => not_answers leaves)
      (heldAt_succ_of_quiet leaves (by rcases move with move | move <;> simp [move]))
  | listens n f inbox inbox' closed closed' waits passive leaves =>
    exact cookieMove_of_same_store leaves.store (fun _ => not_answers leaves)
      (heldAt_succ_of_quiet leaves passive.noRestore)
  | nothing passive leaves =>
    exact cookieMove_of_same_store leaves.store (fun _ => not_answers leaves)
      (heldAt_succ_of_quiet leaves passive.noRestore)

/-! ### Whose cookie there is -/

theorem cookie_eq (R : Run) (m : Nat) :
    (R.storeAt m).cookie = (R.heldAt m).map fun session => Store.bearer session.token := by
  induction m with
  | zero => rfl
  | succ m ih =>
    cases R.cookieMove m with
    | logsIn session _ _ cookie held => rw [cookie, held]; rfl
    | logsOut _ _ _ cookie held => rw [cookie, held]; rfl
    | begins _ _ cookie held => rw [cookie, held, ih]
    | windowCloses _ _ _ _ cookie held => rw [cookie, held, ih]
    | silent _ _ _ cookie held => rw [cookie, held, ih]

theorem cookieAt_eq (R : Run) (m : Nat) : R.cookieAt m = (R.heldAt m).map authorization := by
  rw [cookieAt, Store.cookieHeader, cookie_eq, Option.map_map]
  rfl

theorem cookieAt_eq_none_iff : R.cookieAt m = none ↔ R.heldAt m = none := by
  rw [cookieAt_eq, Option.map_eq_none_iff]

/-- Whoever is logged in is the one that was logged in last. -/
theorem heldAt_of_loggedIn {session : Session} (h : R.stateAt m = .loggedIn session) :
    R.heldAt m = some session := by
  induction m with
  | zero => cases h
  | succ m ih =>
    cases R.cookieMove m with
    | logsIn session' _ state _ held =>
      rw [h] at state
      cases state
      exact held
    | logsOut _ _ state => rw [h] at state; cases state
    | begins _ state => rw [h] at state; cases state
    | windowCloses _ _ _ state => rw [h] at state; cases state
    | silent _ _ state _ held =>
      rw [held]
      exact ih (state ▸ h)

/-! ### Logged out with a cookie -/

theorem stale_succ : R.Stale (m + 1) ↔
    (∃ n, R.Returns n m (.error .windowClosed) ∧ R.heldAt m ≠ none) ∨ R.Stale m ∧ R.Silent m := by
  constructor
  · rintro ⟨n, k, hk, hwindow, hheld, hsilent⟩
    rcases Nat.lt_or_eq_of_le (Nat.le_of_lt_succ hk) with hlt | rfl
    · refine .inr ⟨⟨n, k, hlt, hwindow, hheld, fun j hkj hjm => ?_⟩, ?_⟩
      · exact hsilent j hkj (Nat.lt_succ_of_lt hjm)
      · exact hsilent m hlt (Nat.lt_succ_self m)
    · exact .inl ⟨n, hwindow, hheld⟩
  · rintro (⟨n, hwindow, hheld⟩ | ⟨⟨n, k, hk, hwindow, hheld, hsilent⟩, hm⟩)
    · exact ⟨n, m, Nat.lt_succ_self m, hwindow, hheld, fun j hmj hjm => by omega⟩
    · refine ⟨n, k, Nat.lt_succ_of_lt hk, hwindow, hheld, fun j hkj hjm => ?_⟩
      rcases Nat.lt_or_eq_of_le (Nat.le_of_lt_succ hjm) with hlt | rfl
      · exact hsilent j hkj hlt
      · exact hm

/-- Who is logged out still holds a session exactly when a closed window left it behind. -/
theorem heldAt_ne_none_iff (h : R.stateAt m = .loggedOut) : R.heldAt m ≠ none ↔ R.Stale m := by
  induction m with
  | zero => exact ⟨fun hne => absurd rfl hne, fun ⟨_, k, hk, _⟩ => absurd hk (Nat.not_lt_zero k)⟩
  | succ m ih =>
    rw [stale_succ]
    cases R.cookieMove m with
    | logsIn session _ state => rw [h] at state; cases state
    | begins _ state => rw [h] at state; cases state
    | logsOut loud noWindow _ _ held => simp [held, loud, noWindow]
    | windowCloses n loud window _ _ held =>
      rw [held]
      constructor
      · exact fun hheld => .inl ⟨n, window, hheld⟩
      · rintro (⟨_, _, hheld⟩ | ⟨_, hsilent⟩)
        · exact hheld
        · exact absurd hsilent loud
    | silent hsilent noWindow state _ held =>
      rw [held, ih (state ▸ h)]
      simp [hsilent, noWindow]

/-- After a window closed, nobody is logged in, and the session that was held is held on. -/
theorem after_window (h : R.Returns n m (.error .windowClosed)) :
    R.stateAt (m + 1) = .loggedOut ∧ R.heldAt (m + 1) = R.heldAt m := by
  cases R.cookieMove m with
  | windowCloses _ _ _ state _ held => exact ⟨state, held⟩
  | logsIn _ noWindow => exact absurd h (noWindow n)
  | logsOut _ noWindow => exact absurd h (noWindow n)
  | begins noWindow => exact absurd h (noWindow n)
  | silent _ noWindow => exact absurd h (noWindow n)

/-- The cookie and the login state. The cookie is always that of the session that was logged in last
and not logged out since; so whoever is logged in has the cookie of that session. Who is logged out
has no cookie, except where a login window was closed while a session was held and nothing was
announced since. So the cookie follows the login state all along a run exactly when no login window
is closed in it while there is a cookie. -/
theorem cookie_follows_iff (R : Run) :
    (∀ m, R.cookieAt m = (R.heldAt m).map authorization) ∧
    (∀ m session, R.stateAt m = .loggedIn session →
      R.cookieAt m = some (authorization session)) ∧
    (∀ m, R.stateAt m = .loggedOut → (R.cookieAt m = none ↔ ¬R.Stale m)) ∧
    ((∀ m, R.CookieFollows m) ↔
      ∀ n m, R.Returns n m (.error .windowClosed) → R.cookieAt m = none) := by
  have loggedIn (m : Nat) (session : Session) (h : R.stateAt m = .loggedIn session) :
      R.cookieAt m = some (authorization session) := by
    rw [cookieAt_eq, heldAt_of_loggedIn h]
    rfl
  have loggedOut (m : Nat) (h : R.stateAt m = .loggedOut) : R.cookieAt m = none ↔ ¬R.Stale m := by
    rw [← heldAt_ne_none_iff h, cookieAt_eq_none_iff, Decidable.not_not]
  refine ⟨R.cookieAt_eq, loggedIn, loggedOut, fun h n m hw => ?_,
    fun h m => ⟨fun hs => ?_, loggedIn m⟩⟩
  · obtain ⟨hstate, hheld⟩ := after_window hw
    have hnone := cookieAt_eq_none_iff.mp ((h (m + 1)).loggedOut hstate)
    exact cookieAt_eq_none_iff.mpr (hheld ▸ hnone)
  · refine (loggedOut m hs).mpr fun ⟨n, k, _, hwindow, hheld, _⟩ => ?_
    exact hheld (cookieAt_eq_none_iff.mp (h n k hwindow))

/-- A session is restored, and a login is begun over it whose window is closed. -/
def closedOverSession : Run where
  appUrl := "https://app.test"
  moves := [.restore ⟨"tok", "0000-0002-1825-0097", 3600⟩, .login, .close 1, .turn 1]

/-- Nobody is logged in any more, and the cookie of the session is still there. -/
theorem cookie_stays : ¬closedOverSession.CookieFollows 4 := by
  intro h
  have hnone : closedOverSession.cookieAt 4 = none := h.loggedOut rfl
  have hcookie : (closedOverSession.storeAt 4).cookie = some (Store.bearer "tok") := rfl
  rw [cookieAt, Store.cookieHeader, hcookie] at hnone
  cases hnone

end Run
end DatasetSearch.Account
