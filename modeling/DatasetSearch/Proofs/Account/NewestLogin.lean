import DatasetSearch.Proofs.Account.Flows

/-! Only the newest login decides.

A login that is begun cancels the one before it. From then on whatever comes to the older one leaves
the store as it is, and at its next turn it ends as superseded, even if a session or the end of the
messages is already there for it to read. So while the state says that somebody is logging in, the
newest login is still waiting and may still decide. -/
namespace DatasetSearch.Account

/-- Whether a move brings something to a call or gives it its turn. -/
def Move.concerns (call : Nat) : Move → Bool
  | .message n _ => n == call
  | .close n => n == call
  | .turn n => n == call
  | .reply n _ => n == call
  | _ => false

namespace Run
variable {R : Run} {m n k : Nat} {f : Flow}

/-- A login is begun at `n`, and another at `k`, before `m`. -/
structure Replaced (R : Run) (n k m : Nat) : Prop where
  older : R.moves[n]? = some .login
  newer : R.moves[k]? = some .login
  order : n < k ∧ k < m

/-- The login begun at `n` is the latest begun before `m`. -/
structure Newest (R : Run) (n m : Nat) : Prop where
  before : n < m
  login : R.moves[n]? = some .login
  latest : ∀ k, n < k → k < m → R.moves[k]? ≠ some .login

/-- A replaced login does not have the last number. -/
theorem Replaced.id_lt (h : R.Replaced n k m) : (R.flowAt n).id < (R.storeAt m).flows := by
  have hlt := flowAt_id_lt h.older h.order.1
  have hle := R.flows_le (show k + 1 ≤ m from h.order.2)
  rw [flows_succ_of_login h.newer, ← flowAt_id] at hle
  omega

theorem Newest.id_eq (h : R.Newest n m) : (R.flowAt n).id = (R.storeAt m).flows := by
  obtain ⟨hn, hlogin, hlatest⟩ := h
  induction hn with
  | refl => rw [flows_succ_of_login hlogin, flowAt_id]
  | @step m hn ih =>
    have hm : R.moves[m]? ≠ some .login := hlatest m hn (Nat.lt_succ_self m)
    have hflows : (R.storeAt (m + 1)).flows = (R.storeAt m).flows := by
      cases R.flowMove m with
      | begins move _ => exact absurd move hm
      | ends _ _ _ _ _ _ flows _ => rw [flows.flows, Store.endFlow_flows]
      | kept _ flows _ _ => exact flows.flows
    rw [hflows]
    exact ih fun k hnk hkm => hlatest k hnk (Nat.lt_succ_of_lt hkm)

theorem newest_or_replaced (hn : R.moves[n]? = some .login) (hm : n < m) :
    R.Newest n m ∨ ∃ k, R.Replaced n k m := by
  by_cases h : ∃ k, n < k ∧ k < m ∧ R.moves[k]? = some .login
  · obtain ⟨k, hnk, hkm, hk⟩ := h
    exact .inr ⟨k, hn, hk, hnk, hkm⟩
  · exact .inl ⟨hm, hn, fun k hnk hkm hk => h ⟨k, hnk, hkm, hk⟩⟩

/-! ### Cancelled and live logins -/

/-- A login that waits is cancelled exactly when it was replaced. -/
theorem isCancelled_iff (hl : R.Listens n m f) :
    (R.storeAt m).tokens.isCancelled f.token = true ↔ ∃ k, R.Replaced n k m := by
  obtain ⟨hn, rfl, hw⟩ := listens_iff.mp hl
  rw [Tokens.isCancelled_iff]
  constructor
  · intro hc
    refine (newest_or_replaced hn hw.1).resolve_left fun hnew => ?_
    exact (R.guarded m).live _ ((R.guarded m).pends n _ hl hnew.id_eq) hc
  · rintro ⟨k, hk⟩
    refine ((R.guarded m).overtaken n _ hl).resolve_left fun hf => ?_
    have := (R.guarded m).latest _ hf
    have := hk.id_lt
    omega

theorem listens_of_waits (hn : R.moves[n]? = some .login) (hw : R.Waits n m) :
    R.Listens n m (R.flowAt n) :=
  listens_iff.mpr ⟨hn, rfl, hw⟩

/-- A replaced login ends as superseded at its next turn, whatever waits to be read. -/
theorem Replaced.returns (h : R.Replaced n k m) (hw : R.Waits n m)
    (hm : R.moves[m]? = some (.turn n)) : R.Returns n m (.error .superseded) := by
  have hl := listens_of_waits h.older hw
  obtain ⟨inbox, closed, hlookup⟩ := hl.lookup
  have hc := (isCancelled_iff hl).mpr ⟨k, h⟩
  exact answers_of_leaves (leaves_turn hm hlookup (Store.proceed_cancelled hc))

/-- What a move that concerns a call does: nothing to the store and the answers, or it ends what waits
under that name. -/
inductive Concerned (R : Run) (n m : Nat) : Prop where
  | quiet (store : R.storeAt (m + 1) = R.storeAt m) (noAnswer : ∀ call a, ¬R.Answers call m a)
  | superseded (f : Flow) (inbox : List Message) (closed : Bool)
      (waits : (R.waitingAt m).lookup n = some (.login f inbox closed))
      (cancelled : (R.storeAt m).tokens.isCancelled f.token = true)
      (store : R.storeAt (m + 1) = R.storeAt m)
  | loginEnds (f : Flow) (inbox : List Message) (closed : Bool) (store : Store)
      (result : Except LoginError Session)
      (waits : (R.waitingAt m).lookup n = some (.login f inbox closed))
      (live : (R.storeAt m).tokens.isCancelled f.token = false)
      (ends : Ends (R.storeAt m) f inbox closed store result)
      (leaves : R.Leaves m store (without (R.waitingAt m) n) [(n, .login result)])
  | asked (w : Waiting) (noLogin : ∀ f inbox closed, w ≠ .login f inbox closed)
      (waits : (R.waitingAt m).lookup n = some w)

theorem concerned {mv : Move} (hm : R.moves[m]? = some mv) (hc : mv.concerns n = true) :
    R.Concerned n m := by
  have called {mv' : Move} {call : Nat} (move : R.moves[m]? = some mv')
      (hcall : mv'.concerns n = (call == n)) : call = n := by
    rw [hm] at move
    cases move
    rw [hcall] at hc
    exact beq_iff_eq.mp hc
  have unconcerned {mv' : Move} (move : R.moves[m]? = some mv') (hcall : mv'.concerns n = false) :
      R.Concerned n m := by
    rw [hm] at move
    cases move
    rw [hcall] at hc
    cases hc
  cases R.happens m with
  | listens _ _ _ _ _ _ _ _ leaves => exact .quiet leaves.store fun _ _ => not_answers leaves
  | nothing _ leaves => exact .quiet leaves.store fun _ _ => not_answers leaves
  | asks _ _ _ leaves => exact .quiet leaves.store fun _ _ => not_answers leaves
  | restored _ move _ => exact unconcerned move rfl
  | loginBegins move _ => exact unconcerned move rfl
  | superseded call f inbox closed waits move cancelled leaves =>
    cases called move rfl
    exact .superseded f inbox closed waits cancelled leaves.store
  | loginEnds call f inbox closed store result waits move live ends leaves =>
    cases called move rfl
    exact .loginEnds f inbox closed store result waits live ends leaves
  | checked call _ waits move _ =>
    cases called move rfl
    exact .asked .check nofun waits
  | loggedOut call _ waits move _ =>
    cases called move rfl
    exact .asked .logout nofun waits

/-- Nothing that comes to a replaced login changes the store. -/
theorem Replaced.keeps (h : R.Replaced n k m) (hw : R.Waits n m) {mv : Move}
    (hm : R.moves[m]? = some mv) (hc : mv.concerns n = true) :
    R.storeAt (m + 1) = R.storeAt m := by
  obtain ⟨inbox, closed, hlookup⟩ := (listens_of_waits h.older hw).lookup
  cases concerned hm hc with
  | quiet store _ => exact store
  | superseded _ _ _ _ _ store => exact store
  | loginEnds _ _ _ _ _ waits live _ _ =>
    rw [(isCancelled_iff (listens_of_lookup waits)).mpr ⟨k, h⟩] at live
    cases live
  | asked w noLogin waits =>
    rw [hlookup] at waits
    exact absurd (Option.some.inj waits).symm (noLogin _ _ _)

/-! ### Answers to logins -/

/-- A login is answered with a result of its own, and as superseded exactly when it was replaced. -/
theorem answer_of_login (hn : R.moves[n]? = some .login) {a : Answer} (ha : R.Answers n m a) :
    ∃ result, a = .login result ∧ (result = .error .superseded ↔ ∃ k, R.Replaced n k m) := by
  have login {w : Waiting} (hw : (R.waitingAt m).lookup n = some w) :
      ∃ f inbox closed, w = .login f inbox closed := by
    obtain ⟨inbox, closed, hl⟩ := (listens_of_waits hn (waits_of_lookup hw)).lookup
    rw [hw] at hl
    exact ⟨_, inbox, closed, Option.some.inj hl⟩
  cases answeredBy ha with
  | superseded f _ _ waits cancelled answer =>
    exact ⟨_, answer, fun _ => (isCancelled_iff (listens_of_lookup waits)).mp cancelled,
      fun _ => rfl⟩
  | loginEnds f inbox closed store result waits live ends answer =>
    refine ⟨result, answer, fun hr => ?_, fun hk => ?_⟩
    · subst hr
      cases ends
    · rw [(isCancelled_iff (listens_of_lookup waits)).mpr hk] at live
      cases live
  | checked _ waits =>
    obtain ⟨_, _, _, hw⟩ := login waits
    cases hw
  | loggedOut waits =>
    obtain ⟨_, _, _, hw⟩ := login waits
    cases hw

/-- While somebody is logging in, it is the newest login, which waits and is not cancelled. -/
theorem newest_of_loggingIn (h : R.stateAt m = .loggingIn) :
    ∃ n, R.Newest n m ∧ R.Waits n m ∧ (R.storeAt m).pending = some (R.flowAt n) ∧
      (R.storeAt m).tokens.isCancelled (R.flowAt n).token = false := by
  obtain ⟨f, hf⟩ := (R.guarded m).loggingIn h
  obtain ⟨n, hl⟩ := (R.guarded m).waits f hf
  have hlive := Tokens.isCancelled_eq_false_iff.mpr ((R.guarded m).live f hf)
  have hreplaced : ¬∃ k, R.Replaced n k m := by
    intro hk
    rw [(isCancelled_iff hl).mpr hk] at hlive
    cases hlive
  obtain ⟨hn, rfl, hw⟩ := listens_iff.mp hl
  exact ⟨n, (newest_or_replaced hn hw.1).resolve_right hreplaced, hw, hf, hlive⟩

/-- Only the newest login decides. Once another login has been begun after it, a login that
waits ends as superseded at its next turn, whatever messages wait for it and whether more can come,
and nothing that comes to it changes the store. A login is answered once, and as superseded exactly
when another was begun after it. While the state is that somebody is logging in, the newest login is
pending, waits for its messages, and is not cancelled. -/
theorem newest_login_decides (R : Run) :
    (∀ n k m, R.Replaced n k m → R.Waits n m →
      (R.moves[m]? = some (.turn n) → R.Returns n m (.error .superseded)) ∧
        ∀ mv, R.moves[m]? = some mv → mv.concerns n = true → R.storeAt (m + 1) = R.storeAt m) ∧
    (∀ n m a, R.moves[n]? = some .login → R.Answers n m a → R.Waits n m ∧
      ∃ result, a = .login result ∧ (result = .error .superseded ↔ ∃ k, R.Replaced n k m)) ∧
    ∀ m, R.stateAt m = .loggingIn →
      ∃ n, R.Newest n m ∧ R.Waits n m ∧ (R.storeAt m).pending = some (R.flowAt n) ∧
        (R.storeAt m).tokens.isCancelled (R.flowAt n).token = false :=
  ⟨fun _ _ _ h hw => ⟨h.returns hw, fun _ => h.keeps hw⟩,
    fun _ _ _ hn ha => ⟨waits_of_answers ha, answer_of_login hn ha⟩,
    fun _ h => newest_of_loggingIn h⟩

/-- A second login is begun while the first waits. The first gets a message it would accept and has
its turn; then the window of the second is closed and it has its turn. -/
def twoLogins : Run where
  appUrl := "http://app"
  moves := [.login, .login, .message 0 ⟨"http://app", .object [("token", .text "t")]⟩, .turn 0,
    .close 1, .turn 1]

theorem newest_of_two_logins :
    twoLogins.Returns 0 3 (.error .superseded) ∧ twoLogins.stateAt 4 = .loggingIn ∧
      (∃ n, twoLogins.Newest n 4 ∧ twoLogins.Waits n 4) ∧
      twoLogins.Returns 1 5 (.error .windowClosed) ∧
      ¬∃ k, twoLogins.Replaced 1 k 5 := by
  have decides := newest_login_decides twoLogins
  have replaced : twoLogins.Replaced 0 1 3 := ⟨rfl, rfl, by decide, by decide⟩
  have first := (decides.1 0 1 3 replaced (waits_of_lookup rfl)).1 rfl
  have second : twoLogins.Returns 1 5 (.error .windowClosed) := List.mem_singleton.mpr rfl
  obtain ⟨n, newest, waits, _⟩ := decides.2.2 4 rfl
  refine ⟨first, rfl, ⟨n, newest, waits⟩, second, fun hk => ?_⟩
  obtain ⟨_, result, hresult, hiff⟩ := decides.2.1 1 5 _ rfl second
  cases hresult
  exact nomatch hiff.mpr hk

end Run
end DatasetSearch.Account
