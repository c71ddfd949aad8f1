import DatasetSearch.Account.Desk
import DatasetSearch.Proofs.Account.Turns
import DatasetSearch.Proofs.Calls

/-! Runs of a login desk.

A run is a list of moves (`course`): sessions are restored, logins are begun, get messages, lose
their windows and have their turns, the server is asked about a session and replies. The places of
the moves serve as times, and a call is named by the place of the move that begins it. A login reads
all messages that have come when it has its turn; one that stops reading in between is the same as
one to which the other messages come later. `storeAt` and `waitingAt` are the store and the waiting
calls before the move at a place, `answersAt` is what that move answers. -/
namespace DatasetSearch.Account

/-- What is done to a desk. -/
inductive Move where
  | restore (session : Session)
  | login
  | message (call : Nat) (message : Message)
  | close (call : Nat)
  | turn (call : Nat)
  | check
  | logout
  | reply (call : Nat) (reply : Http.Reply)

/-- The event that a move at a place of a run is. -/
def Move.event (place : Nat) : Move → Event Nat
  | .restore session => .restore session
  | .login => .login place
  | .message call m => .message call m
  | .close call => .close call
  | .turn call => .turn call
  | .check => .check place
  | .logout => .logout place
  | .reply call r => .reply call r

/-- Moves on a new desk, with the address of the application. -/
structure Run where
  appUrl : String
  moves : List Move

namespace Run
variable (R : Run)

def events : List (Event Nat) := R.moves.mapIdx Move.event

/-- The desk before the move at a place. -/
def deskAt (m : Nat) : Desk Nat := (Desk.run ⟨Store.make R.appUrl, []⟩ (R.events.take m)).1

def storeAt (m : Nat) : Store := (R.deskAt m).store

def waitingAt (m : Nat) : List (Nat × Waiting) := (R.deskAt m).waiting

def stateAt (m : Nat) : State := (R.storeAt m).state

/-- The run as moves on a machine. -/
def course : Course (Desk Nat) (Event Nat) (Effects Nat) Move Store Waiting Answer where
  step := Desk.step
  run := Desk.run
  run_nil _ := rfl
  run_cons _ _ _ := rfl
  store := Desk.store
  waiting := Desk.waiting
  answers := Effects.answers
  first := ⟨Store.make R.appUrl, []⟩
  event := Move.event
  moves := R.moves

/-- The answers that the move at a place gives. -/
def answersAt (m : Nat) : List (Nat × Answer) := R.course.answersAt m

/-- The call begun at `n` is answered by the move at `m`. -/
def Answers (n m : Nat) (a : Answer) : Prop := (n, a) ∈ R.answersAt m

/-- The login begun at `n` is answered with a result by the move at `m`. -/
def Returns (n m : Nat) (result : Except LoginError Session) : Prop :=
  R.Answers n m (.login result)

/-- The call begun at `n` has not been answered before `m`. -/
def Waits (n m : Nat) : Prop := n < m ∧ ∀ k a, n ≤ k → k < m → ¬R.Answers n k a

/-- The flow that a login begun at a place has. -/
def flowAt (n : Nat) : Flow := (R.storeAt n).beginLogin.2

/-! ### One move at a time -/

variable {R} {m n : Nat}

/-- What the move at a place leaves behind. -/
abbrev Leaves (R : Run) := DatasetSearch.Leaves R.storeAt R.waitingAt R.answersAt

theorem leaves_of_step {mv : Move} (h : R.moves[m]? = some mv) {store : Store}
    {waiting : List (Nat × Waiting)} (effects : Effects Nat)
    (hs : (R.deskAt m).step (mv.event m) = (⟨store, waiting⟩, effects)) :
    R.Leaves m store waiting effects.answers :=
  R.course.leaves_of_step h hs

/-- The waiting calls with something else in the place of one. -/
def instead (waiting : List (Nat × Waiting)) (call : Nat) (w : Waiting) : List (Nat × Waiting) :=
  waiting.map fun x => if x.1 = call then (call, w) else x

theorem leaves_login (h : R.moves[m]? = some .login) :
    R.Leaves m (R.storeAt m).beginLogin.1
      (R.waitingAt m ++ [(m, .login (R.flowAt m) [] false)]) [] :=
  leaves_of_step h { opened := [_] } rfl

/-! ### What can happen -/

/-- How the turn of a login that was not cancelled ends it. -/
inductive Ends (s : Store) (f : Flow) (inbox : List Message) (closed : Bool) :
    Store → Except LoginError Session → Prop where
  | accepted (session : Session) (found : inbox.findSome? s.accept = some session) :
      Ends s f inbox closed ((s.endFlow f).setLoggedIn session) (.ok session)
  | closed (none : inbox.findSome? s.accept = none) (isClosed : closed = true) :
      Ends s f inbox closed ((s.endFlow f).announce .loggedOut) (.error .windowClosed)

/-- A move neither restores a session nor begins a login. -/
structure Passive (R : Run) (m : Nat) : Prop where
  noRestore : ∀ session, R.moves[m]? ≠ some (.restore session)
  noLogin : R.moves[m]? ≠ some .login

/-- All that can happen at a place of a run. -/
inductive Happens (R : Run) (m : Nat) : Prop where
  | restored (session : Session) (move : R.moves[m]? = some (.restore session))
      (leaves : R.Leaves m ((R.storeAt m).restore session) (R.waitingAt m) [])
  | loginBegins (move : R.moves[m]? = some .login)
      (leaves : R.Leaves m (R.storeAt m).beginLogin.1
        (R.waitingAt m ++ [(m, .login (R.flowAt m) [] false)]) [])
  | asks (w : Waiting) (noLogin : ∀ f inbox closed, w ≠ .login f inbox closed)
      (move : R.moves[m]? = some .check ∨ R.moves[m]? = some .logout)
      (leaves : R.Leaves m (R.storeAt m) (R.waitingAt m ++ [(m, w)]) [])
  | listens (n : Nat) (f : Flow) (inbox inbox' : List Message) (closed closed' : Bool)
      (waits : (R.waitingAt m).lookup n = some (.login f inbox closed)) (passive : R.Passive m)
      (leaves : R.Leaves m (R.storeAt m) (instead (R.waitingAt m) n (.login f inbox' closed')) [])
  | superseded (n : Nat) (f : Flow) (inbox : List Message) (closed : Bool)
      (waits : (R.waitingAt m).lookup n = some (.login f inbox closed))
      (move : R.moves[m]? = some (.turn n))
      (cancelled : (R.storeAt m).tokens.isCancelled f.token = true)
      (leaves : R.Leaves m (R.storeAt m) (without (R.waitingAt m) n)
        [(n, .login (.error .superseded))])
  | loginEnds (n : Nat) (f : Flow) (inbox : List Message) (closed : Bool) (store : Store)
      (result : Except LoginError Session)
      (waits : (R.waitingAt m).lookup n = some (.login f inbox closed))
      (move : R.moves[m]? = some (.turn n))
      (live : (R.storeAt m).tokens.isCancelled f.token = false)
      (ends : Ends (R.storeAt m) f inbox closed store result)
      (leaves : R.Leaves m store (without (R.waitingAt m) n) [(n, .login result)])
  | checked (n : Nat) (reply : Http.Reply) (waits : (R.waitingAt m).lookup n = some .check)
      (move : R.moves[m]? = some (.reply n reply))
      (leaves : R.Leaves m ((R.storeAt m).finishCheck reply).1 (without (R.waitingAt m) n)
        [(n, .check ((R.storeAt m).finishCheck reply).2)])
  | loggedOut (n : Nat) (reply : Http.Reply) (waits : (R.waitingAt m).lookup n = some .logout)
      (move : R.moves[m]? = some (.reply n reply))
      (leaves : R.Leaves m (R.storeAt m).setLoggedOut (without (R.waitingAt m) n) [(n, .logout)])
  | nothing (passive : R.Passive m) (leaves : R.Leaves m (R.storeAt m) (R.waitingAt m) [])

theorem step_message (message : Message) :
    Desk.step (R.deskAt m) ((Move.message n message).event m) =
    match (R.waitingAt m).lookup n with
    | some (.login f inbox closed) =>
      ((R.deskAt m).replace n (.login f (inbox ++ [message]) closed), {})
    | _ => (R.deskAt m, {}) := rfl

theorem happens_message {message : Message} (h : R.moves[m]? = some (.message n message)) :
    R.Happens m := by
  have passive : R.Passive m := ⟨by simp [h], by simp [h]⟩
  have hstep := step_message (R := R) (m := m) (n := n) message
  cases hw : (R.waitingAt m).lookup n with
  | none =>
    rw [hw] at hstep
    exact .nothing passive (leaves_of_step h _ hstep)
  | some w =>
    rw [hw] at hstep
    cases w with
    | login f inbox closed =>
      exact .listens n f inbox _ closed _ hw passive (leaves_of_step h _ hstep)
    | check => exact .nothing passive (leaves_of_step h _ hstep)
    | logout => exact .nothing passive (leaves_of_step h _ hstep)

theorem step_close : Desk.step (R.deskAt m) ((Move.close n).event m) =
    match (R.waitingAt m).lookup n with
    | some (.login f inbox _) => ((R.deskAt m).replace n (.login f inbox true), {})
    | _ => (R.deskAt m, {}) := rfl

theorem happens_close (h : R.moves[m]? = some (.close n)) : R.Happens m := by
  have passive : R.Passive m := ⟨by simp [h], by simp [h]⟩
  have hstep := step_close (R := R) (m := m) (n := n)
  cases hw : (R.waitingAt m).lookup n with
  | none =>
    rw [hw] at hstep
    exact .nothing passive (leaves_of_step h _ hstep)
  | some w =>
    rw [hw] at hstep
    cases w with
    | login f inbox closed =>
      exact .listens n f inbox _ closed _ hw passive (leaves_of_step h _ hstep)
    | check => exact .nothing passive (leaves_of_step h _ hstep)
    | logout => exact .nothing passive (leaves_of_step h _ hstep)

theorem step_turn : Desk.step (R.deskAt m) ((Move.turn n).event m) =
    match (R.waitingAt m).lookup n with
    | some (.login f inbox closed) => (R.deskAt m).takeTurn n f inbox closed
    | _ => (R.deskAt m, {}) := rfl

/-- A login that ends at its turn. -/
theorem leaves_turn {f : Flow} {inbox : List Message} {closed : Bool} {store : Store}
    {result : Except LoginError Session} (h : R.moves[m]? = some (.turn n))
    (hw : (R.waitingAt m).lookup n = some (.login f inbox closed))
    (hp : (R.storeAt m).proceed f inbox closed = (store, some result)) :
    R.Leaves m store (without (R.waitingAt m) n) [(n, .login result)] := by
  rw [storeAt] at hp
  refine leaves_of_step h (Desk.answered n (.login result)) ?_
  rw [step_turn, hw]
  simp only [Desk.takeTurn, hp]
  rfl

/-- A login that goes on listening after its turn. -/
theorem leaves_listening {f : Flow} {inbox : List Message} {closed : Bool}
    (h : R.moves[m]? = some (.turn n))
    (hw : (R.waitingAt m).lookup n = some (.login f inbox closed))
    (hp : (R.storeAt m).proceed f inbox closed = (R.storeAt m, none)) :
    R.Leaves m (R.storeAt m) (instead (R.waitingAt m) n (.login f [] closed)) [] := by
  rw [storeAt] at hp
  refine leaves_of_step h {} ?_
  rw [step_turn, hw]
  simp only [Desk.takeTurn, hp]
  rfl

/-- The turn of a login, case by case of how it proceeds. -/
theorem happens_login_turn {f : Flow} {inbox : List Message} {closed : Bool}
    (h : R.moves[m]? = some (.turn n))
    (hw : (R.waitingAt m).lookup n = some (.login f inbox closed)) : R.Happens m := by
  have passive : R.Passive m := ⟨by simp [h], by simp [h]⟩
  cases hc : (R.storeAt m).tokens.isCancelled f.token with
  | true =>
    exact .superseded n f inbox closed hw h hc (leaves_turn h hw (Store.proceed_cancelled hc))
  | false =>
    cases hs : inbox.findSome? (R.storeAt m).accept with
    | some session =>
      exact .loginEnds n f inbox closed _ _ hw h hc (.accepted session hs)
        (leaves_turn h hw (Store.proceed_accepts hc hs))
    | none =>
      cases closed with
      | true =>
        exact .loginEnds n f inbox true _ _ hw h hc (.closed hs rfl)
          (leaves_turn h hw (Store.proceed_closed hc hs))
      | false =>
        exact .listens n f inbox [] false false hw passive
          (leaves_listening h hw (Store.proceed_listens hc hs))

theorem happens_turn (h : R.moves[m]? = some (.turn n)) : R.Happens m := by
  have passive : R.Passive m := ⟨by simp [h], by simp [h]⟩
  have hstep := step_turn (R := R) (m := m) (n := n)
  cases hw : (R.waitingAt m).lookup n with
  | none =>
    rw [hw] at hstep
    exact .nothing passive (leaves_of_step h _ hstep)
  | some w =>
    rw [hw] at hstep
    cases w with
    | login f inbox closed => exact happens_login_turn h hw
    | check => exact .nothing passive (leaves_of_step h _ hstep)
    | logout => exact .nothing passive (leaves_of_step h _ hstep)

theorem step_reply (r : Http.Reply) : Desk.step (R.deskAt m) ((Move.reply n r).event m) =
    match (R.waitingAt m).lookup n with
    | some .check =>
      ({ (R.deskAt m).remove n with store := ((R.storeAt m).finishCheck r).1 },
        Desk.answered n (.check ((R.storeAt m).finishCheck r).2))
    | some .logout =>
      ({ (R.deskAt m).remove n with store := (R.storeAt m).setLoggedOut },
        Desk.answered n .logout)
    | _ => (R.deskAt m, {}) := rfl

theorem happens_reply {r : Http.Reply} (h : R.moves[m]? = some (.reply n r)) : R.Happens m := by
  have passive : R.Passive m := ⟨by simp [h], by simp [h]⟩
  have hstep := step_reply (R := R) (m := m) (n := n) r
  cases hw : (R.waitingAt m).lookup n with
  | none =>
    rw [hw] at hstep
    exact .nothing passive (leaves_of_step h _ hstep)
  | some w =>
    rw [hw] at hstep
    cases w with
    | login f inbox closed => exact .nothing passive (leaves_of_step h _ hstep)
    | check => exact .checked n r hw h (leaves_of_step h _ hstep)
    | logout => exact .loggedOut n r hw h (leaves_of_step h _ hstep)

theorem happens (R : Run) (m : Nat) : R.Happens m := by
  cases h : R.moves[m]? with
  | none => exact .nothing ⟨by simp [h], by simp [h]⟩ (R.course.leaves_past h)
  | some mv =>
    cases mv with
    | restore session => exact .restored session h (leaves_of_step h {} rfl)
    | login => exact .loginBegins h (leaves_login h)
    | message n message => exact happens_message h
    | close n => exact happens_close h
    | turn n => exact happens_turn h
    | check =>
      exact .asks .check (by simp) (.inl h) (leaves_of_step h { requests := [_] } rfl)
    | logout =>
      exact .asks .logout (by simp) (.inr h) (leaves_of_step h { requests := [_] } rfl)
    | reply n r => exact happens_reply h

/-! ### What answers a call -/

/-- Calls are answered at the turn of a login and at the reply to a request. -/
inductive AnsweredBy (R : Run) (n m : Nat) (a : Answer) : Prop where
  | superseded (f : Flow) (inbox : List Message) (closed : Bool)
      (waits : (R.waitingAt m).lookup n = some (.login f inbox closed))
      (cancelled : (R.storeAt m).tokens.isCancelled f.token = true)
      (answer : a = .login (.error .superseded))
  | loginEnds (f : Flow) (inbox : List Message) (closed : Bool) (store : Store)
      (result : Except LoginError Session)
      (waits : (R.waitingAt m).lookup n = some (.login f inbox closed))
      (live : (R.storeAt m).tokens.isCancelled f.token = false)
      (ends : Ends (R.storeAt m) f inbox closed store result) (answer : a = .login result)
  | checked (authorized : Bool) (waits : (R.waitingAt m).lookup n = some .check)
      (answer : a = .check authorized)
  | loggedOut (waits : (R.waitingAt m).lookup n = some .logout) (answer : a = .logout)

theorem answeredBy {a : Answer} (ha : R.Answers n m a) : R.AnsweredBy n m a := by
  cases R.happens m with
  | superseded call f inbox closed waits _ cancelled leaves =>
    obtain ⟨rfl, answer⟩ := eq_of_answers leaves ha
    exact .superseded f inbox closed waits cancelled answer
  | loginEnds call f inbox closed store result waits _ live ends leaves =>
    obtain ⟨rfl, answer⟩ := eq_of_answers leaves ha
    exact .loginEnds f inbox closed store result waits live ends answer
  | checked call reply waits _ leaves =>
    obtain ⟨rfl, answer⟩ := eq_of_answers leaves ha
    exact .checked _ waits answer
  | loggedOut call reply waits _ leaves =>
    obtain ⟨rfl, answer⟩ := eq_of_answers leaves ha
    exact .loggedOut waits answer
  | restored _ _ leaves => exact absurd ha (not_answers leaves)
  | loginBegins _ leaves => exact absurd ha (not_answers leaves)
  | asks _ _ _ leaves => exact absurd ha (not_answers leaves)
  | listens _ _ _ _ _ _ _ _ leaves => exact absurd ha (not_answers leaves)
  | nothing _ leaves => exact absurd ha (not_answers leaves)

end Run
end DatasetSearch.Account
