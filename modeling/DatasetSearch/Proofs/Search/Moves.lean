import DatasetSearch.Proofs.Calls
import DatasetSearch.Search.Desk

/-! Runs of a search desk.

A run is a list of moves (`course`): calls are begun, replies come in, cancelled calls notice that
they are, callers turn away, the results are cleared. The places of the moves serve as times, and a
call is named by the place of the move that begins it, so no two calls of a run share a name.
`storeAt` and `waitingAt` are the store and the waiting calls before the move at a place, `answersAt`
is what that move answers. What each kind of move does to them is said once, here. -/
namespace DatasetSearch.Search

/-- What is done to a desk. -/
inductive Move where
  | search (request : Request)
  | fetchMore (request : Request)
  | complete (scope : Scope) (term : String)
  | contentTypes
  | reply (call : Nat) (reply : Http.Reply)
  | notice (call : Nat)
  | abandon (call : Nat)
  | clear

/-- The event that a move at a place of a run is. -/
def Move.event (place : Nat) : Move → Event Nat
  | .search r => .search place r
  | .fetchMore r => .fetchMore place r
  | .complete scope term => .complete place scope term
  | .contentTypes => .contentTypes place
  | .reply call r => .reply call r
  | .notice call => .notice call
  | .abandon call => .abandon call
  | .clear => .clear

/-- Whether a move makes the searches before it pointless. -/
def Move.supersedes : Move → Bool
  | .search _ => true
  | .clear => true
  | _ => false

/-- Moves on a new desk, with the address of the server. -/
structure Run where
  base : String
  moves : List Move

namespace Run
variable (R : Run)

def events : List (Event Nat) := R.moves.mapIdx Move.event

/-- The desk before the move at a place. -/
def deskAt (m : Nat) : Desk Nat := (Desk.run R.base {} (R.events.take m)).1

def storeAt (m : Nat) : Store := (R.deskAt m).store

def waitingAt (m : Nat) : List (Nat × Waiting) := (R.deskAt m).waiting

/-- The records on the page before the move at a place. -/
def recordsAt (m : Nat) : List Record := (R.storeAt m).results.records

def statusAt (m : Nat) : Status := (R.storeAt m).status

/-- The run as moves on a machine. -/
def course : Course (Desk Nat) (Event Nat) (Effects Nat) Move Store Waiting Answer where
  step := Desk.step R.base
  run := Desk.run R.base
  run_nil _ := rfl
  run_cons _ _ _ := rfl
  store := Desk.store
  waiting := Desk.waiting
  answers := Effects.answers
  first := {}
  event := Move.event
  moves := R.moves

/-- The answers that the move at a place gives. -/
def answersAt (m : Nat) : List (Nat × Answer) := R.course.answersAt m

/-- The call begun at `n` is answered with a result by the move at `m`. -/
def Answers (n m : Nat) (result : Except Error Outcome) : Prop :=
  (n, .outcome result) ∈ R.answersAt m

/-- The call begun at `n` has neither been answered nor abandoned before `m`. -/
def Waits (n m : Nat) : Prop :=
  n < m ∧ ∀ k, n ≤ k → k < m → (∀ a, (n, a) ∉ R.answersAt k) ∧ R.moves[k]? ≠ some (.abandon n)

/-- A search or a clearing begins at a place. -/
def Supersedes (k : Nat) : Prop := R.moves[k]?.any Move.supersedes = true

/-- Another search, or a clearing, began between two places. -/
def Overtaken (n m : Nat) : Prop := ∃ k, n < k ∧ k < m ∧ R.Supersedes k

/-- The call that the move at a place begins, if it waits for a reply. -/
def begun (n : Nat) : Option Waiting :=
  match R.moves[n]? with
  | some (.search r) => some (.search ((R.storeAt n).begin R.base r).2)
  | some (.fetchMore r) => ((R.storeAt n).beginMore R.base r).map .more
  | some (.complete scope term) => some (.texts (completionUrl R.base scope term))
  | some .contentTypes => some (.texts (contentTypesUrl R.base))
  | _ => none

/-- How many searches and clearings began before a place. -/
def generationAt (m : Nat) : Nat := (R.moves.take m).countP Move.supersedes

/-! ### One move at a time -/

variable {R} {m n : Nat}

/-- What the move at a place leaves behind. -/
abbrev Leaves (R : Run) := DatasetSearch.Leaves R.storeAt R.waitingAt R.answersAt

theorem leaves_of_step {mv : Move} (h : R.moves[m]? = some mv) {store : Store}
    {waiting : List (Nat × Waiting)} {answers : List (Nat × Answer)}
    (hs : ∃ requests, (R.deskAt m).step R.base (mv.event m) =
      (⟨store, waiting⟩, ⟨requests, answers⟩)) : R.Leaves m store waiting answers := by
  obtain ⟨requests, hs⟩ := hs
  exact R.course.leaves_of_step h hs

theorem leaves_search {r : Request} (h : R.moves[m]? = some (.search r)) :
    R.Leaves m ((R.storeAt m).begin R.base r).1
      (R.waitingAt m ++ [(m, .search ((R.storeAt m).begin R.base r).2)]) [] :=
  leaves_of_step h ⟨_, rfl⟩

theorem leaves_clear (h : R.moves[m]? = some .clear) :
    R.Leaves m (R.storeAt m).clear (R.waitingAt m) [] :=
  leaves_of_step h ⟨_, rfl⟩

theorem leaves_more {r : Request} (h : R.moves[m]? = some (.fetchMore r)) {c : Continuation}
    (hc : (R.storeAt m).beginMore R.base r = some c) :
    R.Leaves m (R.storeAt m) (R.waitingAt m ++ [(m, .more c)]) [] := by
  rw [storeAt] at hc
  refine leaves_of_step h ⟨[{ url := c.url }], ?_⟩
  simp only [Move.event, Desk.step, hc]
  rfl

/-- With no records shown, a call for more is answered at once. -/
theorem leaves_nothing_more {r : Request} (h : R.moves[m]? = some (.fetchMore r))
    (hc : (R.storeAt m).beginMore R.base r = none) :
    R.Leaves m (R.storeAt m) (R.waitingAt m) [(m, .outcome (.ok Store.nothingMore))] := by
  rw [storeAt] at hc
  refine leaves_of_step h ⟨[], ?_⟩
  simp only [Move.event, Desk.step, hc]
  rfl

theorem leaves_complete {scope : Scope} {term : String}
    (h : R.moves[m]? = some (.complete scope term)) :
    R.Leaves m (R.storeAt m)
      (R.waitingAt m ++ [(m, .texts (completionUrl R.base scope term))]) [] :=
  leaves_of_step h ⟨_, rfl⟩

theorem leaves_contentTypes (h : R.moves[m]? = some .contentTypes) :
    R.Leaves m (R.storeAt m) (R.waitingAt m ++ [(m, .texts (contentTypesUrl R.base))]) [] :=
  leaves_of_step h ⟨_, rfl⟩

theorem leaves_abandon (h : R.moves[m]? = some (.abandon n)) :
    R.Leaves m (R.storeAt m) (without (R.waitingAt m) n) [] :=
  leaves_of_step h ⟨_, rfl⟩

/-- A reply to a call that does not wait is lost. -/
theorem leaves_stray_reply {reply : Http.Reply} (h : R.moves[m]? = some (.reply n reply))
    (hw : (R.waitingAt m).lookup n = none) : R.Leaves m (R.storeAt m) (R.waitingAt m) [] := by
  rw [waitingAt] at hw
  refine leaves_of_step h ⟨[], ?_⟩
  simp only [Move.event, Desk.step, hw]
  rfl

theorem leaves_search_reply {reply : Http.Reply} (h : R.moves[m]? = some (.reply n reply))
    {t : Ticket} (hw : (R.waitingAt m).lookup n = some (.search t)) :
    R.Leaves m ((R.storeAt m).finish t reply).1 (without (R.waitingAt m) n)
      [(n, .outcome ((R.storeAt m).finish t reply).2)] := by
  rw [waitingAt] at hw
  refine leaves_of_step h ⟨[], ?_⟩
  simp only [Move.event, Desk.step, hw]
  rfl

theorem leaves_more_reply {reply : Http.Reply} (h : R.moves[m]? = some (.reply n reply))
    {c : Continuation} (hw : (R.waitingAt m).lookup n = some (.more c)) :
    R.Leaves m ((R.storeAt m).finishMore c reply).1 (without (R.waitingAt m) n)
      [(n, .outcome ((R.storeAt m).finishMore c reply).2)] := by
  rw [waitingAt] at hw
  refine leaves_of_step h ⟨[], ?_⟩
  simp only [Move.event, Desk.step, hw]
  rfl

theorem leaves_texts_reply {reply : Http.Reply} (h : R.moves[m]? = some (.reply n reply))
    {url : String} (hw : (R.waitingAt m).lookup n = some (.texts url)) :
    R.Leaves m (R.storeAt m) (without (R.waitingAt m) n) [(n, .texts (textsIn url reply))] := by
  rw [waitingAt] at hw
  refine leaves_of_step h ⟨[], ?_⟩
  simp only [Move.event, Desk.step, hw]
  rfl

/-- A cancelled search ends when it notices. -/
theorem leaves_cancelled (h : R.moves[m]? = some (.notice n)) {t : Ticket}
    (hw : (R.waitingAt m).lookup n = some (.search t))
    (hc : (R.storeAt m).tokens.isCancelled t.token = true) :
    R.Leaves m ((R.storeAt m).settle t (.error .superseded)).1 (without (R.waitingAt m) n)
      [(n, .outcome ((R.storeAt m).settle t (.error .superseded)).2)] := by
  rw [waitingAt] at hw
  rw [storeAt] at hc
  refine leaves_of_step h ⟨[], ?_⟩
  simp only [Move.event, Desk.step, hw, Desk.noticeCancelled, if_pos hc]
  rfl

/-- No other call has anything to notice. -/
theorem leaves_notice (h : R.moves[m]? = some (.notice n))
    (hn : ∀ t, (R.waitingAt m).lookup n = some (.search t) →
      (R.storeAt m).tokens.isCancelled t.token = false) :
    R.Leaves m (R.storeAt m) (R.waitingAt m) [] := by
  rw [waitingAt, storeAt] at hn
  refine leaves_of_step h ⟨[], ?_⟩
  show Desk.step _ _ (.notice n) = (R.deskAt m, {})
  cases hw : (R.deskAt m).waiting.lookup n with
  | none => simp only [Desk.step, hw]
  | some w =>
    cases w with
    | search t => simp [Desk.step, hw, Desk.noticeCancelled, hn t hw]
    | more c => simp only [Desk.step, hw, Desk.noticeCancelled]
    | texts url => simp only [Desk.step, hw, Desk.noticeCancelled]

/-! ### What can happen -/

/-- How a search comes to its end: with its reply, which it looks at unless it was cancelled, or by
noticing that it was. -/
inductive Found (R : Run) (m n : Nat) (t : Ticket) : Except Error (List Record) → Prop where
  | reply (r : Http.Reply) (move : R.moves[m]? = some (.reply n r)) :
      Found R m n t (if (R.storeAt m).tokens.isCancelled t.token then .error .superseded
        else recordsIn t.url r)
  | notice (move : R.moves[m]? = some (.notice n))
      (cancelled : (R.storeAt m).tokens.isCancelled t.token = true) :
      Found R m n t (.error .superseded)

/-- All that can happen at a place of a run. -/
inductive Happens (R : Run) (m : Nat) : Prop where
  | search (r : Request) (move : R.moves[m]? = some (.search r))
      (leaves : R.Leaves m ((R.storeAt m).begin R.base r).1
        (R.waitingAt m ++ [(m, .search ((R.storeAt m).begin R.base r).2)]) [])
  | clear (move : R.moves[m]? = some .clear)
      (leaves : R.Leaves m (R.storeAt m).clear (R.waitingAt m) [])
  | begins (w : Waiting) (begun : R.begun m = some w) (noSearch : ∀ t, w ≠ .search t)
      (kept : ¬R.Supersedes m)
      (leaves : R.Leaves m (R.storeAt m) (R.waitingAt m ++ [(m, w)]) [])
  | nothingMore (r : Request) (move : R.moves[m]? = some (.fetchMore r))
      (none : (R.storeAt m).beginMore R.base r = none)
      (leaves : R.Leaves m (R.storeAt m) (R.waitingAt m)
        [(m, .outcome (.ok Store.nothingMore))])
  | searchEnds (n : Nat) (t : Ticket) (found : Except Error (List Record))
      (waits : (R.waitingAt m).lookup n = some (.search t)) (how : Found R m n t found)
      (leaves : R.Leaves m ((R.storeAt m).settle t found).1 (without (R.waitingAt m) n)
        [(n, .outcome ((R.storeAt m).settle t found).2)])
  | moreEnds (n : Nat) (c : Continuation) (reply : Http.Reply)
      (waits : (R.waitingAt m).lookup n = some (.more c))
      (move : R.moves[m]? = some (.reply n reply))
      (leaves : R.Leaves m ((R.storeAt m).finishMore c reply).1 (without (R.waitingAt m) n)
        [(n, .outcome ((R.storeAt m).finishMore c reply).2)])
  | textsEnd (n : Nat) (url : String) (reply : Http.Reply)
      (waits : (R.waitingAt m).lookup n = some (.texts url))
      (move : R.moves[m]? = some (.reply n reply))
      (leaves : R.Leaves m (R.storeAt m) (without (R.waitingAt m) n)
        [(n, .texts (textsIn url reply))])
  | abandoned (n : Nat) (move : R.moves[m]? = some (.abandon n))
      (leaves : R.Leaves m (R.storeAt m) (without (R.waitingAt m) n) [])
  | nothing (kept : ¬R.Supersedes m) (stays : ∀ n, R.moves[m]? ≠ some (.abandon n))
      (noCall : R.begun m = none)
      (leaves : R.Leaves m (R.storeAt m) (R.waitingAt m) [])

theorem supersedes_iff {mv : Move} (h : R.moves[m]? = some mv) :
    R.Supersedes m ↔ mv.supersedes = true := by
  simp [Supersedes, h]

theorem supersedes_of_search {r : Request} (h : R.moves[m]? = some (.search r)) :
    R.Supersedes m := by
  simp [supersedes_iff h, Move.supersedes]

theorem supersedes_of_clear (h : R.moves[m]? = some .clear) : R.Supersedes m := by
  simp [supersedes_iff h, Move.supersedes]

theorem Found.not_supersedes {t : Ticket} {found : Except Error (List Record)}
    (h : R.Found m n t found) : ¬R.Supersedes m := by
  cases h with
  | reply r move => simp [supersedes_iff move, Move.supersedes]
  | notice move _ => simp [supersedes_iff move, Move.supersedes]

theorem Found.not_begun {t : Ticket} {found : Except Error (List Record)}
    (h : R.Found m n t found) : R.begun m = none := by
  cases h with
  | reply r move => simp only [begun, move]
  | notice move _ => simp only [begun, move]

theorem happens (R : Run) (m : Nat) : R.Happens m := by
  cases h : R.moves[m]? with
  | none =>
    exact .nothing (by simp [Supersedes, h]) (by simp [h]) (by simp only [begun, h])
      (R.course.leaves_past h)
  | some mv =>
    cases mv with
    | search r => exact .search r h (leaves_search h)
    | fetchMore r =>
      cases hc : (R.storeAt m).beginMore R.base r with
      | none => exact .nothingMore r h hc (leaves_nothing_more h hc)
      | some c =>
        exact .begins (.more c) (by simp [begun, h, hc]) (by simp)
          (by simp [supersedes_iff h, Move.supersedes]) (leaves_more h hc)
    | complete scope term =>
      exact .begins _ (by simp only [begun, h]) (by simp)
        (by simp [supersedes_iff h, Move.supersedes]) (leaves_complete h)
    | contentTypes =>
      exact .begins _ (by simp only [begun, h]) (by simp)
        (by simp [supersedes_iff h, Move.supersedes]) (leaves_contentTypes h)
    | reply n r =>
      cases hw : (R.waitingAt m).lookup n with
      | none =>
        exact .nothing (by simp [supersedes_iff h, Move.supersedes]) (by simp [h])
          (by simp only [begun, h]) (leaves_stray_reply h hw)
      | some w =>
        cases w with
        | search t => exact .searchEnds n t _ hw (.reply r h) (leaves_search_reply h hw)
        | more c => exact .moreEnds n c r hw h (leaves_more_reply h hw)
        | texts url => exact .textsEnd n url r hw h (leaves_texts_reply h hw)
    | notice n =>
      by_cases hc : ∃ t, (R.waitingAt m).lookup n = some (.search t) ∧
          (R.storeAt m).tokens.isCancelled t.token = true
      · obtain ⟨t, hw, hc⟩ := hc
        exact .searchEnds n t _ hw (.notice h hc) (leaves_cancelled h hw hc)
      · refine .nothing (by simp [supersedes_iff h, Move.supersedes]) (by simp [h])
          (by simp only [begun, h]) (leaves_notice h fun t ht => ?_)
        rw [Bool.eq_false_iff]
        exact fun hcancelled => hc ⟨t, ht, hcancelled⟩
    | abandon n => exact .abandoned n h (leaves_abandon h)
    | clear => exact .clear h (leaves_clear h)

end Run
end DatasetSearch.Search
