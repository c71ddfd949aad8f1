/-! Runs of a desk at which calls wait.

A run is a list of moves on a machine (`Course`). The places of the moves serve as times: `deskAt` is
the state before the move at a place, and a call is named by the place of the move that begins it.
What a move leaves behind is the store, the calls that wait, and the answers that it gives
(`leaves_of_step`). Past the end of a run nothing happens (`leaves_past`). -/
namespace DatasetSearch
variable {δ ε ω μ σ β α : Type}

/-! ### One move at a time -/

/-- Moves on a machine that carries out events one after the other. The event that a move is may be
named by its place. What counts of the machine's state is its store and the calls that wait, and of
the effects of an event the answers to calls. -/
structure Course (δ ε ω μ σ β α : Type) where
  step : δ → ε → δ × ω
  run : δ → List ε → δ × ω
  run_nil (d : δ) : (run d []).1 = d
  run_cons (d : δ) (e : ε) (rest : List ε) : (run d (e :: rest)).1 = (run (step d e).1 rest).1
  store : δ → σ
  waiting : δ → List (Nat × β)
  answers : ω → List (Nat × α)
  first : δ
  event : Nat → μ → ε
  moves : List μ

/-- What the move at a place leaves behind: the store, the waiting calls, and its answers. -/
structure Leaves (storeAt : Nat → σ) (waitingAt : Nat → List (Nat × β))
    (answersAt : Nat → List (Nat × α)) (m : Nat) (store : σ) (waiting : List (Nat × β))
    (answers : List (Nat × α)) : Prop where
  store : storeAt (m + 1) = store
  waiting : waitingAt (m + 1) = waiting
  answers : answersAt m = answers

namespace Course
variable (C : Course δ ε ω μ σ β α)

/-- The state before the move at a place. -/
def deskAt (m : Nat) : δ := (C.run C.first ((C.moves.mapIdx C.event).take m)).1

def storeAt (m : Nat) : σ := C.store (C.deskAt m)

def waitingAt (m : Nat) : List (Nat × β) := C.waiting (C.deskAt m)

/-- The answers that the move at a place gives. -/
def answersAt (m : Nat) : List (Nat × α) :=
  match C.moves[m]? with
  | some mv => C.answers (C.step (C.deskAt m) (C.event m mv)).2
  | none => []

theorem run_append (d : δ) (a b : List ε) : (C.run d (a ++ b)).1 = (C.run (C.run d a).1 b).1 := by
  induction a generalizing d with
  | nil => rw [List.nil_append, C.run_nil]
  | cons e rest ih => rw [List.cons_append, C.run_cons, C.run_cons, ih]

variable {C} {m : Nat}

theorem deskAt_succ {mv : μ} (h : C.moves[m]? = some mv) :
    C.deskAt (m + 1) = (C.step (C.deskAt m) (C.event m mv)).1 := by
  have he : (C.moves.mapIdx C.event)[m]? = some (C.event m mv) := by simp [h]
  rw [deskAt, List.take_add_one, he, run_append, Option.toList_some, C.run_cons, C.run_nil, deskAt]

theorem deskAt_succ_of_none (h : C.moves[m]? = none) : C.deskAt (m + 1) = C.deskAt m := by
  have he : (C.moves.mapIdx C.event)[m]? = none := by simp [h]
  rw [deskAt, List.take_add_one, he, Option.toList_none, List.append_nil, deskAt]

theorem leaves_of_step {mv : μ} (h : C.moves[m]? = some mv) {d : δ} {effects : ω}
    (hs : C.step (C.deskAt m) (C.event m mv) = (d, effects)) :
    Leaves C.storeAt C.waitingAt C.answersAt m (C.store d) (C.waiting d) (C.answers effects) := by
  refine ⟨?_, ?_, ?_⟩
  · rw [storeAt, deskAt_succ h, hs]
  · rw [waitingAt, deskAt_succ h, hs]
  · simp only [answersAt, h, hs]

theorem leaves_past (h : C.moves[m]? = none) :
    Leaves C.storeAt C.waitingAt C.answersAt m (C.storeAt m) (C.waitingAt m) [] := by
  refine ⟨?_, ?_, ?_⟩
  · rw [storeAt, deskAt_succ_of_none h, storeAt]
  · rw [waitingAt, deskAt_succ_of_none h, waitingAt]
  · simp only [answersAt, h]

end Course

/-! ### Answers -/

section
variable {storeAt : Nat → σ} {waitingAt : Nat → List (Nat × β)} {answersAt : Nat → List (Nat × α)}
  {m n n' : Nat} {store : σ} {waiting : List (Nat × β)} {a a' : α}

theorem answers_of_leaves (h : Leaves storeAt waitingAt answersAt m store waiting [(n, a)]) :
    (n, a) ∈ answersAt m := by
  rw [h.answers]
  exact List.mem_singleton_self _

theorem eq_of_answers (h : Leaves storeAt waitingAt answersAt m store waiting [(n, a)])
    (ha : (n', a') ∈ answersAt m) : n' = n ∧ a' = a := by
  rw [h.answers] at ha
  simpa using ha

theorem not_answers (h : Leaves storeAt waitingAt answersAt m store waiting []) :
    (n, a) ∉ answersAt m := by
  rw [h.answers]
  exact List.not_mem_nil

end

/-! ### Calls that wait -/

/-- The waiting calls but for one. -/
def without (waiting : List (Nat × β)) (call : Nat) : List (Nat × β) :=
  waiting.filter (·.1 != call)

theorem mem_without {waiting : List (Nat × β)} {call : Nat} {p : Nat × β} :
    p ∈ without waiting call ↔ p ∈ waiting ∧ p.1 ≠ call := by
  simp [without]

/-- A call that begins has a name of its own. -/
theorem nodup_names_append {waiting : List (Nat × β)} {m : Nat} (w : β)
    (hd : (waiting.map Prod.fst).Nodup) (h : ∀ n ∈ waiting.map Prod.fst, n < m) :
    ((waiting ++ [(m, w)]).map Prod.fst).Nodup := by
  rw [List.map_append, List.nodup_append]
  refine ⟨hd, by simp, fun a ha b hb he => ?_⟩
  rw [he, List.mem_singleton.mp hb] at ha
  exact Nat.lt_irrefl m (h m ha)

/-- Whatever has held since `n` goes on to hold if it holds at one more place. -/
theorem since_succ {p : Nat → Prop} {n m : Nat} :
    (n < m + 1 ∧ ∀ k, n ≤ k → k < m + 1 → p k) ↔
      ((n < m ∧ ∀ k, n ≤ k → k < m → p k) ∨ n = m) ∧ p m := by
  constructor
  · rintro ⟨hn, h⟩
    have hm : n ≤ m := Nat.le_of_lt_succ hn
    refine ⟨?_, h m hm (Nat.lt_succ_self m)⟩
    rcases Nat.lt_or_eq_of_le hm with hlt | heq
    · exact .inl ⟨hlt, fun k hnk hkm => h k hnk (Nat.lt_succ_of_lt hkm)⟩
    · exact .inr heq
  · rintro ⟨h | rfl, hm⟩
    · refine ⟨Nat.lt_succ_of_lt h.1, fun k hnk hkm => ?_⟩
      rcases Nat.lt_or_eq_of_le (Nat.le_of_lt_succ hkm) with hlt | rfl
      · exact h.2 k hnk hlt
      · exact hm
    · refine ⟨Nat.lt_succ_self n, fun k hnk hkn => ?_⟩
      rw [Nat.le_antisymm (Nat.le_of_lt_succ hkn) hnk]
      exact hm

end DatasetSearch
