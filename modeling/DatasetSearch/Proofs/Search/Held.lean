import DatasetSearch.Proofs.Search.Ends

/-! Which call brought each of the records on the page.

A call brings records when the reply to it comes and it is answered with success. `heldAt` follows
the page along a run and marks each record with the call that brought it; without the marks it is
what the store holds (`map_snd_heldAt`). -/
namespace DatasetSearch.Search

/-- Whether a move begins a search. -/
def Move.isSearch : Move → Bool
  | .search _ => true
  | _ => false

namespace Run

/-- The call that the move at a place brings records for, and these records. -/
def broughtAt (R : Run) (m : Nat) : Option (Nat × List Record) :=
  match R.moves[m]?, R.answersAt m with
  | some (.reply n reply), [(_, .outcome (.ok _))] => (recordsOf? reply).map (n, ·)
  | _, _ => none

/-- The records on the page before the move at a place, each with the call that brought it. A
search puts its records in the place of the others, a call for more adds them. -/
def heldAt (R : Run) : Nat → List (Nat × Record)
  | 0 => []
  | m + 1 =>
    match R.broughtAt m with
    | some (n, records) =>
      if R.moves[n]?.any Move.isSearch then records.map (n, ·)
      else R.heldAt m ++ records.map (n, ·)
    | none => if R.moves[m]?.any (· matches .clear) then [] else R.heldAt m

variable {R : Run} {m n : Nat}

theorem heldAt_succ_of_search {records : List Record} {r : Request}
    (hb : R.broughtAt m = some (n, records)) (hn : R.moves[n]? = some (.search r)) :
    R.heldAt (m + 1) = records.map (n, ·) := by
  simp [heldAt, hb, hn, Move.isSearch]

theorem heldAt_succ_of_more {records : List Record} {r : Request}
    (hb : R.broughtAt m = some (n, records)) (hn : R.moves[n]? = some (.fetchMore r)) :
    R.heldAt (m + 1) = R.heldAt m ++ records.map (n, ·) := by
  simp [heldAt, hb, hn, Move.isSearch]

theorem heldAt_succ_of_clear (hm : R.moves[m]? = some .clear) : R.heldAt (m + 1) = [] := by
  simp [heldAt, broughtAt, hm]

theorem heldAt_succ_of_none (hb : R.broughtAt m = none) (hm : R.moves[m]? ≠ some .clear) :
    R.heldAt (m + 1) = R.heldAt m := by
  simp only [heldAt, hb]
  cases h : R.moves[m]? with
  | none => simp
  | some mv => cases mv <;> simp_all

theorem broughtAt_eq_some_iff {records : List Record} :
    R.broughtAt m = some (n, records) ↔
      ∃ reply, R.moves[m]? = some (.reply n reply) ∧ recordsOf? reply = some records ∧
        ∃ call o, R.answersAt m = [(call, .outcome (.ok o))] := by
  constructor
  · intro h
    simp only [broughtAt] at h
    split at h
    · next n' reply call o move answers =>
      obtain ⟨records', hr, he⟩ := Option.map_eq_some_iff.mp h
      obtain ⟨rfl, rfl⟩ := Prod.mk.inj he
      exact ⟨reply, move, hr, call, o, answers⟩
    · cases h
  · rintro ⟨reply, move, hr, call, o, answers⟩
    simp [broughtAt, move, answers, hr]

theorem broughtAt_eq_none (h : ∀ call o, R.answersAt m ≠ [(call, .outcome (.ok o))]) :
    R.broughtAt m = none := by
  cases hb : R.broughtAt m with
  | none => rfl
  | some p =>
    obtain ⟨_, _, _, call, o, answers⟩ := broughtAt_eq_some_iff.mp hb
    exact absurd answers (h call o)

theorem broughtAt_of_succeeds {records : List Record} {reply : Http.Reply} {o : Outcome}
    (move : R.moves[m]? = some (.reply n reply)) (hr : recordsOf? reply = some records)
    (answers : R.answersAt m = [(n, .outcome (.ok o))]) : R.broughtAt m = some (n, records) :=
  broughtAt_eq_some_iff.mpr ⟨reply, move, hr, n, o, answers⟩

/-- Only a search that was not overtaken, and a call for more that finds the end of the page as it
was, bring records. -/
theorem ends_of_broughtAt {records : List Record} (hb : R.broughtAt m = some (n, records)) :
    (R.Waits n m ∧ ∃ o, R.Answers n m (.ok o)) ∧
      ((∃ r, R.moves[n]? = some (.search r)) ∧ ¬R.Overtaken n m ∨
        (∃ r, R.moves[n]? = some (.fetchMore r)) ∧ R.SameEnd n m) := by
  obtain ⟨reply, move, hr, call, o, answers⟩ := broughtAt_eq_some_iff.mp hb
  have ha : R.Answers call m (.ok o) := by simp [Answers, answers]
  rcases ends_of_answers ha with ⟨hw, ⟨r, hr, he⟩ | ⟨r, hr, he⟩⟩ | ⟨rfl, r, hr⟩
  · cases he with
    | succeeds newest reply' move' records' found leaves =>
      rw [move] at move'
      cases move'
      exact ⟨⟨hw, o, ha⟩, .inl ⟨⟨r, hr⟩, newest⟩⟩
    | overtaken overtaken leaves => simp [leaves.answers] at answers
    | fails newest reply' move' e found leaves => simp [leaves.answers] at answers
  · cases he with
    | succeeds same reply' move' records' found leaves =>
      rw [move] at move'
      cases move'
      exact ⟨⟨hw, o, ha⟩, .inr ⟨⟨r, hr⟩, same⟩⟩
    | discarded changed leaves => simp [leaves.answers] at answers
    | fails same reply' move' e none ours leaves => simp [leaves.answers] at answers
  · rw [hr] at move
    cases move

theorem mem_heldAt_succ {p : Nat × Record} (h : p ∈ R.heldAt (m + 1)) :
    p ∈ R.heldAt m ∨ ∃ records, R.broughtAt m = some (p.1, records) := by
  cases hb : R.broughtAt m with
  | none =>
    by_cases hm : R.moves[m]? = some .clear
    · rw [heldAt_succ_of_clear hm] at h
      cases h
    · rw [heldAt_succ_of_none hb hm] at h
      exact .inl h
  | some q =>
    obtain ⟨n, records⟩ := q
    have marked (hp : p ∈ records.map (n, ·)) :
        ∃ records', some (n, records) = some (p.1, records') := by
      obtain ⟨record, _, rfl⟩ := List.mem_map.mp hp
      exact ⟨records, rfl⟩
    rcases (ends_of_broughtAt hb).2 with ⟨⟨r, hr⟩, _⟩ | ⟨⟨r, hr⟩, _⟩
    · rw [heldAt_succ_of_search hb hr] at h
      exact .inr (marked h)
    · rw [heldAt_succ_of_more hb hr] at h
      exact (List.mem_append.mp h).imp id marked

/-- A move that answers no call with success and does not clear leaves the marked records. -/
theorem heldAt_succ_of_silent {store : Store} {waiting : List (Nat × Waiting)}
    {answers : List (Nat × Answer)} (leaves : R.Leaves m store waiting answers)
    (hm : R.moves[m]? ≠ some .clear) (ha : ∀ call o, answers ≠ [(call, .outcome (.ok o))]) :
    R.heldAt (m + 1) = R.heldAt m :=
  heldAt_succ_of_none (broughtAt_eq_none (by rw [leaves.answers]; exact ha)) hm

/-- Without the marks, the records held are those that the store shows. -/
theorem map_snd_heldAt (R : Run) (m : Nat) : (R.heldAt m).map Prod.snd = R.recordsAt m := by
  induction m with
  | zero => rfl
  | succ m ih =>
    have silent {store : Store} {waiting : List (Nat × Waiting)} {answers : List (Nat × Answer)}
        (leaves : R.Leaves m store waiting answers) (hm : R.moves[m]? ≠ some .clear)
        (ha : ∀ call o, answers ≠ [(call, .outcome (.ok o))])
        (hs : store.results = (R.storeAt m).results) :
        (R.heldAt (m + 1)).map Prod.snd = R.recordsAt (m + 1) := by
      rw [heldAt_succ_of_silent leaves hm ha, ih, recordsAt, recordsAt, leaves.store, hs]
    have unclear {call : Nat} {a : Answer} (ha : R.answersAt m = [(call, a)]) :
        R.moves[m]? ≠ some .clear := fun h => by simpa [ha] using (leaves_clear h).answers
    cases R.happens m with
    | clear move leaves =>
      rw [heldAt_succ_of_clear move, recordsAt, leaves.store]
      rfl
    | searchEnds n t found waits how leaves =>
      obtain ⟨r, hr, he⟩ := search_ends waits how leaves
      cases he with
      | overtaken _ leaves => exact silent leaves (unclear leaves.answers) (by simp) rfl
      | succeeds newest reply move records found leaves =>
        have hb := broughtAt_of_succeeds move (recordsIn_eq_ok_iff.mp found) leaves.answers
        rw [heldAt_succ_of_search hb hr, recordsAt, leaves.store]
        simp [Function.comp_def]
      | fails _ _ _ _ _ leaves => exact silent leaves (unclear leaves.answers) (by simp) rfl
    | moreEnds n c reply waits move leaves =>
      obtain ⟨r, hr, he⟩ := more_ends waits move leaves
      cases he with
      | discarded _ leaves => exact silent leaves (unclear leaves.answers) (by simp) rfl
      | succeeds same reply' move' records found leaves =>
        have hb := broughtAt_of_succeeds move' found leaves.answers
        rw [heldAt_succ_of_more hb hr, recordsAt, leaves.store, List.map_append, ih]
        simp [Function.comp_def]
      | fails _ _ _ _ _ _ leaves => exact silent leaves (unclear leaves.answers) (by simp) rfl
    | nothingMore r move none leaves =>
      rw [heldAt_succ_of_none (by simp [broughtAt, move]) (by simp [move]), ih, recordsAt, recordsAt,
        leaves.store]
    | search r move leaves => exact silent leaves (by simp [move]) (by simp) rfl
    | textsEnd n url reply waits move leaves => exact silent leaves (by simp [move]) (by simp) rfl
    | abandoned n move leaves => exact silent leaves (by simp [move]) (by simp) rfl
    | begins w begun noSearch quiet leaves =>
      exact silent leaves (fun h => quiet (supersedes_of_clear h)) (by simp) rfl
    | nothing quiet stays noCall leaves =>
      exact silent leaves (fun h => quiet (supersedes_of_clear h)) (by simp) rfl

end Run
end DatasetSearch.Search
