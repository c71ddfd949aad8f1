import DatasetSearch.Search.Store

/-! How a call for records ends in a store.

A search of the store's generation ends with what it found, any other as superseded. A call for
more records ends with its page when the store is still of its generation and the last record still
has the token it was to continue after, else as superseded. Neither kind of end touches the
generation or the tokens. -/
namespace DatasetSearch.Search

/-! ### Replies -/

/-- The records in a reply, if it has any to read. -/
def recordsOf? (reply : Http.Reply) : Option (List Record) := (recordsIn "" reply).toOption

/-- Whether a reply holds records does not depend on the address it was asked at. -/
theorem recordsIn_eq_ok_iff {url : String} {reply : Http.Reply} {records : List Record} :
    recordsIn url reply = .ok records ↔ recordsOf? reply = some records := by
  have h : ∀ r : Except Error (List Record), r.toOption = some records ↔ r = .ok records := by
    intro r
    cases r <;> simp [Except.toOption]
  rw [recordsOf?, h]
  cases reply with
  | failed reason => simp [recordsIn, readReply, bodyOf]
  | response r => simp only [recordsIn, readReply, bodyOf]

theorem recordsOf?_eq_none {url : String} {reply : Http.Reply} {e : Error}
    (h : recordsIn url reply = .error e) : recordsOf? reply = none := by
  cases hr : recordsOf? reply with
  | none => rfl
  | some records =>
    rw [recordsIn_eq_ok_iff.mpr hr] at h
    cases h

theorem bodyOf_ne_superseded (url : String) (reply : Http.Reply) :
    bodyOf url reply ≠ .error .superseded := by
  cases reply with
  | failed reason => simp [bodyOf]
  | response r =>
    rw [bodyOf]
    split
    · simp
    · split <;> simp

/-- No reply says that its call was superseded. -/
theorem recordsIn_ne_superseded (url : String) (reply : Http.Reply) :
    recordsIn url reply ≠ .error .superseded := by
  rw [recordsIn, readReply]
  intro h
  cases hb : bodyOf url reply with
  | error e =>
    simp only [hb] at h
    exact bodyOf_ne_superseded url reply (hb.trans (congrArg _ (Except.error.inj h)))
  | ok body =>
    simp only [hb] at h
    cases hr : recordsOf body with
    | ok records => simp only [hr] at h; cases h
    | error reason => simp only [hr] at h; cases h

namespace Store

/-! ### Ends of a search -/

section Settle
variable {s : Store} {t : Ticket}

theorem settle_of_ne (found : Except Error (List Record)) (h : s.generation ≠ t.generation) :
    s.settle t found = (s, .error .superseded) :=
  if_pos h

theorem settle_ok (records : List Record) (h : s.generation = t.generation) :
    s.settle t (.ok records) =
      ({ s with results := ⟨records⟩, status := .succeeded, inFlight := none },
        .ok (.ofPage records.length t.pageSize)) := by
  simp [settle, h, Results.replace]

theorem settle_error (e : Error) (h : s.generation = t.generation) :
    s.settle t (.error e) = ({ s with status := .failed, inFlight := none }, .error e) := by
  simp [settle, h]

theorem settle_inFlight (found : Except Error (List Record)) (h : s.generation = t.generation) :
    (s.settle t found).1.inFlight = none := by
  cases found with
  | ok records => rw [settle_ok records h]
  | error e => rw [settle_error e h]

@[simp] theorem settle_generation (found : Except Error (List Record)) :
    (s.settle t found).1.generation = s.generation := by
  by_cases h : s.generation = t.generation
  · cases found with
    | ok records => rw [settle_ok records h]
    | error e => rw [settle_error e h]
  · rw [settle_of_ne found h]

@[simp] theorem settle_tokens (found : Except Error (List Record)) :
    (s.settle t found).1.tokens = s.tokens := by
  by_cases h : s.generation = t.generation
  · cases found with
    | ok records => rw [settle_ok records h]
    | error e => rw [settle_error e h]
  · rw [settle_of_ne found h]

end Settle

/-! ### Ends of a call for more records -/

section Finish
variable {s : Store} {c : Continuation} {reply : Http.Reply}

/-- What a call for more records asks of the store that it comes back to. -/
def Continues (s : Store) (c : Continuation) : Prop :=
  s.generation = c.generation ∧ s.results.lastToken? = some c.cursor

theorem finishMore_of_not_continues (h : ¬s.Continues c) :
    s.finishMore c reply = (s, .error .superseded) := by
  have hc : s.generation ≠ c.generation ∨ s.results.lastToken? ≠ some c.cursor :=
    Decidable.not_and_iff_not_or_not.mp h
  rw [finishMore, if_pos hc]

theorem finishMore_ok {records : List Record} (h : s.Continues c)
    (hr : recordsIn c.url reply = .ok records) :
    s.finishMore c reply =
      ({ s with results := ⟨s.results.records ++ records⟩ },
        .ok (.ofPage records.length c.pageSize)) := by
  simp [finishMore, h.1, h.2, hr, Results.append]

theorem finishMore_error {e : Error} (h : s.Continues c) (hr : recordsIn c.url reply = .error e) :
    s.finishMore c reply = (s, .error e) := by
  simp [finishMore, h.1, h.2, hr]

/-- A call for more records changes nothing but the records. -/
theorem finishMore_eq (s : Store) (c : Continuation) (reply : Http.Reply) :
    (s.finishMore c reply).1 = { s with results := (s.finishMore c reply).1.results } := by
  simp only [finishMore]
  split
  · rfl
  · split <;> rfl

@[simp] theorem finishMore_generation : (s.finishMore c reply).1.generation = s.generation := by
  rw [finishMore_eq]

@[simp] theorem finishMore_tokens : (s.finishMore c reply).1.tokens = s.tokens := by
  rw [finishMore_eq]

@[simp] theorem finishMore_inFlight : (s.finishMore c reply).1.inFlight = s.inFlight := by
  rw [finishMore_eq]

end Finish
end Store
end DatasetSearch.Search
