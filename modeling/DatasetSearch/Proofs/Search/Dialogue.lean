import DatasetSearch.Proofs.Search.Endings

/-! Pages that are asked for one after the other.

A `dialogue` asks for a first page and then, as long as the pages are full and few enough, for the
page after the last hit of the one before. What is asked for and how often follows from the pages
that come (`request_dialogue`, `length_dialogue`). Together they bring their records in order, or
the error of the last of them (`gathered_of_hits`, `gathered_of_error`). -/
namespace DatasetSearch.Search

/-! ### One exchange -/

/-- The hits in a reply: it is a success, and its body is a list of them. -/
def hitsIn : Http.Reply → Option (List Json)
  | .failed _ => none
  | .response r =>
    if r.isSuccess then
      match Json.ofText? r.body with
      | some (.list hits) => some hits
      | _ => none
    else none

/-- A request and the reply to it. -/
structure Exchange where
  request : Http.Request
  reply : Http.Reply

namespace Exchange

def hits? (x : Exchange) : Option (List Json) := hitsIn x.reply

/-- Whether the reply has just as many hits as a page has. -/
def isFull (size : Nat) (x : Exchange) : Bool := x.hits?.any (·.length == size)

/-- The token of the last hit in the reply; it is empty where the hit has none. -/
def lastToken? (x : Exchange) : Option String :=
  x.hits?.bind fun hits => hits.getLast?.map fun hit => (Record.ofHit hit).token

/-- The records that the reply brings. -/
def found (x : Exchange) : Except Error (List Record) := recordsIn x.request.url x.reply

variable {x : Exchange} {hits : List Json} {records : List Record} {size : Nat}

/-- A reply brings one record for each hit. -/
theorem found_eq_ok_iff :
    x.found = .ok records ↔ x.hits?.map (·.map Record.ofHit) = some records := by
  obtain ⟨request, reply⟩ := x
  rw [found, hits?]
  cases reply with
  | failed reason => simp [recordsIn, readReply, bodyOf, hitsIn]
  | response r =>
    simp only [recordsIn, readReply, bodyOf, hitsIn]
    cases hsuccess : r.isSuccess with
    | false => simp
    | true =>
      cases hbody : Json.ofText? r.body with
      | none => simp
      | some body =>
        cases body with
        | list hits =>
          show Except.ok (hits.map Record.ofHit) = Except.ok records ↔
            some (hits.map Record.ofHit) = some records
          simp
        | _ => exact ⟨fun h => (by cases h), fun h => (by cases h)⟩

theorem isFull_of_ok (h : x.found = .ok records) : x.isFull size = (records.length == size) := by
  obtain ⟨hits, hhits, rfl⟩ := Option.map_eq_some_iff.mp (found_eq_ok_iff.mp h)
  rw [isFull, hhits, Option.any_some, List.length_map]

theorem lastToken?_of_ok (h : x.found = .ok records) :
    x.lastToken? = records.getLast?.map Record.token := by
  obtain ⟨hits, hhits, rfl⟩ := Option.map_eq_some_iff.mp (found_eq_ok_iff.mp h)
  rw [lastToken?, hhits, List.getLast?_map, Option.map_map]
  rfl

theorem isFull_of_error {e : Error} (h : x.found = .error e) : x.isFull size = false := by
  cases hhits : x.hits? with
  | none => rw [isFull, hhits]; rfl
  | some hits =>
    have hfound : x.found = .ok (hits.map Record.ofHit) := by
      rw [found_eq_ok_iff, hhits]
      rfl
    rw [h] at hfound
    cases hfound

theorem exists_error (h : x.hits? = none) : ∃ e, x.found = .error e := by
  cases hfound : x.found with
  | ok records =>
    have hhits := found_eq_ok_iff.mp hfound
    rw [h] at hhits
    cases hhits
  | error e => exact ⟨e, rfl⟩

end Exchange

/-! ### One exchange after the other -/

/-- The exchanges that ask for at most so many pages of a size, the first of them after a cursor. -/
def dialogue (ask : Option String → Http.Request) (size : Nat) :
    Nat → Option String → List (Http.Request → Http.Reply) → List Exchange
  | 0, _, _ => []
  | n + 1, cursor, replies =>
    let x : Exchange := ⟨ask cursor, replies.headD Http.Reply.unreachable (ask cursor)⟩
    x :: if x.isFull size then dialogue ask size n x.lastToken? replies.tail else []

/-- Where an exchange's page begins: after a given cursor for the first, and after the last hit of
the exchange before for all others. -/
def cursorAt (first : Option String) (xs : List Exchange) : Nat → Option String
  | 0 => first
  | k + 1 => xs[k]?.bind Exchange.lastToken?

/-- All records that exchanges bring, or the first error among them. -/
def gathered : List Exchange → Except Error (List Record)
  | [] => .ok []
  | x :: rest =>
    match x.found with
    | .ok records => (gathered rest).map (records ++ ·)
    | .error e => .error e

theorem gathered_cons_of_ok {x : Exchange} {records : List Record} (h : x.found = .ok records)
    (rest : List Exchange) : gathered (x :: rest) = (gathered rest).map (records ++ ·) := by
  rw [gathered, h]

theorem gathered_cons_of_error {x : Exchange} {e : Error} (h : x.found = .error e)
    (rest : List Exchange) : gathered (x :: rest) = .error e := by
  rw [gathered, h]

section
variable {ask : Option String → Http.Request} {size n : Nat} {cursor : Option String}
  {replies : List (Http.Request → Http.Reply)} {x : Exchange}

theorem dialogue_full (hx : x = ⟨ask cursor, replies.headD Http.Reply.unreachable (ask cursor)⟩)
    (hfull : x.isFull size = true) :
    dialogue ask size (n + 1) cursor replies =
      x :: dialogue ask size n x.lastToken? replies.tail := by
  subst hx
  rw [dialogue, if_pos hfull]

theorem dialogue_not_full (hx : x = ⟨ask cursor, replies.headD Http.Reply.unreachable (ask cursor)⟩)
    (hfull : x.isFull size = false) : dialogue ask size (n + 1) cursor replies = [x] := by
  subst hx
  rw [dialogue, if_neg (by rw [hfull]; nofun)]

/-- There are as many exchanges as are allowed, or as lead to the first page that is not full. -/
theorem length_dialogue (n : Nat) (cursor : Option String)
    (replies : List (Http.Request → Http.Reply)) :
    (dialogue ask size n cursor replies).length =
      min n ((dialogue ask size n cursor replies).findIdx (!·.isFull size) + 1) := by
  induction n generalizing cursor replies with
  | zero => rw [Nat.zero_min]; rfl
  | succ n ih =>
    cases hfull : Exchange.isFull size
        ⟨ask cursor, replies.headD Http.Reply.unreachable (ask cursor)⟩ with
    | true =>
      rw [dialogue_full rfl hfull, List.findIdx_cons, hfull, List.length_cons, ih]
      simp only [Bool.not_true, cond_false]
      omega
    | false =>
      rw [dialogue_not_full rfl hfull, List.findIdx_cons, hfull]
      simp

/-- Every exchange has the reply that the server gives to its request. -/
theorem reply_dialogue {k : Nat} (h : (dialogue ask size n cursor replies)[k]? = some x) :
    x.reply = (replies[k]?.getD Http.Reply.unreachable) x.request := by
  induction n generalizing cursor replies k with
  | zero => cases h
  | succ n ih =>
    rw [dialogue] at h
    cases k with
    | zero =>
      cases h
      cases replies <;> rfl
    | succ k =>
      rw [List.getElem?_cons_succ] at h
      split at h
      · rw [ih h, List.getElem?_tail]
      · cases h

theorem request_dialogue {k : Nat} (h : (dialogue ask size n cursor replies)[k]? = some x) :
    x.request = ask (cursorAt cursor (dialogue ask size n cursor replies) k) := by
  induction n generalizing cursor replies k with
  | zero => cases h
  | succ n ih =>
    rw [dialogue] at h ⊢
    cases k with
    | zero => cases h; rfl
    | succ k =>
      rw [List.getElem?_cons_succ] at h
      split at h
      · next hfull =>
        rw [ih h, if_pos hfull]
        -- the cursor of the rest is that of the page before it
        cases k <;> rfl
      · cases h

/-- Only the last exchange can fail, so its error is that of all. -/
theorem gathered_of_error {e : Error} (hx : x ∈ dialogue ask size n cursor replies)
    (herror : x.found = .error e) : gathered (dialogue ask size n cursor replies) = .error e := by
  induction n generalizing cursor replies with
  | zero => cases hx
  | succ n ih =>
    rw [dialogue] at hx ⊢
    rcases List.mem_cons.mp hx with rfl | hx
    · exact gathered_cons_of_error herror _
    · split at hx
      · next hfull =>
        rw [if_pos hfull]
        cases hfirst : Exchange.found
            ⟨ask cursor, replies.headD Http.Reply.unreachable (ask cursor)⟩ with
        | ok records =>
          rw [gathered_cons_of_ok hfirst, ih hx]
          rfl
        | error e =>
          rw [Exchange.isFull_of_error hfirst] at hfull
          cases hfull
      · cases hx

end

/-- Where all exchanges bring hits, they bring one record for each. -/
theorem gathered_of_hits {xs : List Exchange} {pages : List (List Json)}
    (h : xs.map Exchange.hits? = pages.map some) :
    gathered xs = .ok (pages.flatten.map Record.ofHit) := by
  induction xs generalizing pages with
  | nil =>
    cases pages with
    | nil => rfl
    | cons page rest => cases h
  | cons x xs ih =>
    cases pages with
    | nil => cases h
    | cons page rest =>
      obtain ⟨hpage, hrest⟩ := List.cons.inj h
      have hfound : x.found = .ok (page.map Record.ofHit) := by
        rw [Exchange.found_eq_ok_iff, hpage]
        rfl
      rw [gathered_cons_of_ok hfound, ih hrest, List.flatten_cons, List.map_append]
      rfl

end DatasetSearch.Search
