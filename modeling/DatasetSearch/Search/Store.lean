import DatasetSearch.Cancellation
import DatasetSearch.Http
import DatasetSearch.Search.Record
import DatasetSearch.Search.Request

/-! The search store: the records that are shown, and the searches that may change them.

A search is begun and, when its reply is there, finished; in between others may be begun. Only the
latest counts. Each search and each clearing advances the store's generation and cancels the token
of the search in flight. A call that was begun in another generation, or whose token is cancelled,
ends as superseded and changes nothing. A call for more records also asks that the last record
shown is still the one it was to continue. -/
namespace DatasetSearch.Search

/-! ### How a call can fail -/

inductive Error where
  /-- No response came to a request for an address. -/
  | noResponse (url reason : String)
  /-- The response has a status that is no success. -/
  | badStatus (status : Nat) (body : String)
  /-- The body is not JSON or not of the expected shape. -/
  | undecodable (reason : String)
  /-- A newer search, or clearing, made the call pointless. -/
  | superseded
deriving DecidableEq, Repr

/-- Why no response came. -/
def noResponseText (url reason : String) : String := "request to " ++ url ++ " failed: " ++ reason

def Error.message : Error → String
  | .noResponse url reason => "transport error: " ++ noResponseText url reason
  | .badStatus status body => "discovery API returned " ++ wholeText status ++ ": " ++ body
  | .undecodable reason => "could not decode discovery response: " ++ reason
  | .superseded => "superseded by a newer search"

/-! ### Reading replies -/

/-- The JSON body of a successful response. -/
def bodyOf (url : String) : Http.Reply → Except Error Json
  | .failed reason => .error (.noResponse url reason)
  | .response r =>
    if !r.isSuccess then .error (.badStatus r.status r.body)
    else
      match Json.ofText? r.body with
      | some body => .ok body
      | none => .error (.undecodable Json.faultText)

/-- Reads the body of a reply. -/
def readReply {α : Type} (read : Json → Except String α) (url : String) (r : Http.Reply) :
    Except Error α :=
  match bodyOf url r with
  | .error e => .error e
  | .ok body => (read body).mapError .undecodable

/-- The records in a reply. -/
def recordsIn : String → Http.Reply → Except Error (List Record) := readReply recordsOf

/-- The texts in a reply. -/
def textsIn : String → Http.Reply → Except Error (List String) := readReply textsOf

/-! ### The records that are shown -/

structure Results where
  records : List Record
deriving Inhabited

namespace Results

def empty : Results := ⟨[]⟩

def replace (_ : Results) (records : List Record) : Results := ⟨records⟩

def append (r : Results) (records : List Record) : Results := ⟨r.records ++ records⟩

def size (r : Results) : Nat := r.records.length

/-- Where the next page begins: the token of the last record. -/
def lastToken? (r : Results) : Option String := r.records.getLast?.map Record.token

end Results

/-! ### The store -/

inductive Status where
  | idle
  | searching
  | succeeded
  | failed
deriving DecidableEq, Repr

/-- What a call for records brought. -/
structure Outcome where
  received : Nat
  /-- A whole page came, so that there may be more. -/
  hasMore : Bool
deriving DecidableEq, Repr

def Outcome.ofPage (received pageSize : Nat) : Outcome := ⟨received, received == pageSize⟩

structure Store where
  results : Results := .empty
  status : Status := .idle
  generation : Nat := 0
  /-- The token of the search in flight. -/
  inFlight : Option Token := none
  tokens : Tokens := {}

/-- A search that waits for its reply. -/
structure Ticket where
  generation : Nat
  token : Token
  url : String
  pageSize : Nat
deriving DecidableEq, Repr

/-- A call for more records that waits for its reply. -/
structure Continuation where
  generation : Nat
  /-- The token of the record to continue after. -/
  cursor : String
  url : String
  pageSize : Nat
deriving DecidableEq, Repr

namespace Store

/-! ### Searching -/

def begin (base : String) (r : Request) (s : Store) : Store × Ticket :=
  let tokens := s.tokens.cancelAny s.inFlight
  ({ s with
      status := .searching
      generation := s.generation + 1
      inFlight := some tokens.next
      tokens := tokens.issue },
    { generation := s.generation + 1
      token := tokens.next
      url := searchUrl base r
      pageSize := r.pageSize })

/-- Ends a search with the records it found or the error it met. -/
def settle (t : Ticket) (found : Except Error (List Record)) (s : Store) :
    Store × Except Error Outcome :=
  if s.generation ≠ t.generation then (s, .error .superseded)
  else
    match found with
    | .ok records =>
      ({ s with results := s.results.replace records, status := .succeeded, inFlight := none },
        .ok (.ofPage records.length t.pageSize))
    | .error e => ({ s with status := .failed, inFlight := none }, .error e)

/-- Ends a search when its reply is there. A cancelled search does not look at its reply. -/
def finish (t : Ticket) (reply : Http.Reply) (s : Store) : Store × Except Error Outcome :=
  s.settle t (if s.tokens.isCancelled t.token then .error .superseded else recordsIn t.url reply)

/-! ### More records -/

/-- Begins a call for the records after the last one shown. With none shown there is no call. -/
def beginMore (base : String) (r : Request) (s : Store) : Option Continuation :=
  s.results.lastToken?.map fun cursor =>
    { generation := s.generation
      cursor := cursor
      url := searchUrl base { r with token := some cursor }
      pageSize := r.pageSize }

/-- What a call for more records brings when none are shown. -/
def nothingMore : Outcome := ⟨0, false⟩

def finishMore (c : Continuation) (reply : Http.Reply) (s : Store) :
    Store × Except Error Outcome :=
  if s.generation ≠ c.generation ∨ s.results.lastToken? ≠ some c.cursor then
    (s, .error .superseded)
  else
    match recordsIn c.url reply with
    | .ok records =>
      ({ s with results := s.results.append records }, .ok (.ofPage records.length c.pageSize))
    | .error e => (s, .error e)

/-! ### Clearing -/

def clear (s : Store) : Store :=
  { s with
    results := .empty
    status := .idle
    generation := s.generation + 1
    inFlight := none
    tokens := s.tokens.cancelAny s.inFlight }

end Store

end DatasetSearch.Search
