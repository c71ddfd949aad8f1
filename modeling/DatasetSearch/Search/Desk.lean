import DatasetSearch.Search.Store

/-! Many calls on one search store.

A desk holds the calls that wait for a reply, each under a name. An event begins a call, brings the
reply to one, or lets a cancelled one notice; its effects are the requests that are sent and the
answers that are given. Calls for completions and content types pass through without touching the
store. -/
namespace DatasetSearch.Search

/-- A call that waits for its reply. -/
inductive Waiting where
  | search (ticket : Ticket)
  | more (continuation : Continuation)
  | texts (url : String)
deriving DecidableEq, Repr

inductive Answer where
  | outcome (result : Except Error Outcome)
  | texts (result : Except Error (List String))

structure Desk (ι : Type) where
  store : Store := {}
  waiting : List (ι × Waiting) := []

inductive Event (ι : Type) where
  | search (call : ι) (request : Request)
  | fetchMore (call : ι) (request : Request)
  | complete (call : ι) (scope : Scope) (term : String)
  | contentTypes (call : ι)
  /-- The reply to the request of a call is there. -/
  | reply (call : ι) (reply : Http.Reply)
  /-- A call looks whether it was cancelled. -/
  | notice (call : ι)
  /-- Whoever made a call does not wait for it any more. -/
  | abandon (call : ι)
  | clear

/-- What an event does besides changing the desk. -/
structure Effects (ι : Type) where
  requests : List Http.Request := []
  answers : List (ι × Answer) := []

namespace Desk
variable {ι : Type} [DecidableEq ι]

def add (d : Desk ι) (call : ι) (w : Waiting) : Desk ι :=
  { d with waiting := d.waiting ++ [(call, w)] }

def remove (d : Desk ι) (call : ι) : Desk ι :=
  { d with waiting := d.waiting.filter (·.1 != call) }

def sent (url : String) : Effects ι := { requests := [{ url }] }

def answered (call : ι) (a : Answer) : Effects ι := { answers := [(call, a)] }

/-- A call goes on with its reply. -/
def resume (d : Desk ι) (call : ι) (w : Waiting) (reply : Http.Reply) : Desk ι × Effects ι :=
  match w with
  | .search t =>
    let (store, result) := d.store.finish t reply
    ({ d.remove call with store }, answered call (.outcome result))
  | .more c =>
    let (store, result) := d.store.finishMore c reply
    ({ d.remove call with store }, answered call (.outcome result))
  | .texts url => (d.remove call, answered call (.texts (textsIn url reply)))

/-- A search that was cancelled ends without its reply. -/
def noticeCancelled (d : Desk ι) (call : ι) (w : Waiting) : Desk ι × Effects ι :=
  match w with
  | .search t =>
    if d.store.tokens.isCancelled t.token then
      let (store, result) := d.store.settle t (.error .superseded)
      ({ d.remove call with store }, answered call (.outcome result))
    else (d, {})
  | _ => (d, {})

def step (base : String) (d : Desk ι) : Event ι → Desk ι × Effects ι
  | .search call r =>
    let (store, t) := d.store.begin base r
    ({ d with store }.add call (.search t), sent t.url)
  | .fetchMore call r =>
    match d.store.beginMore base r with
    | some c => (d.add call (.more c), sent c.url)
    | none => (d, answered call (.outcome (.ok Store.nothingMore)))
  | .complete call scope term =>
    let url := completionUrl base scope term
    (d.add call (.texts url), sent url)
  | .contentTypes call =>
    let url := contentTypesUrl base
    (d.add call (.texts url), sent url)
  | .reply call r =>
    match d.waiting.lookup call with
    | some w => d.resume call w r
    | none => (d, {})
  | .notice call =>
    match d.waiting.lookup call with
    | some w => d.noticeCancelled call w
    | none => (d, {})
  | .abandon call => (d.remove call, {})
  | .clear => ({ d with store := d.store.clear }, {})

/-- Carries events out one after the other and gathers their effects. -/
def run (base : String) (d : Desk ι) : List (Event ι) → Desk ι × Effects ι
  | [] => (d, {})
  | e :: rest =>
    let (d, now) := d.step base e
    let (d, later) := run base d rest
    (d, ⟨now.requests ++ later.requests, now.answers ++ later.answers⟩)

end Desk
end DatasetSearch.Search
