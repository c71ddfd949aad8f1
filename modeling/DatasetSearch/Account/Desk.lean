import DatasetSearch.Account.Store

/-! Many logins and calls on one login store.

A desk holds the logins that wait for messages, each with its inbox, and the calls that wait for a
reply. An event begins one of them or brings something to it; a login reads its inbox only when it
is its turn. -/
namespace DatasetSearch.Account

/-- Something that waits. -/
inductive Waiting where
  | login (flow : Flow) (inbox : List Message) (closed : Bool)
  | check
  | logout

inductive Answer where
  | login (result : Except LoginError Session)
  | check (good : Bool)
  | logout

structure Desk (ι : Type) where
  store : Store
  waiting : List (ι × Waiting) := []

inductive Event (ι : Type) where
  | restore (session : Session)
  | login (call : ι)
  /-- A message comes to a login. -/
  | message (call : ι) (message : Message)
  /-- No more messages can come to a login. -/
  | close (call : ι)
  /-- A login has its turn. -/
  | turn (call : ι)
  | check (call : ι)
  | logout (call : ι)
  /-- The reply to the request of a call is there. -/
  | reply (call : ι) (reply : Http.Reply)

/-- What an event does besides changing the desk. -/
structure Effects (ι : Type) where
  requests : List Http.Request := []
  /-- The addresses at which the login window was opened. -/
  opened : List String := []
  answers : List (ι × Answer) := []

namespace Desk
variable {ι : Type} [DecidableEq ι]

def add (d : Desk ι) (call : ι) (w : Waiting) : Desk ι :=
  { d with waiting := d.waiting ++ [(call, w)] }

def remove (d : Desk ι) (call : ι) : Desk ι :=
  { d with waiting := d.waiting.filter (·.1 != call) }

/-- Puts something else in the place of what waits under a name. -/
def replace (d : Desk ι) (call : ι) (w : Waiting) : Desk ι :=
  { d with waiting := d.waiting.map fun x => if x.1 = call then (call, w) else x }

def answered (call : ι) (a : Answer) : Effects ι := { answers := [(call, a)] }

/-- A login has its turn. -/
def takeTurn (d : Desk ι) (call : ι) (f : Flow) (inbox : List Message) (closed : Bool) :
    Desk ι × Effects ι :=
  match d.store.proceed f inbox closed with
  | (store, some result) => ({ d.remove call with store }, answered call (.login result))
  | (store, none) => ({ d.replace call (.login f [] closed) with store }, {})

def step (d : Desk ι) : Event ι → Desk ι × Effects ι
  | .restore session => ({ d with store := d.store.restore session }, {})
  | .login call =>
    let (store, flow) := d.store.beginLogin
    ({ d with store }.add call (.login flow [] false), { opened := [store.loginUrl] })
  | .message call m =>
    match d.waiting.lookup call with
    | some (.login f inbox closed) => (d.replace call (.login f (inbox ++ [m]) closed), {})
    | _ => (d, {})
  | .close call =>
    match d.waiting.lookup call with
    | some (.login f inbox _) => (d.replace call (.login f inbox true), {})
    | _ => (d, {})
  | .turn call =>
    match d.waiting.lookup call with
    | some (.login f inbox closed) => d.takeTurn call f inbox closed
    | _ => (d, {})
  | .check call => (d.add call .check, { requests := [d.store.checkRequest] })
  | .logout call => (d.add call .logout, { requests := [d.store.logoutRequest] })
  | .reply call r =>
    match d.waiting.lookup call with
    | some .check =>
      let (store, good) := d.store.finishCheck r
      ({ d.remove call with store }, answered call (.check good))
    | some .logout =>
      ({ d.remove call with store := d.store.finishLogout r }, answered call .logout)
    | _ => (d, {})

/-- Carries events out one after the other and gathers their effects. -/
def run (d : Desk ι) : List (Event ι) → Desk ι × Effects ι
  | [] => (d, {})
  | e :: rest =>
    let (d, now) := d.step e
    let (d, later) := run d rest
    (d, ⟨now.requests ++ later.requests, now.opened ++ later.opened, now.answers ++ later.answers⟩)

end Desk
end DatasetSearch.Account
