import DatasetSearch.Account.Store

/-! How the calls on a login store end.

A login that was cancelled ends as superseded, whatever waits in its inbox. Any other ends with the
session of the first acceptable message, or as closed when no message can come any more, or goes on
listening. Only then are the flows touched; asking the server about a session leaves them alone. -/
namespace DatasetSearch.Account.Store
variable {s : Store} {f : Flow} {inbox : List Message} {closed : Bool} {session : Session}

/-! ### A turn of a login -/

theorem proceed_cancelled (h : s.tokens.isCancelled f.token = true) :
    s.proceed f inbox closed = (s, some (.error .superseded)) :=
  if_pos h

theorem proceed_accepts (h : s.tokens.isCancelled f.token = false)
    (hs : inbox.findSome? s.accept = some session) :
    s.proceed f inbox closed = ((s.endFlow f).setLoggedIn session, some (.ok session)) := by
  simp [proceed, h, hs]

theorem proceed_closed (h : s.tokens.isCancelled f.token = false)
    (hs : inbox.findSome? s.accept = none) :
    s.proceed f inbox true = ((s.endFlow f).announce .loggedOut, some (.error .windowClosed)) := by
  simp [proceed, h, hs]

theorem proceed_listens (h : s.tokens.isCancelled f.token = false)
    (hs : inbox.findSome? s.accept = none) : s.proceed f inbox false = (s, none) := by
  simp [proceed, h, hs]

/-- A login goes on listening only where it was sent nothing acceptable. -/
theorem ignored_of_proceed {s' : Store} (h : s.proceed f inbox closed = (s', none)) :
    inbox.findSome? s.accept = none := by
  cases hc : s.tokens.isCancelled f.token with
  | true => rw [proceed_cancelled hc] at h; cases h
  | false =>
    cases hs : inbox.findSome? s.accept with
    | none => rfl
    | some session => rw [proceed_accepts hc hs] at h; cases h

/-- Only the first session in its messages counts, and their end only where there is none. -/
theorem proceed_congr {inbox' : List Message} {closed' : Bool}
    (hfind : inbox.findSome? s.accept = inbox'.findSome? s.accept)
    (hclosed : inbox.findSome? s.accept = none → closed = closed') :
    s.proceed f inbox closed = s.proceed f inbox' closed' := by
  rw [proceed, proceed, ← hfind]
  cases hs : inbox.findSome? s.accept with
  | none => rw [hclosed hs]
  | some session => rfl

/-! ### What an ended login leaves alone -/

/-- A login that ends touches nothing but the pending one. -/
theorem endFlow_eq (s : Store) (f : Flow) :
    s.endFlow f = { s with pending := (s.endFlow f).pending } := by
  unfold endFlow
  split <;> rfl

@[simp] theorem endFlow_appUrl : (s.endFlow f).appUrl = s.appUrl := by rw [endFlow_eq]

@[simp] theorem endFlow_cookie : (s.endFlow f).cookie = s.cookie := by rw [endFlow_eq]

@[simp] theorem endFlow_flows : (s.endFlow f).flows = s.flows := by rw [endFlow_eq]

@[simp] theorem endFlow_tokens : (s.endFlow f).tokens = s.tokens := by rw [endFlow_eq]

@[simp] theorem endFlow_announced : (s.endFlow f).announced = s.announced := by rw [endFlow_eq]

theorem appUrl_finishCheck (s : Store) (reply : Http.Reply) :
    (s.finishCheck reply).1.appUrl = s.appUrl := by
  unfold finishCheck
  split <;> rfl

/-- A pending login that ends is forgotten. -/
theorem endFlow_pending (h : s.pending = some f) : (s.endFlow f).pending = none := by
  simp [endFlow, h]

end DatasetSearch.Account.Store
