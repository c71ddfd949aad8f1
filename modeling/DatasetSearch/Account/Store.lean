import DatasetSearch.Cancellation
import DatasetSearch.Http
import DatasetSearch.Json.Reader
import DatasetSearch.Text.Basic
import DatasetSearch.Text.Percent

/-! The login store: who is logged in, and the logins that may change it.

A login opens a window at the application's login page and waits for messages from it. The first
acceptable one, which comes from the application itself and carries a token, logs its session in.
Only the latest login counts: beginning one cancels the one that is pending. Asking the server
whether a session is good, and ending it, are calls of their own. Some pages may be gone to only with
a session, others only without one. -/
namespace DatasetSearch.Account

/-! ### Sessions -/

structure Session where
  token : String
  /-- The researcher's identifier. -/
  orcid : String
  /-- The seconds for which the token is good. -/
  expiresIn : Int
deriving DecidableEq, Repr

namespace Session

def toJson (s : Session) : Json :=
  .object [("token", .text s.token), ("orcid", .text s.orcid), ("expiresIn", .int s.expiresIn)]

open Json (Reader)

def reader : Reader Session := fun levels x => do
  let f ← Reader.fields ["token", "orcid", "expiresIn"] levels x
  return { token := ← f.required "token" .text, orcid := ← f.required "orcid" .text
           expiresIn := ← f.required "expiresIn" .int64 }

end Session

/-! ### The store -/

inductive State where
  | loggedOut
  | loggingIn
  | loggedIn (session : Session)
deriving DecidableEq, Repr

/-- Why a login ended without a session. -/
inductive LoginError where
  | superseded
  | windowClosed
deriving DecidableEq, Repr

def LoginError.message : LoginError → String
  | .superseded => "login flow replaced by a newer one"
  | .windowClosed => "login window closed before completing"

/-- A message that another window sent. -/
structure Message where
  origin : String
  data : Json

/-- A login that has been begun. -/
structure Flow where
  id : Nat
  token : Token
deriving DecidableEq, Repr

structure Store where
  /-- The address of the application, without slashes at its end. -/
  appUrl : String
  state : State := .loggedOut
  /-- The number of times that the state was announced. -/
  announced : Nat := 0
  /-- The value of the cookie that identifies the session to the server. -/
  cookie : Option String := none
  /-- The number of logins begun. -/
  flows : Nat := 0
  /-- The login that may still decide. -/
  pending : Option Flow := none
  tokens : Tokens := {}

namespace Store

def make (appUrl : String) : Store := { appUrl := Text.trimSlashes appUrl }

/-! ### Looking at the store -/

def session? (s : Store) : Option Session :=
  match s.state with
  | .loggedIn session => some session
  | _ => none

def isLoggedIn (s : Store) : Bool := s.session?.isSome

def loginUrl (s : Store) : String := s.appUrl ++ "/login?window_close=True"

/-- The value of the cookie for a token. -/
def bearer (token : String) : String := "Bearer " ++ token

/-- The header that carries a cookie. -/
def cookieText (value : String) : String := "Authorization=" ++ Text.Percent.encodeCookie value

def cookieHeader (s : Store) : Option String := s.cookie.map cookieText

/-! ### Changing the state -/

/-- Announces a state, be it the same as before. -/
def announce (state : State) (s : Store) : Store := { s with state, announced := s.announced + 1 }

def setLoggedIn (session : Session) (s : Store) : Store :=
  { s with cookie := some (bearer session.token) }.announce (.loggedIn session)

def setLoggedOut (s : Store) : Store := { s with cookie := none }.announce .loggedOut

/-- Logs a known session in without asking anyone. -/
def restore (session : Session) (s : Store) : Store := s.setLoggedIn session

/-! ### Logging in -/

/-- The session that a message carries, if it comes from the application and has a token. -/
def accept (s : Store) (m : Message) : Option Session :=
  if Text.trimSlashes m.origin ≠ s.appUrl then none
  else
    match (m.data.member? "token").bind Json.asText? with
    | none => none
    | some token =>
      if token.isEmpty then none
      else some {
        token
        orcid := ((m.data.member? "orcid").bind Json.asText?).getD ""
        expiresIn := ((m.data.member? "expiresIn").bind Json.asInt64?).getD 0 }

/-- Begins a login, whose window is opened at `loginUrl`. -/
def beginLogin (s : Store) : Store × Flow :=
  let tokens := s.tokens.cancelAny (s.pending.map Flow.token)
  let flow : Flow := ⟨s.flows + 1, tokens.next⟩
  let s := { s with flows := s.flows + 1, pending := some flow, tokens := tokens.issue }
  (s.announce .loggingIn, flow)

/-- Forgets a login that has ended, unless a newer one is pending. -/
def endFlow (f : Flow) (s : Store) : Store :=
  if s.pending.map Flow.id = some f.id then { s with pending := none } else s

/-- A login goes on with the messages that have come. It ends if it was cancelled, at the first
acceptable message, or when no more can come; otherwise it has read them all and waits. -/
def proceed (f : Flow) (inbox : List Message) (closed : Bool) (s : Store) :
    Store × Option (Except LoginError Session) :=
  if s.tokens.isCancelled f.token then (s, some (.error .superseded))
  else
    match inbox.findSome? s.accept with
    | some session => ((s.endFlow f).setLoggedIn session, some (.ok session))
    | none =>
      if closed then ((s.endFlow f).announce .loggedOut, some (.error .windowClosed)) else (s, none)

/-- A login ends where no more messages can come. -/
theorem isSome_proceed_closed (f : Flow) (inbox : List Message) (s : Store) :
    (s.proceed f inbox true).2.isSome = true := by
  unfold proceed
  split
  · rfl
  · split <;> rfl

/-! ### Asking the server -/

/-- A request with the cookie that there is now. -/
def authorized (s : Store) (url : String) : Http.Request :=
  { url, headers := s.cookieHeader.toList.map ("Cookie", ·) }

/-- Asks whether the session is still good. -/
def checkRequest (s : Store) : Http.Request := s.authorized (s.appUrl ++ "/api")

/-- Anything but status 200, be it no response at all, logs out. -/
def finishCheck (reply : Http.Reply) (s : Store) : Store × Bool :=
  match reply with
  | .response ⟨200, _⟩ => (s, true)
  | _ => (s.setLoggedOut, false)

/-- Asks the server to end the session. -/
def logoutRequest (s : Store) : Http.Request := s.authorized (s.appUrl ++ "/api/logout")

/-- Logs out whatever the server says. -/
def finishLogout (_ : Http.Reply) (s : Store) : Store := s.setLoggedOut

end Store

/-! ### Which pages may be gone to -/

inductive Navigation where
  | proceed
  | redirect (target : String)
deriving DecidableEq, Repr

def loginRequired : String := "You need to be logged in to access this page."

/-- Lets only those pass who are logged in, and tells the others why not. -/
def requireLogin (s : Store) : Navigation × List String :=
  if s.isLoggedIn then (.proceed, []) else (.redirect "/", [loginRequired])

/-- For pages that are of use only to those who are logged out. -/
def redirectIfLoggedIn (s : Store) (target : String) : Navigation :=
  if s.isLoggedIn then .redirect target else .proceed

end DatasetSearch.Account
