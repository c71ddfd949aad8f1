import DatasetSearch.Url

/-! Requests to a server and what comes back.

Requests go over the web; one with an address of another scheme is refused before it is sent. -/
namespace DatasetSearch.Http

/-- A request to read what is at an address. -/
structure Request where
  url : String
  headers : List (String × String) := []
deriving DecidableEq, Repr

structure Response where
  status : Nat
  body : String
deriving DecidableEq, Repr

def Response.isSuccess (r : Response) : Bool := 200 ≤ r.status && r.status < 300

/-- Statuses whose responses come without a body. -/
def bodiless (status : Nat) : Bool := status == 204 || status == 304

/-- A response as a client takes it: without a body where the status bars one, and without the byte
order mark that may stand before a body. -/
def Response.received (r : Response) : Response :=
  if bodiless r.status then { r with body := "" }
  else
    match r.body.toList with
    | '\ufeff' :: rest => { r with body := String.ofList rest }
    | _ => r

/-- What comes of a request: a response of any status, or the reason why there is none. -/
inductive Reply where
  | response (r : Response)
  | failed (reason : String)
deriving DecidableEq, Repr

/-- The address that a request has, from the one it is made with. Users log in apart from it; only a
user that is no text stays in it. -/
def requested (a : Url.Address) : Url.Address :=
  if a.user?.all Url.User.isText then { a with user? := none } else a

/-- The most bytes of an address that requests can have. -/
def addressLimit : Nat := 65534

/-- Whether requests go to an address: one of the web's pages, which is not too long and names its
host without quotes and braces. -/
def isServed (a : Url.Address) : Bool :=
  (a.scheme == "http" || a.scheme == "https") && a.text.utf8ByteSize ≤ addressLimit &&
    !a.authority.toList.any "\"`\x7b\x7d".toList.contains

/-- The reply to a request that is refused, or whose server does not answer. -/
def Reply.unreachable (r : Request) : Reply :=
  .failed <|
    match Url.parse r.url with
    | .error _ => "builder error"
    | .ok a =>
      let a := requested a
      (if isServed a then "error sending request" else "builder error") ++
        " for url (" ++ a.text ++ ")"

/-- The reply to a request whose response breaks off. -/
def Reply.cut : Reply := .failed "error decoding response body"

end DatasetSearch.Http
