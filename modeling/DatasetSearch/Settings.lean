import DatasetSearch.Decimal.Whole
import DatasetSearch.Search.Request
import DatasetSearch.Text.Basic
import DatasetSearch.Url

/-! Settings, read from the environment.

A variable that is missing or all white space has its default. The variables are checked in a fixed
order and the first fault counts. -/
namespace DatasetSearch

structure Settings where
  /-- The base of the search server's addresses. -/
  apiBase : String
  /-- The address of the application that logs users in. -/
  appUrl : String
  /-- The path of the file of what survives a restart. -/
  statePath : String
  pageSize : Nat
  timeoutSeconds : Nat
deriving DecidableEq, Repr

namespace Settings

/-- What is wrong with the environment. -/
inductive Error where
  | badUrl (name value : String) (fault : Url.Fault)
  | badPageSize (fault : WholeError)
  | zeroPageSize
  | badTimeout (fault : WholeError)
  | zeroTimeout
deriving DecidableEq, Repr

namespace Error

def message : Error → String
  | badUrl name value _ => name ++ " is not a valid URL: " ++ value
  | badPageSize _ => "DISCOVERY_PAGE_SIZE must be a positive integer"
  | zeroPageSize => "DISCOVERY_PAGE_SIZE must be greater than zero"
  | badTimeout _ => "DISCOVERY_HTTP_TIMEOUT_SECS must be a whole number of seconds"
  | zeroTimeout => "DISCOVERY_HTTP_TIMEOUT_SECS must be greater than zero"

/-- The fault behind the error, if it has one. -/
def cause? : Error → Option String
  | badUrl _ _ fault => some fault.message
  | badPageSize fault => some fault.message
  | badTimeout fault => some fault.message
  | zeroPageSize | zeroTimeout => none

/-- The error with its cause. -/
def fullMessage (e : Error) : String :=
  match e.cause? with
  | some cause => e.message ++ ": " ++ cause
  | none => e.message

end Error

/-- The value of a variable, or its default. -/
def valueOf (lookup : String → Option String) (name default : String) : String :=
  match lookup name with
  | some v => if Text.isBlankText v then default else v
  | none => default

/-- An address, without the slashes at its end. -/
def readUrl (name value : String) : Except Error String :=
  match Url.parse value with
  | .error fault => .error (.badUrl name value fault)
  | .ok _ => .ok (Text.trimSlashes value)

def readPageSize (value : String) : Except Error Nat :=
  match readWhole (twoPow 32) value with
  | .error fault => .error (.badPageSize fault)
  | .ok 0 => .error .zeroPageSize
  | .ok n => .ok n

def readTimeout (value : String) : Except Error Nat :=
  match readWhole (twoPow 64) value with
  | .error fault => .error (.badTimeout fault)
  | .ok 0 => .error .zeroTimeout
  | .ok n => .ok n

def read (lookup : String → Option String) : Except Error Settings := do
  let value := valueOf lookup
  let url (name default : String) := readUrl name (value name default)
  let apiBase ← url "DISCOVERY_API_BASE" "http://localhost:8000/api"
  let appUrl ← url "DISCOVERY_APP_URL" "http://localhost:8080"
  let statePath := value "DISCOVERY_STATE_PATH" ".discovery_state.json"
  let pageSize ← readPageSize (value "DISCOVERY_PAGE_SIZE" (wholeText Search.defaultPageSize))
  let timeoutSeconds ← readTimeout (value "DISCOVERY_HTTP_TIMEOUT_SECS" "30")
  return { apiBase, appUrl, statePath, pageSize, timeoutSeconds }

end Settings
end DatasetSearch
