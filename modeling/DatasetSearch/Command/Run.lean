import DatasetSearch.App
import DatasetSearch.Command.Arguments
import DatasetSearch.Command.Variables
import DatasetSearch.Search.View
import DatasetSearch.Text.Basic
import DatasetSearch.Text.Quoted

/-! What the commands do.

Every command works on the application as it was saved, and saves it again when all went well; a
failure leaves the file as it is. -/
namespace DatasetSearch.Command

/-- Why a command failed. -/
inductive Failure where
  | settings (error : Settings.Error)
  | file (error : SavedState.FileError)
  | search (error : Search.Error)
  | login (error : Account.LoginError)
  /-- A line of input cannot be read. -/
  | input (fault : Files.Fault)
  /-- A route that has no equals sign. -/
  | badRoute (text : String)
  | unknownKind (text : String)
deriving DecidableEq, Repr

def Failure.message : Failure → String
  | .settings e => e.fullMessage
  | .file e => e.context ++ ": " ++ e.cause
  | .search e => e.message
  | .login e => "login did not complete: " ++ e.message
  | .input fault => fault.message
  | .badRoute text => "--route expects KEY=VALUE, got " ++ Text.quoted text
  | .unknownKind text => "unknown history kind " ++ Text.quoted text

abbrev Result (α : Type) := Program (Except Failure α)

def fail {α : Type} (f : Failure) : Result α := .done (.error f)

def succeed {α : Type} (a : α) : Result α := .done (.ok a)

/-- Goes on if all went well so far. -/
def Result.andThen {α β : Type} (p : Result α) (f : α → Result β) : Result β :=
  p.bind fun
    | .ok a => f a
    | .error e => .done (.error e)

/-- Prints lines and goes on. -/
def printAll {α : Type} : List String → Program α → Program α
  | [], next => next
  | line :: rest, next => .print line (printAll rest next)

/-! ### Searching -/

/-- The key and the value of a route, at its first equals sign. -/
def splitRoute (text : String) : Except Failure (String × String) :=
  if '=' ∈ text.toList then
    let (key, value) := Text.splitFirst '=' text.toList
    .ok (String.ofList key, String.ofList value)
  else .error (.badRoute text)

/-- The route of a search: its term and the given pairs. -/
def routeOf (term : String) (routes : List String) : Except Failure Route.Query :=
  (routes.mapM splitRoute).map fun pairs => Route.ofPairs (("q", term) :: pairs)

/-- Goes on with a search that may have failed. -/
def searched (p : Program (App × App.SearchResult)) : Result (App × Search.Outcome) :=
  p.bind fun
    | (a, .ok outcome) => succeed (a, outcome)
    | (_, .error e) => fail (.search e)

/-- Fetches up to `n` more pages, as long as there may be more. -/
def morePages : Nat → App × Search.Outcome → Result App
  | 0, (a, _) => succeed a
  | n + 1, (a, outcome) =>
    if outcome.hasMore then (searched a.fetchMore).andThen (morePages n) else succeed a

/-- The first `n` bytes of a text, if they are whole characters. -/
def takeBytes : Nat → List Char → Option (List Char)
  | n, [] => if n = 0 then some [] else none
  | n, c :: rest =>
    if n = 0 then some []
    else if c.utf8Size ≤ n then (takeBytes (n - c.utf8Size) rest).map (c :: ·)
    else none

/-- The year that a date begins with. -/
def yearText (date : String) : String :=
  match takeBytes 4 date.toList with
  | some cs => String.ofList cs
  | none => "----"

/-- A record as it is listed. -/
def recordLines (r : Search.Record) : List String :=
  (yearText r.created ++ "  " ++ r.name ++ "  " ++ r.url) ::
    if r.creators.isEmpty then [] else ["      " ++ "; ".intercalate r.creators]

def runSearch (now : Int) (term : String) (routes : List String) (pages : Nat) (a : App) :
    Result App :=
  match routeOf term routes with
  | .error e => fail e
  | .ok route =>
    ((searched (a.runSearch now route)).andThen (morePages (pages - 1))).andThen fun a =>
      printAll (a.search.results.records.flatMap recordLines) (succeed a)

def runComplete (term : String) (creators : Bool) (a : App) : Result App :=
  (a.complete (if creators then .creator else .term) term).bind fun
    | .ok texts => printAll texts (succeed a)
    | .error e => fail (.search e)

def listContentTypes (a : App) : Result App :=
  a.refreshContentTypes.bind fun
    | (a, .ok types) => printAll types (succeed a)
    | (_, .error e) => fail (.search e)

/-! ### The history -/

def showWholeHistory (a : App) : Result App :=
  let line (e : HistoryEntry) := wholeText e.date ++ "\t" ++ e.kind.text ++ "\t" ++ e.key
  printAll (a.history.items.map line) (succeed a)

def showHistory (kind start : String) (a : App) : Result App :=
  match HistoryKind.parse? kind with
  | none => fail (.unknownKind kind)
  | some k =>
    let line (e : HistoryEntry) := wholeText e.date ++ "\t" ++ e.key
    printAll ((a.history.hints start k).map line) (succeed a)

/-! ### The session -/

/-- The message that a line of input carries, if it is JSON. -/
def messageOf (origin line : String) : Option Account.Message :=
  (Json.ofText? line).map fun data => ⟨origin, data⟩

/-- What a login gets its messages from. -/
structure Channel where
  /-- The message that was sent and is not taken yet; there is room for one. -/
  sent : Option Account.Message := none
  /-- Nothing more can be sent. -/
  closed : Bool := false

/-- A login that goes on while lines are read. -/
structure Listening where
  account : Account.Store
  channel : Channel := {}

namespace Listening

/-- The login has its turn, and takes what stands in its channel. -/
def turn (flow : Account.Flow) (l : Listening) :
    Account.Store × Option (Except Account.LoginError Account.Session) :=
  l.account.proceed flow l.channel.sent.toList l.channel.closed

/-- A login does not go on waiting for messages that nobody can send. -/
theorem isSome_turn {flow : Account.Flow} {l : Listening} (h : l.channel.closed = true) :
    (l.turn flow).2.isSome = true := by
  rw [turn, h]
  exact Account.Store.isSome_proceed_closed _ _ _

/-- What the command has of a login that has ended. -/
def outcome (account : Account.Store) :
    Except Account.LoginError Account.Session → Except Failure (Account.Store × Account.Session)
  | .ok session => .ok (account, session)
  | .error e => .error (.login e)

/-- How the login ends if there is no further line. At the end of the input its channel is closed,
and it has one more turn. -/
def unheard (flow : Account.Flow) (account : Account.Store) :
    Option Files.Fault → Except Failure (Account.Store × Account.Session)
  | some fault => .error (.input fault)
  | none =>
    let l : Listening := { account, channel := { closed := true } }
    outcome (l.turn flow).1 ((l.turn flow).2.get (isSome_turn rfl))

/-- The login has its turn before a line is read. Only if it goes on waiting, when it has taken what
was sent, is there a next line, whose message is sent to it if it has one. -/
def round (origin : String) (flow : Account.Flow) (l : Listening) :
    Round Listening (Except Failure (Account.Store × Account.Session)) :=
  match l.turn flow with
  | (account, some result) => .stop (outcome account result)
  | (account, none) =>
    .read (fun line => { account, channel := { sent := messageOf origin line } })
      (unheard flow account)

end Listening

/-- Waits for a line with an acceptable message; the end of the input ends the login. -/
def logIn (a : App) : Result App :=
  let (account, flow) := a.account.beginLogin
  .loop { account : Listening } (Listening.round a.settings.appUrl flow) fun
    | .ok (account, session) =>
      .print ("logged in as " ++ session.orcid) (succeed { a with account })
    | .error failure => fail failure

def showUser (a : App) : Result App :=
  match a.account.session? with
  | none => .print "not logged in" (succeed a)
  | some session =>
    a.checkSession.bind fun (a, good) =>
      .print (if good then session.orcid else "not logged in") (succeed a)

/-! ### Running a command -/

def execute (now : Int) : Command → App → Result App
  | .search term routes pages, a => runSearch now term routes pages a
  | .complete term creators, a => runComplete term creators a
  | .contentTypes, a => listContentTypes a
  | .history kind start, a => showHistory kind start a
  | .wholeHistory, a => showWholeHistory a
  | .forget key, a => succeed { a with history := a.history.forget key }
  | .login, a => logIn a
  | .whoami, a => showUser a
  | .logout, a => a.logOut.bind succeed

/-- Lifts a failure of the file. -/
def ofFile {α : Type} (p : Program (Except SavedState.FileError α)) : Result α :=
  p.bind fun x => .done (x.mapError .file)

/-- Runs a command at a time and in an environment. -/
def run (now : Int) (env : Variables.Env) (c : Command) : Result Unit :=
  let year := Calendar.yearAt now
  match Settings.read env with
  | .error e => fail (.settings e)
  | .ok settings =>
    (ofFile (SavedState.load year settings.statePath)).andThen fun saved =>
      (execute now c ((App.make settings year).restore saved)).andThen fun a =>
        ofFile (SavedState.save settings.statePath a.snapshot)

/-! ### The whole program -/

/-- How the program ends. -/
inductive Ending where
  | success
  | failed (failure : Failure)
  | help
  | misuse
deriving DecidableEq, Repr

def Ending.exitCode : Ending → Nat
  | .success | .help => 0
  | .failed _ => 1
  | .misuse => 2

/-- The environment with the variables of a file's text, if there is one. -/
def environment (env : Variables.Env) (file : Option String) : Variables.Env :=
  match file with
  | some text => Variables.load env text
  | none => env

/-- The program with its arguments and in its environment. -/
def start (now : Int) (env : Variables.Env) (args : List String) : Program Ending :=
  match parse args with
  | .help => .done .help
  | .misuse => .done .misuse
  | .command c =>
    (run now env c).bind fun
      | .ok () => .done .success
      | .error failure => .done (.failed failure)

end DatasetSearch.Command
