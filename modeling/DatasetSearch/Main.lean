import DatasetSearch.Command.Run
import DatasetSearch.Http.Wire
import Std.Async.DNS
import Std.Async.System
import Std.Async.TCP
import Std.Async.Timer
import Std.Time

/-! The program at the command line.

A `Program` is run against the world: requests go over connections, lines come from the standard
input, texts from files. Nothing is decided here. -/
namespace DatasetSearch.CommandLine
open Std.Async

/-! ### Requests -/

/-- All bytes that come over a connection until it is closed. -/
partial def receiveAll (client : TCP.Socket.Client) (bytes : ByteArray) : Async ByteArray := do
  match ← client.recv? 65536 with
  | some more => receiveAll client (bytes ++ more)
  | none => return bytes

def socketAddress (ip : Std.Net.IPAddr) (port : UInt16) : Std.Net.SocketAddress :=
  match ip with
  | .v4 addr => .v4 { addr, port }
  | .v6 addr => .v6 { addr, port }

/-- Sends a request to the first address of a server and gives all that comes back. -/
def exchange (t : Http.Wire.Target) (request : Http.Request) : Async ByteArray := do
  let ips ← DNS.getAddrInfo t.host (toString t.port)
  let some ip := ips[0]? | throw (.userError "no address")
  let client ← TCP.Socket.Client.mk
  client.connect (socketAddress ip t.port.toUInt16)
  client.send (Http.Wire.requestText t request).toUTF8
  receiveAll client .empty

def fetch (seconds : Nat) (request : Http.Request) : IO Http.Reply := do
  match Http.Wire.Target.of? request.url with
  | none => return .unreachable request
  | some t =>
    let late : Async ByteArray := do
      sleep (.ofNat (1000 * seconds))
      throw (.userError "no reply in time")
    try
      let bytes ← (Async.race (exchange t request) late).block
      return Http.Wire.readReply request bytes.toList
    catch _ => return .unreachable request

/-! ### Input and files -/

def faultOf (e : IO.Error) : Files.Fault :=
  match e with
  | .noFileOrDirectory _ _ _ => .notFound
  | .inappropriateType _ code _ => if code = 20 then .notFolder else .isFolder
  | .invalidArgument _ 36 _ => .nameTooLong
  | .resourceBusy 16 _ => .busy
  | e => .other (toString e)

/-- The bytes up to the end of a line of input, after some that are read already. -/
partial def lineBytes (input : IO.FS.Stream) (bytes : ByteArray) : IO ByteArray := do
  let byte ← input.read 1
  if byte.isEmpty || byte.data.contains 0x0A then return bytes ++ byte
  else lineBytes input (bytes ++ byte)

/-- The next line of input; at its end there is none. -/
def readLine (input : IO.FS.Stream) : IO (Except Files.Fault (Option String)) := do
  try
    let bytes ← lineBytes input .empty
    if bytes.isEmpty then return .ok none
    match String.fromUTF8? bytes with
    | some line => return .ok (some (String.ofList (Text.dropLineEnd line.toList)))
    | none => return .error .notText
  catch e => return .error (faultOf e)

def readText (path : String) : IO (Except Files.Fault String) := do
  try
    match String.fromUTF8? (← IO.FS.readBinFile path) with
    | some text => return .ok text
    | none => return .error .notText
  catch e => return .error (faultOf e)

/-- What goes wrong with an action, if anything does. -/
def attempt (action : IO Unit) : IO (Option Files.Fault) := do
  try
    action
    return none
  catch e => return some (faultOf e)

/-! ### Programs -/

/-- Goes through the rounds of a loop. -/
partial def rounds {σ β : Type} (round : σ → Round σ β) (s : σ) (input : IO.FS.Stream) :
    IO β := do
  match round s with
  | .stop result => return result
  | .read line last =>
    match ← readLine input with
    | .ok (some text) => rounds round (line text) input
    | .ok none => return last none
    | .error fault => return last (some fault)

/-- Runs a program; requests wait for the given number of seconds at most. -/
def perform {α : Type} (seconds : Nat) : Program α → IO α
  | .done a => return a
  | .fetch request next => do perform seconds (next (← fetch seconds request))
  | .loop s round next => do perform seconds (next (← rounds round s (← IO.getStdin)))
  | .print line next => do
    IO.println line
    perform seconds next
  | .readText path next => do perform seconds (next (← readText path))
  | .writeText path text next => do
    perform seconds (next (← attempt (IO.FS.writeFile path text)))
  | .rename source target next => do
    perform seconds (next (← attempt (IO.FS.rename source target)))

/-- The text of the nearest file of variables, in this folder or in one above it. -/
def variablesText : IO (Option String) := do
  let rec search (depth : Nat) (path : String) : IO (Option String) := do
    match ← readText (path ++ ".env"), depth with
    | .ok text, _ => return some text
    | .error _, 0 => return none
    | .error _, depth + 1 => search depth (path ++ "../")
  search (← IO.currentDir).components.length ""

end DatasetSearch.CommandLine

open DatasetSearch in
def main (args : List String) : IO UInt32 := do
  let now ← Std.Time.Timestamp.now
  let given ← Std.Async.System.getEnv
  let env := Command.environment given.get? (← CommandLine.variablesText)
  let settings := (Settings.read env).toOption
  let seconds := (settings.map (·.timeoutSeconds)).getD 0
  if let (some s, .command .login) := (settings, Command.parse args) then
    IO.eprintln ("Log in at " ++ (Account.Store.make s.appUrl).loginUrl)
  let ending ← CommandLine.perform seconds
    (Command.start now.toMillisecondsSinceUnixEpoch.val env args)
  match ending with
  | .failed f => IO.eprintln f.message
  | .misuse => IO.eprintln Command.usage
  | .help => IO.println Command.usage
  | .success => pure ()
  return ending.exitCode.toUInt32
