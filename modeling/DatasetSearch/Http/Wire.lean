import DatasetSearch.Http
import DatasetSearch.Text.Basic

/-! Requests and replies as they go over a connection.

A request asks for one response, after which the connection is to be closed. A response has a head
of lines, which ends with an empty one, and a body. The head gives the length of the body, says that
it comes in chunks, or leaves it to go on to the end. A response that ends too early breaks off. -/
namespace DatasetSearch.Http.Wire

/-! ### Addresses -/

/-- The server that a request goes to, and what it is asked for. -/
structure Target where
  host : String
  port : Nat
  /-- Host and port as the address has them. -/
  authority : String
  /-- Path and query. -/
  target : String
deriving DecidableEq, Repr

/-- Where an address leads; only servers without encryption can be reached. -/
def Target.of? (url : String) : Option Target :=
  match Url.parse url with
  | .error _ => none
  | .ok a =>
    if a.scheme = "http" ∧ isServed (requested a) then
      a.host?.map fun host => ⟨host.plainText, a.port?.getD 80, a.authority, a.target⟩
    else none

/-! ### Requests -/

def requestLines (t : Target) (r : Request) : List String :=
  ["GET " ++ t.target ++ " HTTP/1.1", "accept: */*", "host: " ++ t.authority,
    "connection: close"] ++ r.headers.map (fun h => h.1 ++ ": " ++ h.2) ++ ["", ""]

def requestText (t : Target) (r : Request) : String := "\r\n".intercalate (requestLines t r)

/-! ### The head of a response -/

/-- The lines before the first empty one, each without what ends it, and the bytes after that. -/
def scanHead (lines : List (List Char)) (line : List Char) :
    List UInt8 → Option (List (List Char) × List UInt8)
  | [] => none
  | b :: rest =>
    if b = 0x0A then
      let text := (if line.head? = some '\r' then line.tail else line).reverse
      if text.isEmpty then some (lines.reverse, rest) else scanHead (text :: lines) [] rest
    else scanHead lines (Char.ofNat b.toNat :: line) rest

/-- The status in the first line. -/
def readStatus (line : List Char) : Option Nat :=
  let digits := ((line.dropWhile (· ≠ ' ')).drop 1).take 3
  if line.take 5 = "HTTP/".toList ∧ digits.length = 3 ∧ digits.all Char.isDigit then
    some (Nat.ofDigitChars 10 digits 0)
  else none

/-- The name of a header in lower case, and its value. -/
def readHeader (line : List Char) : List Char × List Char :=
  ((line.takeWhile (· ≠ ':')).map Char.toLower,
    Text.trimChars ((line.dropWhile (· ≠ ':')).drop 1))

/-! ### The body of a response -/

/-- The number that the hexadecimal digits at the front of a line write. -/
def chunkSize (n : Nat) : List Char → Nat
  | [] => n
  | c :: rest =>
    match Text.hexValue? c with
    | some d => chunkSize (16 * n + d) rest
    | none => n

/-- Where the reading of chunks stands. -/
inductive Chunk where
  /-- In the line that gives the size of the next chunk, as far as it is read, backwards. -/
  | size (line : List Char)
  /-- In a chunk that lacks some bytes; after it comes the end of a line. -/
  | data (missing : Nat)
  | lineEnd

/-- The bytes of a body in chunks, the last of which is empty. -/
def readChunks : Chunk → List UInt8 → Option (List UInt8)
  | _, [] => none
  | .size line, b :: rest =>
    if b = 0x0A then
      match chunkSize 0 line.reverse with
      | 0 => some []
      | n + 1 => readChunks (.data (n + 1)) rest
    else readChunks (.size (Char.ofNat b.toNat :: line)) rest
  | .data n, b :: rest =>
    (readChunks (if n ≤ 1 then .lineEnd else .data (n - 1)) rest).map (b :: ·)
  | .lineEnd, b :: rest => readChunks (if b = 0x0A then .size [] else .lineEnd) rest

/-- The body of a response with these headers. -/
def readBody (headers : List (List Char × List Char)) (bytes : List UInt8) : Option (List UInt8) :=
  if headers.lookup "transfer-encoding".toList = some "chunked".toList then
    readChunks (.size []) bytes
  else
    match headers.lookup "content-length".toList with
    | some digits =>
      let n := Nat.ofDigitChars 10 digits 0
      if bytes.length < n then none else some (bytes.take n)
    | none => some bytes

/-- The reply to a request, from all that came over the connection. -/
def readReply (request : Request) (bytes : List UInt8) : Reply :=
  match scanHead [] [] bytes with
  | some (first :: lines, rest) =>
    match readStatus first with
    | none => .unreachable request
    | some status =>
      let body := if bodiless status then some [] else readBody (lines.map readHeader) rest
      match body.bind fun b => String.fromUTF8? ⟨b.toArray⟩ with
      | some text => .response (Response.received ⟨status, text⟩)
      | none => .cut
  | _ => .unreachable request

end DatasetSearch.Http.Wire
