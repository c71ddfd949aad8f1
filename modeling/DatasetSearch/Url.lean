import DatasetSearch.Decimal.Whole
import DatasetSearch.Host
import DatasetSearch.Url.Path

/-! Absolute addresses.

An address begins with a scheme. Addresses of the web's schemes name a host, whatever slashes stand
before it; addresses of other schemes have one only after two slashes. A host is a name, an IPv4
address, which every name that ends in a number has to be, or an IPv6 address in brackets. All that
follows host and port is free, and written in ASCII when the address is. -/
namespace DatasetSearch.Url

/-- What is wrong with an address. -/
inductive Fault where
  | relative
  | emptyHost
  | invalidPort
  | invalidName
  | invalidCharacter
  | invalidIPv4
  | invalidIPv6
deriving DecidableEq, Repr

def Fault.message : Fault → String
  | .relative => "relative URL without a base"
  | .emptyHost => "empty host"
  | .invalidPort => "invalid port number"
  | .invalidName => "invalid international domain name"
  | .invalidCharacter => "invalid domain character"
  | .invalidIPv4 => "invalid IPv4 address"
  | .invalidIPv6 => "invalid IPv6 address"

/-! ### Hosts and ports -/

/-- Characters that no host has where names are not read. -/
def isForbidden (c : Char) : Bool := c == '\x00' || " #/:<>?@[\\]^|".toList.contains c

/-- Reads the name of a host: percent-encoding is undone, and a name that ends in a number has to be
an IPv4 address. -/
def readName (cs : List Char) : Except Fault Host :=
  match (Text.Percent.decodeText cs).bind fun s => Host.readName? s.toList with
  | none => .error .invalidName
  | some name =>
    if name.isEmpty then .error .emptyHost
    else if Host.endsInNumber name then
      match Host.ipv4? name with
      | some n => .ok (.ipv4 n)
      | none => .error .invalidIPv4
    else .ok (.name name)

/-- Reads a host. Only schemes of the web and of files read its name; with others it may be
empty. -/
def readHost (kind : Kind) (cs : List Char) : Except Fault Host :=
  match cs with
  | '[' :: rest =>
    match if rest.getLast? = some ']' then Host.ipv6? rest.dropLast else none with
    | some groups => .ok (.ipv6 groups)
    | none => .error .invalidIPv6
  | cs =>
    if kind ≠ .other then if cs.isEmpty then .error .emptyHost else readName cs
    else if cs.any isForbidden then .error .invalidCharacter
    else .ok (.unread (String.ofList (Text.Percent.encodeWith isShown cs)))

/-- Reads a port, a number of 16 bits or nothing; a backslash ends it too. -/
def readPort (cs : List Char) : Except Fault (Option Nat) :=
  let digits := cs.takeWhile (· ≠ '\\')
  if digits.all Char.isDigit && digitsValue digits < twoPow 16 then
    .ok (if digits.isEmpty then none else some (digitsValue digits))
  else .error .invalidPort

/-! ### Users -/

/-- Who asks, in ASCII; the password may be empty. -/
structure User where
  name : String
  password : String
deriving DecidableEq, Repr

/-- Reads name and password, which a colon separates; one of them at least is not empty. -/
def User.of? (cs : List Char) : Option User :=
  let (name, password) := Text.splitFirst ':' cs
  if name.isEmpty && password.isEmpty then none
  else
    let encode (cs : List Char) := String.ofList (Text.Percent.encodeWith userSafe cs)
    some ⟨encode name, encode password⟩

/-- Whether the percent-encoding can be undone, of a password only where there is no name. -/
def User.isText (u : User) : Bool :=
  let isText (s : String) := (Text.Percent.decodeText s.toList).isSome
  isText u.name && (u.name ≠ "" || isText u.password)

def User.text (u : User) : String :=
  u.name ++ (if u.password = "" then "" else ":" ++ u.password) ++ "@"

/-! ### Addresses -/

structure Address where
  scheme : String
  user? : Option User
  host? : Option Host
  /-- The port, unless it is the one that the scheme uses anyway. -/
  port? : Option Nat
  path : String
  query? : Option String
  fragment? : Option String
deriving DecidableEq, Repr

/-- The address with the given parts, the last of which begins with the path and has breaks in it if
they matter to that. -/
def Address.make (scheme : String) (user? : Option User) (host? : Option Host) (port? : Option Nat)
    (rest : List Char) : Address :=
  let kind := Kind.of scheme
  let (rest, fragment) := rest.span (· ≠ '#')
  let (path, query) := rest.span (· ≠ '?')
  let encode (keep : UInt8 → Bool) (cs : List Char) : Option String :=
    if cs.isEmpty then none
    else some (String.ofList (Text.Percent.encodeWith keep (dropBreaks cs.tail)))
  { scheme, user?
    host? := if (Trail.of kind path).onDrive then none else host?
    port? := port?.filter (webPorts.lookup scheme ≠ some ·)
    path := pathText kind host?.isSome path
    query? := encode (querySafe kind) query
    fragment? := encode fragmentSafe fragment }

/-- The characters that end user, host and port. -/
def endsAuthority (kind : Kind) (c : Char) : Bool := kind.isSlash c || c == '?' || c == '#'

/-- The host, which a colon ends unless it stands in brackets, and what follows it. -/
def splitHost : Bool → List Char → List Char × List Char
  | _, [] => ([], [])
  | inBrackets, c :: rest =>
    if c = ':' ∧ !inBrackets then ([], c :: rest)
    else
      let (host, after) := splitHost (c = '[' ∨ (inBrackets ∧ c ≠ ']')) rest
      (c :: host, after)

/-- Reads an address from user, host and port on. A user has a host, and where the sign that ends
the user stands alone, no path follows it. A backslash after the port begins the path. -/
def readAuthority (scheme : String) (cs : List Char) : Except Fault Address :=
  let kind := Kind.of scheme
  let authority := cs.takeWhile (!endsAuthority kind ·)
  let rest := cs.drop authority.length
  let server := (authority.reverse.takeWhile (· ≠ '@')).reverse
  let user := authority.take (authority.length - server.length - 1)
  let user? := User.of? user
  let needsHost := user?.isSome || (authority.head? = some '@' && user.isEmpty && !rest.isEmpty)
  let (host, after) := splitHost false server
  if host.isEmpty && (needsHost || !after.isEmpty) then .error .emptyHost
  else do
    let host ← readHost kind host
    let port? ← readPort (after.drop 1)
    return .make scheme user? host port? (after.dropWhile (· ≠ '\\') ++ rest)

/-- What follows a slash at the front of a file's address. -/
def afterSlash? (cs : List Char) : Option (List Char) :=
  match cs.dropWhile isBreak with
  | c :: rest => if Kind.file.isSlash c then some rest else none
  | [] => none

/-- Reads the address of a file, which has a host after two slashes. A drive is no host, and the
machine itself needs no name; without one the path gets a slash of its own. -/
def readFile (scheme : String) (cs : List Char) : Except Fault Address :=
  match (afterSlash? cs).bind afterSlash? with
  | none => .ok (.make scheme none none none cs)
  | some rest =>
    let (host, path) := rest.span (!endsAuthority .file ·)
    let host := dropBreaks host
    if host.isEmpty || isDrive host then .ok (.make scheme none none none ('/' :: rest))
    else do
      let host ← readHost .file host
      return if host.text = "localhost" then .make scheme none none none ('/' :: path)
        else .make scheme none host none path

/-- Reads an address whose scheme is followed by `rest`. -/
def parseAfter (scheme : String) (rest : List Char) : Except Fault Address :=
  let plain := dropBreaks rest
  match Kind.of scheme, plain with
  | .file, _ => readFile scheme rest
  | .web, _ => readAuthority scheme (plain.dropWhile Kind.web.isSlash)
  | .other, '/' :: '/' :: rest => readAuthority scheme rest
  | .other, _ => .ok (.make scheme none none none plain)

/-- Reads an address. -/
def parse (s : String) : Except Fault Address :=
  let cs := trim s.toList
  match splitScheme (dropBreaks cs) with
  | none => .error .relative
  | some (scheme, _) => parseAfter scheme (Text.splitFirst ':' cs).2

namespace Address

/-- Host and port. -/
def authority (a : Address) : String :=
  (a.host?.map Host.text).getD "" ++ (a.port?.map fun p => ":" ++ wholeText p).getD ""

/-- Path and query. -/
def target (a : Address) : String := a.path ++ (a.query?.map ("?" ++ ·)).getD ""

/-- What stands between scheme and path. A file's address always has the slashes of a host, and
where there is none, a path does not look like one. -/
def front (a : Address) : String :=
  if a.host?.isSome || a.scheme = "file" then
    "//" ++ (a.user?.map User.text).getD "" ++ a.authority
  else if "//".toList.isPrefixOf a.path.toList then "/."
  else ""

/-- The address in ASCII. -/
def text (a : Address) : String :=
  a.scheme ++ ":" ++ a.front ++ a.target ++ (a.fragment?.map ("#" ++ ·)).getD ""

end Address
end DatasetSearch.Url
