import DatasetSearch.Text.Basic
import DatasetSearch.Text.Percent

/-! Schemes and paths of addresses.

What the rules on hosts and paths depend on is the kind of the scheme that an address begins with. A
path is walked name by name, where a point stands for the folder itself and two points lead to the
one above, unless that is a drive. Then its names are written in ASCII. A file's path may begin with
a drive, which stands on no host; a break after the colon of a drive separates as a slash does. -/
namespace DatasetSearch.Url

/-! ### Schemes -/

/-- What the rules on hosts and paths depend on. -/
inductive Kind where
  | file
  | web
  | other
deriving DecidableEq, Repr

/-- The web's schemes with the ports that they use if none is given. -/
def webPorts : List (String × Nat) :=
  [("http", 80), ("https", 443), ("ws", 80), ("wss", 443), ("ftp", 21)]

def Kind.of (scheme : String) : Kind :=
  if scheme = "file" then .file
  else if (webPorts.lookup scheme).isSome then .web
  else .other

/-- Whether a character separates as a slash does. -/
def Kind.isSlash (kind : Kind) (c : Char) : Bool := c == '/' || (c == '\\' && kind != .other)

/-- The text without spaces and controls around it. -/
def trim (cs : List Char) : List Char :=
  let outer (c : Char) : Bool := c.toNat ≤ 0x20
  ((cs.dropWhile outer).reverse.dropWhile outer).reverse

/-- Tabs and line breaks, which stand for nothing in an address. -/
def isBreak (c : Char) : Bool := c == '\t' || c == '\n' || c == '\r'

def dropBreaks (cs : List Char) : List Char := cs.filter (!isBreak ·)

/-- The scheme at the front of a text, in small letters, and what follows its colon. -/
def splitScheme (cs : List Char) : Option (String × List Char) :=
  let inName (c : Char) : Bool := c.isAlphanum || c == '+' || c == '-' || c == '.'
  match cs.dropWhile inName with
  | ':' :: rest =>
    let name := cs.takeWhile inName
    if name.head?.any Char.isAlpha then some (String.ofList (name.map Char.toLower), rest) else none
  | _ => none

/-! ### What stands as it is -/

/-- Bytes that are no controls. -/
def isShown (b : UInt8) : Bool := 0x1F < b && b < 0x7F

/-- Bytes that stand as they are in a fragment, in a path, in a query, and in a user's name and
password. -/
def fragmentSafe (b : UInt8) : Bool :=
  isShown b && !" \"<>`".toList.any (·.toNat == b.toNat)
def pathSafe (b : UInt8) : Bool := fragmentSafe b && !"#?\x7b\x7d".toList.any (·.toNat == b.toNat)
def querySafe (kind : Kind) (b : UInt8) : Bool :=
  isShown b && !" \"#<>".toList.any (·.toNat == b.toNat) && !(b == 0x27 && kind != .other)
def userSafe (b : UInt8) : Bool := pathSafe b && !"/:;=@[\\]^|".toList.any (·.toNat == b.toNat)

/-! ### Walking -/

/-- Whether a name is that of a drive, a letter with a mark. -/
def isDrive : List Char → Bool
  | [letter, mark] => letter.isAlpha && (mark == ':' || mark == '|')
  | _ => false

/-- Whether a name in a path stands for the folder itself, and whether for the one above it. -/
def isStay (cs : List Char) : Bool := [".", "%2e"].contains (String.ofList (cs.map Char.toLower))
def isAscent (cs : List Char) : Bool :=
  ["..", ".%2e", "%2e.", "%2e%2e"].contains (String.ofList (cs.map Char.toLower))

/-- The way that has been walked: its names, the last one first, and whether it begins with a drive
in place of a host. -/
structure Trail where
  names : List (List Char) := []
  onDrive : Bool := false

def Trail.ascend (trail : Trail) : Trail :=
  if trail.names.head?.any isDrive then trail else { trail with names := trail.names.tail }

/-- Goes down to a name, which has breaks in it as it was written. In a file's path that begins with
a drive its mark becomes a colon. -/
def Trail.descend (kind : Kind) (trail : Trail) (name : List Char) : Trail :=
  let down (names : List (List Char)) : Trail := { trail with names := names ++ trail.names }
  match kind, trail.names, dropBreaks name with
  | .file, [], [letter, mark] =>
    if isDrive [letter, mark] then ⟨[[letter, ':']], true⟩ else down [[letter, mark]]
  | .file, [], letter :: ':' :: rest =>
    if letter.isAlpha && (Text.splitFirst ':' name).2.head?.any isBreak then
      down [rest, [letter, ':']]
    else down [letter :: ':' :: rest]
  | _, _, name => down [name]

/-- Walks along the names of a path. -/
def Trail.walk (kind : Kind) (trail : Trail) : List (List Char) → Trail
  | [] => trail
  | name :: rest =>
    let stay (trail : Trail) : Trail :=
      if rest.isEmpty then { trail with names := [] :: trail.names } else trail
    let plain := dropBreaks name
    if isAscent plain then (stay trail.ascend).walk kind rest
    else if isStay plain then (stay trail).walk kind rest
    else (trail.descend kind name).walk kind rest

/-- The way along a path, which may begin with a slash. -/
def Trail.of (kind : Kind) (cs : List Char) : Trail :=
  let cs := (cs.dropWhile isBreak).map fun c => if kind.isSlash c then '/' else c
  Trail.walk kind {} (Text.splitAll '/' (if cs.head? = some '/' then cs.tail else cs))

/-! ### The text -/

/-- The text of a path. One that does not begin with a slash stays as it is where there is no host,
and a file's path has one slash at its front. -/
def pathText (kind : Kind) (hasHost : Bool) (cs : List Char) : String :=
  if cs.isEmpty && kind = .other then ""
  else if kind = .other && !hasHost && cs.head? ≠ some '/' then
    String.ofList (Text.Percent.encodeWith isShown cs)
  else
    let names := (Trail.of kind cs).names.reverse
    let names := if kind = .file then names.dropWhile List.isEmpty else names
    let text := names.flatMap fun n => '/' :: Text.Percent.encodeWith pathSafe n
    if text.isEmpty then "/" else String.ofList text

end DatasetSearch.Url
