import DatasetSearch.Decimal.Whole
import DatasetSearch.Text.Basic

/-! Hosts given by a number: IPv4 and IPv6 addresses.

An IPv4 address has up to four parts, in decimal, octal or hexadecimal digits; the last part stands
for all bytes that the others leave. An IPv6 address has eight groups of 16 bits; two colons in a
row stand for groups of zeros, and the last two groups may be written as an IPv4 address. -/
namespace DatasetSearch.Host

/-! ### IPv4 -/

/-- A number of an IPv4 address; `none` inside if it has more than 32 bits. -/
def ipv4Number? (cs : List Char) : Option (Option Nat) :=
  let read (base : Nat) (digits : List Char) : Option (Option Nat) :=
    match digits.mapM fun c => (Text.hexValue? c).filter (· < base) with
    | none => none
    | some ds =>
      let n := ds.foldl (fun n d => base * n + d) 0
      some (if n < twoPow 32 then some n else none)
  match cs with
  | [] => none
  | '0' :: 'x' :: rest | '0' :: 'X' :: rest => read 16 rest
  | '0' :: d :: rest => read 8 (d :: rest)
  | cs => read 10 cs

/-- The parts of a name between its points, without an empty last one. -/
def nameParts (cs : List Char) : List (List Char) :=
  let parts := Text.splitAll '.' cs
  if parts.getLast? = some [] then parts.dropLast else parts

def endsInNumber (cs : List Char) : Bool :=
  match (nameParts cs).getLast? with
  | none => false
  | some part => (!part.isEmpty && part.all Char.isDigit) || (ipv4Number? part).isSome

/-- The number whose bytes are given, the first byte first. -/
def ofBytes (bytes : List Nat) : Nat := bytes.foldl (fun n b => 256 * n + b) 0

def ipv4? (cs : List Char) : Option Nat :=
  let parts := nameParts cs
  if 4 < parts.length then none
  else
    match (parts.mapM fun p => (ipv4Number? p).join).map List.reverse with
    | some (last :: before) =>
      let room := twoPow (8 * (4 - before.length))
      if last < room && before.all (· < 256) then some (ofBytes before.reverse * room + last)
      else none
    | _ => none

/-- The four bytes of an IPv4 address in decimal digits. -/
def ipv4Text (n : Nat) : String :=
  ".".intercalate ([3, 2, 1, 0].map fun i => toString (n / twoPow (8 * i) % 256))

/-! ### IPv6 -/

/-- An IPv4 address in four decimal parts, as it may stand at the end of an IPv6 address. -/
def dottedQuad? (cs : List Char) : Option (List Nat) :=
  let byte? (p : List Char) : Option Nat :=
    let n := Nat.ofDigitChars 10 p 0
    if !p.isEmpty && p.length ≤ 3 && p.all Char.isDigit && (p.head? ≠ some '0' || p.length = 1) &&
        n < 256 then some n
    else none
  match (Text.splitAll '.' cs).mapM byte? with
  | some [a, b, c, d] => some [256 * a + b, 256 * c + d]
  | _ => none

/-- A group of an IPv6 address. -/
def group? (cs : List Char) : Option Nat :=
  if cs.isEmpty || 4 < cs.length then none
  else (cs.mapM Text.hexValue?).map fun ds => ds.foldl (fun n d => 16 * n + d) 0

/-- The groups of a part of an IPv6 address. -/
def groups? (isLast : Bool) (cs : List Char) : Option (List Nat) :=
  if cs.isEmpty then some []
  else
    let parts := Text.splitAll ':' cs
    match parts.mapM group? with
    | some groups => some groups
    | none =>
      if isLast then do
        let groups ← parts.dropLast.mapM group?
        let quad ← parts.getLast?.bind dottedQuad?
        return groups ++ quad
      else none

/-- What stands before and after the first two colons in a row. -/
def splitGap : List Char → Option (List Char × List Char)
  | [] => none
  | ':' :: ':' :: rest => some ([], rest)
  | c :: rest => (splitGap rest).map fun p => (c :: p.1, p.2)

def ipv6? (cs : List Char) : Option (List Nat) :=
  match splitGap cs with
  | none => (groups? true cs).filter (·.length == 8)
  | some (before, after) => do
    let a ← groups? false before
    let b ← groups? true after
    if a.length + b.length < 8 then
      some (a ++ List.replicate (8 - a.length - b.length) 0 ++ b)
    else none

/-- The place and length of the longest run of zeros, the first of equally long ones. -/
def longestGap (groups : List Nat) : Nat × Nat :=
  (List.range groups.length).foldl (fun best i =>
    let length := ((groups.drop i).takeWhile (· == 0)).length
    if best.2 < length then (i, length) else best) (0, 0)

/-- The groups in hexadecimal digits, with two colons for the longest run of two or more zeros. -/
def ipv6Text (groups : List Nat) : String :=
  let join (gs : List Nat) : String :=
    ":".intercalate (gs.map fun g => String.ofList (Nat.toDigits 16 g))
  let (start, length) := longestGap groups
  if length < 2 then join groups
  else join (groups.take start) ++ "::" ++ join (groups.drop (start + length))

end DatasetSearch.Host
