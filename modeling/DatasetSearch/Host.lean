import DatasetSearch.Host.Address
import DatasetSearch.Host.Composition
import DatasetSearch.Host.Direction
import DatasetSearch.Host.Folding
import DatasetSearch.Host.Joining
import DatasetSearch.Host.Punycode
import DatasetSearch.Text.Basic
import DatasetSearch.Text.Percent

/-! Hosts, as addresses name them.

A name in letters of all scripts is read by folding its characters, composing the result and taking
its labels apart at the points. A label that begins with `xn--` is written in Punycode. It has to be
the written form of a label that is not ASCII, folded and composed already. Then every label is
checked by itself, and all together if some letters are written from right to left. -/
namespace DatasetSearch

inductive Host where
  /-- A name in small letters, without Punycode. -/
  | name (cs : List Char)
  | ipv4 (number : Nat)
  | ipv6 (groups : List Nat)
  /-- A name that is not read, in ASCII. -/
  | unread (text : String)
deriving DecidableEq, Repr

namespace Host

/-! ### Names -/

/-- Characters of ASCII that no name holds. -/
def isForbidden (c : Char) : Bool :=
  c.toNat ≤ 0x20 || c == '\x7f' || "#%/:<>?@[\\]^|".toList.contains c

/-- The most characters that a label beyond ASCII has, and that its Punycode has after the mark. -/
def labelLimit : Nat := 1000
def punycodeLimit : Nat := 2000

/-- The label that Punycode stands for. -/
def ofPunycode? (cs : List Char) : Option (List Char) := do
  if cs.isEmpty || cs.getLast? == some '-' || punycodeLimit < cs.length then none
  else
    let label ← Punycode.decode cs
    if label.all standsForItself && compose label == label then some label else none

/-- Whether a label can stand in a name: it is not too long, holds no forbidden character, does not
begin with a mark and has joiners only where they matter. -/
def isLabel (cs : List Char) : Bool :=
  (cs.length ≤ labelLimit || cs.all (·.toNat < 0x80)) && !cs.any isForbidden &&
    !cs.head?.any isMark && joinersFit [] cs

/-- Reads a label that is folded and composed. -/
def label? (cs : List Char) : Option (List Char) :=
  let label? :=
    match cs with
    | 'x' :: 'n' :: '-' :: '-' :: rest =>
      if rest.all (·.toNat < 0x80) then ofPunycode? rest else none
    | cs => some cs
  label?.filter isLabel

/-- Reads a name; the result is what it stands for, in small letters and without Punycode. -/
def readName? (cs : List Char) : Option (List Char) := do
  let folded ← cs.mapM fold?
  let labels ← (Text.splitAll '.' (compose folded.flatten)).mapM label?
  let name := ['.'].intercalate labels
  if needsDirections name && !labels.all hasOneDirection then none else some name

/-! ### Texts -/

/-- A label in ASCII. -/
def labelText (label : List Char) : List Char :=
  if label.all (·.toNat < 0x80) then label else "xn--".toList ++ Punycode.encode label

/-- The host in ASCII, an IPv6 address without brackets. -/
def plainText : Host → String
  | name cs => String.ofList (['.'].intercalate ((Text.splitAll '.' cs).map labelText))
  | ipv4 n => ipv4Text n
  | ipv6 groups => ipv6Text groups
  | unread s => s

/-- The host as an address has it. -/
def text (h : Host) : String :=
  match h with
  | ipv6 _ => "[" ++ h.plainText ++ "]"
  | h => h.plainText

end Host
end DatasetSearch
