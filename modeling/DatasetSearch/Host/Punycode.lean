import DatasetSearch.Decimal.Whole

/-! Punycode: labels of a host's name written in ASCII.

The ASCII characters of the label stand first, before the last hyphen, and the others follow in the
order of their code points, each as a number in digits `a` to `z` and `0` to `9` that tells how far
code point and place have moved on. How many digits a number has depends on a bias that follows the
size of the numbers. -/
namespace DatasetSearch.Host.Punycode

def digit? (c : Char) : Option Nat :=
  if c.isLower then some (c.toNat - 'a'.toNat)
  else if c.isUpper then some (c.toNat - 'A'.toNat)
  else if c.isDigit then some (c.toNat - '0'.toNat + 26)
  else none

/-- A digit below the threshold ends a number; the threshold of the digit at `place`, counted in
36s from one, lies between 1 and 26. -/
def threshold (bias place : Nat) : Nat := min (max (place - bias) 1) 26

/-- Divides by 35 while the value exceeds 455; with 36 for each division. -/
def scaleDown (delta added : Nat) : Nat × Nat :=
  if h : 455 < delta then scaleDown (delta / 35) (added + 36) else (delta, added)
termination_by delta
decreasing_by exact Nat.div_lt_self (by omega) (by omega)

/-- The bias after a number, where the label has `length` characters. -/
def adapt (delta length : Nat) (isFirst : Bool) : Nat :=
  let halved := if isFirst then delta / 700 else delta / 2
  let (rest, added) := scaleDown (halved + halved / length) 0
  added + 36 * rest / (rest + 38)

/-! ### Reading -/

/-- Reads a number and adds it to `sum`. Numbers and weights have at most 32 bits. -/
def readNumber (bias place weight sum : Nat) :
    (cs : List Char) → Option (Nat × { rest : List Char // rest.length < cs.length })
  | [] => none
  | c :: rest => do
    let d ← digit? c
    let sum := sum + d * weight
    if twoPow 32 ≤ sum then none
    else
      let t := threshold bias place
      if d < t then some (sum, ⟨rest, by simp⟩)
      else if twoPow 32 ≤ weight * (36 - t) then none
      else do
        let (n, ⟨after, h⟩) ← readNumber bias (place + 36) (weight * (36 - t)) sum rest
        some (n, ⟨after, by simp; omega⟩)

/-- Puts the characters that the rest of the input stands for into the label. The last one had the
code point `codePoint` and stood before the place `place`. -/
def insertAll (bias codePoint place : Nat) (label cs : List Char) : Option (List Char) :=
  match cs with
  | [] => some label
  | c :: rest =>
    match readNumber bias 36 1 place (c :: rest) with
    | none => none
    | some (n, after) =>
      let length := label.length + 1
      let next := codePoint + n / length
      if next.isValidChar then
        insertAll (adapt (n - place) length (place == 0)) next (n % length + 1)
          (label.insertIdx (n % length) (Char.ofNat next)) after.val
      else none
termination_by cs.length
decreasing_by exact after.property

/-- The label that a text stands for. -/
def decode (cs : List Char) : Option (List Char) :=
  let tail := (cs.reverse.takeWhile (· ≠ '-')).reverse
  let head := cs.take (cs.length - tail.length - 1)
  if head.isEmpty then insertAll 72 0x80 0 [] cs else insertAll 72 0x80 0 head tail

/-! ### Writing -/

def digitChar (d : Nat) : Char := if d < 26 then Char.ofNat (0x61 + d) else Char.ofNat (0x16 + d)

theorem threshold_bounds (bias place : Nat) :
    1 ≤ threshold bias place ∧ threshold bias place ≤ 26 := by
  unfold threshold
  omega

/-- The digits of a number, from the digit at `place` on. -/
def numberChars (bias place n : Nat) : List Char :=
  let t := threshold bias place
  if n < t then [digitChar n]
  else digitChar (t + (n - t) % (36 - t)) :: numberChars bias (place + 36) ((n - t) / (36 - t))
termination_by n
decreasing_by
  have h := threshold_bounds bias place
  have : (n - threshold bias place) / (36 - threshold bias place) ≤ n - threshold bias place :=
    Nat.div_le_self _ _
  omega

/-- What is written so far, and how far code points and places have moved on since the last number;
`length` is the number of characters that are written. -/
structure Writer where
  out : List Char
  moved : Nat
  bias : Nat
  length : Nat

/-- Goes over one character of the label on the way to those with the code point `codePoint`. -/
def Writer.pass (basic codePoint : Nat) (w : Writer) (c : Char) : Writer :=
  if c.toNat < codePoint then { w with moved := w.moved + 1 }
  else if c.toNat = codePoint then
    { out := w.out ++ numberChars w.bias 36 w.moved
      moved := 0
      bias := adapt w.moved (w.length + 1) (w.length == basic)
      length := w.length + 1 }
  else w

/-- Writes the characters with the given code points, in order; the next possible one is `next`. -/
def Writer.writeAll (label : List Char) (basic next : Nat) (w : Writer) : List Nat → List Char
  | [] => w.out
  | n :: rest =>
    let w := { w with moved := w.moved + (n - next) * (w.length + 1) }
    let w := label.foldl (Writer.pass basic n) w
    Writer.writeAll label basic (n + 1) { w with moved := w.moved + 1 } rest

/-- The text that stands for a label. -/
def encode (label : List Char) : List Char :=
  let basic := label.filter (·.toNat < 0x80)
  let others := ((label.filter (0x80 ≤ ·.toNat)).map Char.toNat).mergeSort.eraseDups
  let out := if basic.isEmpty then [] else basic ++ ['-']
  Writer.writeAll label basic.length 0x80 ⟨out, 0, 72, basic.length⟩ others

end DatasetSearch.Host.Punycode
