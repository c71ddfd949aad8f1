import DatasetSearch.Text.Alphanumeric
import DatasetSearch.Text.Basic

/-! Variables kept in a file.

A line sets a variable that is not set yet: a name, an equals sign and a value. A value may be
quoted, in part or as a whole; single quotes keep all they hold, double quotes let a backslash
escape a character. A dollar sign stands for the value of a variable. A hash after white space
begins a comment, and a quoted value may go on over several lines. At the first line that is none
of this, reading ends; what was set before it stays. -/
namespace DatasetSearch.Variables

/-- The values of the variables that are set. -/
abbrev Env := String → Option String

/-- The value after a name and an equals sign, where a variable is written as its name, an equals
sign and its value; so a name may reach into the value of a shorter one. -/
def Env.valueAfter? (env : Env) (name : List Char) : Option (List Char) :=
  let (front, back) := Text.splitFirst '=' name
  let value? := (env (String.ofList front)).map String.toList
  if front.length = name.length then value?
  else
    let part := back ++ ['=']
    value?.bind fun value =>
      if part.isPrefixOf value then some (value.drop part.length) else none

/-- Sets a variable that is not set yet. -/
def Env.add (env : Env) (name value : String) : Env := fun n =>
  (env n).or (if n = name then some value else none)

/-! ### Lines that belong together -/

/-- Where a line stands with its quotes. -/
inductive Quoting where
  | none
  | space
  | escape
  | single
  | singleEscape
  | double
  | doubleEscape
deriving DecidableEq, Repr

def Quoting.next (q : Quoting) (c : Char) : Quoting :=
  let opening :=
    if c = '\\' then Quoting.escape
    else if c = '"' then .double
    else if c = '\'' then .single
    else .none
  match q with
  | .none => if Text.isBlank c ∧ c ≠ '\n' ∧ c ≠ '\r' then .space else opening
  | .space => opening
  | .escape => .none
  | .single => if c = '\\' then .singleEscape else if c = '\'' then .none else .single
  | .singleEscape => .single
  | .double => if c = '\\' then .doubleEscape else if c = '"' then .none else .double
  | .doubleEscape => .double

/-- Follows a line; where a comment begins, gives the part before it. -/
def follow : Quoting → List Char → Except (List Char) Quoting
  | q, [] => .ok q
  | q, c :: rest =>
    if q = .space ∧ c = '#' then .error []
    else (follow (q.next c) rest).mapError (c :: ·)

/-- Puts the lines of a quoted value together. A text that ends inside quotes ends in `none`. -/
def joinLines : Quoting → List Char → List (List Char) → List (Option (List Char))
  | q, _, [] => if q = .none then [] else [none]
  | q, before, line :: rest =>
    let whole := before ++ line
    if (whole.dropWhile Text.isBlank).head? = some '#' then some [] :: joinLines .none [] rest
    else
      match follow q line with
      | .ok .none => some (Text.dropLineEnd whole) :: joinLines .none [] rest
      | .error kept => some (before ++ kept) :: joinLines .none [] rest
      | .ok q => joinLines q whole rest

/-! ### Values -/

/-- Where a value stands with a variable in it. -/
inductive Naming where
  | none
  | bare
  | braced
deriving DecidableEq, Repr

structure Partial where
  single : Bool := false
  double : Bool := false
  escaped : Bool := false
  /-- Only white space and a comment may follow. -/
  ended : Bool := false
  naming : Naming := .none
  /-- The name of a variable so far. -/
  name : List Char := []
  text : List Char := []

/-- The value with that of the named variable at its end. -/
def Partial.substitute (env : Env) (p : Partial) : Partial :=
  { p with name := [], text := p.text ++ (env.valueAfter? p.name).getD [] }

/-- The value after one more character; `none` if it cannot stand there. -/
def Partial.push (env : Env) (p : Partial) (c : Char) : Option Partial :=
  let add (p : Partial) : Partial := { p with text := p.text ++ [c] }
  if p.ended then if c = ' ' ∨ c = '\t' then some p else none
  else if p.escaped then
    if ['\\', '\'', '"', '$', ' '].contains c then some { add p with escaped := false }
    else if c = 'n' then some { p with text := p.text ++ ['\n'], escaped := false }
    else none
  else if p.single then if c = '\'' then some { p with single := false } else some (add p)
  else if p.naming ≠ .none then
    if Text.isAlphanumeric c then some { p with name := p.name ++ [c] }
    else if p.naming = .braced then
      if c = '\x7d' then some { p.substitute env with naming := .none }
      else some { p with name := p.name ++ [c] }
    else if c = '\x7b' ∧ p.name = [] then some { p with naming := .braced }
    else if c = '$' then some { p.substitute env with naming := .bare }
    else some (add { p.substitute env with naming := .none })
  else if c = '$' then some { p with naming := .bare }
  else if p.double then
    if c = '"' then some { p with double := false }
    else if c = '\\' then some { p with escaped := true }
    else some (add p)
  else if c = '\'' then some { p with single := true }
  else if c = '"' then some { p with double := true }
  else if c = '\\' then some { p with escaped := true }
  else if c = ' ' ∨ c = '\t' then some { p with ended := true }
  else some (add p)

/-- Reads a value; a comment ends it. -/
def readValue (env : Env) : Partial → List Char → Option (List Char)
  | p, [] =>
    if p.naming = .braced ∨ p.single ∨ p.double then none else some (p.substitute env).text
  | p, c :: rest =>
    if p.ended ∧ c = '#' then readValue env p []
    else
      match p.push env c with
      | some p => readValue env p rest
      | none => none

/-! ### Lines -/

def isNameStart (c : Char) : Bool := c.isAlpha || c == '_'

def isNamePart (c : Char) : Bool := c.isAlphanum || c == '_' || c == '.'

/-- A name at the front of a line, and what follows it and white space. -/
def readName (cs : List Char) : Option (List Char × List Char) :=
  if cs.head?.any isNameStart then
    some (cs.takeWhile isNamePart, (cs.dropWhile isNamePart).dropWhile Text.isBlank)
  else none

/-- A name and the equals sign after it; `export` may stand in front. -/
def readTarget (cs : List Char) : Option (List Char × List Char) :=
  match readName cs with
  | none => none
  | some (name, '=' :: rest) => some (name, rest)
  | some (name, rest) =>
    if name = "export".toList then
      match readName rest with
      | some (name, '=' :: rest) => some (name, rest)
      | _ => none
    else none

/-- A line's name and value; a line may also hold nothing. -/
def readLine (env : Env) (line : List Char) : Option (Option (String × String)) :=
  let cs := Text.trimChars line
  if cs = [] ∨ cs.head? = some '#' then some none
  else
    match readTarget cs with
    | none => none
    | some (name, rest) =>
      let rest := rest.dropWhile Text.isBlank
      if rest = [] ∨ rest.head? = some '#' then some (some (String.ofList name, ""))
      else (readValue env {} rest).map fun v => some (String.ofList name, String.ofList v)

/-- Sets the variables of some lines. -/
def setAll (env : Env) : List (Option (List Char)) → Env
  | [] => env
  | none :: _ => env
  | some line :: rest =>
    match readLine env line with
    | none => env
    | some none => setAll env rest
    | some (some (name, value)) => setAll (env.add name value) rest

/-- The variables after those of a file's text have been added. -/
def load (env : Env) (text : String) : Env :=
  let cs := match text.toList with
    | '\ufeff' :: rest => rest
    | cs => cs
  setAll env (joinLines .none [] (Text.fullLines cs))

end DatasetSearch.Variables
