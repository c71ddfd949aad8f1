import DatasetSearch.Decimal.Whole
import DatasetSearch.Text.Basic

/-! The commands of the command line and how they are spelled.

A command is a name and its arguments. Arguments are options with a value, flags and texts that
stand for themselves, in any order; after `--` every argument stands for itself. An option's value
is the next argument, which then cannot begin with a dash, or follows an equals sign. Arguments are
taken one by one, so of a request for help and an argument that is wrong the first one counts; what
only all arguments together show, such as one that is missing, comes last. -/
namespace DatasetSearch

inductive Command where
  | search (term : String) (routes : List String) (pages : Nat)
  | complete (term : String) (creators : Bool)
  | contentTypes
  | history (kind start : String)
  | wholeHistory
  | forget (key : String)
  | login
  | whoami
  | logout
deriving DecidableEq, Repr

namespace Command

/-- What the arguments ask for. -/
inductive Parsed where
  | command (c : Command)
  | help
  | misuse
deriving DecidableEq, Repr

/-! ### Sorting arguments -/

/-- How an option of a command is used. -/
structure OptionForm where
  name : String
  repeats : Bool := false
  accepts : String → Bool := fun _ => true

/-- The arguments that a command takes. -/
structure Form where
  options : List OptionForm := []
  flags : List String := []
  /-- The most arguments that stand for themselves. -/
  plain : Nat := 0

/-- Arguments by their role, each in the order given. -/
structure Arguments where
  options : List (String × String) := []
  flags : List String := []
  plain : List String := []
deriving DecidableEq, Repr

/-- Why arguments cannot be sorted. -/
inductive Stop where
  | help
  | misuse
deriving DecidableEq, Repr

/-- What an argument looks like. -/
inductive Shape where
  /-- `--`, after which every argument stands for itself. -/
  | divider
  /-- `--name` or `--name=value`. -/
  | long (name : String) (value : Option String)
  /-- A dash and a letter. -/
  | short (letter : Char)
  | plain
deriving DecidableEq, Repr

def Shape.of (arg : String) : Shape :=
  match arg.toList with
  | ['-', '-'] => .divider
  | '-' :: '-' :: cs =>
    let (name, value) := Text.splitFirst '=' cs
    .long (String.ofList name) (if '=' ∈ cs then some (String.ofList value) else none)
  | '-' :: c :: _ => .short c
  | _ => .plain

namespace Arguments

def values (a : Arguments) (name : String) : List String :=
  (a.options.filter (·.1 == name)).map (·.2)

/-- The first value of an option. -/
def value? (a : Arguments) (name : String) : Option String := (a.values name).head?

def hasFlag (a : Arguments) (name : String) : Bool := a.flags.contains name

/-- Takes one more option, if the form has it, its value is accepted and it may be given now. -/
def takeOption? (form : Form) (name value : String) (a : Arguments) : Option Arguments :=
  match form.options.find? (·.name == name) with
  | some o =>
    if o.accepts value && (o.repeats || (a.value? name).isNone) then
      some { a with options := a.options ++ [(name, value)] }
    else none
  | none => none

/-- Takes one more flag, if the form has it and it is not given yet. -/
def takeFlag? (form : Form) (name : String) (a : Arguments) : Option Arguments :=
  if form.flags.contains name && !a.hasFlag name then some { a with flags := a.flags ++ [name] }
  else none

/-- Takes one more plain argument, if there is a place for it. -/
def takePlain? (form : Form) (arg : String) (a : Arguments) : Option Arguments :=
  if a.plain.length < form.plain then some { a with plain := a.plain ++ [arg] } else none

end Arguments

/-- Adds the arguments of a command to those sorted already. The first one that the command does not
take ends it, or the first that asks for help. -/
def sort (form : Form) (a : Arguments) : List String → Except Stop Arguments
  | [] => .ok a
  | arg :: rest =>
    match Shape.of arg, rest with
    | .divider, rest =>
      match rest.foldlM (fun a arg => a.takePlain? form arg) a with
      | some a => .ok a
      | none => .error .misuse
    | .long "help" none, _ => .error .help
    | .long name (some value), rest =>
      match a.takeOption? form name value with
      | some a => sort form a rest
      | none => .error .misuse
    | .long name none, rest =>
      match a.takeFlag? form name, rest with
      | some a, rest => sort form a rest
      | none, value :: rest =>
        match if Shape.of value = .plain then a.takeOption? form name value else none with
        | some a => sort form a rest
        | none => .error .misuse
      | none, [] => .error .misuse
    | .short 'h', _ => .error .help
    | .short _, _ => .error .misuse
    | .plain, rest =>
      match a.takePlain? form arg with
      | some a => sort form a rest
      | none => .error .misuse

/-! ### The commands -/

/-- A number of pages: an integer of 32 bits without a sign, which may be written with one. -/
def readPages (s : String) : Option Nat :=
  let (negative, digits) := takeSign s.toList
  if digits.isEmpty || !digits.all Char.isDigit then none
  else
    let n := digitsValue digits
    if (negative && n ≠ 0) || twoPow 32 ≤ n then none else some n

def searchForm : Form where
  options := [{ name := "route", repeats := true },
    { name := "pages", accepts := fun s => (readPages s).isSome }]
  plain := 1

def ofSearch (a : Arguments) : Option Command :=
  some (.search (a.plain.head?.getD "") (a.values "route")
    (((a.value? "pages").bind readPages).getD 1))

def completeForm : Form := { flags := ["creator"], plain := 1 }

def ofComplete (a : Arguments) : Option Command := do
  return .complete (← a.plain.head?) (a.hasFlag "creator")

def historyForm : Form := { options := [{ name := "kind" }], flags := ["all"], plain := 1 }

def ofHistory (a : Arguments) : Option Command :=
  match a.hasFlag "all", a.plain.head? with
  | true, some _ => none
  | true, none => some .wholeHistory
  | false, start => some (.history ((a.value? "kind").getD "term") (start.getD ""))

def forgetForm : Form := { plain := 1 }

def ofForget (a : Arguments) : Option Command := a.plain.head?.map .forget

/-- Reads the arguments of one command. -/
def parseWith (form : Form) (make : Arguments → Option Command) (args : List String) : Parsed :=
  match sort form {} args with
  | .error .help => .help
  | .error .misuse => .misuse
  | .ok a =>
    match make a with
    | some c => .command c
    | none => .misuse

/-- The names of the commands. -/
def names : List String :=
  ["search", "typeahead", "content-types", "history", "forget", "login", "whoami", "logout", "help"]

/-- How the program is called. -/
def usage : String :=
  "Usage: discovery <" ++ "|".intercalate names ++ ">\n\n" ++
    "  search [TERM] [--route KEY=VALUE]... [--pages N]\n" ++
    "  typeahead TERM [--creator]\n" ++
    "  content-types\n" ++
    "  history [--kind KIND] [--all | PREFIX]\n" ++
    "  forget KEY\n" ++
    "  login\n" ++
    "  whoami\n" ++
    "  logout"

/-- Whether the arguments ask for help or for the version, and for nothing that does not exist. -/
def asksHelp : List String → Bool
  | ["help"] => true
  | ["help", name] => names.contains name
  | arg :: _ =>
    [Shape.long "help" none, .long "version" none, .short 'h', .short 'V'].contains (Shape.of arg)
  | [] => false

/-- Reads the arguments of the program. -/
def parse : List String → Parsed
  | "search" :: args => parseWith searchForm ofSearch args
  | "typeahead" :: args => parseWith completeForm ofComplete args
  | "content-types" :: args => parseWith {} (fun _ => some .contentTypes) args
  | "history" :: args => parseWith historyForm ofHistory args
  | "forget" :: args => parseWith forgetForm ofForget args
  | "login" :: args => parseWith {} (fun _ => some .login) args
  | "whoami" :: args => parseWith {} (fun _ => some .whoami) args
  | "logout" :: args => parseWith {} (fun _ => some .logout) args
  | args => if asksHelp args then .help else .misuse

end Command
end DatasetSearch
