import DatasetSearch.Filter.Value
import DatasetSearch.Query
import DatasetSearch.Route

/-! Search filters.

A filter is one constraint of a search that can be switched on and off. It contributes parameters
to the request while it is enabled and has a value, and it always says what its key of the route
is to be: its value, or nothing.

The value lives in the filter or in a cell that belongs to someone else. A shared cell is known by a
name `κ`, and what reading and writing it means for the owner's state `σ` is an interface,
`Cells κ σ`, that every operation is given; clearing is also given the owner's own way to reset a
cell. A filter brings a value into the shape of its kind both when it is written and when it is
read. -/
namespace DatasetSearch

/-- How the cells named by `κ` are kept in a state `σ`. -/
structure Cells (κ σ : Type) where
  read : κ → σ → FilterValue
  write : κ → FilterValue → σ → σ

/-- Where the value of a filter lives. -/
inductive Storage (κ : Type) where
  | own (value : FilterValue)
  /-- In a cell; `clears` tells that its owner has a way of its own to clear it. -/
  | cell (name : κ) (clears : Bool)
  /-- In a cell that nobody else uses, with what its owner puts there to clear it, if he does. -/
  | apart (value : FilterValue) (cleared : Option FilterValue)
deriving DecidableEq, Repr

/-- A choice offered for a filter. -/
structure Choice where
  value : String
  label : String
  hint : Option String := none
  icon : Option String := none
deriving DecidableEq, Repr

structure Filter (κ : Type) where
  /-- The name of the parameter in a request, for a range the first part of its two names. -/
  name : String
  /-- The key in the route. -/
  label : String
  kind : FilterKind
  /-- The least and the greatest value on offer, which are the range when nothing is chosen. -/
  bounds : Bounds
  choices : List Choice
  enabled : Bool
  storage : Storage κ
deriving DecidableEq, Repr

namespace Filter
variable {κ σ : Type}

/-! ### Making a filter -/

/-- A filter that is off and holds nothing. -/
def make (kind : FilterKind) (name label : String) (bounds : Bounds) : Filter κ :=
  ⟨name, label, kind, bounds, [], false, .own (.empty kind bounds)⟩

/-- Changes the bounds. A range that the filter itself holds becomes the whole of them. -/
def withBounds (f : Filter κ) (b : Bounds) : Filter κ :=
  match f.storage with
  | .own (.range _) => { f with bounds := b, storage := .own (.range b) }
  | _ => { f with bounds := b }

def withChoices (f : Filter κ) (choices : List Choice) : Filter κ := { f with choices }

/-- Keeps the value in a cell from now on. -/
def storedIn (f : Filter κ) (name : κ) (clears : Bool) : Filter κ :=
  { f with storage := .cell name clears }

/-- Keeps the value in a cell that nobody else uses from now on. -/
def keptApart (f : Filter κ) (value : FilterValue) (cleared : Option FilterValue) : Filter κ :=
  { f with storage := .apart value cleared }

/-! ### Switching -/

def enable (f : Filter κ) : Filter κ := { f with enabled := true }

def disable (f : Filter κ) : Filter κ := { f with enabled := false }

def toggle (f : Filter κ) : Filter κ := { f with enabled := !f.enabled }

/-! ### The value -/

section Cells
variable (C : Cells κ σ)

def value (s : σ) (f : Filter κ) : FilterValue :=
  let held := match f.storage with
    | .own v => v
    | .cell name _ => C.read name s
    | .apart v _ => v
  held.shapedAs f.kind f.bounds

/-- The items of a filter with several; none for the other kinds. -/
def selected (s : σ) (f : Filter κ) : List String :=
  match f.value C s with
  | .multiple items => items
  | _ => []

/-- Stores a value that has the shape of the kind. -/
def store (v : FilterValue) (s : σ) (f : Filter κ) : Filter κ × σ :=
  match f.storage with
  | .own _ => ({ f with storage := .own v }, s)
  | .cell name _ => (f, C.write name v s)
  | .apart _ cleared => ({ f with storage := .apart v cleared }, s)

def setValue (v : FilterValue) (s : σ) (f : Filter κ) : Filter κ × σ :=
  f.store C (v.shapedAs f.kind f.bounds) s

/-- Takes the value back to the empty one and switches the filter off. A cell that its owner clears
is reset by the owner. -/
def clear (reset : κ → σ → σ) (s : σ) (f : Filter κ) : Filter κ × σ :=
  let (f, s) := match f.storage with
    | .cell name true => (f, reset name s)
    | .apart _ (some v) => ({ f with storage := .apart v (some v) }, s)
    | _ => f.store C (.empty f.kind f.bounds) s
  (f.disable, s)

/-- Whether the filter counts as in use. Ranges and lists go by the switch, a list also by its
items; texts and numbers go by their value alone. -/
def isActive (s : σ) (f : Filter κ) : Bool :=
  match f.kind with
  | .range => f.enabled
  | .selectMultiple => f.enabled && !(f.selected C s).isEmpty
  | _ => (f.value C s).isTruthy

/-! ### Requests and routes -/

/-- The parameters that a present value makes. -/
def paramsOf (f : Filter κ) : FilterValue → List (String × Query.Value)
  | .range b => [(f.name ++ "Start", .int b.low), (f.name ++ "End", .int b.high)]
  | .multiple items => [(f.name, .list items)]
  | .text s => [(f.name, .ofOption s)]
  | .number x => [(f.name, match x with | some x => .double x | none => .null)]

/-- What the filter adds to a request. -/
def params (s : σ) (f : Filter κ) : List (String × Query.Value) :=
  if f.enabled && (f.value C s).isTruthy then f.paramsOf (f.value C s) else []

/-- A value in the route. -/
def routeValueOf : FilterValue → Option Route.Value
  | .range b => some (.many [wholeText b.low, wholeText b.high])
  | .multiple items => some (.many items)
  | .text s => s.map .single
  | .number x => x.map fun x => .single (x.text .plain)

/-- What the filter's key of the route is to be. -/
def routeValue (s : σ) (f : Filter κ) : Option Route.Value :=
  if f.enabled then routeValueOf (f.value C s) else none

/-- A bound of a range in a route; a text that is no finite number leaves the initial bound. -/
def boundIn (initial : Int) (s : Option String) : Int :=
  match s.bind FilterValue.numberIn? with
  | some x => if x.isFinite then x.toInt64 else initial
  | none => initial

/-- The value that a filter reads out of its key of a route. -/
def valueOfRoute (f : Filter κ) (v : Route.Value) : FilterValue :=
  match f.kind with
  | .range => .range ⟨boundIn f.bounds.low v.toList[0]?, boundIn f.bounds.high v.toList[1]?⟩
  | .selectMultiple => .multiple v.toList
  | .number => .number (v.first?.bind FilterValue.numberIn?)
  | .selectOne | .text => .text (some (v.first?.getD ""))

/-- Switches the filter on and takes its value from the route, if the route has its key. -/
def load (q : Route.Query) (s : σ) (f : Filter κ) : Filter κ × σ :=
  match q.get? f.label with
  | none => (f, s)
  | some v => f.enable.setValue C (f.valueOfRoute v) s

/-! ### Edits -/

/-- What can be done to a filter. -/
inductive Edit where
  | enable
  | disable
  | toggle
  | clear
  | setValue (value : FilterValue)
  | load (query : Route.Query)
  | setChoices (choices : List Choice)
  | setKind (kind : FilterKind)
deriving DecidableEq

def edit (reset : κ → σ → σ) (e : Edit) (s : σ) (f : Filter κ) : Filter κ × σ :=
  match e with
  | .enable => (f.enable, s)
  | .disable => (f.disable, s)
  | .toggle => (f.toggle, s)
  | .clear => f.clear C reset s
  | .setValue v => f.setValue C v s
  | .load q => f.load C q s
  | .setChoices choices => (f.withChoices choices, s)
  | .setKind kind => ({ f with kind }, s)

/-- Carries edits out one after the other. -/
def run (reset : κ → σ → σ) (s : σ) (f : Filter κ) : List Edit → Filter κ × σ
  | [] => (f, s)
  | e :: rest => run reset (f.edit C reset e s).2 (f.edit C reset e s).1 rest

end Cells
end Filter

/-- A single cell that holds a value and nothing else. -/
def Cells.one : Cells Unit FilterValue where
  read _ s := s
  write _ v _ := v

/-! ### Description -/

def Storage.describe {κ : Type} (x : Storage κ) : String :=
  let delegated (clears : Bool) : String :=
    "Delegated \x7b has_clear: " ++ (if clears then "true" else "false") ++ ", .. \x7d"
  match x with
  | .own v => "Inline(" ++ v.describe ++ ")"
  | .cell _ clears => delegated clears
  | .apart _ cleared => delegated cleared.isSome

end DatasetSearch
