import DatasetSearch.Json.Reader
import DatasetSearch.Query
import DatasetSearch.Sorted

/-! The query of a route, as the address bar shows it.

A key has one value, or a list of values when it comes more than once. An update names keys to
set and keys to drop, and leaves all other keys alone. -/
namespace DatasetSearch.Route

inductive Value where
  | single (value : String)
  | many (items : List String)
deriving DecidableEq, Repr

namespace Value

def first? : Value → Option String
  | single s => some s
  | many items => items.head?

def toList : Value → List String
  | single s => [s]
  | many items => items

/-- The value with one more after it, as a list. -/
def add (v : Value) (s : String) : Value := many (v.toList ++ [s])

def toParam : Value → Query.Value
  | single s => .text s
  | many items => .list items

end Value

/-- The values of a route by key. -/
abbrev Query := Sorted Value

/-- New values by key; a key without one is to be dropped. -/
abbrev Update := Sorted (Option Value)

/-! ### Building and updating -/

/-- Adds a pair; the values of one key collect into a list. -/
def addPair (q : Query) (p : String × String) : Query :=
  match q.get? p.1 with
  | none => q.insert p.1 (.single p.2)
  | some v => q.insert p.1 (v.add p.2)

def ofPairs (ps : List (String × String)) : Query := ps.foldl addPair .empty

def applyEntry (q : Query) (e : String × Option Value) : Query :=
  match e.2 with
  | some v => q.insert e.1 v
  | none => q.erase e.1

/-- Carries an update out. -/
def apply (q : Query) (u : Update) : Query := u.entries.foldl applyEntry q

/-! ### As text -/

/-- The query string of a route, its keys in order. -/
def text (q : Query) : String :=
  DatasetSearch.Query.encode (.ofList (q.entries.map fun e => (e.1, e.2.toParam)))

/-- A route value in JSON is a string or a list of strings. -/
def valueReader : Json.Reader Value := fun levels x =>
  match Json.Reader.text levels x with
  | some s => some (.single s)
  | none => (Json.Reader.list .text levels x).map .many

/-- A route query in JSON is an object; the last of one key counts. -/
def reader : Json.Reader Query := fun levels x =>
  (Json.Reader.members valueReader levels x).map Sorted.ofList

end DatasetSearch.Route
