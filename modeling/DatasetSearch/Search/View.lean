import DatasetSearch.Filter.Value
import DatasetSearch.Search.Request

/-! The results page: the records it shows and how it shows them.

Its ranges of years end with the current one. Times are milliseconds since the start of 1970 in
universal time, negative before it. The Gregorian calendar repeats every 146097 days, which are 400
years; years are counted from March inside such a period, so that a leap day ends its year. -/
namespace DatasetSearch.Calendar

/-- Days since the first of March of year 0. -/
def dayNumber (ms : Int) : Int := ms / 86400000 + 719468

/-- The year within a period of 400, counted from March, of a day of the period. -/
def yearOfPeriod (day : Int) : Int := (day - day / 1460 + day / 36524 - day / 146096) / 365

/-- The calendar year at a time. -/
def yearAt (ms : Int) : Int :=
  let day := dayNumber ms % 146097
  let year := yearOfPeriod day
  let inYear := day - (365 * year + year / 4 - year / 100)
  year + 400 * (dayNumber ms / 146097) + if 306 ≤ inYear then 1 else 0

end DatasetSearch.Calendar

namespace DatasetSearch.Search

/-- The least year on offer. -/
def firstYear : Int := 1900

/-- All years on offer in a given year. -/
def allYears (year : Int) : Bounds := ⟨firstYear, year⟩

/-- The year ranges of the results page. -/
inductive YearRange where
  | publicationYear
  | dataCoverage
  | creationDate
deriving DecidableEq, Repr

/-- How the results page is sorted and narrowed, and which of its panels are open. -/
structure View where
  sortKey : SortKey := .relevance
  direction : Direction := .ascending
  publicationYear : Bounds
  dataCoverage : Bounds
  creationDate : Bounds
  /-- The open panels in the order they were opened. -/
  openPanels : List Nat := []
deriving DecidableEq, Repr

namespace View

/-- The page as it is first shown in a given year. -/
def initial (year : Int) : View where
  publicationYear := allYears year
  dataCoverage := allYears year
  creationDate := allYears year

def range (v : View) : YearRange → Bounds
  | .publicationYear => v.publicationYear
  | .dataCoverage => v.dataCoverage
  | .creationDate => v.creationDate

def setRange (r : YearRange) (b : Bounds) (v : View) : View :=
  match r with
  | .publicationYear => { v with publicationYear := b }
  | .dataCoverage => { v with dataCoverage := b }
  | .creationDate => { v with creationDate := b }

def sort (v : View) (key : SortKey) (direction : Direction) : View :=
  { v with sortKey := key, direction }

/-- Closes an open panel and opens a closed one. -/
def togglePanel (v : View) (i : Nat) : View :=
  { v with openPanels := if i ∈ v.openPanels then v.openPanels.erase i else v.openPanels ++ [i] }

/-- What can be done to the page. -/
inductive Edit where
  | togglePanel (i : Nat)
  | sort (key : SortKey) (direction : Direction)
  | setRange (range : YearRange) (bounds : Bounds)
  | set (view : View)
deriving DecidableEq

def edit (v : View) : Edit → View
  | .togglePanel i => v.togglePanel i
  | .sort key direction => v.sort key direction
  | .setRange r b => v.setRange r b
  | .set view => view

/-- Carries edits out one after the other. -/
def run (v : View) : List Edit → View
  | [] => v
  | e :: rest => run (v.edit e) rest

/-! ### The stored form -/

def boundsJson (b : Bounds) : Json := .list [.int b.low, .int b.high]

def toJson (v : View) : Json :=
  .object [("sortBy", .text v.sortKey.text), ("order", .text v.direction.text),
    ("publicationYear", boundsJson v.publicationYear), ("dataCoverage", boundsJson v.dataCoverage),
    ("creationDate", boundsJson v.creationDate),
    ("openPanels", .list (v.openPanels.map fun (i : Nat) => .int i))]

open Json (Reader)

def boundsReader : Reader Bounds := fun levels x =>
  (Reader.pair .int64 levels x).map fun p => ⟨p.1, p.2⟩

/-- A stored view; what is left out is as it is first shown. -/
def reader (year : Int) : Reader View := fun levels x => do
  let f ← Reader.fields
    ["sortBy", "order", "publicationYear", "dataCoverage", "creationDate", "openPanels"] levels x
  return {
    sortKey := ← f.orElse "sortBy" (.name SortKey.names) .relevance
    direction := ← f.orElse "order" (.name Direction.names) .ascending
    publicationYear := ← f.orElse "publicationYear" boundsReader (allYears year)
    dataCoverage := ← f.orElse "dataCoverage" boundsReader (allYears year)
    creationDate := ← f.orElse "creationDate" boundsReader (allYears year)
    openPanels := ← f.orElse "openPanels" (.list (.nat (twoPow 64))) [] }

end View
end DatasetSearch.Search
