import DatasetSearch.Filter.Basic
import DatasetSearch.Search.View

/-! The search page: a term and the standard filters.

The year ranges are not kept by their filters but by the results page, so the page and the filters
always agree on them. The page can be written to a route and read from one, and makes the request
of a search. -/
namespace DatasetSearch.Search

/-- The year ranges as cells of the results page. -/
def rangeCells : Cells YearRange View where
  read r v := .range (v.range r)
  write r x v :=
    match x with
    | .range b => v.setRange r b
    | _ => v

/-- The results page resets a range to all years of the given year. -/
def resetRange (year : Int) (r : YearRange) (v : View) : View := v.setRange r (allYears year)

/-- The key of the term in a route. -/
def termKey : String := "q"

/-- The label of the content types. -/
def contentTypeLabel : String := "ct"

structure Facets where
  term : String
  filters : List (Filter YearRange)
  view : View
deriving DecidableEq

namespace Facets

/-! ### The standard filters -/

/-- The offered states of availability. -/
def availabilities : List Choice :=
  [{ value := "public", label := "Public", hint := some "Anyone can view and download" },
   { value := "discoverable", label := "Discoverable"
     hint := some "Metadata is public, content on request" },
   { value := "published", label := "Published", hint := some "Permanently published with a DOI" }]

def standard (year : Int) : List (Filter YearRange) :=
  let make (kind : FilterKind) (name label : String) := Filter.make kind name label (allYears year)
  [make .text "creatorName" "an",
   make .text "ownerName" "on",
   make .selectMultiple "contentType" contentTypeLabel,
   make .text "fundingFunderName" "f",
   make .text "subject" "sj",
   (make .selectMultiple "availability" "a").withChoices availabilities,
   (make .range "creationDate" "cd").storedIn .creationDate true,
   (make .range "publicationYear" "py").storedIn .publicationYear true,
   (make .range "dataCoverage" "dc").storedIn .dataCoverage true]

/-- A page without a term and with its filters off, above a results page. -/
def make (year : Int) (view : View) : Facets := ⟨"", standard year, view⟩

/-! ### Looking at the page -/

def filter? (f : Facets) (label : String) : Option (Filter YearRange) :=
  f.filters.find? (·.label == label)

def valueOf (f : Facets) (x : Filter YearRange) : FilterValue := x.value rangeCells f.view

def isActive (f : Facets) (x : Filter YearRange) : Bool := x.isActive rangeCells f.view

def activeCount (f : Facets) : Nat := (f.filters.filter f.isActive).length

def selectedContentTypes (f : Facets) : List String :=
  match f.filter? contentTypeLabel with
  | some x => x.selected rangeCells f.view
  | none => []

/-- The parameters of all filters in their order. -/
def params (f : Facets) : Query.Params := .ofList (f.filters.flatMap (·.params rangeCells f.view))

def request (f : Facets) (pageSize : Nat) : Request where
  term := f.term
  sortKey := f.view.sortKey
  direction := f.view.direction
  pageSize := pageSize
  filters := f.params

/-- What the keys of the page are to be in a route. -/
def update (f : Facets) : Route.Update :=
  .ofList ((termKey, if f.term.isEmpty then none else some (.single f.term)) ::
    f.filters.map fun x => (x.label, x.routeValue rangeCells f.view))

/-- The route of the page alone. -/
def route (f : Facets) : Route.Query := Route.apply .empty f.update

/-! ### Changing the page -/

/-- Changes the filters one after the other, each with the results page that the last one left. -/
def changeAll (g : View → Filter YearRange → Filter YearRange × View) :
    View → List (Filter YearRange) → List (Filter YearRange) × View
  | v, [] => ([], v)
  | v, x :: rest =>
    let (x, v) := g v x
    let (rest, v) := changeAll g v rest
    (x :: rest, v)

/-- Changes the first filter with a label. -/
def changeFirst (label : String) (g : View → Filter YearRange → Filter YearRange × View) :
    View → List (Filter YearRange) → List (Filter YearRange) × View
  | v, [] => ([], v)
  | v, x :: rest =>
    if x.label == label then
      let (x, v) := g v x
      (x :: rest, v)
    else
      let (rest, v) := changeFirst label g v rest
      (x :: rest, v)

def mapAll (f : Facets) (g : View → Filter YearRange → Filter YearRange × View) : Facets :=
  let (filters, view) := changeAll g f.view f.filters
  { f with filters, view }

def mapFirst (f : Facets) (label : String)
    (g : View → Filter YearRange → Filter YearRange × View) : Facets :=
  let (filters, view) := changeFirst label g f.view f.filters
  { f with filters, view }

/-- Takes the term and the filters' values from a route. A route without a term empties it; a
filter whose key is missing stays as it is. -/
def load (f : Facets) (q : Route.Query) : Facets :=
  let f := { f with term := ((q.get? termKey).bind Route.Value.first?).getD "" }
  f.mapAll fun v x => x.load rangeCells q v

/-- Offers content types to choose from. -/
def offerContentTypes (f : Facets) (types : List String) : Facets :=
  f.mapFirst contentTypeLabel fun v x =>
    (x.withChoices (types.map fun t => { value := t, label := t }), v)

/-- Chooses content types, and switches their filter on if there are any. -/
def selectContentTypes (f : Facets) (types : List String) : Facets :=
  f.mapFirst contentTypeLabel fun v x =>
    (if types.isEmpty then x else x.enable).setValue rangeCells (.multiple types) v

/-- Empties the term and clears every filter, in a given year. -/
def clearAll (f : Facets) (year : Int) : Facets :=
  { f with term := "" }.mapAll fun v x => x.clear rangeCells (resetRange year) v

/-- Amends the first filter with a label. A filter that does not exist is refused with its label. -/
def amend (f : Facets) (label : String) (g : Filter YearRange → Filter YearRange) :
    Except String Facets :=
  if (f.filter? label).isSome then .ok (f.mapFirst label fun v x => (g x, v)) else .error label

/-! ### Edits -/

/-- What can be done to the page. -/
inductive Edit where
  | setTerm (term : String)
  | load (query : Route.Query)
  | offerContentTypes (types : List String)
  | selectContentTypes (types : List String)
  | clearAll
  | filter (label : String) (edit : Filter.Edit)
  | view (edit : View.Edit)
deriving DecidableEq

/-- Carries an edit out in a given year. An edit of a filter that does not exist is refused with
its label. -/
def edit (f : Facets) (year : Int) : Edit → Except String Facets
  | .setTerm term => .ok { f with term }
  | .load q => .ok (f.load q)
  | .offerContentTypes types => .ok (f.offerContentTypes types)
  | .selectContentTypes types => .ok (f.selectContentTypes types)
  | .clearAll => .ok (f.clearAll year)
  | .filter label e =>
    if (f.filter? label).isSome then
      .ok (f.mapFirst label fun v x => x.edit rangeCells (resetRange year) e v)
    else .error label
  | .view e => .ok { f with view := f.view.edit e }

end Facets
end DatasetSearch.Search
