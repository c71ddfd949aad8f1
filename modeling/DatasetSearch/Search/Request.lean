import DatasetSearch.Json.Reader
import DatasetSearch.Query

/-! What the search server is asked for.

A search request has its own parameters first and those of the filters after them; a filter's
parameter of the same name takes the place of the request's own. The addresses lie below the base
that the server is configured with. -/
namespace DatasetSearch.Search

inductive SortKey where
  | relevance
  | name
  | creator
  | dateCreated
  | dateModified
deriving DecidableEq, Repr

inductive Direction where
  | ascending
  | descending
deriving DecidableEq, Repr

namespace SortKey

/-- The names of the keys in stored texts. -/
def names : List (String × SortKey) :=
  [("relevance", relevance), ("name", name), ("creator", creator), ("dateCreated", dateCreated),
   ("dateModified", dateModified)]

def text : SortKey → String
  | relevance => "relevance"
  | name => "name"
  | creator => "creator"
  | dateCreated => "dateCreated"
  | dateModified => "dateModified"

/-- The key in a request; relevance is what the server sorts by when nothing is asked for. -/
def param : SortKey → String
  | relevance => ""
  | name => "name"
  | creator => "creatorName"
  | dateCreated => "dateCreated"
  | dateModified => "dateModified"

end SortKey

namespace Direction

def names : List (String × Direction) := [("asc", ascending), ("desc", descending)]

def text : Direction → String
  | ascending => "asc"
  | descending => "desc"

end Direction

/-- Results per page unless something else is asked for. -/
def defaultPageSize : Nat := 20

structure Request where
  term : String := ""
  sortKey : SortKey := .relevance
  direction : Direction := .ascending
  pageSize : Nat := defaultPageSize
  pageNumber : Nat := 0
  /-- The token of the last record of the page before. -/
  token : Option String := none
  filters : Query.Params := .empty
deriving DecidableEq

namespace Request

/-- The request's own parameters. -/
def core (r : Request) : List (String × Query.Value) :=
  [("term", .text r.term), ("sortBy", .text r.sortKey.param)] ++
    (if r.sortKey = .relevance then [] else [("order", .text r.direction.text)]) ++
    [("pageSize", .int r.pageSize), ("pageNumber", .int r.pageNumber),
      ("paginationToken", .ofOption r.token)]

def params (r : Request) : Query.Params := (Keyed.ofList r.core).putAll r.filters.items

def queryString (r : Request) : String := Query.encode r.params

end Request

/-- The query string that asks for completions of a term. -/
def completionQuery (term : String) : String := Query.encode (.ofList [("term", .text term)])

/-! ### Addresses -/

/-- What completions are asked for. -/
inductive Scope where
  | term
  | creator
deriving DecidableEq, Repr

def searchUrl (base : String) (r : Request) : String :=
  base ++ "/discovery/search?" ++ r.queryString

def completionUrl (base : String) (scope : Scope) (term : String) : String :=
  let name := match scope with
    | .term => "typeahead"
    | .creator => "typeahead_creator"
  base ++ "/discovery/" ++ name ++ "?" ++ completionQuery term

def contentTypesUrl (base : String) : String := base ++ "/discovery/content-types"

end DatasetSearch.Search
