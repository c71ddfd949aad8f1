import DatasetSearch.Account.Store
import DatasetSearch.SavedState
import DatasetSearch.Search.Facets
import DatasetSearch.Search.Store
import DatasetSearch.Settings

/-! The application: settings, stores, history and search page in one.

Its calls are programs, since they wait for replies. A search is remembered when it is sent: its
term, and the texts of the filters for which hints are offered. What survives a restart is taken
by `snapshot` and put back by `restore`. -/
namespace DatasetSearch

structure App where
  settings : Settings
  search : Search.Store
  account : Account.Store
  history : History
  facets : Search.Facets

namespace App

def make (settings : Settings) (year : Int) : App where
  settings := settings
  search := {}
  account := .make settings.appUrl
  history := .empty
  facets := .make year (.initial year)

/-! ### Restarting -/

def restore (s : SavedState) (a : App) : App :=
  let facets := { a.facets with view := s.view }
  { a with
    account := match s.session with
      | some session => a.account.restore session
      | none => a.account
    history := .ofStored s.history
    facets := facets.selectContentTypes s.contentTypes }

def snapshot (a : App) : SavedState where
  version := stateVersion
  session := a.account.session?
  history := a.history.toStored
  view := a.facets.view
  contentTypes := a.facets.selectedContentTypes

/-! ### Searching -/

/-- The filters whose texts are remembered, and as what. -/
def rememberedFilters : List (String × HistoryKind) :=
  [("an", .creator), ("sj", .subject), ("f", .funder)]

/-- The text of an active filter. -/
def activeText? (f : Search.Facets) (label : String) : Option String :=
  match f.filter? label with
  | none => none
  | some x =>
    if f.isActive x then
      match f.valueOf x with
      | .text s => s
      | _ => none
    else none

/-- The texts to remember of a search, in the order they are remembered. -/
def searchedTexts (f : Search.Facets) : List (String × HistoryKind) :=
  (f.term, .term) :: rememberedFilters.filterMap fun p => (activeText? f p.1).map (·, p.2)

def remember (f : Search.Facets) (now : Int) (h : History) : History :=
  (searchedTexts f).foldl (fun h p => h.log p.1 p.2 now) h

/-- Loads the page from a route and remembers what is searched for. -/
def prepare (now : Int) (route : Route.Query) (a : App) : App :=
  let facets := a.facets.load route
  { a with facets, history := remember facets now a.history }

def request (a : App) : Search.Request := a.facets.request a.settings.pageSize

abbrev SearchResult := Except Search.Error Search.Outcome

def runSearch (now : Int) (route : Route.Query) (a : App) : Program (App × SearchResult) :=
  let a := a.prepare now route
  let (store, ticket) := a.search.begin a.settings.apiBase a.request
  .fetch { url := ticket.url } fun reply =>
    let (store, result) := store.finish ticket reply
    .done ({ a with search := store }, result)

/-- Asks for the records after those shown. -/
def fetchMore (a : App) : Program (App × SearchResult) :=
  match a.search.beginMore a.settings.apiBase a.request with
  | none => .done (a, .ok Search.Store.nothingMore)
  | some c =>
    .fetch { url := c.url } fun reply =>
      let (store, result) := a.search.finishMore c reply
      .done ({ a with search := store }, result)

def clearResults (a : App) : App := { a with search := a.search.clear }

def complete (a : App) (scope : Search.Scope) (term : String) :
    Program (Except Search.Error (List String)) :=
  let url := Search.completionUrl a.settings.apiBase scope term
  .fetch { url } fun reply => .done (Search.textsIn url reply)

/-- Asks which content types there are and offers them. -/
def refreshContentTypes (a : App) : Program (App × Except Search.Error (List String)) :=
  let url := Search.contentTypesUrl a.settings.apiBase
  .fetch { url } fun reply =>
    .done <| match Search.textsIn url reply with
      | .ok types => ({ a with facets := a.facets.offerContentTypes types }, .ok types)
      | .error e => (a, .error e)

/-! ### The session -/

/-- Asks whether the session is still good. -/
def checkSession (a : App) : Program (App × Bool) :=
  .fetch a.account.checkRequest fun reply =>
    let (account, good) := a.account.finishCheck reply
    .done ({ a with account }, good)

def logOut (a : App) : Program App :=
  .fetch a.account.logoutRequest fun reply =>
    .done { a with account := a.account.finishLogout reply }

end App
end DatasetSearch
