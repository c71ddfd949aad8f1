import DatasetSearch.Account.Store
import DatasetSearch.History
import DatasetSearch.Json.Printer
import DatasetSearch.Program
import DatasetSearch.Search.View

/-! What survives a restart, and the file it is kept in.

The file is replaced as a whole: the new text is written to a file beside it, which is then put in
its place. Files of the first version are brought to the present one when they are read. -/
namespace DatasetSearch

/-- The present version of the file. -/
def stateVersion : Nat := 2

structure SavedState where
  version : Nat := stateVersion
  session : Option Account.Session := none
  history : List StoredEntry := []
  view : Search.View
  contentTypes : List String := []
deriving DecidableEq, Repr

namespace SavedState

/-- Nothing saved, in a given year. -/
def initial (year : Int) : SavedState := { view := .initial year }

/-- A state of an earlier version as one of the present version. -/
def upgrade (s : SavedState) : SavedState := { s with version := max s.version stateVersion }

/-! ### As text -/

def toJson (s : SavedState) : Json :=
  .object [("version", .int s.version),
    ("session", (s.session.map Account.Session.toJson).getD .null),
    ("searchHistory", .list (s.history.map StoredEntry.toJson)),
    ("resultsUi", s.view.toJson), ("contentTypes", .list (s.contentTypes.map .text))]

def text (s : SavedState) : String := s.toJson.pretty

open Json (Reader)

def fieldNames : List String :=
  ["version", "session", "searchHistory", "resultsUi", "contentTypes"]

/-- A saved state; what is left out is as when nothing is saved. -/
def reader (year : Int) : Reader SavedState := fun levels x => do
  let f ← Reader.fields fieldNames levels x
  return {
    version := ← f.orElse "version" (.nat (twoPow 32)) stateVersion
    session := ← f.orElse "session" (.optional Account.Session.reader) none
    history := ← f.orElse "searchHistory" (.list StoredEntry.reader) []
    view := ← f.orElse "resultsUi" (Search.View.reader year) (.initial year)
    contentTypes := ← f.orElse "contentTypes" (.list .text) [] }

/-! ### In a file -/

/-- What went wrong with a file, and with which. -/
inductive FileError where
  | reading (path : String) (fault : Files.Fault)
  | parsing (path : String)
  | writing (path : String) (fault : Files.Fault)
  | replacing (path : String) (fault : Files.Fault)
deriving DecidableEq, Repr

namespace FileError

/-- What was being done. -/
def context : FileError → String
  | reading path _ => "reading " ++ path
  | parsing path => "parsing " ++ path
  | writing path _ => "writing " ++ path
  | replacing path _ => "replacing " ++ path

/-- Why it failed. -/
def cause : FileError → String
  | reading _ fault => fault.message
  | parsing _ => Json.faultText
  | writing _ fault => fault.message
  | replacing _ fault => fault.message

end FileError

/-- Reads the state. Where no file is, nothing is saved. -/
def load (year : Int) (path : String) : Program (Except FileError SavedState) :=
  .readText path fun answer =>
    .done <| match answer with
      | .error .notFound => .ok (initial year)
      | .error fault => .error (.reading path fault)
      | .ok text =>
        match (reader year).run text with
        | some s => .ok s.upgrade
        | none => .error (.parsing path)

/-- Writes the state in the place of what is saved. -/
def save (path : String) (s : SavedState) : Program (Except FileError Unit) :=
  let temporary := Files.temporary path
  .writeText temporary s.text fun
    | some fault => .done (.error (.writing temporary fault))
    | none => .rename temporary path fun
      | some fault => .done (.error (.replacing path fault))
      | none => .done (.ok ())

end SavedState
end DatasetSearch
