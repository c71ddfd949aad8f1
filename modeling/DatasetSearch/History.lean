import DatasetSearch.Json.Reader
import DatasetSearch.Keyed
import DatasetSearch.Text.Basic
import DatasetSearch.Text.Lowercase

/-! Remembered searches.

The history holds each text once. Remembering a text again changes its kind and its date and
leaves it where it stands. Hints for an empty input are the latest entries of a kind; for any
other input they are the entries longer than it that contain it, upper and lower case alike. -/
namespace DatasetSearch

inductive HistoryKind where
  | term
  | creator
  | subject
  | funder
  | database
deriving DecidableEq, Repr

namespace HistoryKind

def names : List (String × HistoryKind) :=
  [("term", term), ("creator", creator), ("subject", subject), ("funder", funder),
   ("database", database)]

def text : HistoryKind → String
  | term => "term"
  | creator => "creator"
  | subject => "subject"
  | funder => "funder"
  | database => "database"

def parse? (s : String) : Option HistoryKind := names.lookup s

theorem parse?_text (k : HistoryKind) : parse? k.text = some k := by cases k <;> decide

end HistoryKind

structure HistoryEntry where
  key : String
  /-- Milliseconds since the start of 1970. -/
  date : Int
  kind : HistoryKind
deriving DecidableEq, Repr

/-- An entry as it is stored. Its kind may be missing or unknown. -/
structure StoredEntry where
  key : String
  date : Int
  kind : Option String
deriving DecidableEq, Repr

/-- The entry that a stored one stands for; without a known kind it is a term. -/
def StoredEntry.entry (r : StoredEntry) : HistoryEntry :=
  ⟨r.key, r.date, (r.kind.bind HistoryKind.parse?).getD .term⟩

def HistoryEntry.stored (e : HistoryEntry) : StoredEntry := ⟨e.key, e.date, some e.kind.text⟩

/-- Entries in the order their texts were first remembered. -/
abbrev History := Keyed HistoryEntry.key

namespace History

/-- The number of hints for an empty input. -/
def maxRecent : Nat := 10

def ofStored (rs : List StoredEntry) : History := .ofList (rs.map StoredEntry.entry)

def toStored (h : History) : List StoredEntry := h.items.map HistoryEntry.stored

/-- Remembers a text that is not empty. -/
def log (h : History) (key : String) (kind : HistoryKind) (date : Int) : History :=
  if key.isEmpty then h else h.put ⟨key, date, kind⟩

def forget (h : History) (key : String) : History := h.erase key

/-- Forgets a text, and says whether it was there. -/
def delete (h : History) (key : String) : History × Bool := (h.forget key, (h.find? key).isSome)

/-! ### Hints -/

def ofKind (h : History) (kind : HistoryKind) : List HistoryEntry :=
  h.items.filter (·.kind == kind)

/-- The latest entries of a kind, of one date in the order of the history. -/
def recent (h : History) (kind : HistoryKind) : List HistoryEntry :=
  ((h.ofKind kind).mergeSort fun a b => b.date ≤ a.date).take maxRecent

/-- Whether an entry is longer than a text and contains it in lower case. -/
def suggests (text : String) (e : HistoryEntry) : Bool :=
  text.length < e.key.length &&
    Text.containsChars (Text.lower text).toList (Text.lower e.key).toList

def hints (h : History) (text : String) (kind : HistoryKind) : List HistoryEntry :=
  if text.isEmpty then h.recent kind else (h.ofKind kind).filter (suggests text)

end History

/-! ### The stored form -/

open Json (Reader)

def StoredEntry.toJson (r : StoredEntry) : Json :=
  .object ([("key", .text r.key), ("date", .int r.date)] ++
    match r.kind with
    | some kind => [("type", .text kind)]
    | none => [])

def StoredEntry.reader : Reader StoredEntry := fun levels x => do
  let f ← Reader.fields ["key", "date", "type"] levels x
  return { key := ← f.required "key" .text, date := ← f.orElse "date" .int64 0
           kind := ← f.orElse "type" (.optional .text) none }

def HistoryEntry.reader : Reader HistoryEntry := fun levels x => do
  let f ← Reader.fields ["key", "date", "type"] levels x
  return { key := ← f.required "key" .text, date := ← f.required "date" .int64
           kind := ← f.required "type" (.name HistoryKind.names) }

end DatasetSearch
