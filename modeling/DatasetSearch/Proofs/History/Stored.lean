import DatasetSearch.History
import DatasetSearch.Proofs.Dictionaries

/-! What a history makes of stored entries.

Stored again, entries stand with each key once, where the key first came, and with the date and the
kind that the key had last; a kind that is missing or unknown has become that of a term
(`toStored_ofStored`). A history that is stored and read is the same history (`ofStored_toStored`). -/
namespace DatasetSearch

/-- A stored kind as it is stored again. -/
def knownKind : Option String → String
  | some kind => if kind ∈ ["term", "creator", "subject", "funder", "database"] then kind else "term"
  | none => "term"

/-- Entries with each key once. -/
def merged (rs : List StoredEntry) : List StoredEntry :=
  (rs.map StoredEntry.key).eraseDups.filterMap fun key =>
    (rs.filter (·.key == key)).getLast?.map fun r => { r with kind := some (knownKind r.kind) }

/-! ### One entry -/

theorem HistoryKind.text_of_parse? {kind : String} {k : HistoryKind} (h : parse? kind = some k) :
    k.text = kind := by
  have hmem := (lookup_eq_some_iff_mem (by decide)).mp h
  have all : ∀ p ∈ names, p.2.text = p.1 := by decide
  exact all (kind, k) hmem

theorem HistoryKind.parse?_eq_none {kind : String}
    (h : kind ∉ ["term", "creator", "subject", "funder", "database"]) : parse? kind = none :=
  lookup_eq_none_of_not_mem h

theorem HistoryKind.isSome_parse? {kind : String}
    (h : kind ∈ ["term", "creator", "subject", "funder", "database"]) : (parse? kind).isSome := by
  have all : ∀ kind ∈ ["term", "creator", "subject", "funder", "database"],
      (parse? kind).isSome := by decide
  exact all kind h

theorem HistoryKind.text_getD_parse? (kind : String) :
    ((parse? kind).getD .term).text = knownKind (some kind) := by
  rw [knownKind]
  split
  · next hmem =>
    obtain ⟨k, hk⟩ := Option.isSome_iff_exists.mp (isSome_parse? hmem)
    rw [hk]
    exact text_of_parse? hk
  · next hmem =>
    rw [parse?_eq_none hmem]
    rfl

theorem StoredEntry.stored_entry (r : StoredEntry) :
    r.entry.stored = { r with kind := some (knownKind r.kind) } := by
  obtain ⟨key, date, kind⟩ := r
  cases kind with
  | none => rfl
  | some kind =>
    exact congrArg (fun text => StoredEntry.mk key date (some text))
      (HistoryKind.text_getD_parse? kind)

theorem HistoryEntry.entry_stored (e : HistoryEntry) : e.stored.entry = e := by
  obtain ⟨key, date, kind⟩ := e
  simp [stored, StoredEntry.entry, HistoryKind.parse?_text]

/-! ### All entries -/

namespace History

theorem toStored_ofStored (rs : List StoredEntry) : (ofStored rs).toStored = merged rs := by
  rw [toStored, ofStored, Keyed.items_ofList_eq, List.map_filterMap, List.map_map]
  refine List.filterMap_congr fun key _ => ?_
  rw [List.filter_map, List.getLast?_map, Option.map_map]
  exact congrArg (Option.map · _) (funext StoredEntry.stored_entry)

theorem ofStored_toStored (h : History) : ofStored h.toStored = h := by
  have hitems : h.toStored.map StoredEntry.entry = h.items := by
    rw [toStored, List.map_map]
    exact (List.map_congr_left fun e _ => e.entry_stored).trans (List.map_id _)
  rw [ofStored, hitems, Keyed.ofList_items]

end History

theorem merged_merged (rs : List StoredEntry) : merged (merged rs) = merged rs := by
  rw [← History.toStored_ofStored (merged rs), ← History.toStored_ofStored rs,
    History.ofStored_toStored]

theorem keys_merged (rs : List StoredEntry) :
    (merged rs).map StoredEntry.key = (rs.map StoredEntry.key).eraseDups := by
  rw [← History.toStored_ofStored, History.toStored, List.map_map]
  refine (Keyed.keys_ofList _).trans ?_
  rw [List.map_map]
  rfl

theorem exists_of_mem_merged {rs : List StoredEntry} {r : StoredEntry} (h : r ∈ merged rs) :
    ∃ last, (rs.filter (·.key == r.key)).getLast? = some last ∧ r.date = last.date ∧
      r.kind = some (knownKind last.kind) := by
  obtain ⟨key, _, hr⟩ := List.mem_filterMap.mp h
  obtain ⟨last, hlast, rfl⟩ := Option.map_eq_some_iff.mp hr
  have hkey : last.key = key := by simpa using (List.mem_filter.mp (List.mem_of_getLast? hlast)).2
  exact ⟨last, by rw [hkey]; exact hlast, rfl, rfl⟩

end DatasetSearch
