import DatasetSearch.App
import DatasetSearch.Proofs.History.Stored
import DatasetSearch.Proofs.Search.ContentTypes

/-! Restarting an application.

What a new application takes from a saved state and saves again is that state brought to the present
form: the present version, and the history with each key once (`snapshot_reopened`). Doing it again
changes nothing more, and what an application itself has saved is in that form already
(`restart_settles`). -/
namespace DatasetSearch

/-- A saved state in the form in which it is saved again. -/
def SavedState.settled (s : SavedState) : SavedState :=
  { s with version := stateVersion, history := merged s.history }

namespace App

/-- A new application with what was saved. -/
def reopened (settings : Settings) (year : Int) (s : SavedState) : App :=
  (make settings year).restore s

/-! ### What a restart keeps -/

section
variable (settings : Settings) (year : Int) (s : SavedState)

theorem session?_reopened : (reopened settings year s).account.session? = s.session := by
  cases h : s.session <;> simp only [reopened, restore, h] <;> rfl

theorem facets_reopened :
    (reopened settings year s).facets.selectedContentTypes = s.contentTypes ∧
      (reopened settings year s).facets.view = s.view :=
  Search.Facets.IsStandard.select (f := { Search.Facets.make year (.initial year) with
    view := s.view }) (Search.Facets.isStandard_make year s.view) s.contentTypes

theorem snapshot_reopened : (reopened settings year s).snapshot = s.settled := by
  have hhistory : (reopened settings year s).history.toStored = merged s.history :=
    History.toStored_ofStored s.history
  obtain ⟨htypes, hview⟩ := facets_reopened settings year s
  rw [snapshot, session?_reopened, htypes, hview, hhistory]
  rfl

/-- An application is reopened from what it saved as what it was, as far as is saved. -/
theorem snapshot_reopened_snapshot (a : App) :
    (reopened settings year a.snapshot).snapshot = a.snapshot := by
  rw [snapshot_reopened, SavedState.settled]
  have hhistory : merged a.snapshot.history = a.snapshot.history := by
    rw [← History.toStored_ofStored]
    exact congrArg History.toStored (History.ofStored_toStored a.history)
  rw [hhistory]
  rfl

end

/-- A restart settles the saved state. A new application that is given any saved state saves it
with the present version, with the same session, results page and content types, and with a history
that has every key once: in the order in which the keys first come, each with the date and the kind
of its last entry, where a missing or unknown kind has become that of a term. Given that again, a new
application saves just that, in whatever settings and year; and so it is with whatever an application
saves, whatever was done to it. -/
theorem restart_settles (settings : Settings) (year : Int) (s : SavedState) :
    let t := (reopened settings year s).snapshot
    (t.version = 2 ∧ t.session = s.session ∧ t.view = s.view ∧ t.contentTypes = s.contentTypes) ∧
    (t.history.map StoredEntry.key = (s.history.map StoredEntry.key).eraseDups ∧
      ∀ r ∈ t.history, ∃ last, (s.history.filter (·.key == r.key)).getLast? = some last ∧
        r.date = last.date ∧ r.kind = some (knownKind last.kind)) ∧
    (∀ settings' year', (reopened settings' year' t).snapshot = t) ∧
    ∀ (a : App) settings' year', (reopened settings' year' a.snapshot).snapshot = a.snapshot := by
  intro t
  have ht : t = s.settled := snapshot_reopened settings year s
  refine ⟨?_, ?_, fun settings' year' => ?_, fun a settings' year' => ?_⟩
  · rw [ht]
    exact ⟨rfl, rfl, rfl, rfl⟩
  · rw [ht]
    exact ⟨keys_merged s.history, fun r hr => exists_of_mem_merged hr⟩
  · exact snapshot_reopened_snapshot settings' year' (reopened settings year s)
  · exact snapshot_reopened_snapshot settings' year' a

end App
end DatasetSearch
