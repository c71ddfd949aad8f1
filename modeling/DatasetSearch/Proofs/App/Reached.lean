import DatasetSearch.App
import DatasetSearch.Proofs.Search.Standard

/-! The applications that can be reached.

Searching loads the search page from a route; apart from that only edits and a restart change the
page, so it keeps the standard filters (`Reached.isStandard`). -/
namespace DatasetSearch.App
open Program (World)
open Search (Facets)

/-- The applications that calls and edits lead to from a new one, whatever the server replies. The
stores can be reached from outside, so anything may become of them besides. -/
inductive Reached : App → Prop where
  | make (settings : Settings) (year : Int) : Reached (make settings year)
  | restore {a : App} (before : Reached a) (s : SavedState) : Reached (a.restore s)
  | runSearch {a : App} (before : Reached a) (now : Int) (route : Route.Query) (w : World) :
      Reached ((a.runSearch now route).run w).1.1
  | fetchMore {a : App} (before : Reached a) (w : World) : Reached (a.fetchMore.run w).1.1
  | refreshContentTypes {a : App} (before : Reached a) (w : World) :
      Reached (a.refreshContentTypes.run w).1.1
  | checkSession {a : App} (before : Reached a) (w : World) : Reached (a.checkSession.run w).1.1
  | logOut {a : App} (before : Reached a) (w : World) : Reached (a.logOut.run w).1
  | edit {a : App} {f : Facets} (before : Reached a) (now : Int) (e : Facets.Edit)
      (keeps : e.KeepsKinds) (done : a.facets.edit now e = .ok f) : Reached { a with facets := f }
  | stores {a : App} (before : Reached a) (search : Search.Store) (account : Account.Store)
      (history : History) : Reached { a with search, account, history }

/-! ### The search page after a call -/

variable (a : App) (w : World)

theorem facets_runSearch (now : Int) (route : Route.Query) :
    ((a.runSearch now route).run w).1.1.facets = a.facets.load route := rfl

theorem facets_fetchMore : (a.fetchMore.run w).1.1.facets = a.facets := by
  rw [fetchMore]
  split <;> rfl

theorem facets_refreshContentTypes :
    (a.refreshContentTypes.run w).1.1.facets = a.facets ∨
      ∃ types, (a.refreshContentTypes.run w).1.1.facets = a.facets.offerContentTypes types := by
  simp only [refreshContentTypes, Program.run]
  split
  · next types _ => exact .inr ⟨types, rfl⟩
  · exact .inl rfl

variable {a}

theorem Reached.isStandard (h : Reached a) : a.facets.IsStandard := by
  induction h with
  | make settings year => exact Facets.isStandard_make year (.initial year)
  | @restore a _ s ih =>
    exact Facets.IsStandard.selectContentTypes (f := { a.facets with view := s.view }) ih _
  | @runSearch a _ now route w ih => exact facets_runSearch a w now route ▸ ih.load route
  | @fetchMore a _ w ih => exact facets_fetchMore a w ▸ ih
  | @refreshContentTypes a _ w ih =>
    rcases facets_refreshContentTypes a w with heq | ⟨types, heq⟩
    · exact heq ▸ ih
    · have hedit : a.facets.edit 0 (.offerContentTypes types) =
        .ok (a.facets.offerContentTypes types) := rfl
      exact heq ▸ ih.edit (e := .offerContentTypes types) trivial hedit
  | checkSession _ _ ih => exact ih
  | logOut _ _ ih => exact ih
  | edit _ now e keeps done ih => exact ih.edit keeps done
  | stores _ _ _ _ ih => exact ih

/-- An application with the settings where no variable is set and nothing done to it. -/
def untouched : App :=
  make ⟨"http://localhost:8000/api", "http://localhost:8080", ".discovery_state.json", 20, 30⟩ 2025

theorem reached_untouched : Reached untouched := .make _ 2025

end DatasetSearch.App
