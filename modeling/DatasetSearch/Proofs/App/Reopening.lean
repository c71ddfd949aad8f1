import DatasetSearch.Proofs.App.Reached
import DatasetSearch.Proofs.App.Restart
import DatasetSearch.Proofs.Search.Contributing

/-! Which filters a restart switches on.

What is saved of the filters is the content types that are selected and the ranges of years, not
which filters are on. A new application that is given the content types switches their filter on, and
leaves all other filters off. So a restart switches on the filter of the content types where some
were selected while it was off, and no other filter ever (`restart_switches_on_iff`). -/
namespace DatasetSearch

namespace Search.Facets
variable {f : Facets} {label : String}

/-! ### Choosing content types -/

theorem paramsAt_of_off (h : f.isOn label = false) : f.paramsAt label = [] := by
  rw [paramsAt]
  cases hx : f.filter? label with
  | none => rfl
  | some x => exact params_of_off (by simpa [isOn, hx] using h)

/-- The filter of the content types contributes whenever it is on. -/
theorem IsStandard.paramsAt_contentTypes (h : f.IsStandard) :
    f.paramsAt contentTypeLabel ≠ [] ↔ f.isOn contentTypeLabel = true := by
  obtain ⟨x, hx, hkind, -⟩ := h.contentTypes
  obtain ⟨items, hitems⟩ := Filter.multiple_of_kind rangeCells f.view x hkind
  rw [paramsAt, isOn, hx, Option.elim_some, Option.any_some, params_ne_nil_iff, hitems]
  simp [FilterValue.isTruthy]

/-- Choosing content types switches their filter on if there are any. -/
theorem IsStandard.isOn_select (h : f.IsStandard) (types : List String) :
    (f.selectContentTypes types).isOn contentTypeLabel =
      (f.isOn contentTypeLabel || !types.isEmpty) := by
  obtain ⟨x, hx, -⟩ := h.contentTypes
  have hfilter : (f.selectContentTypes types).filter? contentTypeLabel =
      some (choose types f.view x).1 := by
    refine (filter?_mapFirst f fun v x => congrArg Filter.Frame.label (frame_choose types v x)).trans ?_
    rw [hx, Option.map_some]
  have henabled : (choose types f.view x).1.enabled = (x.enabled || !types.isEmpty) := by
    rw [choose]
    refine (store_fields _).1.trans ?_
    cases types <;> simp [Filter.enable]
  rw [isOn, hfilter, isOn, hx, Option.any_some, Option.any_some, henabled]

theorem isOn_select_of_ne (f : Facets) (types : List String) (h : label ≠ contentTypeLabel) :
    (f.selectContentTypes types).isOn label = f.isOn label := by
  have hfilter := filter?_mapFirst_of_ne f
    (fun v x => congrArg Filter.Frame.label (frame_choose types v x)) h
  exact congrArg (Option.any (·.enabled)) hfilter

theorem isOn_make (year : Int) (view : View) (label : String) : (make year view).isOn label = false := by
  rw [isOn]
  cases hx : (make year view).filter? label with
  | none => rfl
  | some x => exact enabled_of_mem_standard (List.mem_of_find?_eq_some hx)

end Search.Facets

namespace App
open Search.Facets (Asks frames)
open Search (contentTypeLabel)

variable (settings : Settings) (year : Int) (s : SavedState)

theorem facets_reopened_eq : (reopened settings year s).facets =
    (Search.Facets.make year s.view).selectContentTypes s.contentTypes := rfl

theorem isStandard_reopened : (reopened settings year s).facets.IsStandard :=
  (Search.Facets.isStandard_make year s.view).selectContentTypes s.contentTypes

/-- After a restart the filter of the content types is on if there are any, and no other is. -/
theorem isOn_reopened (label : String) : (reopened settings year s).facets.isOn label = true ↔
    label = contentTypeLabel ∧ s.contentTypes ≠ [] := by
  rw [facets_reopened_eq]
  by_cases h : label = contentTypeLabel
  · rw [h, (Search.Facets.isStandard_make year s.view).isOn_select, Search.Facets.isOn_make]
    simp
  · rw [Search.Facets.isOn_select_of_ne _ _ h, Search.Facets.isOn_make]
    simp [h]

/-! ### Requests before and after a restart -/

theorem hasFacet_prepare {a : App} (h : a.facets.IsStandard) (now : Int) (route : Route.Query)
    {fr : Filter.Frame Search.YearRange} (hfr : fr ∈ frames) :
    (a.prepare now route).request.HasFacet fr.label ↔
      match route.get? fr.label with
      | some val => Asks fr.kind val
      | none => a.facets.paramsAt fr.label ≠ [] :=
  Search.Facets.hasFacet_load h route hfr a.settings.pageSize

/-- The content types contribute to a search when its route has them, and else when their filter is
on. -/
theorem hasFacet_contentTypes {a : App} (h : a.facets.IsStandard) (now : Int) (route : Route.Query) :
    (a.prepare now route).request.HasFacet contentTypeLabel ↔
      (route.get? contentTypeLabel).isSome ∨ a.facets.isOn contentTypeLabel = true := by
  refine (hasFacet_prepare h now route Search.Facets.contentTypes_mem_frames).trans ?_
  cases route.get? contentTypeLabel with
  | some val => simp [Asks]
  | none => simpa using h.paramsAt_contentTypes

/-- A filter other than that of the content types contributes after a restart only by the route. -/
theorem hasFacet_of_reopened {a : App} (h : a.facets.IsStandard) {now now' : Int}
    {route : Route.Query} {label : String} (hne : label ≠ contentTypeLabel)
    (hb : ((reopened settings year s).prepare now' route).request.HasFacet label) :
    (a.prepare now route).request.HasFacet label := by
  obtain ⟨fr, hfr, rfl, -⟩ := id hb
  rw [hasFacet_prepare (isStandard_reopened settings year s) now' route hfr] at hb
  rw [hasFacet_prepare h now route hfr]
  cases hval : route.get? fr.label with
  | some val => rw [hval] at hb; exact hb
  | none =>
    rw [hval] at hb
    have hoff : (reopened settings year s).facets.isOn fr.label = false :=
      Bool.eq_false_iff.mpr fun hon => hne ((isOn_reopened settings year s fr.label).mp hon).1
    exact absurd (Search.Facets.paramsAt_of_off hoff) hb

/-- Which filters a restart switches on. Let an application be given what another one saved, and let
both be asked to search by one route. A filter other than that of the content types contributes to
the request of the new application only if it contributes to that of the other. The content types
contribute in the new application when the route has them or when some were selected in the other,
be their filter on there or off; in the other they contribute when the route has them or when their
filter is on. So the restart switches no filter on exactly when the filter of the content types was
on or had nothing selected. -/
theorem restart_switches_on_iff {a : App} (h : Reached a) (settings : Settings) (year : Int) :
    let b := reopened settings year a.snapshot
    (∀ now now' route label, label ≠ "ct" →
      (b.prepare now' route).request.HasFacet label →
        (a.prepare now route).request.HasFacet label) ∧
    (∀ now route, (b.prepare now route).request.HasFacet "ct" ↔
      (route.get? "ct").isSome ∨ a.facets.selectedContentTypes ≠ []) ∧
    (∀ now route, (a.prepare now route).request.HasFacet "ct" ↔
      (route.get? "ct").isSome ∨ a.facets.isOn "ct" = true) ∧
    ((∀ now now' route label, (b.prepare now' route).request.HasFacet label →
        (a.prepare now route).request.HasFacet label) ↔
      a.facets.isOn "ct" = true ∨ a.facets.selectedContentTypes = []) := by
  intro b
  have others : ∀ now now' route label, label ≠ contentTypeLabel →
      (b.prepare now' route).request.HasFacet label →
        (a.prepare now route).request.HasFacet label := fun now now' route label hne =>
    hasFacet_of_reopened settings year a.snapshot h.isStandard hne
  have after : ∀ now route, (b.prepare now route).request.HasFacet contentTypeLabel ↔
      (route.get? contentTypeLabel).isSome ∨ a.facets.selectedContentTypes ≠ [] := by
    intro now route
    rw [hasFacet_contentTypes (isStandard_reopened settings year a.snapshot), isOn_reopened]
    simp [snapshot]
  have before := fun now route => hasFacet_contentTypes h.isStandard now route
  refine ⟨others, after, before, fun hall => ?_, fun hct now now' route label hb => ?_⟩
  · -- the empty route leaves it to the filters
    have hempty := hall 0 0 .empty contentTypeLabel
    rw [after, before] at hempty
    by_cases hnone : a.facets.selectedContentTypes = []
    · exact .inr hnone
    · exact .inl ((hempty (.inr hnone)).resolve_left (by decide))
  · by_cases hlabel : label = contentTypeLabel
    · subst hlabel
      rw [before]
      refine ((after now' route).mp hb).imp_right fun hne => ?_
      exact hct.resolve_right hne
    · exact others now now' route label hlabel hb

/-! ### Two applications -/

/-- An application that was asked to search for a content type, and whose filter is on since. -/
def narrowed : App :=
  ((untouched.runSearch 0 (Route.ofPairs [("q", "rain"), ("ct", "CSV Data")])).run {}).1.1

/-- The application after that filter was switched off again. -/
def widened : App :=
  { narrowed with
    facets := narrowed.facets.mapFirst "ct" fun v x =>
      x.edit Search.rangeCells (Search.resetRange 2025) .disable v }

theorem reached_narrowed : Reached narrowed := .runSearch reached_untouched 0 _ {}

theorem reached_widened : Reached widened :=
  .edit reached_narrowed 2025 (.filter "ct" .disable) trivial rfl

theorem narrowed_stays_as_wide : Reached narrowed ∧ narrowed.facets.isOn "ct" = true ∧
    ∀ now now' route label,
      ((reopened narrowed.settings 2026 narrowed.snapshot).prepare now' route).request.HasFacet label →
        (narrowed.prepare now route).request.HasFacet label := by
  have hon : narrowed.facets.isOn "ct" = true := by decide +kernel
  obtain ⟨-, -, -, hiff⟩ := restart_switches_on_iff reached_narrowed narrowed.settings 2026
  exact ⟨reached_narrowed, hon, hiff.mpr (.inl hon)⟩

/-- A restart brings the content type back into the requests. -/
theorem widened_comes_back_narrow : Reached widened ∧
    let b := reopened widened.settings 2025 widened.snapshot
    let route := Route.ofPairs [("q", "rain")]
    (widened.prepare 0 route).request.queryString = "term=rain&pageSize=20" ∧
    (b.prepare 0 route).request.queryString = "term=rain&pageSize=20&contentType=CSV%20Data" ∧
    ¬∀ now now' route label, (b.prepare now' route).request.HasFacet label →
      (widened.prepare now route).request.HasFacet label := by
  refine ⟨reached_widened, by decide +kernel, by decide +kernel, fun h => ?_⟩
  have hafter := h 0 0 (Route.ofPairs [("q", "rain")]) "ct" (by decide +kernel)
  revert hafter
  decide +kernel

end App
end DatasetSearch
