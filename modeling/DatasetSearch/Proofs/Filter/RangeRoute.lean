import DatasetSearch.Proofs.Decimal.Exact
import DatasetSearch.Proofs.Filter.Storing
import DatasetSearch.Proofs.Route.RoundTrip
import DatasetSearch.Proofs.SavedState.Text

/-! A range goes through a route as a pair of doubles.

A filter writes the bounds of its range as integers, and a filter that loads them reads them as
doubles. So a range comes back with the nearest doubles for bounds (`range_through_route`), and as
it was if doubles can hold its bounds, as they can all years. The greatest integer of 64 bits comes
back too, because what is too great is cut to it. -/
namespace DatasetSearch

/-- The range whose bounds are the nearest doubles. -/
def Bounds.nearest64 (b : Bounds) : Bounds := ⟨Double.nearest64 b.low, Double.nearest64 b.high⟩

/-- A bound that a double holds, or that too great a double is cut to. -/
def SurvivesDouble (n : Int) : Prop := Double.Representable n ∨ n = greatestInt64

instance (n : Int) : Decidable (SurvivesDouble n) := inferInstanceAs (Decidable (_ ∨ _))

theorem Bounds.nearest64_eq_iff {b : Bounds} (h : b.Fits) :
    b.nearest64 = b ↔ SurvivesDouble b.low ∧ SurvivesDouble b.high := by
  obtain ⟨low, high⟩ := b
  rw [nearest64, Bounds.mk.injEq, Double.nearest64_eq_iff h.1, Double.nearest64_eq_iff h.2]
  rfl

namespace Filter
variable {κ κ' σ σ' : Type} {C : Cells κ σ} {D : Cells κ' σ'} {x : Filter κ} {y : Filter κ'} {s : σ}
  {b : Bounds}

theorem valueOfRoute_range (hkind : y.kind = .range) (hfits : b.Fits) :
    y.valueOfRoute (.many [wholeText b.low, wholeText b.high]) = .range b.nearest64 := by
  rw [valueOfRoute, hkind]
  exact congrArg FilterValue.range
    (congr (congrArg Bounds.mk (boundIn_wholeText hfits.1 _)) (boundIn_wholeText hfits.2 _))

/-- A range filter that loads what a filter says of its range is on, and has the range with the
nearest doubles for bounds. That is the same range just when each bound is a double or the greatest
integer of 64 bits. -/
theorem range_through_route (hon : x.enabled = true) (hv : x.value C s = .range b) (hfits : b.Fits)
    (hkind : y.kind = .range) (hlabel : y.label = x.label)
    (hback : ∀ r, y.storage.GivesBack D (.range r)) (q : Route.Query) (t : σ') :
    let route := Route.apply q (.ofList [(x.label, x.routeValue C s)])
    let loaded := y.load D route t
    loaded.1.enabled = true ∧ loaded.1.value D loaded.2 = .range b.nearest64 ∧
      (loaded.1.value D loaded.2 = .range b ↔ SurvivesDouble b.low ∧ SurvivesDouble b.high) := by
  intro route loaded
  have hsaid : x.routeValue C s = some (.many [wholeText b.low, wholeText b.high]) := by
    rw [routeValue, hon, hv]
    rfl
  have hkey : route.get? y.label = some (.many [wholeText b.low, wholeText b.high]) := by
    rw [Route.get?_apply, Sorted.get?_ofList (by simp), hlabel, hsaid]
    simp
  have hread := valueOfRoute_range hkind hfits
  have hvalue : loaded.1.value D loaded.2 = .range b.nearest64 :=
    (value_load hkey (hread ▸ hback _)).trans hread
  have henabled : loaded.1.enabled = true := by
    rw [show loaded = _ from load_of_some hkey, store_eq]
    rfl
  refine ⟨henabled, hvalue, ?_⟩
  rw [hvalue, FilterValue.range.injEq]
  exact Bounds.nearest64_eq_iff hfits

/-- The extreme bounds go from a filter that keeps them to one that lends them to a cell. -/
theorem extreme_range_through_route :
    let b : Bounds := ⟨leastInt64, greatestInt64⟩
    let fresh : Filter Unit := make .range "publicationYear" "py" ⟨1900, 2025⟩
    let x := { fresh with enabled := true, storage := .own (.range b) }
    let y : Filter Unit := (make .range "publicationYear" "py" ⟨1950, 2020⟩).storedIn () false
    let loaded := y.load Cells.one
      (Route.apply .empty (.ofList [("py", x.routeValue Cells.one (.text none))])) (.range ⟨0, 0⟩)
    x.enabled = true ∧ x.value Cells.one (.text none) = .range b ∧ b.Fits ∧ y.kind = .range ∧
      y.label = x.label ∧ (∀ r, y.storage.GivesBack Cells.one (.range r)) ∧
      loaded.1.enabled = true ∧ loaded.1.value Cells.one loaded.2 = .range b := by
  intro b fresh x y loaded
  have hback : ∀ r, y.storage.GivesBack Cells.one (.range r) := fun _ _ => rfl
  obtain ⟨hon, _, hsame⟩ := range_through_route (C := Cells.one) (D := Cells.one) (x := x) (y := y)
    (s := .text none) (b := b) rfl rfl (by decide) rfl rfl hback .empty (.range ⟨0, 0⟩)
  exact ⟨rfl, rfl, by decide, rfl, rfl, hback, hon, hsame.mpr (by decide +kernel)⟩

/-- The first integer that no double holds comes back less by one. -/
theorem range_not_through_route :
    let b : Bounds := ⟨1900, 9007199254740993⟩
    let fresh : Filter Unit := make .range "publicationYear" "py" ⟨1900, 2025⟩
    let x := { fresh with enabled := true, storage := .own (.range b) }
    let loaded := x.load Cells.one
      (Route.apply .empty (.ofList [("py", x.routeValue Cells.one (.text none))])) (.text none)
    b.Fits ∧ x.enabled = true ∧ x.value Cells.one (.text none) = .range b ∧
      loaded.1.value Cells.one loaded.2 = .range ⟨1900, 9007199254740992⟩ ∧
      loaded.1.value Cells.one loaded.2 ≠ .range b := by
  decide +kernel

end Filter
end DatasetSearch
