import DatasetSearch.Proofs.Filter.Storing
import DatasetSearch.Proofs.Search.Standard

/-! What a page holds after loading a route.

A filter whose key the route has is on, and its value is the one that it reads there; any other
stays as it is, so on a new page it is off. Filters whose values live in the results page do not get
in each other's way, since no two of them share a cell. -/
namespace DatasetSearch.Search
open DatasetSearch.Filter (Frame)

theorem View.range_setRange (v : View) (r r' : YearRange) (b : Bounds) :
    (v.setRange r b).range r' = if r' = r then b else v.range r' := by
  cases r <;> cases r' <;> rfl

namespace Facets
variable {x : Filter YearRange} {q : Route.Query} {v w : View}

/-! ### One filter -/

/-- A filter is off where there is nothing for it, and else on with the value it reads there. -/
def Holds (o : Option Route.Value) (x : Filter YearRange) (v : View) : Prop :=
  match o with
  | none => x.enabled = false
  | some val => x.enabled = true ∧ x.value rangeCells v = x.valueOfRoute val

theorem kind_of_cell {r : YearRange} (hs : Sound x.frame) (h : x.storage.cell? = some r) :
    x.kind = .range := by
  rcases hs with ⟨hk, _⟩ | ⟨_, hnone⟩
  · exact hk
  · exact absurd (h.symm.trans hnone) (by simp)

theorem value_of_cell {r : YearRange} (hs : Sound x.frame) (h : x.storage.cell? = some r) :
    x.kind = .range ∧ x.value rangeCells v = .range (v.range r) := by
  have hk := kind_of_cell hs h
  refine ⟨hk, ?_⟩
  cases hst : x.storage with
  | cell name clears =>
    rw [hst] at h
    cases h
    simp only [Filter.value, hst, hk, rangeCells, FilterValue.shapedAs]
  | _ => rw [hst] at h; cases h

theorem value_congr (h : ∀ r, x.storage.cell? = some r → w.range r = v.range r) :
    x.value rangeCells w = x.value rangeCells v := by
  cases hst : x.storage with
  | cell r clears => simp only [Filter.value, hst, rangeCells, h r (by rw [hst]; rfl)]
  | _ => simp only [Filter.value, hst]

/-- The results page gives back the range that a filter of ranges writes. -/
theorem givesBack_of_sound {u : FilterValue} (hs : Sound x.frame)
    (hu : FilterValue.HasShape x.kind u) : x.storage.GivesBack rangeCells u := by
  cases hst : x.storage with
  | cell r clears =>
    rw [kind_of_cell hs (show x.storage.cell? = some r by rw [hst]; rfl)] at hu
    cases u with
    | range b =>
      intro v
      simp only [rangeCells, View.range_setRange, if_true]
    | _ => exact hu.elim
  | _ => trivial

theorem store_fields (u : FilterValue) :
    (x.store rangeCells u v).1.enabled = x.enabled ∧
      (x.store rangeCells u v).1.valueOfRoute = x.valueOfRoute := by
  rw [Filter.store]
  split <;> exact ⟨rfl, rfl⟩

/-- What loading makes of a filter `x` above `v`: the filter `y` above `w`. Where there is nothing
for it, it stays as it is, and else it is on with the value that it reads there. -/
structure Loaded (o : Option Route.Value) (x : Filter YearRange) (v : View) (y : Filter YearRange)
    (w : View) : Prop where
  frame : y.frame = x.frame
  kept : o = none → y.enabled = x.enabled ∧ y.value rangeCells w = x.value rangeCells v
  taken : ∀ val, o = some val → y.enabled = true ∧ y.value rangeCells w = y.valueOfRoute val

theorem Loaded.congr {o : Option Route.Value} {y : Filter YearRange} {v' w' : View}
    (h : Loaded o x v y w) (hv : ∀ r, x.storage.cell? = some r → v'.range r = v.range r)
    (hw : ∀ r, x.storage.cell? = some r → w'.range r = w.range r) : Loaded o x v' y w' := by
  have hcell : y.storage.cell? = x.storage.cell? := congrArg Frame.cell? h.frame
  have hy : y.value rangeCells w' = y.value rangeCells w := value_congr fun r hr => hw r (hcell ▸ hr)
  refine ⟨h.frame, fun ho => ?_, fun val ho => ?_⟩
  · obtain ⟨henabled, hvalue⟩ := h.kept ho
    exact ⟨henabled, hy.trans (hvalue.trans (value_congr hv).symm)⟩
  · obtain ⟨henabled, hvalue⟩ := h.taken val ho
    exact ⟨henabled, hy.trans hvalue⟩

theorem loaded_load (hs : Sound x.frame) :
    Loaded (q.get? x.label) x v (x.load rangeCells q v).1 (x.load rangeCells q v).2 := by
  refine ⟨Filter.frame_load rangeCells v x q, fun ho => ?_, fun val ho => ?_⟩
  · rw [Filter.load_of_none ho]
    exact ⟨rfl, rfl⟩
  · have hvalue := Filter.value_load (s := v) ho
      (givesBack_of_sound hs (Filter.hasShape_valueOfRoute val))
    rw [Filter.load_of_some ho] at hvalue ⊢
    obtain ⟨henabled, hroute⟩ := store_fields (x := x.enable) (v := v) (x.valueOfRoute val)
    exact ⟨henabled, hvalue.trans (congrFun hroute val).symm⟩

theorem Loaded.holds {o : Option Route.Value} {y : Filter YearRange} (h : Loaded o x v y w)
    (hoff : x.enabled = false) : Holds o y w := by
  cases o with
  | none => exact (h.kept rfl).1.trans hoff
  | some val => exact h.taken val rfl

/-- The range that a filter reads in a route. -/
def rangeIn? (q : Route.Query) (x : Filter YearRange) : Option Bounds :=
  (q.get? x.label).bind fun val =>
    match x.valueOfRoute val with
    | .range b => some b
    | _ => none

/-- Loading a filter writes the range that it reads to its own cell. -/
theorem range_load (r : YearRange) : (x.load rangeCells q v).2.range r =
    if x.storage.cell? = some r then (rangeIn? q x).getD (v.range r) else v.range r := by
  cases hq : q.get? x.label with
  | none => simp [Filter.load_of_none hq, rangeIn?, hq]
  | some val =>
    rw [Filter.load_of_some hq, Filter.store_eq, rangeIn?, hq, Option.bind_some]
    have hst : x.enable.storage = x.storage := rfl
    rw [hst]
    cases x.storage with
    | cell name clears =>
      simp only [Storage.save, Storage.cell?, rangeCells, Option.some.injEq, @eq_comm _ name r]
      cases x.valueOfRoute val with
      | range b => exact View.range_setRange v name r b
      | _ => simp
    | _ => simp [Storage.save, Storage.cell?]

/-- Loading a filter leaves the ranges of others. -/
theorem range_load_of_ne {r : YearRange} (h : x.storage.cell? ≠ some r) :
    (x.load rangeCells q v).2.range r = v.range r :=
  (range_load r).trans (if_neg h)

/-- What no range of the results page bears on, loading a filter leaves. -/
theorem view_load {α : Type} {φ : View → α} (h : ∀ v r b, φ (View.setRange r b v) = φ v) :
    φ (x.load rangeCells q v).2 = φ v := by
  cases hq : q.get? x.label with
  | none => rw [Filter.load_of_none hq]
  | some val =>
    rw [Filter.load_of_some hq, Filter.store_eq]
    cases x.enable.storage with
    | cell name clears =>
      simp only [Storage.save, rangeCells]
      cases x.valueOfRoute val with
      | range b => exact h v name b
      | _ => rfl
    | _ => rfl

/-! ### All filters -/

/-- Loads filters one after the other. -/
abbrev loadAll (q : Route.Query) : View → List (Filter YearRange) → List (Filter YearRange) × View :=
  changeAll fun v x => x.load rangeCells q v

theorem loadAll_cons (rest : List (Filter YearRange)) :
    loadAll q v (x :: rest) =
      ((x.load rangeCells q v).1 :: (loadAll q (x.load rangeCells q v).2 rest).1,
        (loadAll q (x.load rangeCells q v).2 rest).2) := rfl

theorem range_loadAll {r : YearRange} {xs : List (Filter YearRange)}
    (h : ∀ x ∈ xs, x.storage.cell? ≠ some r) : (loadAll q v xs).2.range r = v.range r := by
  induction xs generalizing v with
  | nil => rfl
  | cons x rest ih =>
    obtain ⟨hx, hrest⟩ := List.forall_mem_cons.mp h
    exact (ih hrest).trans (range_load_of_ne hx)

/-- Of filters with different cells no other has the cell of the first. -/
theorem cell_ne_of_nodup {rest : List (Filter YearRange)} {r : YearRange}
    (hcells : ((x :: rest).filterMap (·.storage.cell?)).Nodup) (hr : x.storage.cell? = some r) :
    ∀ x' ∈ rest, x'.storage.cell? ≠ some r := by
  intro x' hx' hr'
  simp only [List.filterMap_cons, hr, List.nodup_cons] at hcells
  exact hcells.1 (List.mem_filterMap.mpr ⟨x', hx', hr'⟩)

/-- Every filter is loaded from its own key, whatever the others do. -/
theorem loaded_loadAll {xs : List (Filter YearRange)} (hs : ∀ x ∈ xs, Sound x.frame)
    (hcells : (xs.filterMap (·.storage.cell?)).Nodup) :
    ∀ y ∈ (loadAll q v xs).1, ∃ x ∈ xs, Loaded (q.get? x.label) x v y (loadAll q v xs).2 := by
  induction xs generalizing v with
  | nil => exact fun y hy => nomatch hy
  | cons x rest ih =>
    obtain ⟨hsx, hsrest⟩ := List.forall_mem_cons.mp hs
    rw [loadAll_cons]
    intro y hy
    rcases List.mem_cons.mp hy with rfl | hy
    · -- the filters that are loaded later have other cells
      refine ⟨x, List.mem_cons_self .., (loaded_load hsx).congr (fun _ _ => rfl) fun r hr => ?_⟩
      exact range_loadAll (cell_ne_of_nodup hcells hr)
    · have hrest := ((List.sublist_cons_self x rest).filterMap (·.storage.cell?)).nodup hcells
      obtain ⟨x', hx', hloaded⟩ := ih hsrest hrest y hy
      -- and so has the one that is loaded first
      refine ⟨x', List.mem_cons_of_mem _ hx', hloaded.congr (fun r hr => ?_) fun _ _ => rfl⟩
      exact (range_load_of_ne fun hxr => cell_ne_of_nodup hcells hxr x' hx' hr).symm

theorem holds_loadAll {xs : List (Filter YearRange)} (hs : ∀ x ∈ xs, Sound x.frame)
    (hoff : ∀ x ∈ xs, x.enabled = false) (hcells : (xs.filterMap (·.storage.cell?)).Nodup) :
    ∀ y ∈ (loadAll q v xs).1, Holds (q.get? y.label) y (loadAll q v xs).2 := by
  intro y hy
  obtain ⟨x, hx, hloaded⟩ := loaded_loadAll hs hcells y hy
  have hlabel : y.label = x.label := congrArg Frame.label hloaded.frame
  rw [hlabel]
  exact hloaded.holds (hoff x hx)

theorem IsStandard.nodup_cells {f : Facets} (hf : f.IsStandard) :
    (f.filters.filterMap (·.storage.cell?)).Nodup := by
  have hframes : f.filters.filterMap (·.storage.cell?) = frames.filterMap Frame.cell? := by
    rw [← hf, List.filterMap_map]
    rfl
  exact hframes ▸ Facets.nodup_cells

/-- On a standard page the filter with a label is loaded from its key. -/
theorem IsStandard.loaded {f : Facets} (hf : f.IsStandard) (q : Route.Query)
    {fr : Frame YearRange} (hfr : fr ∈ frames) :
    ∃ x y, f.filter? fr.label = some x ∧ (f.load q).filter? fr.label = some y ∧ y.frame = fr ∧
      Loaded (q.get? fr.label) x f.view y (f.load q).view := by
  obtain ⟨y, hy, hyframe⟩ := (hf.load q).exists_filter hfr
  obtain ⟨x, hx, hloaded⟩ := loaded_loadAll (q := q) (v := f.view) (fun x hx => hf.sound hx)
    hf.nodup_cells y (List.mem_of_find?_eq_some hy)
  have hlabel : x.label = fr.label := congrArg Frame.label (hloaded.frame.symm.trans hyframe)
  rw [hlabel] at hloaded
  exact ⟨x, y, hlabel ▸ hf.filter?_of_mem hx, hy, hyframe, hloaded⟩

/-- A new page holds the route that it loads. -/
theorem holds_load_make (q : Route.Query) (year : Int) (view : View) :
    ∀ y ∈ ((make year view).load q).filters, Holds (q.get? y.label) y ((make year view).load q).view :=
  holds_loadAll (fun _ hx => (isStandard_make year view).sound hx)
    (fun _ hx => enabled_of_mem_standard hx) nodup_cells

/-! ### The rest of the page -/

theorem view_loadAll {α : Type} {φ : View → α} (h : ∀ v r b, φ (View.setRange r b v) = φ v)
    (xs : List (Filter YearRange)) : φ (loadAll q v xs).2 = φ v := by
  induction xs generalizing v with
  | nil => rfl
  | cons x rest ih => exact ih.trans (view_load h)

/-- What no range bears on, loading a page leaves. -/
theorem view_load_page {α : Type} {φ : View → α} (h : ∀ v r b, φ (View.setRange r b v) = φ v)
    (f : Facets) (q : Route.Query) : φ (f.load q).view = φ f.view :=
  view_loadAll h f.filters

theorem sortKey_load (f : Facets) (q : Route.Query) : (f.load q).view.sortKey = f.view.sortKey :=
  view_load_page (fun v r b => by cases r <;> rfl) f q

theorem direction_load (f : Facets) (q : Route.Query) :
    (f.load q).view.direction = f.view.direction :=
  view_load_page (fun v r b => by cases r <;> rfl) f q

theorem openPanels_load (f : Facets) (q : Route.Query) :
    (f.load q).view.openPanels = f.view.openPanels :=
  view_load_page (fun v r b => by cases r <;> rfl) f q

end Facets
end DatasetSearch.Search
