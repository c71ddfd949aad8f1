import DatasetSearch.Proofs.Filter.Cleared
import DatasetSearch.Proofs.Search.Standard

/-! Clearing the search page.

A cleared page is a new one above a results page that has all years again and is sorted as before,
with the same panels open. Only the content types on offer are left of what was done to it, and no
edit looks at them (`Blind`). So whatever is done afterwards, the cleared page and the new one show
the same and ask for the same (`clearAll_resets`). -/
namespace DatasetSearch.Search

/-- The results page with all years, sorted as before and with the same panels open. -/
def View.renewed (year : Int) (v : View) : View :=
  { View.initial year with
    sortKey := v.sortKey, direction := v.direction, openPanels := v.openPanels }

namespace Facets

/-- Carries edits out one after the other, each in a year of its own. One that is refused changes
nothing. -/
def run (f : Facets) : List (Int × Edit) → Facets
  | [] => f
  | (now, e) :: rest => ((f.edit now e).toOption.getD f).run rest

/-- An edit that uses the filters: it makes no other filters of them. -/
def Edit.IsUse : Edit → Prop
  | .filter _ e => e.IsUse
  | _ => True

/-- What a filter shows on a page, apart from its choices. -/
structure Face where
  frame : Filter.Frame YearRange
  bounds : Bounds
  enabled : Bool
  value : FilterValue
  selected : List String
  active : Bool
deriving DecidableEq

def face (f : Facets) (x : Filter YearRange) : Face :=
  ⟨x.frame, x.bounds, x.enabled, f.valueOf x, x.selected rangeCells f.view, f.isActive x⟩

/-- Nothing tells two pages apart but the content types on offer. -/
structure Alike (f g : Facets) : Prop where
  term : f.term = g.term
  view : f.view = g.view
  faces : f.filters.map f.face = g.filters.map g.face
  activeCount : f.activeCount = g.activeCount
  params : f.params = g.params
  request : ∀ pageSize, f.request pageSize = g.request pageSize
  update : f.update = g.update
  choices : ∀ label, label ≠ contentTypeLabel →
    (f.filter? label).map Filter.choices = (g.filter? label).map Filter.choices
  /-- The same edits are refused. -/
  refused : ∀ now e label, f.edit now e = .error label ↔ g.edit now e = .error label

/-! ### Pages but for the content types on offer -/

/-- A filter without the content types that it offers. -/
def bareFilter (x : Filter YearRange) : Filter YearRange :=
  x.withChoices (if x.label = contentTypeLabel then [] else x.choices)

/-- A page without the content types on offer. -/
def bare (f : Facets) : Facets := { f with filters := f.filters.map bareFilter }

theorem bareFilter_of_eq {x : Filter YearRange} (h : x.label = contentTypeLabel) :
    bareFilter x = x.withChoices [] := by
  rw [bareFilter, if_pos h]

theorem bareFilter_of_ne {x : Filter YearRange} (h : x.label ≠ contentTypeLabel) :
    bareFilter x = x := by
  rw [bareFilter, if_neg h]
  rfl

theorem bareFilter_bareFilter (x : Filter YearRange) :
    bareFilter (bareFilter x) = bareFilter x := by
  by_cases h : x.label = contentTypeLabel
  · rw [bareFilter_of_eq h]
    exact bareFilter_of_eq h
  · rw [bareFilter_of_ne h, bareFilter_of_ne h]

theorem bare_bare (f : Facets) : f.bare.bare = f.bare := by
  rw [bare, bare, List.map_map]
  simp only [Function.comp_def, bareFilter_bareFilter]

variable {f g : Facets}

theorem faces_bare (f : Facets) : f.bare.filters.map f.bare.face = f.filters.map f.face :=
  List.map_map

theorem activeCount_eq (f : Facets) :
    f.activeCount = ((f.filters.map f.face).filter Face.active).length := by
  rw [List.filter_map, List.length_map]
  rfl

theorem params_bare (f : Facets) : f.bare.params = f.params := by
  rw [params, params, bare, List.flatMap_map]
  rfl

theorem update_bare (f : Facets) : f.bare.update = f.update := by
  rw [update, update, bare, List.map_map]
  rfl

theorem filter?_bare (f : Facets) (label : String) :
    f.bare.filter? label = (f.filter? label).map bareFilter := by
  rw [filter?, filter?, bare, List.find?_map]
  rfl

theorem choices_bare {label : String} (h : label ≠ contentTypeLabel) :
    (f.bare.filter? label).map Filter.choices = (f.filter? label).map Filter.choices := by
  rw [filter?_bare]
  cases hx : f.filter? label with
  | none => rfl
  | some x =>
    have hlabel : x.label = label := beq_iff_eq.mp (List.find?_some hx :)
    rw [Option.map_some, bareFilter_of_ne (hlabel ▸ h)]

/-! ### Edits do not look at the content types on offer -/

section
variable {change : View → Filter YearRange → Filter YearRange × View}

/-- Where a change does not look at what `φ` takes from a filter, nothing of it is looked at. -/
theorem changeAll_map {φ ψ : Filter YearRange → Filter YearRange}
    (h : ∀ v x, ψ (change v (φ x)).1 = ψ (change v x).1 ∧ (change v (φ x)).2 = (change v x).2)
    (v : View) (xs : List (Filter YearRange)) :
    (changeAll change v (xs.map φ)).1.map ψ = (changeAll change v xs).1.map ψ ∧
      (changeAll change v (xs.map φ)).2 = (changeAll change v xs).2 := by
  induction xs generalizing v with
  | nil => exact ⟨rfl, rfl⟩
  | cons x rest ih =>
    obtain ⟨hfilter, hview⟩ := h v x
    simp only [List.map_cons, changeAll, hfilter, hview, ih, and_self]

/-- A change of a filter that does not look at the content types on offer. -/
def Blind (change : View → Filter YearRange → Filter YearRange × View) : Prop :=
  ∀ v x, bareFilter (change v (bareFilter x)).1 = bareFilter (change v x).1 ∧
    (change v (bareFilter x)).2 = (change v x).2

theorem bare_mapAll (h : Blind change) (f : Facets) :
    (f.bare.mapAll change).bare = (f.mapAll change).bare := by
  obtain ⟨hfilters, hview⟩ := changeAll_map h f.view f.filters
  exact congrArg₂ (Facets.mk f.term) hfilters hview

theorem bare_mapFirst (h : Blind change) (f : Facets) (label : String) :
    (f.bare.mapFirst label change).bare = (f.mapFirst label change).bare := by
  have hfirst (v : View) (xs : List (Filter YearRange)) :
      (changeFirst label change v (xs.map bareFilter)).1.map bareFilter =
          (changeFirst label change v xs).1.map bareFilter ∧
        (changeFirst label change v (xs.map bareFilter)).2 = (changeFirst label change v xs).2 := by
    induction xs generalizing v with
    | nil => exact ⟨rfl, rfl⟩
    | cons x rest ih =>
      obtain ⟨hfilter, hview⟩ := h v x
      have hlabel : (bareFilter x).label = x.label := rfl
      simp only [List.map_cons, changeFirst, hlabel]
      split
      · simp [hfilter, hview, bareFilter_bareFilter]
      · simp [ih, bareFilter_bareFilter]
  obtain ⟨hfilters, hview⟩ := hfirst f.view f.filters
  exact congrArg₂ (Facets.mk f.term) hfilters hview

end

theorem blind_edit (now : Int) (e : Filter.Edit) :
    Blind fun v x => x.edit rangeCells (resetRange now) e v := by
  intro v x
  by_cases h : x.label = contentTypeLabel
  · obtain ⟨hfilter, hview⟩ := Filter.withChoices_edit rangeCells (resetRange now) v x [] e
    have hbare (y : Filter YearRange) (hy : y.label = x.label) :
        bareFilter (y.edit rangeCells (resetRange now) e v).1 =
          (y.edit rangeCells (resetRange now) e v).1.withChoices [] :=
      bareFilter_of_eq ((Filter.label_edit rangeCells (resetRange now) v y e).trans (hy.trans h))
    rw [bareFilter_of_eq h]
    exact ⟨((hbare (x.withChoices []) rfl).trans hfilter).trans (hbare x rfl).symm, hview⟩
  · rw [bareFilter_of_ne h]
    exact ⟨rfl, rfl⟩

theorem blind_offer (types : List String) :
    Blind fun v x => (x.withChoices (types.map fun t => { value := t, label := t }), v) := by
  intro v x
  by_cases h : x.label = contentTypeLabel
  · rw [bareFilter_of_eq h]
    exact ⟨rfl, rfl⟩
  · rw [bareFilter_of_ne h]
    exact ⟨rfl, rfl⟩

theorem blind_select (types : List String) :
    Blind fun v x =>
      (if types.isEmpty then x else x.enable).setValue rangeCells (.multiple types) v := by
  have hset : Blind fun v x => x.setValue rangeCells (.multiple types) v :=
    blind_edit 0 (.setValue (.multiple types))
  intro v x
  cases types.isEmpty with
  | true => exact hset v x
  | false => exact hset v x.enable

/-- What an edit makes of a page does not hang on the content types on offer. -/
theorem bare_edit (f : Facets) (now : Int) (e : Edit) :
    (f.bare.edit now e).map bare = (f.edit now e).map bare := by
  cases e with
  | setTerm term => exact congrArg (fun x : Facets => Except.ok { x with term }) (bare_bare f)
  | load q => exact congrArg Except.ok (bare_mapAll (blind_edit now (.load q)) { f with term := _ })
  | offerContentTypes types => exact congrArg Except.ok (bare_mapFirst (blind_offer types) f _)
  | selectContentTypes types => exact congrArg Except.ok (bare_mapFirst (blind_select types) f _)
  | clearAll => exact congrArg Except.ok (bare_mapAll (blind_edit now .clear) { f with term := "" })
  | filter label e =>
    simp only [edit, filter?_bare, Option.isSome_map]
    split
    · exact congrArg Except.ok (bare_mapFirst (blind_edit now e) f label)
    · rfl
  | view e =>
    exact congrArg (fun x : Facets => Except.ok { x with view := f.view.edit e }) (bare_bare f)

theorem edit_of_bare (h : f.bare = g.bare) (now : Int) (e : Edit) :
    (f.edit now e).map bare = (g.edit now e).map bare := by
  rw [← bare_edit f, ← bare_edit g, h]

theorem bare_run (es : List (Int × Edit)) {f g : Facets} (h : f.bare = g.bare) :
    (f.run es).bare = (g.run es).bare := by
  induction es generalizing f g with
  | nil => exact h
  | cons step rest ih =>
    refine ih ?_
    have hedit := edit_of_bare h step.1 step.2
    cases hf : f.edit step.1 step.2 <;> cases hg : g.edit step.1 step.2 <;>
      rw [hf, hg] at hedit
    · exact h
    · cases hedit
    · cases hedit
    · exact Except.ok.inj hedit

theorem map_eq_error {α β : Type} (φ : α → β) {x : Except String α} {label : String} :
    x.map φ = .error label ↔ x = .error label := by
  cases x <;> simp [Except.map]

/-- Pages that differ in the content types on offer at most are alike. -/
theorem alike_of_bare (h : f.bare = g.bare) : Alike f g := by
  have term : f.term = g.term := (congrArg Facets.term h :)
  have view : f.view = g.view := (congrArg Facets.view h :)
  have faces : f.filters.map f.face = g.filters.map g.face := by
    rw [← faces_bare f, ← faces_bare g, h]
  have params : f.params = g.params := by rw [← params_bare f, ← params_bare g, h]
  exact {
    term, view, faces, params
    activeCount := by rw [activeCount_eq, activeCount_eq, faces]
    request := fun pageSize => by rw [request, request, term, view, params]
    update := by rw [← update_bare f, ← update_bare g, h]
    choices := fun label hlabel => by
      rw [← choices_bare (f := f) hlabel, ← choices_bare (f := g) hlabel, h]
    refused := fun now e label => by
      rw [← map_eq_error bare, edit_of_bare h now e, map_eq_error] }

/-! ### What using a page leaves of its filters -/

/-- What a filter is apart from what using a page changes of it. -/
def blank (x : Filter YearRange) : Filter YearRange := bareFilter x.unset

theorem blank_withChoices {x : Filter YearRange} (h : x.label = contentTypeLabel)
    (choices : List Choice) : blank (x.withChoices choices) = blank x := by
  have hbare (y : Filter YearRange) (hy : y.label = x.label) : blank y = y.unset.withChoices [] :=
    bareFilter_of_eq (hy.trans h)
  exact (hbare (x.withChoices choices) rfl).trans (hbare x rfl).symm

theorem blank_change (now : Int) {e : Filter.Edit} (h : e.IsUse) (v : View)
    (x : Filter YearRange) : blank (x.edit rangeCells (resetRange now) e v).1 = blank x :=
  congrArg bareFilter (Filter.unset_edit rangeCells (resetRange now) v x h)

theorem blank_edit (f : Facets) (now : Int) {e : Edit} (h : e.IsUse) {f' : Facets}
    (done : f.edit now e = .ok f') : f'.filters.map blank = f.filters.map blank := by
  cases e with
  | setTerm term => cases done; rfl
  | view e => cases done; rfl
  | load q =>
    cases done
    exact map_changeAll (blank_change now (e := .load q) trivial) ..
  | offerContentTypes types =>
    cases done
    exact map_changeFirst (fun v x hx => blank_withChoices hx _) ..
  | selectContentTypes types =>
    cases done
    refine map_changeFirst (fun v x _ => ?_) f.view f.filters
    refine (blank_change now (e := .setValue (.multiple types)) trivial v _).trans ?_
    split <;> rfl
  | clearAll =>
    cases done
    exact map_changeAll (blank_change now (e := .clear) trivial) ..
  | filter label e =>
    simp only [edit] at done
    split at done
    · cases done
      exact map_changeFirst (fun v x _ => blank_change now h v x) ..
    · cases done

theorem blank_run {es : List (Int × Edit)} (h : ∀ step ∈ es, step.2.IsUse) (f : Facets) :
    (f.run es).filters.map blank = f.filters.map blank := by
  induction es generalizing f with
  | nil => rfl
  | cons step rest ih =>
    obtain ⟨hstep, hrest⟩ := List.forall_mem_cons.mp h
    refine (ih hrest _).trans ?_
    cases hf : f.edit step.1 step.2 with
    | error label => rfl
    | ok f' => exact blank_edit f step.1 hstep hf

/-! ### Clearing -/

/-- Clearing a page does not look at what was done to its filters. -/
theorem bare_clearAll (h : f.filters.map blank = g.filters.map blank) (hview : f.view = g.view)
    (year : Int) : (f.clearAll year).bare = (g.clearAll year).bare := by
  let clear (v : View) (x : Filter YearRange) := x.clear rangeCells (resetRange year) v
  have hblank (v : View) (x : Filter YearRange) :
      bareFilter (clear v (blank x)).1 = bareFilter (clear v x).1 ∧
        (clear v (blank x)).2 = (clear v x).2 := by
    have hunset : clear v x.unset = clear v x := Filter.clear_unset rangeCells (resetRange year) v x
    rw [← hunset]
    exact blind_edit year .clear v x.unset
  -- both pages become what clearing makes of their blank filters
  obtain ⟨_, xs, v⟩ := f
  obtain ⟨_, ys, _⟩ := g
  cases hview
  obtain ⟨hfilters, hviews⟩ := changeAll_map hblank v xs
  obtain ⟨gfilters, gviews⟩ := changeAll_map hblank v ys
  rw [h] at hfilters hviews
  exact congrArg₂ (Facets.mk "") (hfilters.symm.trans gfilters) (hviews.symm.trans gviews)

theorem clearAll_make (year : Int) (v : View) :
    (make year v).clearAll year = make year (v.renewed year) := rfl

/-- A page that is used and then cleared is a new one, but for the content types on offer. -/
theorem bare_clearAll_run {es : List (Int × Edit)} (h : ∀ step ∈ es, step.2.IsUse) (year : Int)
    (view : View) :
    (((make year view).run es).clearAll year).bare =
      (make year (((make year view).run es).view.renewed year)).bare :=
  let f := (make year view).run es
  have hblank : f.filters.map blank = (make year f.view).filters.map blank :=
    blank_run h (make year view)
  (bare_clearAll hblank rfl year).trans (congrArg bare (clearAll_make year f.view))

theorem choices_clearAll (f : Facets) (year : Int) :
    (f.clearAll year).filters.map (fun x => (x.label, x.choices)) =
      f.filters.map fun x => (x.label, x.choices) := by
  let offer (x : Filter YearRange) := (x.label, x.choices)
  have hclear (v : View) (x : Filter YearRange) :
      offer (x.clear rangeCells (resetRange year) v).1 = offer x := by
    rw [Filter.clear_eq]
    rfl
  exact map_changeAll hclear f.view f.filters

/-- A page that was used and is cleared in the year it was made in keeps the order of its results,
its open panels and all choices on offer. But for the content types among them it is a new page:
whatever is done from then on, the two show the same and ask for the same. -/
theorem clearAll_resets (year : Int) (view : View) (before : List (Int × Edit))
    (used : ∀ step ∈ before, step.2.IsUse) :
    let f := (make year view).run before
    (∀ after, Alike ((f.clearAll year).run after) ((make year (f.view.renewed year)).run after)) ∧
      (f.clearAll year).view = f.view.renewed year ∧
      (f.clearAll year).filters.map (fun x => (x.label, x.choices)) =
        f.filters.map fun x => (x.label, x.choices) := by
  intro f
  have hbare := bare_clearAll_run used year view
  exact ⟨fun after => alike_of_bare (bare_run after hbare), (alike_of_bare hbare).view,
    choices_clearAll f year⟩

/-- Neither the years nor the content types come back when their filters are switched on again. -/
theorem clearAll_resets_narrowed :
    let before : List (Int × Edit) := [(2026, .setTerm "soil"), (2026, .offerContentTypes ["csv"]),
      (2026, .selectContentTypes ["csv"]), (2026, .filter "py" (.setValue (.range ⟨1990, 2000⟩))),
      (2026, .filter "py" .enable), (2026, .view (.togglePanel 3))]
    let after : List (Int × Edit) := [(2026, .filter "py" .enable), (2026, .filter "ct" .enable)]
    let f := (make 2026 (.initial 2026)).run before
    (∀ step ∈ before, step.2.IsUse) ∧ f.activeCount = 2 ∧
      Alike ((f.clearAll 2026).run after) ((make 2026 (f.view.renewed 2026)).run after) ∧
      ((f.clearAll 2026).run after).params.items =
        [("contentType", .list []), ("publicationYearStart", .int 1900),
          ("publicationYearEnd", .int 2026)] ∧
      ((f.clearAll 2026).run after).view.openPanels = [3] := by
  intro before after f
  have used : ∀ step ∈ before, step.2.IsUse := by
    simp [before, Edit.IsUse, Filter.Edit.IsUse]
  exact ⟨used, by decide, (clearAll_resets 2026 _ before used).1 after, by decide +kernel,
    by decide⟩

end Facets
end DatasetSearch.Search
