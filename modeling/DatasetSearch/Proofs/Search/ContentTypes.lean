import DatasetSearch.Proofs.Search.Standard

/-! The chosen content types of a search page.

What a change of the first filter with a label makes of that filter and of the results page is said
once (`filter?_mapFirst`, `view_mapFirst`). So on a page with the standard filters the content types
that are chosen are those that are then selected, and offering others leaves them. -/
namespace DatasetSearch.Search.Facets
open DatasetSearch.Filter (Frame)

/-! ### Changing the first filter with a label -/

section
variable {g : View → Filter YearRange → Filter YearRange × View} {label : String}

theorem changeFirst_eq (h : ∀ v x, (g v x).1.label = x.label) (v : View)
    (xs : List (Filter YearRange)) :
    (changeFirst label g v xs).1.find? (·.label == label) =
        (xs.find? (·.label == label)).map (fun x => (g v x).1) ∧
      (changeFirst label g v xs).2 =
        ((xs.find? (·.label == label)).map fun x => (g v x).2).getD v := by
  induction xs with
  | nil => exact ⟨rfl, rfl⟩
  | cons x rest ih =>
    rw [changeFirst]
    by_cases hx : (x.label == label) = true
    · simp [hx, h]
    · simpa [hx] using ih

theorem find?_changeFirst_of_ne (h : ∀ v x, (g v x).1.label = x.label) {other : String}
    (hne : other ≠ label) (v : View) (xs : List (Filter YearRange)) :
    (changeFirst label g v xs).1.find? (·.label == other) = xs.find? (·.label == other) := by
  induction xs with
  | nil => rfl
  | cons x rest ih =>
    rw [changeFirst]
    by_cases hx : (x.label == label) = true
    · have hother : (x.label == other) = false := by
        rw [beq_iff_eq] at hx
        simpa [hx] using hne.symm
      simp [hx, h, hother]
    · simp [hx, ih, List.find?_cons]

variable (f : Facets)

theorem filter?_mapFirst_of_ne (h : ∀ v x, (g v x).1.label = x.label) {other : String}
    (hne : other ≠ label) : (f.mapFirst label g).filter? other = f.filter? other :=
  find?_changeFirst_of_ne h hne f.view f.filters

theorem filter?_mapFirst (h : ∀ v x, (g v x).1.label = x.label) :
    (f.mapFirst label g).filter? label = (f.filter? label).map fun x => (g f.view x).1 :=
  (changeFirst_eq h f.view f.filters).1

theorem view_mapFirst (h : ∀ v x, (g v x).1.label = x.label) :
    (f.mapFirst label g).view = ((f.filter? label).map fun x => (g f.view x).2).getD f.view :=
  (changeFirst_eq h f.view f.filters).2

end

/-! ### Content types -/

variable {f : Facets} {x : Filter YearRange}

theorem selectedContentTypes_eq (h : f.filter? contentTypeLabel = some x) :
    f.selectedContentTypes = x.selected rangeCells f.view := by
  rw [selectedContentTypes, h]

theorem contentTypes_mem_frames :
    ⟨"contentType", contentTypeLabel, .selectMultiple, none⟩ ∈ frames := by decide

/-- The filter of the content types holds its items itself. -/
theorem IsStandard.contentTypes (hf : f.IsStandard) :
    ∃ x, f.filter? contentTypeLabel = some x ∧ x.kind = .selectMultiple ∧ x.storage.cell? = none := by
  obtain ⟨x, hx, hframe⟩ := hf.exists_filter contentTypes_mem_frames
  exact ⟨x, hx, congrArg Frame.kind hframe, congrArg Frame.cell? hframe⟩

/-- What choosing content types makes of their filter. -/
def choose (types : List String) (v : View) (x : Filter YearRange) : Filter YearRange × View :=
  (if types.isEmpty then x else x.enable).setValue rangeCells (.multiple types) v

theorem frame_choose (types : List String) (v : View) (x : Filter YearRange) :
    (choose types v x).1.frame = x.frame := by
  rw [choose, Filter.frame_setValue]
  split <;> rfl

theorem choose_keeps (hkind : x.kind = .selectMultiple) (hcell : x.storage.cell? = none)
    (types : List String) (v : View) :
    (choose types v x).1.selected rangeCells v = types ∧ (choose types v x).2 = v := by
  have hset : ∀ y : Filter YearRange, y.kind = .selectMultiple → y.storage.cell? = none →
      (y.setValue rangeCells (.multiple types) v).1.selected rangeCells v = types ∧
        (y.setValue rangeCells (.multiple types) v).2 = v := by
    intro y hkind hcell
    cases hst : y.storage with
    | cell r clears => rw [hst] at hcell; cases hcell
    | _ => simp [Filter.setValue, Filter.store, Filter.selected, Filter.value, hst, hkind,
        FilterValue.shapedAs]
  rw [choose]
  split
  · exact hset x hkind hcell
  · exact hset x.enable hkind hcell

/-- The content types that are chosen are those selected then. -/
theorem IsStandard.select (hf : f.IsStandard) (types : List String) :
    (f.selectContentTypes types).selectedContentTypes = types ∧
      (f.selectContentTypes types).view = f.view := by
  obtain ⟨x, hx, hkind, hcell⟩ := hf.contentTypes
  have hlabel : ∀ v x, (choose types v x).1.label = x.label := fun v x =>
    congrArg Frame.label (frame_choose types v x)
  obtain ⟨hselected, hview⟩ := choose_keeps hkind hcell types f.view
  have hfilter : (f.selectContentTypes types).filter? contentTypeLabel =
      some (choose types f.view x).1 := by
    refine (filter?_mapFirst f hlabel).trans ?_
    rw [hx, Option.map_some]
  have hsame : (f.selectContentTypes types).view = f.view := by
    refine (view_mapFirst f hlabel).trans ?_
    rw [hx, Option.map_some, hview, Option.getD_some]
  rw [selectedContentTypes_eq hfilter, hsame]
  exact ⟨hselected, rfl⟩

/-- Offering content types leaves those that are chosen. -/
theorem offer_keeps (f : Facets) (types : List String) :
    (f.offerContentTypes types).selectedContentTypes = f.selectedContentTypes ∧
      (f.offerContentTypes types).view = f.view := by
  have hview : (f.offerContentTypes types).view = f.view := by
    refine (view_mapFirst f fun _ _ => rfl).trans ?_
    cases f.filter? contentTypeLabel <;> rfl
  have hfilter : (f.offerContentTypes types).filter? contentTypeLabel =
      (f.filter? contentTypeLabel).map
        (·.withChoices (types.map fun t => { value := t, label := t })) :=
    filter?_mapFirst f fun _ _ => rfl
  refine ⟨?_, hview⟩
  rw [selectedContentTypes, selectedContentTypes, hfilter, hview]
  cases f.filter? contentTypeLabel <;> rfl

end DatasetSearch.Search.Facets
