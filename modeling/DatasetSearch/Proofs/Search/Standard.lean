import DatasetSearch.Proofs.Filter.Frame
import DatasetSearch.Proofs.Route.RoundTrip
import DatasetSearch.Search.Facets

/-! Pages with the standard filters.

Whatever is done to a search page, short of making other filters of its filters, it keeps the
standard ones in their order (`frames_of_reached`), so its parameters and the keys of its route
never clash. -/
namespace DatasetSearch.Search.Facets
open DatasetSearch.Filter (Frame)

/-- An edit that does not make another kind of filter of a filter. -/
def Edit.KeepsKinds : Edit → Prop
  | .filter _ e => e.KeepsKind
  | _ => True

/-- The pages that edits lead to from a new page above a results page, each edit in a year of its
own. -/
inductive Reached (year : Int) (view : View) : Facets → Prop where
  | make : Reached year view (.make year view)
  | edit {f f' : Facets} (now : Int) (e : Edit) (before : Reached year view f)
      (keeps : e.KeepsKinds) (done : f.edit now e = .ok f') : Reached year view f'

/-- The frames of the standard filters, which are the same in every year. -/
def frames : List (Frame YearRange) := (standard 0).map Filter.frame

/-- A page whose filters are the standard ones. -/
def IsStandard (f : Facets) : Prop := f.filters.map Filter.frame = frames

theorem isStandard_make (year : Int) (view : View) : (make year view).IsStandard := rfl

theorem enabled_of_mem_standard {year : Int} {x : Filter YearRange} (hx : x ∈ standard year) :
    x.enabled = false := by
  have hall : ∀ x ∈ standard year, x.enabled = false := by
    simp [standard, Filter.make, Filter.withChoices, Filter.storedIn]
  exact hall x hx

/-! ### Changes of one filter or of all -/

section Change
variable {g : View → Filter YearRange → Filter YearRange × View}

/-- What a change keeps of every filter, it keeps of all of them. -/
theorem map_changeAll {β : Type} {φ : Filter YearRange → β} (h : ∀ v x, φ (g v x).1 = φ x) (v : View)
    (xs : List (Filter YearRange)) : (changeAll g v xs).1.map φ = xs.map φ := by
  induction xs generalizing v with
  | nil => rfl
  | cons x rest ih => simp only [changeAll, List.map_cons, h, ih]

/-- A change that does not look at the results page makes the same of a filter wherever it stands. -/
theorem changeAll_eq_map {h : Filter YearRange → Filter YearRange} (hg : ∀ v x, (g v x).1 = h x)
    (v : View) (xs : List (Filter YearRange)) : (changeAll g v xs).1 = xs.map h := by
  induction xs generalizing v with
  | nil => rfl
  | cons x rest ih => simp only [changeAll, List.map_cons, hg, ih]

theorem map_changeFirst {β : Type} {φ : Filter YearRange → β} {label : String}
    (h : ∀ v x, x.label = label → φ (g v x).1 = φ x) (v : View) (xs : List (Filter YearRange)) :
    (changeFirst label g v xs).1.map φ = xs.map φ := by
  induction xs generalizing v with
  | nil => rfl
  | cons x rest ih =>
    simp only [changeFirst]
    split
    · next hx => simp only [List.map_cons, h v x (beq_iff_eq.mp hx)]
    · simp only [List.map_cons, ih]

theorem IsStandard.mapAll {f : Facets} (hf : f.IsStandard) (h : ∀ v x, (g v x).1.frame = x.frame) :
    (f.mapAll g).IsStandard :=
  (map_changeAll h f.view f.filters).trans hf

theorem IsStandard.mapFirst {f : Facets} (hf : f.IsStandard)
    (h : ∀ v x, (g v x).1.frame = x.frame) (label : String) : (f.mapFirst label g).IsStandard :=
  (map_changeFirst (fun v x _ => h v x) f.view f.filters).trans hf

end Change

theorem IsStandard.load {f : Facets} (hf : f.IsStandard) (q : Route.Query) : (f.load q).IsStandard :=
  IsStandard.mapAll hf fun v x => Filter.frame_load rangeCells v x q

theorem IsStandard.selectContentTypes {f : Facets} (hf : f.IsStandard) (types : List String) :
    (f.selectContentTypes types).IsStandard := by
  refine hf.mapFirst (fun v x => ?_) contentTypeLabel
  rw [Filter.frame_setValue]
  split <;> rfl

/-! ### Edits keep the frames -/

section Edit
variable {β : Type} {φ : Filter YearRange → β}

/-- What the edits of a filter keep of it, an edit of the page keeps of all filters. -/
theorem map_filters_edit
    (h : ∀ reset v x e, e.KeepsKind → φ (Filter.edit rangeCells reset e v x).1 = φ x)
    {f f' : Facets} {now : Int} {e : Edit} (keeps : e.KeepsKinds) (done : f.edit now e = .ok f') :
    f'.filters.map φ = f.filters.map φ := by
  cases e with
  | setTerm term => cases done; rfl
  | load q =>
    cases done
    exact map_changeAll (fun v x => h (resetRange now) v x (.load q) trivial) f.view f.filters
  | offerContentTypes types =>
    cases done
    exact map_changeFirst (fun v x _ => h (resetRange now) v x (.setChoices _) trivial) f.view f.filters
  | selectContentTypes types =>
    cases done
    refine map_changeFirst (fun v x _ => ?_) f.view f.filters
    refine (h (resetRange now) v _ (.setValue (.multiple types)) trivial).trans ?_
    split
    · rfl
    · exact h (resetRange now) v x .enable trivial
  | clearAll =>
    cases done
    exact map_changeAll (fun v x => h (resetRange now) v x .clear trivial) f.view f.filters
  | filter label e =>
    simp only [Facets.edit] at done
    split at done
    · cases done
      exact map_changeFirst (fun v x _ => h (resetRange now) v x e keeps) f.view f.filters
    · cases done
  | view e => cases done; rfl

theorem map_filters_of_reached
    (h : ∀ reset v x e, e.KeepsKind → φ (Filter.edit rangeCells reset e v x).1 = φ x)
    {year : Int} {view : View} {f : Facets} (hf : Reached year view f) :
    f.filters.map φ = (standard year).map φ := by
  induction hf with
  | make => rfl
  | edit now e _ keeps done ih => exact (map_filters_edit h keeps done).trans ih

end Edit

/-- One edit keeps the standard filters. -/
theorem IsStandard.edit {f f' : Facets} (hf : f.IsStandard) {now : Int} {e : Edit}
    (keeps : e.KeepsKinds) (done : f.edit now e = .ok f') : f'.IsStandard :=
  (map_filters_edit (fun reset v x _ keeps => Filter.frame_edit rangeCells reset v x keeps)
    keeps done).trans hf

theorem isStandard_of_reached {year : Int} {view : View} {f : Facets} (h : Reached year view f) :
    f.IsStandard := by
  induction h with
  | make => exact isStandard_make year view
  | edit now e _ keeps done ih => exact ih.edit keeps done

/-! ### Names that do not clash -/

/-- The names of the parameters that a request may have of its own. -/
def coreNames : List String :=
  ["term", "sortBy", "order", "pageSize", "pageNumber", "paginationToken"]

/-- A standard filter has a range just when its value lives in the results page. -/
def Sound (fr : Frame YearRange) : Prop :=
  (fr.kind = .range ∧ fr.cell?.isSome) ∨
    ((fr.kind = .text ∨ fr.kind = .selectMultiple) ∧ fr.cell? = none)

instance (fr : Frame YearRange) : Decidable (Sound fr) := inferInstanceAs (Decidable (_ ∨ _))

theorem sound_of_mem_frames {fr : Frame YearRange} (h : fr ∈ frames) : Sound fr := by
  have all : ∀ fr ∈ frames, Sound fr := by decide
  exact all fr h

theorem nodup_names : (coreNames ++ frames.flatMap Frame.params).Nodup := by decide

theorem nodup_labels : (termKey :: frames.map Frame.label).Nodup := by decide

theorem nodup_cells : (frames.filterMap Frame.cell?).Nodup := by decide

variable {f : Facets}

theorem IsStandard.sound (h : f.IsStandard) {x : Filter YearRange} (hx : x ∈ f.filters) :
    Sound x.frame :=
  sound_of_mem_frames (h ▸ List.mem_map_of_mem hx)

theorem keys_core (r : Request) : (r.core.map Prod.fst).Sublist coreNames := by
  rw [Request.core]
  split
  · exact .cons_cons _ (.cons_cons _ (.cons _ (.refl _)))
  · exact .refl _

theorem keys_params (h : f.IsStandard) :
    ((f.filters.flatMap (·.params rangeCells f.view)).map Prod.fst).Sublist
      (frames.flatMap Frame.params) := by
  rw [← h, List.flatMap_map, List.map_flatMap]
  induction f.filters with
  | nil => exact .refl _
  | cons x rest ih => exact (Filter.keys_params rangeCells f.view x).append ih

/-- All parameters of a request stand in it, those of the request and then those of the filters. -/
theorem items_params (h : f.IsStandard) {r : Request} (hr : r.filters = f.params) :
    r.params.items = r.core ++ f.filters.flatMap (·.params rangeCells f.view) := by
  have hkeys := ((keys_core r).append (keys_params h)).nodup nodup_names
  rw [← List.map_append] at hkeys
  have hcore := Keyed.items_ofList ((List.sublist_append_left _ _).map Prod.fst |>.nodup hkeys)
  have hfilters : f.params.items = f.filters.flatMap (·.params rangeCells f.view) :=
    Keyed.items_ofList ((List.sublist_append_right _ _).map Prod.fst |>.nodup hkeys)
  rw [← hcore, ← hfilters] at hkeys
  calc r.params.items
      = (Keyed.ofList r.core).items ++ f.params.items := by
        rw [Request.params, hr]
        exact Keyed.items_putAll hkeys
    _ = _ := by rw [hcore, hfilters]

theorem items_params_request (h : f.IsStandard) (pageSize : Nat) :
    (f.request pageSize).params.items =
      (f.request pageSize).core ++ f.filters.flatMap (·.params rangeCells f.view) :=
  items_params h rfl

/-! ### Filters by their labels -/

theorem IsStandard.labels (h : f.IsStandard) :
    f.filters.map Filter.label = frames.map Frame.label := by
  rw [← h, List.map_map]
  rfl

theorem IsStandard.filter?_of_mem (h : f.IsStandard) {x : Filter YearRange} (hx : x ∈ f.filters) :
    f.filter? x.label = some x := by
  refine Keyed.find?_of_mem ?_ hx
  rw [h.labels]
  exact (List.nodup_cons.mp nodup_labels).2

/-- Every standard filter is found by its label. -/
theorem IsStandard.exists_filter (h : f.IsStandard) {fr : Frame YearRange} (hfr : fr ∈ frames) :
    ∃ x, f.filter? fr.label = some x ∧ x.frame = fr := by
  rw [← h] at hfr
  obtain ⟨x, hx, rfl⟩ := List.mem_map.mp hfr
  exact ⟨x, h.filter?_of_mem hx, rfl⟩

/-- Going through the filters is going through the standard labels. -/
theorem IsStandard.flatMap_filters {α : Type} (h : f.IsStandard) (g : Filter YearRange → List α) :
    f.filters.flatMap g = frames.flatMap fun fr => (f.filter? fr.label).elim [] g := by
  rw [← h, List.flatMap_map]
  refine List.flatMap_congr fun x hx => ?_
  have hlabel : f.filter? x.frame.label = some x := h.filter?_of_mem hx
  rw [hlabel, Option.elim_some]

/-! ### Keys of the route -/

theorem get?_update (h : f.IsStandard) {key : String} {v : Option Route.Value}
    (hmem : (key, v) ∈ (termKey, if f.term.isEmpty then none else some (.single f.term)) ::
      f.filters.map fun x => (x.label, x.routeValue rangeCells f.view)) : f.update.get? key = some v := by
  have hkeys : (((termKey, if f.term.isEmpty then none else some (Route.Value.single f.term)) ::
      f.filters.map fun x => (x.label, x.routeValue rangeCells f.view)).map Prod.fst).Nodup := by
    rw [List.map_cons, List.map_map]
    exact h.labels ▸ nodup_labels
  rw [update, Sorted.get?_ofList hkeys, lookup_eq_some_iff_mem hkeys]
  exact hmem

/-- A standard page's key in its route is what the filter says. -/
theorem get?_route (h : f.IsStandard) {x : Filter YearRange} (hx : x ∈ f.filters) :
    f.route.get? x.label = x.routeValue rangeCells f.view := by
  rw [route, Route.get?_apply, get?_update h (List.mem_cons_of_mem _ (List.mem_map_of_mem hx))]
  rfl

theorem get?_route_term (h : f.IsStandard) :
    f.route.get? termKey = if f.term.isEmpty then none else some (.single f.term) := by
  rw [route, Route.get?_apply, get?_update h (List.mem_cons_self ..)]
  rfl

end DatasetSearch.Search.Facets
