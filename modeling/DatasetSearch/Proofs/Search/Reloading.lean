import DatasetSearch.Proofs.Filter.Cleared
import DatasetSearch.Proofs.Search.Loading

/-! Loading one route after another.

A filter takes nothing from a route but the value of its own key, and what it takes does not hang on
what it had; the term alone is lost when a route has none. So loading two routes in turn is loading
once the route that has, for each key, what the later of the two has, and else what the earlier has,
but for the term (`load_load`). Filters whose keys are missing, what is on offer, the order, the
panels and the ranges of other filters stay (`loading_composes`). -/
namespace DatasetSearch.Search

theorem View.eq_of_ranges {v w : View} (hkey : v.sortKey = w.sortKey)
    (hdirection : v.direction = w.direction) (hpanels : v.openPanels = w.openPanels)
    (h : ∀ r, v.range r = w.range r) : v = w := by
  have hpublication := h .publicationYear
  have hcoverage := h .dataCoverage
  have hcreation := h .creationDate
  cases v
  cases w
  simp only [View.range] at *
  subst_vars
  rfl

namespace Facets
open DatasetSearch.Filter (Frame)
variable {f : Facets} {x : Filter YearRange} {q r₁ r₂ : Route.Query} {v : View}

/-- The route that has what the later of two routes has, and what else the earlier one has but for
the term. -/
def inTurn (earlier later : Route.Query) : Route.Query := (earlier.erase termKey).overlay later

theorem get?_inTurn (key : String) : (inTurn r₁ r₂).get? key =
    (r₂.get? key).or (if key = termKey then none else r₁.get? key) := by
  rw [inTurn, Sorted.get?_overlay, Sorted.get?_erase]

theorem inTurn_self (r : Route.Query) : inTurn r r = r := by
  refine Sorted.eq_of_get? fun key => ?_
  rw [get?_inTurn]
  split <;> simp

/-! ### One filter -/

/-- What loading makes of a filter. -/
def loaded (q : Route.Query) (x : Filter YearRange) : Filter YearRange :=
  match q.get? x.label with
  | none => x
  | some val => { x with enabled := true, storage := x.storage.put (x.valueOfRoute val) }

theorem loaded_of_none (h : q.get? x.label = none) : loaded q x = x := by
  rw [loaded, h]

theorem loaded_of_some {val : Route.Value} (h : q.get? x.label = some val) :
    loaded q x = { x with enabled := true, storage := x.storage.put (x.valueOfRoute val) } := by
  rw [loaded, h]

theorem fst_load : (x.load rangeCells q v).1 = loaded q x := by
  cases hq : q.get? x.label with
  | none => rw [Filter.load_of_none hq, loaded_of_none hq]
  | some val =>
    rw [Filter.load_of_some hq, Filter.store_eq, loaded_of_some hq]
    rfl

theorem frame_loaded : (loaded q x).frame = x.frame := by
  rw [← fst_load (v := .initial 0)]
  exact Filter.frame_load rangeCells _ x q

theorem bounds_loaded : (loaded q x).bounds = x.bounds := by
  rw [loaded]
  split <;> rfl

theorem choices_loaded : (loaded q x).choices = x.choices := by
  rw [loaded]
  split <;> rfl

theorem valueOfRoute_congr {y : Filter YearRange} (hkind : y.kind = x.kind)
    (hbounds : y.bounds = x.bounds) : y.valueOfRoute = x.valueOfRoute := by
  funext val
  rw [Filter.valueOfRoute, Filter.valueOfRoute, hkind, hbounds]

theorem valueOfRoute_loaded : (loaded q x).valueOfRoute = x.valueOfRoute :=
  valueOfRoute_congr (congrArg Frame.kind frame_loaded) bounds_loaded

/-- What the later route has for a filter, it takes from there, whatever it has taken before. -/
theorem loaded_loaded (h : x.label ≠ termKey) :
    loaded r₂ (loaded r₁ x) = loaded (inTurn r₁ r₂) x := by
  have hlabel : (loaded r₁ x).label = x.label := congrArg Frame.label frame_loaded
  have hturn : (inTurn r₁ r₂).get? x.label = (r₂.get? x.label).or (r₁.get? x.label) := by
    rw [get?_inTurn, if_neg h]
  cases h₂ : r₂.get? x.label with
  | none =>
    rw [h₂, Option.none_or] at hturn
    rw [loaded_of_none (hlabel ▸ h₂), loaded, loaded, hturn]
  | some val =>
    rw [h₂, Option.some_or] at hturn
    rw [loaded_of_some (hlabel ▸ h₂), valueOfRoute_loaded, loaded_of_some hturn]
    cases h₁ : r₁.get? x.label with
    | none => rw [loaded_of_none h₁]
    | some old =>
      rw [loaded_of_some h₁]
      simp only [Storage.put_put]

theorem rangeIn?_loaded : rangeIn? q (loaded r₁ x) = rangeIn? q x := by
  have hlabel : (loaded r₁ x).label = x.label := congrArg Frame.label frame_loaded
  rw [rangeIn?, rangeIn?, hlabel, valueOfRoute_loaded]

theorem rangeIn?_of_none (h : q.get? x.label = none) : rangeIn? q x = none := by
  rw [rangeIn?, h, Option.bind_none]

theorem rangeIn?_inTurn (h : x.label ≠ termKey) :
    rangeIn? (inTurn r₁ r₂) x = (rangeIn? r₂ x).or (rangeIn? r₁ x) := by
  rw [rangeIn?, rangeIn?, rangeIn?, get?_inTurn, if_neg h]
  cases hk : x.kind <;> cases r₁.get? x.label <;> cases r₂.get? x.label <;>
    simp [Filter.valueOfRoute, hk]

/-! ### The page -/

theorem filters_load (f : Facets) (q : Route.Query) :
    (f.load q).filters = f.filters.map (loaded q) :=
  changeAll_eq_map (g := fun v x => x.load rangeCells q v) (fun _ _ => fst_load) f.view f.filters

/-- The filter, if any, whose values live in a cell of the results page. -/
def owner? (f : Facets) (r : YearRange) : Option (Filter YearRange) :=
  f.filters.find? (·.storage.cell? == some r)

theorem owner?_load (f : Facets) (q : Route.Query) (r : YearRange) :
    (f.load q).owner? r = (f.owner? r).map (loaded q) := by
  have hcell : (fun x => (loaded q x).storage.cell? == some r) =
      fun x : Filter YearRange => x.storage.cell? == some r :=
    funext fun x => congrArg (· == some r) (congrArg Frame.cell? frame_loaded)
  rw [owner?, owner?, filters_load, List.find?_map]
  exact congrArg (fun p => (f.filters.find? p).map (loaded q)) hcell

theorem range_loadAll_eq {xs : List (Filter YearRange)}
    (hcells : (xs.filterMap (·.storage.cell?)).Nodup) (r : YearRange) :
    (loadAll q v xs).2.range r =
      ((xs.find? (·.storage.cell? == some r)).bind (rangeIn? q)).getD (v.range r) := by
  induction xs generalizing v with
  | nil => rfl
  | cons x rest ih =>
    have hrest := ((List.sublist_cons_self x rest).filterMap (·.storage.cell?)).nodup hcells
    rw [loadAll_cons]
    by_cases hx : x.storage.cell? = some r
    · -- no other filter has the cell
      rw [List.find?_cons_of_pos (by simpa using hx), Option.bind_some]
      exact (range_loadAll (cell_ne_of_nodup hcells hx)).trans ((range_load r).trans (if_pos hx))
    · rw [List.find?_cons_of_neg (by simpa using hx)]
      refine (ih hrest).trans ?_
      rw [range_load_of_ne hx]

/-- A range of the results page is the one that the filter above it reads, if it reads any. -/
theorem IsStandard.range_load (hf : f.IsStandard) (q : Route.Query) (r : YearRange) :
    (f.load q).view.range r = ((f.owner? r).bind (rangeIn? q)).getD (f.view.range r) :=
  range_loadAll_eq hf.nodup_cells r

theorem IsStandard.label_ne (hf : f.IsStandard) (hx : x ∈ f.filters) : x.label ≠ termKey := by
  intro heq
  have hmem : x.label ∈ frames.map Frame.label := hf.labels ▸ List.mem_map_of_mem hx
  exact (List.nodup_cons.mp nodup_labels).1 (heq ▸ hmem)

theorem term_load (f : Facets) (q : Route.Query) :
    (f.load q).term = ((q.get? termKey).bind Route.Value.first?).getD "" := rfl

/-- Loading two routes in turn is loading once what the two have together. -/
theorem IsStandard.load_load (hf : f.IsStandard) (r₁ r₂ : Route.Query) :
    (f.load r₁).load r₂ = f.load (inTurn r₁ r₂) := by
  have hterm : ((f.load r₁).load r₂).term = (f.load (inTurn r₁ r₂)).term := by
    rw [term_load, term_load, get?_inTurn, if_pos rfl, Option.or_none]
  have hfilters : ((f.load r₁).load r₂).filters = (f.load (inTurn r₁ r₂)).filters := by
    rw [filters_load, filters_load, filters_load, List.map_map]
    exact List.map_congr_left fun x hx => loaded_loaded (hf.label_ne hx)
  have hview : ((f.load r₁).load r₂).view = (f.load (inTurn r₁ r₂)).view := by
    apply View.eq_of_ranges
    · rw [sortKey_load, sortKey_load, sortKey_load]
    · rw [direction_load, direction_load, direction_load]
    · rw [openPanels_load, openPanels_load, openPanels_load]
    · intro r
      rw [(hf.load r₁).range_load, hf.range_load, hf.range_load, owner?_load]
      cases ho : f.owner? r with
      | none => rfl
      | some x =>
        have hx : x ∈ f.filters := List.mem_of_find?_eq_some ho
        rw [Option.map_some, Option.bind_some, Option.bind_some, Option.bind_some, rangeIn?_loaded,
          rangeIn?_inTurn (hf.label_ne hx)]
        cases rangeIn? r₂ x <;> rfl
  have heta (g : Facets) : g = ⟨g.term, g.filters, g.view⟩ := rfl
  rw [heta ((f.load r₁).load r₂), hterm, hfilters, hview]

/-! ### What is taken and what stays -/

/-- A text of a route that is a bound of a range: a finite number. -/
def IsBound (s : Option String) : Prop :=
  ∃ d, s.bind FilterValue.numberIn? = some d ∧ d.isFinite = true

theorem boundIn_of_not {s : Option String} (h : ¬IsBound s) (initial : Int) :
    Filter.boundIn initial s = initial := by
  rw [Filter.boundIn]
  cases hs : s.bind FilterValue.numberIn? with
  | none => rfl
  | some d => exact if_neg fun hd => h ⟨d, hs, hd⟩

/-- What loading a route `q` makes of a page `f` with the filters of a year: the page `g`. -/
structure Takes (year : Int) (q : Route.Query) (f g : Facets) : Prop where
  term : g.term = ((q.get? termKey).bind Route.Value.first?).getD ""
  /-- A filter whose key is missing is left as it is. -/
  kept : ∀ x ∈ f.filters, q.get? x.label = none →
    g.filter? x.label = some x ∧ g.valueOf x = f.valueOf x
  /-- Any other is on, with the value that it would read on a new page. -/
  read : ∀ x ∈ standard year, ∀ val, q.get? x.label = some val →
    ∃ y, g.filter? x.label = some y ∧ y.enabled = true ∧ g.valueOf y = x.valueOfRoute val
  /-- A bound that is missing or cannot be read is the initial one. -/
  initial : ∀ x ∈ standard year, x.kind = .range → ∀ val, q.get? x.label = some val →
    ∃ y b, g.filter? x.label = some y ∧ g.valueOf y = .range b ∧
      (¬IsBound val.toList[0]? → b.low = firstYear) ∧ (¬IsBound val.toList[1]? → b.high = year)
  choices : g.filters.map (fun x => (x.label, x.choices)) =
    f.filters.map fun x => (x.label, x.choices)
  sortKey : g.view.sortKey = f.view.sortKey
  direction : g.view.direction = f.view.direction
  openPanels : g.view.openPanels = f.view.openPanels
  /-- A range stays unless the route has the key of a filter that keeps its values there. -/
  ranges : ∀ r, (∀ x ∈ f.filters, x.storage.cell? = some r → q.get? x.label = none) →
    g.view.range r = f.view.range r

theorem bounds_of_mem_standard {year : Int} (hx : x ∈ standard year) : x.bounds = allYears year := by
  have hall : ∀ x ∈ standard year, x.bounds = allYears year := by
    simp [standard, Filter.make, Filter.withChoices, Filter.storedIn]
  exact hall x hx

theorem frame_mem_of_mem_standard {year : Int} (hx : x ∈ standard year) : x.frame ∈ frames := by
  have hframes : (standard year).map Filter.frame = frames := isStandard_make year (.initial year)
  exact hframes ▸ List.mem_map_of_mem hx

variable {year : Int} {view : View}

/-- No edit changes the bounds of the filters. -/
theorem bounds_of_reached (hf : Reached year view f) (hx : x ∈ f.filters) :
    x.bounds = allYears year := by
  have hedit : ∀ reset v x e, Filter.Edit.KeepsKind e →
      (Filter.edit rangeCells reset e v x).1.bounds = x.bounds := by
    intro reset v x e keeps
    have huse (h : e.IsUse) := congrArg Filter.bounds (Filter.unset_edit rangeCells reset v x h)
    cases e with
    | setChoices choices => rfl
    | setKind kind => exact keeps.elim
    | _ => exact huse trivial
  have hmap := map_filters_of_reached hedit hf
  obtain ⟨x₀, hx₀, heq⟩ := List.mem_map.mp (hmap ▸ List.mem_map_of_mem (f := Filter.bounds) hx)
  exact heq ▸ bounds_of_mem_standard hx₀

theorem Reached.load (hf : Reached year view f) (q : Route.Query) : Reached year view (f.load q) :=
  .edit year (.load q) hf trivial rfl

theorem exists_read (hf : Reached year view f) (hx : x ∈ standard year) {val : Route.Value}
    (hval : q.get? x.label = some val) :
    ∃ y, (f.load q).filter? x.label = some y ∧ y.enabled = true ∧
      (f.load q).valueOf y = x.valueOfRoute val := by
  obtain ⟨_, y, -, hy, hframe, hloaded⟩ :=
    (isStandard_of_reached hf).loaded q (frame_mem_of_mem_standard hx)
  obtain ⟨henabled, hvalue⟩ := hloaded.taken val hval
  have hbounds : y.bounds = x.bounds :=
    (bounds_of_reached (hf.load q) (List.mem_of_find?_eq_some hy)).trans
      (bounds_of_mem_standard hx).symm
  have hroute := valueOfRoute_congr (congrArg Frame.kind hframe) hbounds
  exact ⟨y, hy, henabled, hvalue.trans (congrFun hroute val)⟩

theorem takes_load (hf : Reached year view f) (q : Route.Query) : Takes year q f (f.load q) where
  term := term_load f q
  kept x hx hq := by
    have hstandard := isStandard_of_reached hf
    have hmem : x ∈ (f.load q).filters := by
      rw [filters_load, ← loaded_of_none hq]
      exact List.mem_map_of_mem hx
    have hfound := (hstandard.load q).filter?_of_mem hmem
    have hframe : x.frame ∈ frames := hstandard ▸ List.mem_map_of_mem hx
    obtain ⟨x', y, hx', hy, -, hloaded⟩ := hstandard.loaded q hframe
    cases (hstandard.filter?_of_mem hx).symm.trans hx'
    cases hfound.symm.trans hy
    exact ⟨hfound, (hloaded.kept hq).2⟩
  read x hx val hval := exists_read hf hx hval
  initial x hx hkind val hval := by
    obtain ⟨y, hy, -, hvalue⟩ := exists_read hf hx hval
    rw [Filter.valueOfRoute, hkind, bounds_of_mem_standard hx] at hvalue
    exact ⟨y, _, hy, hvalue, fun h => boundIn_of_not h _, fun h => boundIn_of_not h _⟩
  choices := by
    rw [filters_load, List.map_map]
    refine List.map_congr_left fun x _ => ?_
    exact Prod.ext (congrArg Frame.label frame_loaded) choices_loaded
  sortKey := sortKey_load f q
  direction := direction_load f q
  openPanels := openPanels_load f q
  ranges r h := by
    rw [(isStandard_of_reached hf).range_load]
    cases ho : f.owner? r with
    | none => rfl
    | some x =>
      have hcell : x.storage.cell? = some r := beq_iff_eq.mp (List.find?_some ho :)
      rw [Option.bind_some, rangeIn?_of_none (h x (List.mem_of_find?_eq_some ho) hcell)]
      rfl

/-- Loading routes composes key by key. Whatever was done to a page, loading two routes in turn is
loading once the route that has what the later one has for each of its keys, and what the earlier
one has for every other key but the term's. So loading a route again changes nothing. Loading leaves
filters whose keys are missing, what is on offer, the order, the panels and the ranges of other
filters, and what it takes does not hang on what was there. -/
theorem loading_composes (hf : Reached year view f) (r₁ r₂ : Route.Query) :
    (∀ key, (inTurn r₁ r₂).get? key =
      (r₂.get? key).or (if key = termKey then none else r₁.get? key)) ∧
    (f.load r₁).load r₂ = f.load (inTurn r₁ r₂) ∧
    (f.load r₁).load r₁ = f.load r₁ ∧
    Takes year r₁ f (f.load r₁) := by
  have hcompose := (isStandard_of_reached hf).load_load
  refine ⟨get?_inTurn, hcompose r₁ r₂, ?_, takes_load hf r₁⟩
  rw [hcompose r₁ r₁, inTurn_self]

/-- The second route has no term and one bound that cannot be read. -/
theorem loading_composes_narrowed :
    let f := (make 2025 (.initial 2025)).load (Route.ofPairs [("an", "Tarboton"), ("py", "1950")])
    let r₁ := Route.ofPairs [("q", "rain"), ("cd", "2001"), ("cd", "2002"), ("py", "1990")]
    let r₂ := Route.ofPairs [("py", "x"), ("ct", "CSV Data")]
    let g := (f.load r₁).load r₂
    Reached 2025 (.initial 2025) f ∧ g = f.load (inTurn r₁ r₂) ∧ g.term = "" ∧
      g.view.creationDate = ⟨2001, 2002⟩ ∧ g.view.publicationYear = ⟨1900, 2025⟩ ∧
      g.activeCount = 4 ∧ Takes 2025 r₁ f (f.load r₁) := by
  intro f r₁ r₂ g
  have hf : Reached 2025 (.initial 2025) f := .edit 2025 (.load _) .make trivial rfl
  obtain ⟨-, hturn, -, htakes⟩ := loading_composes hf r₁ r₂
  exact ⟨hf, hturn, by decide +kernel, by decide +kernel, by decide +kernel, by decide +kernel,
    htakes⟩

end Facets
end DatasetSearch.Search
