import DatasetSearch.Proofs.Decimal.Exact
import DatasetSearch.Proofs.Search.Loading

/-! A bookmark of the search page asks for what the page asks for.

The page is written to a route, the route to a text, and a new page loads what is read back. Each
piece loses something: a route leaves out filters that are off, its text leaves out empty values,
and a list of one item comes back as a single value. What a filter adds to the query string is not
lost on the way (`sameText_params`). -/
namespace DatasetSearch

namespace Query

/-- Parameters that write the same pairs, wherever they stand. -/
def SameText (ps qs : List (String × Value)) : Prop :=
  ps.filterMap scalarPair? = qs.filterMap scalarPair? ∧ ps.flatMap listPairs = qs.flatMap listPairs

theorem SameText.refl (ps : List (String × Value)) : SameText ps ps := ⟨rfl, rfl⟩

theorem SameText.append {ps qs ps' qs' : List (String × Value)} (h : SameText ps qs)
    (h' : SameText ps' qs') : SameText (ps ++ ps') (qs ++ qs') := by
  simp only [SameText, List.filterMap_append, List.flatMap_append, h.1, h.2, h'.1, h'.2, and_self]

theorem encode_congr {a b : Params} (h : SameText a.items b.items) : encode a = encode b := by
  rw [encode, encode, pairs, pairs, h.1, h.2]

end Query

namespace Search.Facets
open Query (SameText)
open DatasetSearch.Filter (Frame)

/-! ### One filter -/

section Filter
variable {κ σ : Type} {C : Cells κ σ} {s : σ} {x : Filter κ}

theorem params_of_off (h : x.enabled = false) : x.params C s = [] := by
  simp only [Filter.params, h, Bool.false_and, Bool.false_eq_true, if_false]

theorem params_of_on {u : FilterValue} (h : x.enabled = true) (hu : x.value C s = u) :
    x.params C s = if u.isTruthy then x.paramsOf u else [] := by
  simp only [Filter.params, h, hu, Bool.true_and]

theorem routeValue_of_on {u : FilterValue} (h : x.enabled = true) (hu : x.value C s = u) :
    x.routeValue C s = Filter.routeValueOf u := by
  simp only [Filter.routeValue, h, hu, if_true]

theorem paramsOf_congr {y : Filter κ} (h : y.name = x.name) : y.paramsOf = x.paramsOf := by
  funext u
  cases u <;> simp only [Filter.paramsOf, h]

end Filter

/-- What the text of a route gives back for a value of it. -/
def readBack (o : Option Route.Value) : Option Route.Value :=
  o.bind fun val => Route.collected val.shown

variable {x y : Filter YearRange} {v w : View}

/-- A range with exact bounds. -/
def ExactBounds (b : Bounds) : Prop := Exact b.low ∧ Exact b.high

theorem readBack_text (s : String) :
    readBack (some (.single s)) = if s = "" then none else some (.single s) := by
  by_cases hs : s = ""
  · subst hs
    rfl
  · simp [readBack, Route.Value.shown, Route.Value.shownSingle, Route.Value.shownItems,
      Route.collected, hs]

theorem readBack_items (items : List String) :
    (items = [] ∧ readBack (some (.many items)) = none) ∨
      ∃ val, readBack (some (.many items)) = some val ∧ val.toList = items := by
  match items with
  | [] => exact .inl ⟨rfl, rfl⟩
  | [a] => exact .inr ⟨.single a, rfl, rfl⟩
  | a :: b :: rest => exact .inr ⟨.many (a :: b :: rest), rfl, rfl⟩

/-- A filter that is off adds nothing, and neither does one that holds its route value. -/
theorem sameText_of_off (hx : x.enabled = false) (hy : Holds (readBack (x.routeValue rangeCells v)) y w) :
    SameText (y.params rangeCells w) (x.params rangeCells v) := by
  rw [Filter.routeValue, hx] at hy
  rw [params_of_off hx, params_of_off hy]
  exact .refl []

theorem sameText_of_text (hx : x.enabled = true) {t : Option String}
    (hv : x.value rangeCells v = .text t) (hk : y.kind = .text) (hname : y.name = x.name)
    (hy : Holds (readBack (x.routeValue rangeCells v)) y w) :
    SameText (y.params rangeCells w) (x.params rangeCells v) := by
  rw [routeValue_of_on hx hv] at hy
  rw [params_of_on hx hv]
  cases t with
  | none => rw [params_of_off hy]; exact .refl []
  | some s =>
    rw [Filter.routeValueOf, Option.map_some, readBack_text] at hy
    by_cases hs : s = ""
    · rw [if_pos hs] at hy
      rw [params_of_off hy, hs]
      exact .refl []
    · rw [if_neg hs] at hy
      have hread : y.value rangeCells w = .text (some s) := by
        rw [hy.2, Filter.valueOfRoute, hk]
        rfl
      rw [params_of_on hy.1 hread, paramsOf_congr hname]
      exact .refl _

theorem sameText_of_multiple (hx : x.enabled = true) {items : List String}
    (hv : x.value rangeCells v = .multiple items) (hk : y.kind = .selectMultiple)
    (hname : y.name = x.name) (hy : Holds (readBack (x.routeValue rangeCells v)) y w) :
    SameText (y.params rangeCells w) (x.params rangeCells v) := by
  rw [routeValue_of_on hx hv, Filter.routeValueOf] at hy
  rw [params_of_on hx hv]
  rcases readBack_items items with ⟨rfl, hnone⟩ | ⟨val, hval, hitems⟩
  · rw [hnone] at hy
    rw [params_of_off hy]
    exact ⟨rfl, rfl⟩
  · rw [hval] at hy
    have hread : y.value rangeCells w = .multiple items := by
      rw [hy.2, Filter.valueOfRoute, hk, ← hitems]
    rw [params_of_on hy.1 hread, paramsOf_congr hname]
    exact .refl _

theorem sameText_of_range (hx : x.enabled = true) {b : Bounds} (hb : ExactBounds b)
    (hv : x.value rangeCells v = .range b) (hk : y.kind = .range) (hname : y.name = x.name)
    (hy : Holds (readBack (x.routeValue rangeCells v)) y w) :
    SameText (y.params rangeCells w) (x.params rangeCells v) := by
  rw [routeValue_of_on hx hv] at hy
  have hread : y.value rangeCells w = .range b := by
    rw [hy.2, Filter.valueOfRoute, hk]
    exact congrArg FilterValue.range
      (congr (congrArg Bounds.mk (Filter.boundIn_of_exact hb.1 _)) (Filter.boundIn_of_exact hb.2 _))
  rw [params_of_on hx hv, params_of_on hy.1 hread, paramsOf_congr hname]
  exact .refl _

/-- What a filter adds to the query string, another of its frame adds that holds what the first
one's route value was read back as. -/
theorem sameText_params (hs : Sound x.frame) (hframe : y.frame = x.frame)
    (hexact : ∀ r, ExactBounds (v.range r))
    (hy : Holds (readBack (x.routeValue rangeCells v)) y w) :
    SameText (y.params rangeCells w) (x.params rangeCells v) := by
  have hname : y.name = x.name := congrArg Frame.name hframe
  have hkind : y.kind = x.kind := congrArg Frame.kind hframe
  cases hx : x.enabled with
  | false => exact sameText_of_off hx hy
  | true =>
    rcases hs with ⟨hk, hcell⟩ | ⟨hk | hk, _⟩
    · obtain ⟨r, hr⟩ := Option.isSome_iff_exists.mp hcell
      have hv := (value_of_cell (v := v) (.inl ⟨hk, hcell⟩) hr).2
      exact sameText_of_range hx (hexact r) hv (hkind.trans hk) hname hy
    · obtain ⟨t, hv⟩ := Filter.text_of_kind rangeCells v x hk
      exact sameText_of_text hx hv (hkind.trans hk) hname hy
    · obtain ⟨items, hv⟩ := Filter.multiple_of_kind rangeCells v x hk
      exact sameText_of_multiple hx hv (hkind.trans hk) hname hy

/-! ### The whole page -/

theorem sameText_flatMap {xs ys : List (Filter YearRange)}
    (hframes : ys.map Filter.frame = xs.map Filter.frame)
    (h : ∀ x ∈ xs, ∀ y ∈ ys, y.frame = x.frame →
      SameText (y.params rangeCells w) (x.params rangeCells v)) :
    SameText (ys.flatMap (·.params rangeCells w)) (xs.flatMap (·.params rangeCells v)) := by
  induction xs generalizing ys with
  | nil =>
    rw [List.map_nil, List.map_eq_nil_iff] at hframes
    subst hframes
    exact .refl []
  | cons x xs ih =>
    cases ys with
    | nil => cases hframes
    | cons y ys =>
      obtain ⟨hhead, htail⟩ := List.cons.inj hframes
      have hxy := h x (List.mem_cons_self ..) y (List.mem_cons_self ..) hhead
      exact hxy.append (ih htail fun x' hx' y' hy' =>
        h x' (List.mem_cons_of_mem _ hx') y' (List.mem_cons_of_mem _ hy'))

/-- Standard pages with the same term and order whose filters add the same ask for the same. -/
theorem queryString_congr {f g : Facets} (hf : f.IsStandard) (hg : g.IsStandard)
    (hterm : g.term = f.term) (hkey : g.view.sortKey = f.view.sortKey)
    (hdir : g.view.direction = f.view.direction)
    (h : ∀ x ∈ f.filters, ∀ y ∈ g.filters, y.frame = x.frame →
      SameText (y.params rangeCells g.view) (x.params rangeCells f.view)) (pageSize : Nat) :
    (g.request pageSize).queryString = (f.request pageSize).queryString := by
  have hcore : (g.request pageSize).core = (f.request pageSize).core := by
    simp only [Request.core, request, hterm, hkey, hdir]
    rfl
  refine Query.encode_congr ?_
  rw [items_params_request hf, items_params_request hg, hcore]
  exact (SameText.refl _).append (sameText_flatMap (hg.trans hf.symm) h)

/-- What a page's bookmark is read back as. -/
def bookmark (f : Facets) : Route.Query := Route.ofPairs (Route.pairs f.route)

theorem get?_bookmark (f : Facets) (key : String) :
    f.bookmark.get? key = readBack (f.route.get? key) :=
  Route.get?_ofPairs_pairs f.route key

theorem term_load_bookmark {f : Facets} (hf : f.IsStandard) (year : Int) (view : View) :
    ((make year view).load f.bookmark).term = f.term := by
  have hterm : ((make year view).load f.bookmark).term =
      ((f.bookmark.get? termKey).bind Route.Value.first?).getD "" := rfl
  rw [hterm, get?_bookmark, get?_route_term hf]
  by_cases he : f.term = ""
  · rw [he]
    rfl
  · rw [if_neg (by simpa using he), readBack_text, if_neg he]
    rfl

theorem sort_load_make (q : Route.Query) (year : Int) (view : View) :
    ((make year view).load q).view.sortKey = view.sortKey ∧
      ((make year view).load q).view.direction = view.direction :=
  ⟨sortKey_load _ q, direction_load _ q⟩

/-- A bookmark asks for what the page asks for. The text of a page's route can be decoded, and
any new page that loads what was decoded, above a results page that sorts alike, makes the query
string that the page makes, whatever the page size. The bounds of the ranges must be exact as
doubles, because they are read as such. -/
theorem bookmark_asks_the_same {year : Int} {view : View} {f : Facets} (hf : Reached year view f)
    (hexact : ∀ r, ExactBounds (f.view.range r)) (year' : Int) {view' : View}
    (hkey : view'.sortKey = f.view.sortKey) (hdir : view'.direction = f.view.direction) :
    ∃ ps, Query.decode (Route.text f.route) = some ps ∧ ∀ pageSize,
      (((make year' view').load (Route.ofPairs ps)).request pageSize).queryString =
        (f.request pageSize).queryString := by
  have hstandard := isStandard_of_reached hf
  have hsort := sort_load_make f.bookmark year' view'
  refine ⟨Route.pairs f.route, Route.decode_text f.route, fun pageSize => ?_⟩
  refine queryString_congr hstandard ((isStandard_make year' view').load f.bookmark)
    (term_load_bookmark hstandard year' view') (hsort.1.trans hkey) (hsort.2.trans hdir) ?_ pageSize
  intro x hx y hy hframe
  refine sameText_params (hstandard.sound hx) hframe hexact ?_
  have hholds := holds_load_make f.bookmark year' view' y hy
  have hlabel : y.label = x.label := congrArg Frame.label hframe
  rwa [get?_bookmark, hlabel, get?_route hstandard hx] at hholds

/-- A page with a term, a list of one content type and a range of years. -/
def narrowed : Facets :=
  (make 2025 (.initial 2025)).load
    (Route.ofPairs [("q", "rain & snow"), ("ct", "CSV Data"), ("py", "2000"), ("py", "2010")])

theorem bookmark_of_narrowed : ∃ ps, Query.decode (Route.text narrowed.route) = some ps ∧
    ∀ pageSize, (((make 2026 (.initial 2026)).load (Route.ofPairs ps)).request pageSize).queryString =
      (narrowed.request pageSize).queryString := by
  have hreached : Reached 2025 (.initial 2025) narrowed := .edit 2025 (.load _) .make trivial rfl
  refine bookmark_asks_the_same hreached (fun r => ?_) 2026 (by decide +kernel) (by decide +kernel)
  cases r <;> exact ⟨by decide +kernel, by decide +kernel⟩

end Search.Facets
end DatasetSearch
