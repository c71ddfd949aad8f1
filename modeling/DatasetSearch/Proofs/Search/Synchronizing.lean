import DatasetSearch.Proofs.Search.ContentTypes

/-! Writing pages to one route, one after the other.

A page says of each of its keys what it is to be in a route, also of those that are to go
(`get?_update_eq_none_iff`). So the page that is written last decides about all of them, whatever
was written before, and no page touches another key (`last_page_decides`). A filter that was
switched off or cleared leaves nothing in the route (`absent_after`). -/
namespace DatasetSearch

/-- Whether there is a value, be it an empty one. -/
def FilterValue.IsGiven (v : FilterValue) : Prop := v ≠ .text none ∧ v ≠ .number none

theorem Filter.isSome_routeValueOf (v : FilterValue) :
    (routeValueOf v).isSome = true ↔ v.IsGiven := by
  cases v with
  | range b => simp [routeValueOf, FilterValue.IsGiven]
  | multiple items => simp [routeValueOf, FilterValue.IsGiven]
  | text s => cases s <;> simp [routeValueOf, FilterValue.IsGiven]
  | number x => cases x <;> simp [routeValueOf, FilterValue.IsGiven]

namespace Search.Facets
variable {f g : Facets} {q : Route.Query} {key : String} {year year' : Int} {view view' : View}

/-- The keys of a page in a route. -/
def routeKeys : List String := ["q", "an", "on", "ct", "f", "sj", "a", "cd", "py", "dc"]

theorem IsStandard.routeKeys (h : f.IsStandard) :
    termKey :: f.filters.map Filter.label = routeKeys := by
  rw [h.labels]
  decide

/-! ### What a page says of a key -/

theorem get?_update_eq_none_iff (h : f.IsStandard) :
    f.update.get? key = none ↔ key ∉ routeKeys := by
  rw [← h.routeKeys]
  constructor
  · intro hnone hmem
    rcases List.mem_cons.mp hmem with rfl | hmem
    · rw [get?_update h (List.mem_cons_self ..)] at hnone
      cases hnone
    · obtain ⟨x, hx, rfl⟩ := List.mem_map.mp hmem
      rw [get?_update h (List.mem_cons_of_mem _ (List.mem_map_of_mem hx))] at hnone
      cases hnone
  · intro hout
    have hkeys : ((termKey, if f.term.isEmpty then none else some (Route.Value.single f.term)) ::
        f.filters.map fun x => (x.label, x.routeValue rangeCells f.view)).map Prod.fst =
          termKey :: f.filters.map Filter.label := by
      rw [List.map_cons, List.map_map]
      rfl
    have hnodup : (termKey :: f.filters.map Filter.label).Nodup := h.labels ▸ nodup_labels
    rw [update, Sorted.get?_ofList (hkeys ▸ hnodup)]
    exact lookup_eq_none_of_not_mem (hkeys ▸ hout)

/-- The route of a page over any other route: its keys are as on the page alone. -/
theorem get?_apply_update (h : f.IsStandard) (hkey : key ∈ routeKeys) :
    (Route.apply q f.update).get? key = f.route.get? key := by
  rw [route, Route.get?_apply, Route.get?_apply]
  cases hu : f.update.get? key with
  | none => exact absurd hkey ((get?_update_eq_none_iff h).mp hu)
  | some o => rfl

theorem isSome_route_term (h : f.IsStandard) :
    (f.route.get? termKey).isSome = true ↔ f.term ≠ "" := by
  rw [get?_route_term h]
  by_cases hterm : f.term = "" <;> simp [hterm]

theorem isSome_route_filter (h : f.IsStandard) {x : Filter YearRange} (hx : x ∈ f.filters) :
    (f.route.get? x.label).isSome = true ↔ x.enabled = true ∧ (f.valueOf x).IsGiven := by
  rw [get?_route h hx, Filter.routeValue, ← Filter.isSome_routeValueOf]
  cases henabled : x.enabled with
  | false => simp
  | true => simp [valueOf]

/-- Of its keys a page leaves in the route that of the term, if there is one, and those of the
filters that are on and have a value. -/
theorem mem_keys_apply_update (h : f.IsStandard) (hkey : key ∈ routeKeys) :
    key ∈ (Route.apply q f.update).keys ↔ key = "q" ∧ f.term ≠ "" ∨
      ∃ x ∈ f.filters, x.label = key ∧ x.enabled = true ∧ (f.valueOf x).IsGiven := by
  rw [Sorted.mem_keys_iff, get?_apply_update h hkey]
  rw [← h.routeKeys] at hkey
  have hterm : termKey ∉ f.filters.map Filter.label := by
    rw [h.labels]
    exact (List.nodup_cons.mp nodup_labels).1
  rcases List.mem_cons.mp hkey with rfl | hmem
  · rw [isSome_route_term h]
    constructor
    · exact fun hne => .inl ⟨rfl, hne⟩
    · rintro (⟨-, hne⟩ | ⟨x, hx, hlabel, -⟩)
      · exact hne
      · exact absurd (List.mem_map.mpr ⟨x, hx, hlabel⟩) hterm
  · obtain ⟨x, hx, rfl⟩ := List.mem_map.mp hmem
    rw [isSome_route_filter h hx]
    constructor
    · exact fun hgiven => .inr ⟨x, hx, rfl, hgiven⟩
    · rintro (⟨hq, -⟩ | ⟨y, hy, hlabel, hgiven⟩)
      · exact absurd (List.mem_map.mpr ⟨x, hx, hq⟩) hterm
      · have hxy : some y = some x := by
          rw [← h.filter?_of_mem hx, ← h.filter?_of_mem hy, hlabel]
        cases hxy
        exact hgiven

/-- Switching a filter off or clearing it leaves a filter with its label that is off. -/
theorem exists_off {now : Int} {label : String} {e : Filter.Edit} (he : e = .disable ∨ e = .clear)
    (done : f.edit now (.filter label e) = .ok g) :
    ∃ x ∈ g.filters, x.label = label ∧ x.enabled = false := by
  simp only [Facets.edit] at done
  split at done
  · next hfound =>
    cases done
    obtain ⟨x, hx⟩ := Option.isSome_iff_exists.mp hfound
    have hfilter : Facets.filter? (f.mapFirst label _) label = _ :=
      f.filter?_mapFirst fun v x => Filter.label_edit rangeCells (resetRange now) v x e
    rw [hx, Option.map_some] at hfilter
    refine ⟨_, List.mem_of_find?_eq_some hfilter, beq_iff_eq.mp (List.find?_some hfilter :), ?_⟩
    rcases he with rfl | rfl <;> rfl
  · cases done

/-- A filter that is switched off or cleared leaves nothing in the route. -/
theorem absent_after (h : f.IsStandard) {now : Int} {label : String} {e : Filter.Edit}
    (he : e = .disable ∨ e = .clear) (done : f.edit now (.filter label e) = .ok g) :
    label ∉ (Route.apply q g.update).keys := by
  have keeps : e.KeepsKind := by rcases he with rfl | rfl <;> trivial
  have hg : g.IsStandard := h.edit (e := .filter label e) keeps done
  obtain ⟨x, hx, rfl, hoff⟩ := exists_off he done
  have hkey : x.label ∈ routeKeys := by
    rw [← hg.routeKeys]
    exact List.mem_cons_of_mem _ (List.mem_map_of_mem hx)
  rw [Sorted.mem_keys_iff, get?_apply_update hg hkey, isSome_route_filter hg hx, hoff]
  exact fun hgiven => Bool.false_ne_true hgiven.1

/-! ### One page after the other -/

/-- The page that is written to a route last decides about the keys of both, and writing it again
changes nothing. All other keys stay. Of its own keys those are left that it has something for: the
term's, and those of the filters that are on and have a value. So nothing is left of a filter that
was switched off or cleared since. -/
theorem last_page_decides (hf : Reached year view f) (hg : Reached year' view' g)
    (q : Route.Query) :
    Route.apply (Route.apply q f.update) g.update = Route.apply q g.update ∧
    Route.apply (Route.apply q g.update) g.update = Route.apply q g.update ∧
    (∀ key ∉ routeKeys, (Route.apply q g.update).get? key = q.get? key) ∧
    (∀ key ∈ routeKeys, key ∈ (Route.apply q g.update).keys ↔ key = "q" ∧ g.term ≠ "" ∨
      ∃ x ∈ g.filters, x.label = key ∧ x.enabled = true ∧ (g.valueOf x).IsGiven) ∧
    ∀ now label e g', e = Filter.Edit.disable ∨ e = .clear →
      g.edit now (.filter label e) = .ok g' →
      label ∉ (Route.apply (Route.apply q g.update) g'.update).keys := by
  have hf := isStandard_of_reached hf
  have hg := isStandard_of_reached hg
  refine ⟨?_, ?_, fun key hkey => ?_, fun key hkey => mem_keys_apply_update hg hkey,
    fun now label e g' he done => absent_after hg he done⟩
  · refine Route.apply_apply fun key hkey => ?_
    rw [get?_update_eq_none_iff hg] at hkey
    exact (get?_update_eq_none_iff hf).mpr hkey
  · exact Route.apply_apply fun _ hkey => hkey
  · rw [Route.get?_apply, (get?_update_eq_none_iff hg).mpr hkey]
    rfl

/-- A creator and a year that were in the route are gone with the creator's filter switched off and
the year's cleared, and another key is still there. -/
theorem last_page_decides_narrowed :
    let f := (make 2025 (.initial 2025)).load
      (Route.ofPairs [("q", "rain"), ("an", "Tarboton"), ("py", "1990"), ("py", "2000")])
    let q := Route.ofPairs [("tab", "map"), ("an", "Jane"), ("ct", "CSV Data")]
    ∃ g, Reached 2025 (.initial 2025) f ∧ Reached 2025 (.initial 2025) g ∧
      (Route.apply (Route.apply q f.update) g.update).keys = ["q", "tab"] ∧
      Route.apply (Route.apply q f.update) g.update = Route.apply q g.update := by
  intro f q
  have hf : Reached 2025 (.initial 2025) f := .edit 2025 (.load _) .make trivial rfl
  have hoff : Reached 2025 (.initial 2025) (f.mapFirst "an" fun v x => (x.disable, v)) :=
    .edit 2025 (.filter "an" .disable) hf trivial (by decide +kernel)
  have hg : Reached 2025 (.initial 2025) ((f.mapFirst "an" fun v x => (x.disable, v)).mapFirst "py"
      fun v x => x.clear rangeCells (resetRange 2025) v) :=
    .edit 2025 (.filter "py" .clear) hoff trivial (by decide +kernel)
  exact ⟨_, hf, hg, by decide +kernel, (last_page_decides hf hg q).1⟩

end Search.Facets
end DatasetSearch
