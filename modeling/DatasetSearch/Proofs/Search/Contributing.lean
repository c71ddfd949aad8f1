import DatasetSearch.Proofs.Search.Carried

/-! Which filters contribute to a request.

A filter contributes to a request when it sets a parameter there. No two standard filters share a
name, so that is a matter of each filter alone (`hasFacet_iff`): it has to be on, and a text must
not be empty. After a route is loaded, a filter whose key the route has contributes by what stands
there and nothing else (`hasFacet_load`). -/
namespace DatasetSearch.Search
open DatasetSearch.Filter (Frame)

/-- A request has a parameter of the filter with a label. -/
def Request.HasFacet (r : Request) (label : String) : Prop :=
  ∃ fr ∈ Facets.frames, fr.label = label ∧ ∃ name ∈ fr.params, name ∈ r.params.keys

instance (r : Request) (label : String) : Decidable (r.HasFacet label) :=
  inferInstanceAs (Decidable (∃ fr ∈ Facets.frames, fr.label = label ∧
    ∃ name ∈ fr.params, name ∈ r.params.keys))

namespace Facets

/-- A filter of a kind takes something from a value of a route that it adds to a request. -/
def Asks (kind : FilterKind) (val : Route.Value) : Prop := kind = .text → val.first?.getD "" ≠ ""

variable {f : Facets} {x : Filter YearRange} {v : View} {fr fr' : Frame YearRange} {label : String}

/-! ### One filter -/

theorem paramsOf_ne_nil {κ : Type} (f : Filter κ) (u : FilterValue) : f.paramsOf u ≠ [] := by
  cases u <;> simp [Filter.paramsOf]

theorem params_ne_nil_iff :
    x.params rangeCells v ≠ [] ↔ x.enabled = true ∧ (x.value rangeCells v).isTruthy = true := by
  rw [Filter.params]
  split
  · next h => simpa [paramsOf_ne_nil] using h
  · next h => simpa using h

/-- A filter that reads its value in a route contributes if there is something for it. -/
theorem params_ne_nil_of_taken (hs : Sound x.frame) (hon : x.enabled = true) {val : Route.Value}
    (hvalue : x.value rangeCells v = x.valueOfRoute val) :
    x.params rangeCells v ≠ [] ↔ Asks x.kind val := by
  rw [params_ne_nil_iff, hvalue, Filter.valueOfRoute, Asks]
  rcases hs with ⟨hk, -⟩ | ⟨hk | hk, -⟩ <;> rw [show x.kind = _ from hk] <;>
    simp [hon, FilterValue.isTruthy]

/-! ### All filters -/

theorem eq_of_name_mem (hfr : fr ∈ frames) (hfr' : fr' ∈ frames) {name : String}
    (hname : name ∈ fr.params) (hname' : name ∈ fr'.params) : fr = fr' := by
  have all : ∀ fr ∈ frames, ∀ fr' ∈ frames, ∀ name ∈ fr.params, name ∈ fr'.params → fr = fr' := by
    decide
  exact all fr hfr fr' hfr' name hname hname'

/-- A filter contributes when it has parameters, whatever the other filters have. -/
theorem hasFacet_iff (h : f.IsStandard) (pageSize : Nat) :
    (f.request pageSize).HasFacet label ↔ f.paramsAt label ≠ [] := by
  have hkeys : (f.request pageSize).params.keys = (f.request pageSize).core.map Prod.fst ++
      (f.filters.flatMap (·.params rangeCells f.view)).map Prod.fst := by
    rw [Keyed.keys, items_params_request h, List.map_append]
  constructor
  · rintro ⟨fr, hfr, rfl, name, hname, hmem⟩
    obtain ⟨-, -, hapart⟩ := List.nodup_append.mp nodup_names
    rw [hkeys] at hmem
    rcases List.mem_append.mp hmem with hcore | hfilters
    · -- no filter has a name of the request's own parameters
      have hall : name ∈ frames.flatMap Frame.params := List.mem_flatMap.mpr ⟨fr, hfr, hname⟩
      exact absurd rfl (hapart name ((keys_core _).subset hcore) name hall)
    · obtain ⟨p, hp, rfl⟩ := List.mem_map.mp hfilters
      obtain ⟨x, hx, hpx⟩ := List.mem_flatMap.mp hp
      have hxname := (Filter.keys_params rangeCells f.view x).subset (List.mem_map_of_mem hpx)
      have hframe : x.frame = fr :=
        eq_of_name_mem (h ▸ List.mem_map_of_mem hx) hfr hxname hname
      have hfind : f.filter? fr.label = some x := hframe ▸ h.filter?_of_mem hx
      rw [paramsAt, hfind]
      exact List.ne_nil_of_mem hpx
  · intro hne
    obtain ⟨p, hp⟩ := List.exists_mem_of_ne_nil _ hne
    rw [paramsAt] at hp
    cases hfind : f.filter? label with
    | none => rw [hfind] at hp; cases hp
    | some x =>
      rw [hfind] at hp
      have hx : x ∈ f.filters := List.mem_of_find?_eq_some hfind
      have hlabel : x.label = label := by simpa using List.find?_some hfind
      have hname := (Filter.keys_params rangeCells f.view x).subset (List.mem_map_of_mem hp)
      refine ⟨x.frame, h ▸ List.mem_map_of_mem hx, hlabel, p.1, hname, ?_⟩
      rw [hkeys]
      exact List.mem_append_right _ (List.mem_map_of_mem (List.mem_flatMap.mpr ⟨x, hx, hp⟩))

/-- After a route is loaded, a filter whose key it has contributes by what stands there, and any
other contributes if it did before. -/
theorem hasFacet_load (h : f.IsStandard) (q : Route.Query) (hfr : fr ∈ frames) (pageSize : Nat) :
    ((f.load q).request pageSize).HasFacet fr.label ↔
      match q.get? fr.label with
      | some val => Asks fr.kind val
      | none => f.paramsAt fr.label ≠ [] := by
  obtain ⟨x, y, hx, hy, hframe, hloaded⟩ := h.loaded q hfr
  rw [hasFacet_iff (h.load q), paramsAt, hy, Option.elim_some]
  cases hval : q.get? fr.label with
  | none =>
    obtain ⟨henabled, hvalue⟩ := hloaded.kept hval
    rw [paramsAt, hx, Option.elim_some, params_ne_nil_iff, params_ne_nil_iff, henabled, hvalue]
  | some val =>
    obtain ⟨henabled, hvalue⟩ := hloaded.taken val hval
    have hmem : y ∈ (f.load q).filters := List.mem_of_find?_eq_some hy
    rw [params_ne_nil_of_taken ((h.load q).sound hmem) henabled hvalue, ← hframe]
    rfl

end Facets
end DatasetSearch.Search
