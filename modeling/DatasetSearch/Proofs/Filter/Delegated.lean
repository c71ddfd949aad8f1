import DatasetSearch.Proofs.Filter.Frame
import DatasetSearch.Proofs.Filter.Storing

/-! It does not show where a filter's value lives.

A value may be lent to a cell that gives back what is written to it and that its owner does not clear
in a way of his own (`Storage.Lent`). Taking the value out of the cell into the filter commutes with
every edit (`edit_takenIn`), because a value is brought into shape before it is written and after it
is read, wherever that is, and so with every run of edits (`run_takenIn`). A filter looks the same
before and after its value is taken in, so two filters that begin with nothing selected, one that
keeps its value and one that lends it, look the same after the same edits
(`delegation_is_invisible`). -/
namespace DatasetSearch
variable {κ σ : Type} {C : Cells κ σ}

/-- A storage that lends the value to a cell which gives back everything that is written to it, and
which its owner does not clear in a way of his own. -/
def Storage.Lent (C : Cells κ σ) : Storage κ → Prop
  | .own _ => False
  | .cell name clears => clears = false ∧ ∀ v s, C.read name (C.write name v s) = v
  | .apart _ cleared => cleared = none

theorem Storage.Lent.givesBack {x : Storage κ} (h : x.Lent C) (v : FilterValue) :
    x.GivesBack C v := by
  cases x with
  | own old => exact h.elim
  | cell name clears => exact fun s => h.2 v s
  | apart old cleared => trivial

theorem Storage.Lent.put {x : Storage κ} (h : x.Lent C) (v : FilterValue) : (x.put v).Lent C := by
  cases x <;> exact h

namespace Filter

/-- The filter with its value taken out of the cell. -/
def takenIn (C : Cells κ σ) (s : σ) (f : Filter κ) : Filter κ :=
  { f with storage := .own (f.storage.held C s) }

section
variable {s t : σ} {f : Filter κ}

/-! ### A filter looks the same with its value taken in -/

theorem value_takenIn : (f.takenIn C s).value C t = f.value C s := by
  rw [value_eq, value_eq]
  rfl

theorem selected_takenIn : (f.takenIn C s).selected C t = f.selected C s := by
  rw [selected, selected, value_takenIn]

theorem isActive_takenIn : (f.takenIn C s).isActive C t = f.isActive C s := by
  rw [isActive, isActive, selected_takenIn, value_takenIn]
  rfl

theorem params_takenIn : (f.takenIn C s).params C t = f.params C s := by
  rw [params, params, value_takenIn]
  rfl

theorem routeValue_takenIn : (f.takenIn C s).routeValue C t = f.routeValue C s := by
  rw [routeValue, routeValue, value_takenIn]
  rfl

/-! ### Edits -/

theorem lent_store (h : f.storage.Lent C) (v : FilterValue) : (f.store C v s).1.storage.Lent C := by
  rw [store_eq]
  exact h.put v

theorem store_takenIn (h : f.storage.Lent C) (v : FilterValue) :
    (f.takenIn C s).store C v t = ((f.store C v s).1.takenIn C (f.store C v s).2, t) := by
  have hown : (f.takenIn C s).store C v t = ({ f with storage := .own v }, t) := rfl
  rw [hown]
  simp only [store_eq, takenIn, Storage.held_put (h.givesBack v)]

theorem clear_of_lent (h : f.storage.Lent C) (reset : κ → σ → σ) :
    f.clear C reset s = f.disable.store C (.empty f.kind f.bounds) s := by
  obtain ⟨_, _, _, _, _, _, storage⟩ := f
  cases storage with
  | own v => exact h.elim
  | cell name clears =>
    obtain ⟨rfl, _⟩ := h
    rfl
  | apart v cleared =>
    cases h
    rfl

theorem lent_edit (h : f.storage.Lent C) (reset : κ → σ → σ) (e : Edit) :
    (f.edit C reset e s).1.storage.Lent C := by
  cases e with
  | clear =>
    rw [edit, clear_of_lent h]
    exact lent_store (f := f.disable) h _
  | setValue v => exact lent_store h _
  | load q =>
    rw [edit]
    cases hq : q.get? f.label with
    | none => rwa [load_of_none hq]
    | some val =>
      rw [load_of_some hq]
      exact lent_store (f := f.enable) h _
  | _ => exact h

/-- An edit does to the filter with its value taken in what it does to the one that lends it. -/
theorem edit_takenIn (h : f.storage.Lent C) (reset : κ → σ → σ) (e : Edit) :
    (f.takenIn C s).edit C reset e t =
      ((f.edit C reset e s).1.takenIn C (f.edit C reset e s).2, t) := by
  cases e with
  | clear =>
    rw [edit, edit, clear_of_lent h]
    exact store_takenIn (f := f.disable) h _
  | setValue v => exact store_takenIn h _
  | load q =>
    rw [edit, edit]
    cases hq : q.get? f.label with
    | none => rw [load_of_none hq, load_of_none (f := f.takenIn C s) hq]
    | some val =>
      rw [load_of_some hq, load_of_some (f := f.takenIn C s) hq]
      exact store_takenIn (f := f.enable) h _
  | _ => rfl

theorem run_takenIn (h : f.storage.Lent C) (reset : κ → σ → σ) (edits : List Edit) :
    (f.takenIn C s).run C reset t edits =
      ((f.run C reset s edits).1.takenIn C (f.run C reset s edits).2, t) := by
  induction edits generalizing f s with
  | nil => rfl
  | cons e rest ih =>
    rw [run, edit_takenIn h]
    exact ih (lent_edit h reset e)

end

/-- It does not show where a value lives. Take a filter that keeps its value itself and one that is
the same but lends it to a cell, both with nothing selected. After any edits, also such that change
the kind, the two are enabled alike, have the same value and the same items selected, count alike as
in use, and make the same parameters and the same route value, and the value has the shape of the
kind. -/
theorem delegation_is_invisible (kind : FilterKind) (name label : String) (bounds : Bounds)
    {x : Storage κ} (hx : x.Lent C) {s : σ} (hs : x.held C s = .empty kind bounds)
    (reset : κ → σ → σ) (edits : List Edit) :
    let start : Filter κ := make kind name label bounds
    let (kept, t) := start.run C reset s edits
    let (lent, u) := { start with storage := x }.run C reset s edits
    t = s ∧ lent.enabled = kept.enabled ∧ lent.kind = kept.kind ∧ lent.label = kept.label ∧
      lent.value C u = kept.value C t ∧ lent.selected C u = kept.selected C t ∧
      lent.isActive C u = kept.isActive C t ∧ lent.params C u = kept.params C t ∧
      lent.routeValue C u = kept.routeValue C t ∧
      FilterValue.HasShape lent.kind (lent.value C u) := by
  intro start
  have hstart : start = { start with storage := x }.takenIn C s := by
    rw [takenIn, hs]
    rfl
  have hrun : start.run C reset s edits = _ :=
    (congrArg (run C reset s · edits) hstart).trans (run_takenIn hx reset edits)
  rw [hrun]
  exact ⟨rfl, rfl, rfl, rfl, value_takenIn.symm, selected_takenIn.symm, isActive_takenIn.symm,
    params_takenIn.symm, routeValue_takenIn.symm, hasShape_value C _ _⟩

/-- A range that is loaded, made a text and then a list holds the same in a cell as in the filter. -/
theorem delegated_range_becomes_list :
    let start : Filter Unit := make .range "publicationYear" "py" ⟨1900, 2025⟩
    let edits : List Edit := [.load (Route.ofPairs [("py", "1999")]), .setKind .text,
      .setValue (.number (some (.ofInt 7))), .setKind .selectMultiple]
    let x : Storage Unit := .cell () false
    let kept := start.run Cells.one (fun _ s => s) (.range ⟨1900, 2025⟩) edits
    let lent := { start with storage := x }.run Cells.one (fun _ s => s) (.range ⟨1900, 2025⟩) edits
    x.Lent Cells.one ∧ x.held Cells.one (.range ⟨1900, 2025⟩) = .empty .range ⟨1900, 2025⟩ ∧
      lent.2 = .text (some "7") ∧ kept.1.value Cells.one kept.2 = .multiple ["7"] ∧
      lent.1.value Cells.one lent.2 = kept.1.value Cells.one kept.2 ∧
      lent.1.params Cells.one lent.2 = kept.1.params Cells.one kept.2 := by
  intro start edits x kept lent
  have hx : x.Lent Cells.one := ⟨rfl, fun _ _ => rfl⟩
  have hs : x.held Cells.one (.range ⟨1900, 2025⟩) = .empty .range ⟨1900, 2025⟩ := rfl
  obtain ⟨_, _, _, _, hvalue, _, _, hparams, _⟩ :=
    delegation_is_invisible .range "publicationYear" "py" ⟨1900, 2025⟩ hx hs (fun _ s => s) edits
  exact ⟨hx, hs, by decide +kernel, by decide +kernel, hvalue, hparams⟩

end Filter
end DatasetSearch
