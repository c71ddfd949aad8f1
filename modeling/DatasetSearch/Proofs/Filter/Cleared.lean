import DatasetSearch.Proofs.Filter.Frame

/-! Cleared filters.

Clearing makes of a filter what it was before anything was done with it: it is off, and what it
keeps itself is empty. Neither this nor what becomes of a shared cell hangs on what the filter held
(`clear_eq`, `clear_unset`), and no edit looks at the choices on offer (`withChoices_edit`). -/
namespace DatasetSearch
variable {κ σ : Type}

namespace Storage

/-- The storage with nothing in it of what the filter keeps itself. -/
def emptied (empty : FilterValue) : Storage κ → Storage κ
  | .own _ => .own empty
  | .cell name clears => .cell name clears
  | .apart _ cleared => .apart (cleared.getD empty) cleared

/-- What the owner of a cell has after the filter is cleared. -/
def vacate (C : Cells κ σ) (reset : κ → σ → σ) (empty : FilterValue) (s : σ) : Storage κ → σ
  | .cell name true => reset name s
  | .cell name false => C.write name empty s
  | _ => s

theorem emptied_emptied (empty : FilterValue) (x : Storage κ) :
    (x.emptied empty).emptied empty = x.emptied empty := by
  cases x <;> rfl

theorem vacate_emptied (C : Cells κ σ) (reset : κ → σ → σ) (empty : FilterValue) (s : σ)
    (x : Storage κ) : (x.emptied empty).vacate C reset empty s = x.vacate C reset empty s := by
  cases x <;> rfl

end Storage

namespace Filter

/-- The filter as it is before anything is done with it. -/
def unset (f : Filter κ) : Filter κ :=
  { f with enabled := false, storage := f.storage.emptied (.empty f.kind f.bounds) }

/-- An edit that makes no other filter of a filter: neither its kind nor its choices change. -/
def Edit.IsUse : Edit → Prop
  | .setKind _ => False
  | .setChoices _ => False
  | _ => True

section
variable (C : Cells κ σ) (reset : κ → σ → σ) (s : σ) (f : Filter κ)

theorem clear_eq : f.clear C reset s =
    (f.unset, f.storage.vacate C reset (.empty f.kind f.bounds) s) := by
  obtain ⟨_, _, _, _, _, _, storage⟩ := f
  cases storage with
  | own v => rfl
  | cell name clears => cases clears <;> rfl
  | apart v cleared => cases cleared <;> rfl

theorem unset_unset : f.unset.unset = f.unset :=
  congrArg (fun x => { f with enabled := false, storage := x }) (Storage.emptied_emptied _ f.storage)

theorem clear_unset : f.unset.clear C reset s = f.clear C reset s := by
  rw [clear_eq, clear_eq, unset_unset]
  exact congrArg (Prod.mk _) (Storage.vacate_emptied C reset _ s f.storage)

/-! ### Using a filter -/

theorem unset_store (v : FilterValue) : (f.store C v s).1.unset = f.unset := by
  obtain ⟨_, _, _, _, _, _, storage⟩ := f
  cases storage <;> rfl

theorem unset_load (q : Route.Query) : (f.load C q s).1.unset = f.unset := by
  rw [load]
  split
  · rfl
  · exact unset_store C s f.enable _

/-- Using a filter does not change what it is when it is unset. -/
theorem unset_edit {e : Edit} (h : e.IsUse) : (f.edit C reset e s).1.unset = f.unset := by
  cases e with
  | enable => rfl
  | disable => rfl
  | toggle => rfl
  | clear => rw [edit, clear_eq, unset_unset]
  | setValue v => exact unset_store C s f _
  | load q => exact unset_load C s f q
  | setChoices choices => exact h.elim
  | setKind kind => exact h.elim

/-! ### What is on offer -/

variable (choices : List Choice)

theorem withChoices_store (v : FilterValue) :
    (f.withChoices choices).store C v s =
      ((f.store C v s).1.withChoices choices, (f.store C v s).2) := by
  obtain ⟨_, _, _, _, _, _, storage⟩ := f
  cases storage <;> rfl

theorem withChoices_load (q : Route.Query) :
    (f.withChoices choices).load C q s =
      ((f.load C q s).1.withChoices choices, (f.load C q s).2) := by
  cases h : q.get? f.label with
  | none => simp only [load, withChoices, h]
  | some v =>
    have hstore := withChoices_store C s f.enable choices
      ((f.valueOfRoute v).shapedAs f.kind f.bounds)
    simp only [load, withChoices, h]
    exact hstore

/-- No edit looks at what is on offer. -/
theorem withChoices_edit (e : Edit) :
    ((f.withChoices choices).edit C reset e s).1.withChoices choices =
        (f.edit C reset e s).1.withChoices choices ∧
      ((f.withChoices choices).edit C reset e s).2 = (f.edit C reset e s).2 := by
  cases e with
  | clear => rw [edit, edit, clear_eq, clear_eq]; exact ⟨rfl, rfl⟩
  | setValue v => rw [edit, setValue, withChoices_store]; exact ⟨rfl, rfl⟩
  | load q => rw [edit, withChoices_load]; exact ⟨rfl, rfl⟩
  | _ => exact ⟨rfl, rfl⟩

end
end Filter
end DatasetSearch
