import DatasetSearch.Filter.Basic

/-! What stays the same about a filter.

Switching a filter, setting its value, loading and clearing it, and offering choices leave its name,
label and kind and the cell that its value lives in. -/
namespace DatasetSearch

/-- The cell that a value lives in, if it belongs to someone else. -/
def Storage.cell? {κ : Type} : Storage κ → Option κ
  | .own _ => none
  | .cell name _ => some name
  | .apart _ _ => none

namespace Filter

/-- What a filter is by, whatever its value. -/
structure Frame (κ : Type) where
  name : String
  label : String
  kind : FilterKind
  cell? : Option κ
deriving DecidableEq

variable {κ σ : Type}

def frame (f : Filter κ) : Frame κ := ⟨f.name, f.label, f.kind, f.storage.cell?⟩

/-- An edit that does not make another kind of filter of a filter. -/
def Edit.KeepsKind : Edit → Prop
  | .setKind _ => False
  | _ => True

/-! ### Edits keep the frame -/

section Frame
variable (C : Cells κ σ) (reset : κ → σ → σ) (s : σ) (f : Filter κ)

@[simp] theorem frame_enable : f.enable.frame = f.frame := rfl

@[simp] theorem frame_disable : f.disable.frame = f.frame := rfl

@[simp] theorem frame_toggle : f.toggle.frame = f.frame := rfl

@[simp] theorem frame_withChoices (choices : List Choice) :
    (f.withChoices choices).frame = f.frame := rfl

@[simp] theorem frame_store (v : FilterValue) : (f.store C v s).1.frame = f.frame := by
  cases h : f.storage <;> simp [store, frame, Storage.cell?, h]

@[simp] theorem frame_setValue (v : FilterValue) : (f.setValue C v s).1.frame = f.frame :=
  frame_store C s f _

@[simp] theorem frame_clear : (f.clear C reset s).1.frame = f.frame := by
  simp only [clear]
  split
  · rfl
  · next h => simp [disable, frame, Storage.cell?, h]
  · exact frame_store C s f _

@[simp] theorem frame_load (q : Route.Query) : (f.load C q s).1.frame = f.frame := by
  simp only [load]
  split
  · rfl
  · rw [frame_setValue, frame_enable]

theorem frame_edit {e : Edit} (h : e.KeepsKind) : (f.edit C reset e s).1.frame = f.frame := by
  cases e with
  | enable => exact frame_enable f
  | disable => exact frame_disable f
  | toggle => exact frame_toggle f
  | clear => exact frame_clear C reset s f
  | setValue v => exact frame_setValue C s f v
  | load q => exact frame_load C s f q
  | setChoices choices => exact frame_withChoices f choices
  | setKind kind => exact h.elim

/-- No edit changes the label. -/
theorem label_edit (e : Edit) : (f.edit C reset e s).1.label = f.label := by
  have hlabel (h : e.KeepsKind) : (f.edit C reset e s).1.label = f.label :=
    congrArg Frame.label (frame_edit C reset s f h)
  cases e with
  | setKind kind => rfl
  | _ => exact hlabel trivial

end Frame

/-! ### Names and values -/

/-- The names of the parameters that a filter may set. -/
def Frame.params (fr : Frame κ) : List String :=
  if fr.kind = .range then [fr.name ++ "Start", fr.name ++ "End"] else [fr.name]

section Values
variable (C : Cells κ σ) (s : σ) (f : Filter κ)

theorem hasShape_value : FilterValue.HasShape f.kind (f.value C s) :=
  FilterValue.hasShape_shapedAs ..

theorem text_of_kind (h : f.kind = .text) : ∃ v, f.value C s = .text v := by
  have hshape := hasShape_value C s f
  rw [h] at hshape
  cases hv : f.value C s with
  | text v => exact ⟨v, rfl⟩
  | _ => rw [hv] at hshape; exact hshape.elim

theorem multiple_of_kind (h : f.kind = .selectMultiple) : ∃ items, f.value C s = .multiple items := by
  have hshape := hasShape_value C s f
  rw [h] at hshape
  cases hv : f.value C s with
  | multiple items => exact ⟨items, rfl⟩
  | _ => rw [hv] at hshape; exact hshape.elim

theorem keys_paramsOf {f : Filter κ} {v : FilterValue} (h : FilterValue.HasShape f.kind v) :
    (f.paramsOf v).map Prod.fst = f.frame.params := by
  cases v <;> cases hk : f.kind <;> rw [hk] at h <;>
    first | exact h.elim | simp [paramsOf, Frame.params, frame, hk]

theorem keys_params :
    ((f.params C s).map Prod.fst).Sublist f.frame.params := by
  rw [params]
  split
  · exact keys_paramsOf (hasShape_value C s f) ▸ List.Sublist.refl _
  · exact List.nil_sublist _

end Values
end Filter
end DatasetSearch
