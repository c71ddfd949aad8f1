import DatasetSearch.Filter.Basic

/-! What a filter stores it holds.

Storing changes what the filter keeps itself (`Storage.put`) and what the owner of its cell has
(`Storage.save`), and neither hangs on what was there before. Where the storage gives back what is
written to it, the filter's value is then the one that was stored (`value_store`), and after loading
the one in the route (`value_load`). -/
namespace DatasetSearch
variable {κ σ : Type} {C : Cells κ σ} {s : σ}

namespace Storage
variable {x : Storage κ} {v w : FilterValue}

/-- The value held, wherever it lives. -/
def held (C : Cells κ σ) (s : σ) : Storage κ → FilterValue
  | .own v => v
  | .cell name _ => C.read name s
  | .apart v _ => v

/-- The storage after a value is written to it. -/
def put (v : FilterValue) : Storage κ → Storage κ
  | .own _ => .own v
  | .cell name clears => .cell name clears
  | .apart _ cleared => .apart v cleared

/-- What the owner of a cell has after a value is written to it. -/
def save (C : Cells κ σ) (v : FilterValue) (s : σ) : Storage κ → σ
  | .cell name _ => C.write name v s
  | _ => s

/-- A storage that gives a value back after it is written. -/
def GivesBack (C : Cells κ σ) (v : FilterValue) : Storage κ → Prop
  | .cell name _ => ∀ s, C.read name (C.write name v s) = v
  | _ => True

theorem held_put (h : x.GivesBack C v) : (x.put v).held C (x.save C v s) = v := by
  cases x with
  | own old => rfl
  | cell name clears => exact h s
  | apart old cleared => rfl

theorem put_put : (x.put v).put w = x.put w := by
  cases x <;> rfl

end Storage

namespace Filter
variable {f : Filter κ} {q : Route.Query} {v : FilterValue} {val : Route.Value}

theorem value_eq : f.value C s = (f.storage.held C s).shapedAs f.kind f.bounds := by
  obtain ⟨_, _, _, _, _, _, storage⟩ := f
  cases storage <;> rfl

theorem store_eq :
    f.store C v s = ({ f with storage := f.storage.put v }, f.storage.save C v s) := by
  obtain ⟨_, _, _, _, _, _, storage⟩ := f
  cases storage <;> rfl

theorem value_store (hback : f.storage.GivesBack C v) (hshape : FilterValue.HasShape f.kind v) :
    (f.store C v s).1.value C (f.store C v s).2 = v := by
  rw [store_eq, value_eq, Storage.held_put hback]
  exact FilterValue.shapedAs_of_hasShape _ hshape

/-! ### Loading -/

theorem hasShape_valueOfRoute (val : Route.Value) :
    FilterValue.HasShape f.kind (f.valueOfRoute val) := by
  rw [valueOfRoute]
  cases f.kind <;> trivial

theorem load_of_none (h : q.get? f.label = none) : f.load C q s = (f, s) := by
  simp only [load, h]

theorem load_of_some (h : q.get? f.label = some val) :
    f.load C q s = f.enable.store C (f.valueOfRoute val) s := by
  have hshape : FilterValue.HasShape f.enable.kind (f.valueOfRoute val) := hasShape_valueOfRoute val
  simp only [load, h, setValue]
  rw [FilterValue.shapedAs_of_hasShape _ hshape]

theorem value_load (h : q.get? f.label = some val)
    (hback : f.storage.GivesBack C (f.valueOfRoute val)) :
    (f.load C q s).1.value C (f.load C q s).2 = f.valueOfRoute val := by
  rw [load_of_some h]
  exact value_store (f := f.enable) hback (hasShape_valueOfRoute val)

end Filter
end DatasetSearch
