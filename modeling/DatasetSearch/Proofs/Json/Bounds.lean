import DatasetSearch.Proofs.Json.Reading

/-! What readers give is within bounds.

`Ensures r P` says that whatever the reader `r` makes has the property `P`, out of any source and at
any depth. There is one theorem about it for each reader of numbers and of many values. -/
namespace DatasetSearch.Json

def Ensures {α : Type} (r : Reader α) (P : α → Prop) : Prop :=
  ∀ levels x a, r levels x = some a → P a

/-- Each of the values made is made of some source. -/
theorem forall_of_mapM {α β : Type} {g : α → Option β} {P : β → Prop} {as : List α} {bs : List β}
    (h : as.mapM g = some bs) (hg : ∀ a b, g a = some b → P b) : ∀ b ∈ bs, P b := by
  induction as generalizing bs with
  | nil =>
    cases h
    exact fun b hb => nomatch hb
  | cons a as ih =>
    rw [List.mapM_cons] at h
    obtain ⟨b, hb, h⟩ := Option.bind_eq_some_iff.mp h
    obtain ⟨rest, hrest, h⟩ := Option.bind_eq_some_iff.mp h
    cases h
    exact List.forall_mem_cons.mpr ⟨hg a b hb, ih hrest⟩

namespace Ensures
variable {α : Type} {r : Reader α} {P : α → Prop}

theorem run (h : Ensures r P) {s : String} {a : α} (hs : r.run s = some a) : P a := by
  obtain ⟨x, _, hx⟩ := Option.bind_eq_some_iff.mp hs
  exact h _ _ _ hx

/-! ### Single values -/

theorem int (low high : Int) : Ensures (Reader.int low high) fun n => low ≤ n ∧ n ≤ high := by
  intro levels x n h
  cases x with
  | number m =>
    simp only [Reader.int] at h
    split at h
    · split at h
      · next hbounds =>
        cases h
        exact hbounds
      · cases h
    · cases h
  | _ => cases h

theorem int64 : Ensures Reader.int64 InInt64 := int leastInt64 greatestInt64

theorem nat (limit : Nat) : Ensures (Reader.nat limit) (· < limit) := by
  intro levels x n h
  obtain ⟨i, hi, rfl⟩ := Option.map_eq_some_iff.mp h
  have hbounds := int 0 (limit - 1) levels x i hi
  show i.toNat < limit
  omega

/-! ### Many values -/

theorem optional (h : Ensures r P) : Ensures (Reader.optional r) (∀ a ∈ ·, P a) := by
  intro levels x o ho a ha
  cases x with
  | null => cases ho; cases ha
  | _ =>
    obtain ⟨b, hb, rfl⟩ := Option.map_eq_some_iff.mp ho
    cases ha
    exact h _ _ _ hb

theorem list (h : Ensures r P) : Ensures (Reader.list r) (∀ a ∈ ·, P a) := by
  intro levels x as has
  cases x with
  | list items =>
    cases levels with
    | zero => cases has
    | succ levels => exact forall_of_mapM has fun x a hx => h levels x a hx
  | _ => cases levels <;> cases has

theorem pair (h : Ensures r P) : Ensures (Reader.pair r) fun p => P p.1 ∧ P p.2 := by
  intro levels x p hp
  unfold Reader.pair at hp
  split at hp
  · split at hp
    · next ha hb =>
      cases hp
      exact ⟨h _ _ _ ha, h _ _ _ hb⟩
    · cases hp
  · cases hp

/-! ### Fields -/

theorem required (h : Ensures r P) {f : Reader.Fields} {name : String} {a : α}
    (ha : f.required name r = some a) : P a := by
  obtain ⟨x, _, hx⟩ := Option.bind_eq_some_iff.mp ha
  exact h _ _ _ hx

theorem orElse (h : Ensures r P) {other : α} (hother : P other) {f : Reader.Fields}
    {name : String} {a : α} (ha : f.orElse name r other = some a) : P a := by
  rw [Reader.Fields.orElse] at ha
  split at ha
  · exact h _ _ _ ha
  · cases ha
    exact hother

end Ensures
end DatasetSearch.Json
