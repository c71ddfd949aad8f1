/-! Dictionaries in the order of their keys.

The entries of a `Sorted α` stand in strictly increasing order of their keys (texts, compared
character by character), so two dictionaries that answer every look-up alike are equal. -/
namespace DatasetSearch

/-- Entries in strictly increasing order of their keys. -/
structure Sorted (α : Type) where
  entries : List (String × α)
  ordered : entries.Pairwise (·.1 < ·.1)

namespace Sorted
variable {α β : Type}

instance [DecidableEq α] : DecidableEq (Sorted α) := fun a b =>
  if h : a.entries = b.entries then .isTrue (by cases a; cases b; cases h; rfl)
  else .isFalse (fun e => h (by rw [e]))

/-! ### Writing an entry into a list -/

/-- Puts an entry in its place among sorted entries; an entry of the same key makes way. -/
def place (key : String) (value : α) : List (String × α) → List (String × α)
  | [] => [(key, value)]
  | e :: rest =>
    if key < e.1 then (key, value) :: e :: rest
    else if key = e.1 then (key, value) :: rest
    else e :: place key value rest

theorem mem_place {key : String} {value : α} {l : List (String × α)} {x : String × α}
    (h : x ∈ place key value l) : x = (key, value) ∨ x ∈ l := by
  induction l with
  | nil => simpa [place] using h
  | cons e rest ih =>
    simp only [place] at h
    split at h
    · simpa using h
    · split at h
      · rcases List.mem_cons.mp h with h | h
        · exact .inl h
        · exact .inr (List.mem_cons_of_mem _ h)
      · rcases List.mem_cons.mp h with h | h
        · exact .inr (h ▸ List.mem_cons_self ..)
        · exact (ih h).imp_right (List.mem_cons_of_mem _)

theorem ordered_place {key : String} {value : α} {l : List (String × α)}
    (h : l.Pairwise (·.1 < ·.1)) : (place key value l).Pairwise (·.1 < ·.1) := by
  induction l with
  | nil => simp [place]
  | cons e rest ih =>
    have ⟨he, hr⟩ := List.pairwise_cons.mp h
    simp only [place]
    split
    · next hlt =>
      refine List.pairwise_cons.mpr ⟨fun x hx => ?_, h⟩
      rcases List.mem_cons.mp hx with rfl | hx
      · exact hlt
      · exact String.lt_trans hlt (he x hx)
    · split
      · next heq => exact List.pairwise_cons.mpr ⟨fun x hx => heq ▸ he x hx, hr⟩
      · next hlt hne =>
        refine List.pairwise_cons.mpr ⟨fun x hx => ?_, ih hr⟩
        rcases mem_place hx with rfl | hx
        · rcases Decidable.em (e.1 < key) with hgt | hgt
          · exact hgt
          · exact absurd (String.le_antisymm (String.not_lt.mp hgt) (String.not_lt.mp hlt)) hne
        · exact he x hx

/-! ### The operations -/

def empty : Sorted α := ⟨[], by simp⟩

instance : Inhabited (Sorted α) := ⟨empty⟩

def get? (d : Sorted α) (key : String) : Option α := d.entries.lookup key

def insert (d : Sorted α) (key : String) (value : α) : Sorted α :=
  ⟨place key value d.entries, ordered_place d.ordered⟩

def erase (d : Sorted α) (key : String) : Sorted α :=
  ⟨d.entries.filter (·.1 != key), d.ordered.filter _⟩

/-- Inserts the entries one by one, so the last of one key stays. -/
def ofList (l : List (String × α)) : Sorted α := l.foldl (fun d e => d.insert e.1 e.2) empty

def keys (d : Sorted α) : List String := d.entries.map (·.1)

end Sorted
end DatasetSearch
