/-! Lists that hold each key once.

A `Keyed key` is a list of items in the order their keys first came. `put` replaces the item of
a key where it stands and adds an item of a new key at the end, so the keys of the list after
`put` are those before it, or those and the new one (`keys_put`); `erase` takes a key out and
leaves the others in their order. That no key comes twice is part of the type. -/
namespace DatasetSearch

/-- Items in the order their keys first came, no two with one key. -/
structure Keyed {α : Type} (key : α → String) where
  items : List α
  distinct : (items.map key).Nodup

namespace Keyed
variable {α : Type} {key : α → String}

instance [DecidableEq α] : DecidableEq (Keyed key) := fun a b =>
  if h : a.items = b.items then .isTrue (by cases a; cases b; cases h; rfl)
  else .isFalse (fun e => h (by rw [e]))

/-! ### Writing an item into a list -/

/-- Puts `a` in the place of the item with its key, or at the end when there is none. -/
def place (key : α → String) (a : α) : List α → List α
  | [] => [a]
  | b :: rest => if key b = key a then a :: rest else b :: place key a rest

theorem map_key_place (a : α) (l : List α) :
    (place key a l).map key = if key a ∈ l.map key then l.map key else l.map key ++ [key a] := by
  induction l with
  | nil => rfl
  | cons b rest ih =>
    by_cases h : key b = key a
    · simp [place, h]
    · have h' : key a ≠ key b := fun e => h e.symm
      simp only [place, h, if_false, List.map_cons, ih, List.mem_cons, h', false_or]
      split <;> simp

theorem nodup_place {a : α} {l : List α} (h : (l.map key).Nodup) :
    ((place key a l).map key).Nodup := by
  rw [map_key_place]
  split
  · exact h
  · next hn =>
    rw [List.nodup_append]
    refine ⟨h, by simp, ?_⟩
    intro x hx y hy e
    simp only [List.mem_singleton] at hy
    exact hn (hy ▸ e ▸ hx)

/-! ### The operations -/

def empty : Keyed key := ⟨[], by simp⟩

instance : Inhabited (Keyed key) := ⟨empty⟩

def put (k : Keyed key) (a : α) : Keyed key := ⟨place key a k.items, nodup_place k.distinct⟩

/-- Puts the items one by one. -/
def putAll (k : Keyed key) (l : List α) : Keyed key := l.foldl put k

def ofList (l : List α) : Keyed key := empty.putAll l

def find? (k : Keyed key) (name : String) : Option α := k.items.find? (key · == name)

/-- Takes the item of a key out. -/
def erase (k : Keyed key) (name : String) : Keyed key where
  items := k.items.filter (key · != name)
  distinct := (List.filter_sublist.map key).nodup k.distinct

def keys (k : Keyed key) : List String := k.items.map key

def size (k : Keyed key) : Nat := k.items.length

def isEmpty (k : Keyed key) : Bool := k.items.isEmpty

theorem keys_put (k : Keyed key) (a : α) :
    (k.put a).keys = if key a ∈ k.keys then k.keys else k.keys ++ [key a] :=
  map_key_place a k.items

theorem keys_erase (k : Keyed key) (name : String) :
    (k.erase name).keys = k.keys.filter (· != name) := by
  simp [keys, erase, List.filter_map, Function.comp_def]

end Keyed
end DatasetSearch
