import DatasetSearch.Proofs.Json.Pretty

/-! What readers make of written values.

`Reads r depth x a` says that the reader `r` makes `a` of the value `x` as it is spelled, if it may
go down `depth` levels. There is one theorem about it for each reader, and `run_pretty` takes it to
the text of the value. -/
namespace DatasetSearch.Json

/-- The integers of 64 bits with a sign. -/
def InInt64 (n : Int) : Prop := leastInt64 ≤ n ∧ n ≤ greatestInt64

instance (n : Int) : Decidable (InInt64 n) := inferInstanceAs (Decidable (_ ∧ _))

/-- Each of some values is made of its own. -/
theorem mapM_map {α β γ : Type} {f : α → β} {g : β → Option γ} {k : α → γ} {as : List α}
    (h : ∀ a ∈ as, g (f a) = some (k a)) : (as.map f).mapM g = some (as.map k) := by
  induction as with
  | nil => rfl
  | cons a as ih =>
    obtain ⟨ha, has⟩ := List.forall_mem_cons.mp h
    rw [List.map_cons, List.mapM_cons, ha, ih has]
    rfl

def Reads {α : Type} (r : Reader α) (depth : Nat) (x : Json) (a : α) : Prop :=
  ∀ levels, depth ≤ levels → r levels x.spell = some a

namespace Reads
variable {α β : Type} {r : Reader α} {depth : Nat}

theorem run_pretty {x : Json} {a : α} (h : Reads r depth x a) (hx : x.Whole)
    (hdepth : depth ≤ maxDepth) : r.run x.pretty = some a := by
  rw [Reader.run, Source.ofText?_pretty hx, Option.bind_some]
  exact h maxDepth hdepth

/-! ### Single values -/

theorem text (s : String) : Reads Reader.text 0 (.text s) s := by
  intro levels _
  exact Piece.text?_writtenText s

theorem int {low high n : Int} (hlow : low ≤ n) (hhigh : n ≤ high) (hleast : leastInt64 ≤ n)
    (hmost : n < twoPow 64) : Reads (Reader.int low high) 0 (.int n) n := by
  intro levels _
  simp only [spell, Reader.int, Numeral.value?_ofInt hleast hmost]
  rw [if_pos ⟨hlow, hhigh⟩]

theorem int64 {n : Int} (h : InInt64 n) : Reads Reader.int64 0 (.int n) n := by
  have hmost : greatestInt64 < twoPow 64 := by decide
  exact int h.1 h.2 h.1 (Int.lt_of_le_of_lt h.2 hmost)

theorem nat {limit n : Nat} (h : n < limit) (hlimit : limit ≤ twoPow 64) :
    Reads (Reader.nat limit) 0 (.int n) n := by
  have hleast : leastInt64 ≤ 0 := by decide
  have hint : Reads (Reader.int 0 (limit - 1)) 0 (.int n) n :=
    int (by omega) (by omega) (by omega) (by omega)
  intro levels hlevels
  rw [Reader.nat, hint levels hlevels]
  rfl

theorem name {values : List (String × α)} {s : String} {a : α} (h : values.lookup s = some a) :
    Reads (Reader.name values) 0 (.text s) a := by
  intro levels _
  simp only [spell, Reader.name, Piece.text?_writtenText, Option.bind_some, h]

/-! ### Many values -/

theorem optional_some {x : Json} {a : α} (h : Reads r depth x a) (hx : x.spell ≠ .null) :
    Reads (Reader.optional r) depth x (some a) := by
  have hvalue : ∀ {y : Source}, y ≠ .null → ∀ levels,
      Reader.optional r levels y = (r levels y).map some := by
    intro y hy levels
    cases y with
    | null => exact absurd rfl hy
    | _ => rfl
  intro levels hlevels
  rw [hvalue hx, h levels hlevels, Option.map_some]

/-- What is not there is written as null. -/
theorem optional {f : α → Json} {o : Option α} (h : ∀ a ∈ o, Reads r depth (f a) a)
    (hne : ∀ a, (f a).spell ≠ .null) :
    Reads (Reader.optional r) depth ((o.map f).getD .null) o := by
  cases o with
  | none => exact fun _ _ => rfl
  | some a => exact (h a rfl).optional_some (hne a)

theorem list {f : α → Json} {as : List α} (h : ∀ a ∈ as, Reads r depth (f a) a) :
    Reads (Reader.list r) (depth + 1) (.list (as.map f)) as := by
  intro levels hlevels
  obtain ⟨levels, rfl⟩ : ∃ n, levels = n + 1 := ⟨levels - 1, by omega⟩
  have hmake : ((as.map f).map spell).mapM (r levels) = some (as.map id) := by
    rw [List.map_map]
    exact mapM_map fun a ha => h a ha levels (by omega)
  rw [spell, spellItems_eq, Reader.list, hmake, List.map_id]

theorem pair {x y : Json} {a b : α} (hx : Reads r depth x a) (hy : Reads r depth y b) :
    Reads (Reader.pair r) (depth + 1) (.list [x, y]) (a, b) := by
  intro levels hlevels
  obtain ⟨levels, rfl⟩ : ∃ n, levels = n + 1 := ⟨levels - 1, by omega⟩
  simp only [spell, spellItems, Reader.pair, hx levels (by omega), hy levels (by omega)]

end Reads

/-! ### Records -/

namespace Reader
variable {α : Type} {r : Reader α} {depth levels : Nat} {members : List (String × Json)}
  {name : String} {x : Json} {a other : α}

/-- The fields that a written object gives. -/
def Fields.written (levels : Nat) (members : List (String × Json)) : Fields :=
  ⟨levels, members.map fun m => (m.1, m.2.spell)⟩

theorem Fields.lookup_written (levels : Nat) (members : List (String × Json)) (name : String) :
    (Fields.written levels members).given.lookup name = (members.lookup name).map spell := by
  rw [Fields.written]
  induction members with
  | nil => rfl
  | cons m members ih =>
    obtain ⟨k, x⟩ := m
    simp only [List.map_cons, List.lookup_cons, ih]
    split <;> rfl

theorem Fields.required_written (hx : members.lookup name = some x) (h : Reads r depth x a)
    (hlevels : depth ≤ levels) : (Fields.written levels members).required name r = some a := by
  rw [Fields.required, Fields.lookup_written, hx]
  exact h levels hlevels

theorem Fields.orElse_written (hx : members.lookup name = some x) (h : Reads r depth x a)
    (hlevels : depth ≤ levels) : (Fields.written levels members).orElse name r other = some a := by
  rw [Fields.orElse, Fields.lookup_written, hx]
  exact h levels hlevels

theorem Fields.orElse_missing (hx : members.lookup name = none) :
    (Fields.written levels members).orElse name r other = some other := by
  rw [Fields.orElse, Fields.lookup_written, hx]
  rfl

/-- An object whose members have known names, each its own, gives its members. -/
theorem fields_spell {names : List String} (hknown : ∀ m ∈ members, m.1 ∈ names)
    (hnodup : (members.map (·.1)).Nodup) (levels : Nat) :
    fields names (levels + 1) (object members).spell = some (.written levels members) := by
  have hnamed : ((members.map fun m => (Piece.writtenText m.1, m.2.spell)).mapM fun m =>
      (Piece.text? m.1).map (·, m.2)) = some (members.map fun m => (m.1, m.2.spell)) := by
    refine mapM_map fun m _ => ?_
    rw [Piece.text?_writtenText, Option.map_some]
  have hall : (members.map fun m => (m.1, m.2.spell)).filter (fun m => names.contains m.1) =
      members.map fun m => (m.1, m.2.spell) := by
    refine List.filter_eq_self.mpr fun m hm => ?_
    obtain ⟨n, hn, rfl⟩ := List.mem_map.mp hm
    exact List.contains_iff_mem.mpr (hknown n hn)
  have hkeys : ((members.map fun m => (m.1, m.2.spell)).map (·.1)).Nodup := by
    rwa [List.map_map]
  rw [spell, spellMembers_eq, fields, hnamed]
  simp only [hall, if_pos hkeys]
  rfl

end Reader

theorem Reads.record {α : Type} {names : List String} {members : List (String × Json)} {depth : Nat}
    {a : α} {make : Reader.Fields → Option α} (hknown : ∀ m ∈ members, m.1 ∈ names)
    (hnodup : (members.map (·.1)).Nodup)
    (h : ∀ levels, depth ≤ levels → make (.written levels members) = some a) :
    Reads (fun levels x => (Reader.fields names levels x).bind make) (depth + 1) (.object members)
      a := by
  intro levels hlevels
  obtain ⟨levels, rfl⟩ : ∃ n, levels = n + 1 := ⟨levels - 1, by omega⟩
  show (Reader.fields names (levels + 1) (object members).spell).bind make = _
  rw [Reader.fields_spell hknown hnodup, Option.bind_some]
  exact h levels (by omega)

end DatasetSearch.Json
