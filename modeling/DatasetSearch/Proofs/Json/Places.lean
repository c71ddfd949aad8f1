import DatasetSearch.Json.Value
import DatasetSearch.Proofs.Lookup
import Mathlib.Data.List.Basic

/-! Places in a value, and a value without a member that is null.

A place is a path of members and items. `without` leaves a member out of the object at a place and
everything else as it is. For one step into the value that says: the step leads to the member that
is gone, or on to the place, or to what it led to before (`childMove`). -/
namespace DatasetSearch.Json

/-- A step into a value. -/
inductive Place where
  | member (name : String)
  | item (index : Nat)
deriving DecidableEq, Repr

def child? : Place → Json → Option Json
  | .member name, x => x.member? name
  | .item index, .list items => items[index]?
  | .item _, _ => none

/-- The value at a place. -/
def at? : List Place → Json → Option Json
  | [], x => some x
  | p :: path, x => (x.child? p).bind (at? path)

/-- Changes what a step leads to. -/
def changeChild (f : Json → Json) : Place → Json → Json
  | .member name, .object members =>
    .object (members.map fun m => if m.1 = name then (m.1, f m.2) else m)
  | .item index, .list items => .list (items.modify index f)
  | _, x => x

/-- Leaves a member out. -/
def drop (name : String) : Json → Json
  | .object members => .object (members.filter (·.1 != name))
  | x => x

/-- Leaves a member of the object at a place out. -/
def without (name : String) : List Place → Json → Json
  | [], x => x.drop name
  | p :: path, x => x.changeChild (without name path) p

/-- The value at a place has a member, and it is null. -/
def NullAt (x : Json) (path : List Place) (name : String) : Prop :=
  (x.at? path).bind (member? name) = some .null

section
variable {x y : Json} {p q : Place} {path : List Place} {name : String}

/-! ### One step -/

theorem lookup_map_change (f : Json → Json) (name other : String) (members : List (String × Json)) :
    (members.map fun m => if m.1 = name then (m.1, f m.2) else m).lookup other =
      if other = name then (members.lookup other).map f else members.lookup other := by
  induction members with
  | nil => split <;> rfl
  | cons m rest ih =>
    obtain ⟨key, value⟩ := m
    by_cases hkey : key = name
    · subst hkey
      by_cases hother : other = key <;> simp [lookup_cons_eq, ih, hother]
    · by_cases hother : other = key
      · simp [hkey, hother]
      · simp [lookup_cons_eq, ih, hkey, hother]

theorem child?_changeChild (f : Json → Json) (p q : Place) (x : Json) :
    (x.changeChild f p).child? q = if q = p then (x.child? q).map f else x.child? q := by
  cases p with
  | member name =>
    cases x with
    | object members =>
      cases q with
      | member other =>
        simp only [Place.member.injEq]
        exact lookup_map_change f name other members
      | item i => simp [changeChild, child?]
    | _ => cases q <;> simp [changeChild, child?, member?]
  | item i =>
    cases x with
    | list items =>
      cases q with
      | member other => simp [changeChild, child?, member?]
      | item j =>
        show (items.modify i f)[j]? = if Place.item j = .item i then items[j]?.map f else items[j]?
        rw [List.getElem?_modify]
        by_cases hij : i = j
        · simp [hij]
        · simp [hij, Ne.symm hij]
    | _ => cases q <;> simp [changeChild, child?]

theorem child?_drop (name : String) (q : Place) (x : Json) :
    (x.drop name).child? q = if q = .member name then none else x.child? q := by
  cases x with
  | object members =>
    cases q with
    | member other =>
      show (members.filter (·.1 != name)).lookup other = if _ then none else members.lookup other
      by_cases hother : other = name
      · rw [hother, lookup_filter_self, if_pos rfl]
      · rw [lookup_filter_of_ne hother, if_neg (fun heq => hother (Place.member.inj heq))]
    | item i => simp [drop, child?]
  | _ => cases q <;> simp [drop, child?, member?]

theorem at?_singleton (p : Place) (x : Json) : x.at? [p] = x.child? p :=
  Option.bind_fun_some (x.child? p)

theorem at?_append (steps rest : List Place) (x : Json) :
    x.at? (steps ++ rest) = (x.at? steps).bind (at? rest) := by
  induction steps generalizing x with
  | nil => rfl
  | cons p steps ih =>
    show (x.child? p).bind (at? (steps ++ rest)) = ((x.child? p).bind (at? steps)).bind (at? rest)
    rw [Option.bind_assoc]
    exact congrArg _ (funext ih)

/-! ### Null members -/

theorem nullAt_nil : NullAt x [] name ↔ x.child? (.member name) = some .null := Iff.rfl

theorem nullAt_cons :
    NullAt x (p :: path) name ↔ ∃ y, x.child? p = some y ∧ NullAt y path name := by
  unfold NullAt
  rw [at?]
  cases x.child? p <;> simp

theorem nullAt_append {steps rest : List Place} :
    NullAt x (steps ++ rest) name ↔ ∃ y, x.at? steps = some y ∧ NullAt y rest name := by
  unfold NullAt
  rw [at?_append]
  cases x.at? steps <;> simp

/-- What a step leads to before and after a null member is left out. -/
inductive ChildMove (x : Json) (path : List Place) (name : String) (p : Place) : Prop
  /-- To the null member, which is gone. -/
  | gone (hpath : path = []) (hp : p = .member name) (hbefore : x.child? p = some .null)
      (hafter : (x.without name path).child? p = none)
  /-- On to the place of the null member. -/
  | inside (rest : List Place) (y : Json) (hpath : path = p :: rest) (hbefore : x.child? p = some y)
      (hnull : NullAt y rest name)
      (hafter : (x.without name path).child? p = some (y.without name rest))
  /-- To the same value. -/
  | same (hpath : ∀ rest, path ≠ p :: rest) (hp : path = [] → p ≠ .member name)
      (hsame : (x.without name path).child? p = x.child? p)

theorem childMove (h : NullAt x path name) (p : Place) : ChildMove x path name p := by
  cases path with
  | nil =>
    have hafter : (x.without name []).child? p = if p = .member name then none else x.child? p :=
      child?_drop name p x
    by_cases hp : p = .member name
    · rw [if_pos hp] at hafter
      exact .gone rfl hp (hp ▸ nullAt_nil.mp h) hafter
    · rw [if_neg hp] at hafter
      exact .same (fun _ => by simp) (fun _ => hp) hafter
  | cons q rest =>
    obtain ⟨y, hy, hnull⟩ := nullAt_cons.mp h
    have hafter : (x.without name (q :: rest)).child? p =
        if p = q then (x.child? p).map (without name rest) else x.child? p :=
      child?_changeChild (without name rest) q p x
    by_cases hp : p = q
    · subst hp
      rw [if_pos rfl, hy] at hafter
      exact .inside rest y rfl hy hnull hafter
    · rw [if_neg hp] at hafter
      refine .same (fun _ heq => hp (List.cons.inj heq).1.symm) (fun heq => ?_) hafter
      cases heq

/-- A value with a null member in it is a list or an object, and stays one without the member. -/
theorem NullAt.list_or_object (h : NullAt x path name) :
    (∃ items items', x = .list items ∧ x.without name path = .list items') ∨
      ∃ members members', x = .object members ∧ x.without name path = .object members' := by
  cases path with
  | nil =>
    cases x with
    | object members => exact .inr ⟨members, members.filter (·.1 != name), rfl, rfl⟩
    | _ => cases nullAt_nil.mp h
  | cons p rest =>
    obtain ⟨y, hy, -⟩ := nullAt_cons.mp h
    cases p with
    | member other =>
      cases x with
      | object members => exact .inr ⟨members, _, rfl, rfl⟩
      | _ => cases hy
    | item i =>
      cases x with
      | list items => exact .inl ⟨items, _, rfl, rfl⟩
      | _ => cases hy

/-- A value is another one without a member. -/
theorem NullAt.without_ne (h : NullAt x path name) : x.without name path ≠ x := by
  intro heq
  induction path generalizing x with
  | nil =>
    cases childMove h (.member name) with
    | gone _ _ hbefore hafter =>
      rw [heq, hbefore] at hafter
      cases hafter
    | inside _ _ hpath => cases hpath
    | same _ hp => exact hp rfl rfl
  | cons p rest ih =>
    cases childMove h p with
    | gone hpath => cases hpath
    | inside _ y hpath hbefore hnull hafter =>
      obtain rfl := (List.cons.inj hpath).2
      rw [heq, hbefore] at hafter
      exact ih hnull (Option.some.inj hafter).symm
    | same hpath => exact hpath rest rfl

end
end DatasetSearch.Json
