import DatasetSearch.Proofs.Json.Places

/-! Readings of a value, and whether a null member shows in them.

`ShowsAt spots f` says that leaving a null member out changes what `f` gives just when the member is
at one of the spots, and `Blind f` that it never does. A reading of a part shows what shows in that
part (`ShowsAt.child`, `ShowsAt.items`). A text with another one to fall back on shows the null that
stands in its place when there is the other (`ShowsAt.fallback`). -/
namespace DatasetSearch.Json

/-- A spot is given by a value, the place of an object in it and the name of a member. -/
abbrev Spots := Json → List Place → String → Prop

/-- Leaving a null member out shows in a reading just at some spots. -/
def ShowsAt {α : Type} (spots : Spots) (f : Json → α) : Prop :=
  ∀ ⦃x path name⦄, NullAt x path name → (f (x.without name path) = f x ↔ ¬spots x path name)

/-- Leaving a null member out does not show in a reading. -/
def Blind {α : Type} (f : Json → α) : Prop :=
  ∀ ⦃x path name⦄, NullAt x path name → f (x.without name path) = f x

/-- Spots behind a step into a value. -/
def within (p : Place) (spots : Spots) : Spots := fun x path name =>
  ∃ rest y, path = p :: rest ∧ x.child? p = some y ∧ spots y rest name

section
variable {α β : Type} {f : Json → α} {spots : Spots} {x y : Json} {p : Place}
  {path rest : List Place} {name : String}

theorem Blind.showsAt (h : Blind f) : ShowsAt (fun _ _ _ => False) f :=
  fun _ _ _ hnull => iff_of_true (h hnull) id

theorem ShowsAt.congr {spots' : Spots} (h : ShowsAt spots f)
    (hspots : ∀ x path name, spots x path name ↔ spots' x path name) : ShowsAt spots' f :=
  fun x path name hnull => (h hnull).trans (not_congr (hspots x path name))

theorem within_cons (hy : x.child? p = some y) :
    within p spots x (p :: rest) name ↔ spots y rest name := by
  constructor
  · intro ⟨rest', y', hpath, hy', hspot⟩
    obtain rfl := (List.cons.inj hpath).2
    obtain rfl := Option.some.inj (hy.symm.trans hy')
    exact hspot
  · exact fun hspot => ⟨rest, y, rfl, hy, hspot⟩

theorem not_within (h : ∀ rest, path ≠ p :: rest) : ¬within p spots x path name := by
  intro ⟨rest, _, hpath, _⟩
  exact h rest hpath

/-- Spots behind several steps. -/
theorem within_foldr (steps : List Place) :
    steps.foldr within spots x path name ↔
      ∃ rest y, path = steps ++ rest ∧ x.at? steps = some y ∧ spots y rest name := by
  induction steps generalizing x path with
  | nil =>
    constructor
    · exact fun hspot => ⟨path, x, rfl, rfl, hspot⟩
    · intro ⟨rest, y, hpath, hx, hspot⟩
      obtain rfl : path = rest := hpath
      obtain rfl := Option.some.inj hx
      exact hspot
  | cons p steps ih =>
    constructor
    · intro ⟨_, y, hpath, hy, hspot⟩
      obtain ⟨rest, z, hsteps, hz, hspot⟩ := ih.mp hspot
      rw [hsteps] at hpath
      exact ⟨rest, z, hpath, Option.bind_eq_some_iff.mpr ⟨y, hy, hz⟩, hspot⟩
    · intro ⟨rest, z, hpath, hz, hspot⟩
      obtain ⟨y, hy, hz⟩ := Option.bind_eq_some_iff.mp hz
      exact ⟨steps ++ rest, y, hpath, hy, ih.mpr ⟨rest, z, rfl, hz, hspot⟩⟩

/-! ### Parts -/

theorem Blind.scalar {a : α} (hlist : ∀ items, f (.list items) = a)
    (hobject : ∀ members, f (.object members) = a) : Blind f := by
  intro x path name hnull
  rcases hnull.list_or_object with ⟨items, items', hx, hx'⟩ | ⟨members, members', hx, hx'⟩
  · rw [hx', hx, hlist, hlist]
  · rw [hx', hx, hobject, hobject]

/-- What is read of an object, where a list gives nothing to read. -/
theorem Blind.ofObject {g : Json → α} {a : α} (h : Blind g) (hlist : ∀ items, f (.list items) = a)
    (hobject : ∀ members, f (.object members) = g (.object members)) : Blind f := by
  intro x path name hnull
  rcases hnull.list_or_object with ⟨items, items', hx, hx'⟩ | ⟨members, members', hx, hx'⟩
  · rw [hx', hx, hlist, hlist]
  · have hg := h hnull
    rw [hx', hx] at hg ⊢
    rw [hobject, hobject, hg]

/-- What is read of a part changes as it does for the part, where a null part is read as a missing
one. A change is a relation that holds of no change away from the spots. -/
theorem change_child {R : Prop → α → α → Prop} (hsame : ∀ {spot : Prop} (a : α), ¬spot → R spot a a)
    {r : Option Json → α} (hnone : r none = r (some .null))
    (h : ∀ ⦃x path name⦄, NullAt x path name →
      R (spots x path name) (r (some x)) (r (some (x.without name path))))
    (p : Place) (hnull : NullAt x path name) :
    R (within p spots x path name) (r (x.child? p)) (r ((x.without name path).child? p)) := by
  cases childMove hnull p with
  | gone hpath _ hbefore hafter =>
    rw [hbefore, hafter, hnone]
    exact hsame _ (not_within fun rest => by simp [hpath])
  | inside rest y hpath hbefore hnull' hafter =>
    rw [hbefore, hafter, hpath, within_cons hbefore]
    exact h hnull'
  | same hpath _ hequal =>
    rw [hequal]
    exact hsame _ (not_within hpath)

theorem ShowsAt.child {r : Option Json → α} (h : ShowsAt spots fun x => r (some x))
    (hnone : r none = r (some .null)) (p : Place) :
    ShowsAt (within p spots) fun x => r (x.child? p) := by
  have hsame {spot : Prop} (a : α) (hspot : ¬spot) : a = a ↔ ¬spot := iff_of_true rfl hspot
  intro x path name hnull
  exact change_child (R := fun spot before after => after = before ↔ ¬spot) hsame hnone h p hnull

theorem Blind.child {r : Option Json → α} (h : Blind fun x => r (some x))
    (hnone : r none = r (some .null)) (p : Place) : Blind fun x => r (x.child? p) := by
  intro x path name hnull
  refine (h.showsAt.child hnone p hnull).mpr ?_
  intro ⟨_, _, _, _, hfalse⟩
  exact hfalse

theorem filterMap_modify {g : α → Option β} {change : α → α} {l : List α} {i : Nat} {a : α}
    (ha : l[i]? = some a) :
    (l.modify i change).filterMap g = l.filterMap g ↔ g (change a) = g a := by
  induction l generalizing i with
  | nil => cases ha
  | cons b rest ih =>
    cases i with
    | zero =>
      obtain rfl := Option.some.inj ha
      rw [List.modify_zero_cons, List.filterMap_cons, List.filterMap_cons]
      cases g (change b) <;> cases g b <;> simp
    | succ i =>
      rw [List.modify_succ_cons, List.filterMap_cons, List.filterMap_cons]
      cases g b <;> simp [ih ha]

/-- What is read of each item shows what shows in one of them. -/
theorem ShowsAt.items {g : Json → Option β} (h : ShowsAt spots g) :
    ShowsAt (fun x path name => ∃ i, within (.item i) spots x path name)
      fun x => (x.asList?.getD []).filterMap g := by
  intro x path name hnull
  cases path with
  | nil =>
    cases x with
    | object members => exact iff_of_true rfl (by simp [within])
    | _ => cases nullAt_nil.mp hnull
  | cons p rest =>
    obtain ⟨y, hy, hnull'⟩ := nullAt_cons.mp hnull
    cases p with
    | member other =>
      cases x with
      | object members => exact iff_of_true rfl (by simp [within])
      | _ => cases hy
    | item i =>
      cases x with
      | list items =>
        refine (filterMap_modify hy).trans ((h hnull').trans ?_)
        apply not_congr
        constructor
        · exact fun hspot => ⟨i, (within_cons hy).mpr hspot⟩
        · intro ⟨j, hspot⟩
          have hij : i = j := by
            obtain ⟨_, _, hpath, -⟩ := hspot
            exact Place.item.inj (List.cons.inj hpath).1
          rw [← hij] at hspot
          exact (within_cons hy).mp hspot
      | _ => cases hy

theorem Blind.items {g : Json → Option β} (h : Blind g) :
    Blind fun x => (x.asList?.getD []).filterMap g := by
  intro x path name hnull
  refine (h.showsAt.items hnull).mpr ?_
  intro ⟨_, _, _, _, _, hfalse⟩
  exact hfalse

/-! ### A text with another one to fall back on -/

/-- What becomes of a value that is read when a null member is left out: it was the null and is
gone, or it is and stays a list or an object, or it is the same. -/
inductive Shift (gone : Prop) : Option Json → Option Json → Prop
  | gone (h : gone) : Shift gone (some .null) none
  | inside (h : ¬gone) {x y : Json} (hx : x.asText? = none) (hy : y.asText? = none) :
    Shift gone (some x) (some y)
  | same (h : ¬gone) (value : Option Json) : Shift gone value value

/-- A value that is read is the null just at some spots. -/
def ShiftsAt (spots : Spots) (f : Json → Option Json) : Prop :=
  ∀ ⦃x path name⦄, NullAt x path name → Shift (spots x path name) (f x) (f (x.without name path))

theorem Shift.bind_asText? {gone : Prop} {before after : Option Json}
    (h : Shift gone before after) : after.bind asText? = before.bind asText? := by
  cases h with
  | gone _ => rfl
  | inside _ hx hy => exact hy.trans hx.symm
  | same _ _ => rfl

theorem Shift.congr {gone gone' : Prop} {before after : Option Json} (h : Shift gone before after)
    (hgone : gone ↔ gone') : Shift gone' before after := by
  rwa [← propext hgone]

theorem shiftsAt_member (name : String) :
    ShiftsAt (fun _ path other => path = [] ∧ other = name) (member? name) := by
  intro x path other hnull
  show Shift _ (x.child? (.member name)) ((x.without other path).child? (.member name))
  cases childMove hnull (.member name) with
  | gone hpath hp hbefore hafter =>
    rw [hbefore, hafter]
    exact .gone ⟨hpath, (Place.member.inj hp).symm⟩
  | inside rest y hpath hbefore hnull' hafter =>
    rw [hbefore, hafter]
    have hnot : ¬(path = [] ∧ other = name) := by simp [hpath]
    rcases hnull'.list_or_object with ⟨_, _, hy, hy'⟩ | ⟨_, _, hy, hy'⟩
    · exact .inside hnot (by rw [hy]; rfl) (by rw [hy']; rfl)
    · exact .inside hnot (by rw [hy]; rfl) (by rw [hy']; rfl)
  | same _ hp hsame =>
    rw [hsame]
    exact .same (fun h => hp h.1 (congrArg Place.member h.2.symm)) _

theorem ShiftsAt.child {r : Option Json → Option Json} (h : ShiftsAt spots fun x => r (some x))
    (hnone : r none = r (some .null)) (p : Place) :
    ShiftsAt (within p spots) fun x => r (x.child? p) := by
  intro x path name hnull
  exact change_child (fun value hspot => .same hspot value) hnone h p hnull

theorem bind_asText?_eq_iff (g : Option String → α) (o : Option Json) :
    g (o.bind asText?) = g none ↔ ¬∃ own, o = some (.text own) ∧ g (some own) ≠ g none := by
  cases o with
  | none => simp
  | some x => cases x <;> simp [asText?]

/-- A text, or else another one, shows the null in place of the first when there is the other. -/
theorem ShowsAt.fallback {first second : Json → Option Json} {spots' : Spots}
    (h : ShiftsAt spots first) (h' : ShiftsAt spots' second) (g : Option String → α) :
    ShowsAt (fun x path name => spots x path name ∧
        ∃ own, second x = some (.text own) ∧ g (some own) ≠ g none)
      fun x => g (((first x).or (second x)).bind asText?) := by
  intro x path name hnull
  have hsecond := (h' hnull).bind_asText?
  have hfirst := h hnull
  show g (((first (x.without name path)).or _).bind asText?) = _ ↔ _
  generalize first (x.without name path) = after at hfirst ⊢
  show _ = g (((first x).or _).bind asText?) ↔ _
  generalize first x = before at hfirst ⊢
  cases hfirst with
  | gone hspot =>
    show g ((second (x.without name path)).bind asText?) = g none ↔ _
    rw [hsecond, bind_asText?_eq_iff]
    simp only [hspot, true_and]
  | inside hspot hx hy =>
    exact iff_of_true (congrArg g (hy.trans hx.symm)) fun h => hspot h.1
  | same hspot =>
    refine iff_of_true ?_ fun h => hspot h.1
    cases after with
    | none => exact congrArg g hsecond
    | some _ => rfl

end
end DatasetSearch.Json
