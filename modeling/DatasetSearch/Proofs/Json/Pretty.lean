import DatasetSearch.Proofs.Json.Spelling

/-! What is written on many lines is read back.

`Source.ofText?_pretty`: the text of a value without doubles is in the grammar, and its tree is the
value as it is spelled. A string comes back from its pieces and an integer from its digits
(`Proofs/Json/Spelling.lean`), so the tree holds all there is to know of the value. -/
namespace DatasetSearch.Json

/-- The values whose numbers are all integers. -/
inductive Whole : Json → Prop where
  | null : Whole null
  | bool (b : Bool) : Whole (bool b)
  | int (n : Int) : Whole (int n)
  | text (s : String) : Whole (text s)
  | list {items : List Json} (h : ∀ x ∈ items, Whole x) : Whole (list items)
  | object {members : List (String × Json)} (h : ∀ m ∈ members, Whole m.2) : Whole (object members)

mutual

/-- A value as it is spelled; what a double is spelled as is left open. -/
def spell : Json → Source
  | null => .null
  | bool b => .bool b
  | int n => .number (.ofInt n)
  | double _ => .null
  | text s => .text (Piece.writtenText s)
  | list items => .list (spellItems items)
  | object members => .object (spellMembers members)

def spellItems : List Json → List Source
  | [] => []
  | x :: items => x.spell :: spellItems items

def spellMembers : List (String × Json) → List (List Piece × Source)
  | [] => []
  | (name, x) :: members => (Piece.writtenText name, x.spell) :: spellMembers members

end

theorem spellItems_eq (items : List Json) : spellItems items = items.map spell := by
  induction items with
  | nil => rfl
  | cons x items ih => rw [spellItems, ih, List.map_cons]

theorem spellMembers_eq (members : List (String × Json)) :
    spellMembers members = members.map fun m => (Piece.writtenText m.1, m.2.spell) := by
  induction members with
  | nil => rfl
  | cons m members ih => rw [spellMembers, ih, List.map_cons]

/-! ### Space -/

namespace Source

theorem skipSpace_cons {c : Char} (h : isSpace c = false) (cs : List Char) :
    skipSpace (c :: cs) = c :: cs := List.dropWhile_cons_of_neg (by simp [h])

theorem skipSpace_append {space : List Char} (h : ∀ c ∈ space, isSpace c = true) (cs : List Char) :
    skipSpace (space ++ cs) = skipSpace cs := List.dropWhile_append_of_pos h

theorem value?_append {space : List Char} (h : ∀ c ∈ space, isSpace c = true) (fuel : Nat)
    (cs : List Char) : value? fuel (space ++ cs) = value? fuel cs := by
  cases fuel with
  | zero => rfl
  | succ fuel => rw [value?, value?, skipSpace_append h]

theorem value?_space (fuel : Nat) (cs : List Char) : value? fuel (' ' :: cs) = value? fuel cs := by
  have hspace : ∀ c ∈ [' '], isSpace c = true := by
    intro c hc
    rw [List.mem_singleton.mp hc]
    rfl
  exact value?_append hspace fuel cs

theorem items?_append {space : List Char} (h : ∀ c ∈ space, isSpace c = true) (fuel : Nat)
    (cs : List Char) : items? fuel (space ++ cs) = items? fuel cs := by
  cases fuel with
  | zero => rfl
  | succ fuel => rw [items?, items?, value?_append h]

theorem members?_append {space : List Char} (h : ∀ c ∈ space, isSpace c = true) (fuel : Nat)
    (cs : List Char) : members? fuel (space ++ cs) = members? fuel cs := by
  cases fuel with
  | zero => rfl
  | succ fuel => rw [members?, members?, skipSpace_append h]

theorem isSpace_of_mem_newLine {depth : Nat} : ∀ c ∈ newLine depth, isSpace c = true := by
  intro c hc
  rcases List.mem_cons.mp hc with rfl | hc
  · rfl
  · rw [List.eq_of_mem_replicate hc]
    rfl

theorem endsNumber_newLine (depth : Nat) (cs : List Char) : EndsNumber (newLine depth ++ cs) := by
  intro c hc
  cases hc
  decide

theorem endsNumber_comma (cs : List Char) : EndsNumber (',' :: cs) := by
  intro c hc
  cases hc
  decide

/-! ### One step of the grammar -/

section
variable {fuel depth : Nat} {c : Char} {cs rest : List Char} {x : Source} {s : String}

theorem textChars_append (s : String) (rest : List Char) :
    textChars s ++ rest = '"' :: (s.toList.flatMap escapeChar ++ '"' :: rest) := by
  simp [textChars]

theorem value?_text (s : String) (rest : List Char) :
    value? (fuel + 1) (textChars s ++ rest) = some (.text (Piece.writtenText s), rest) := by
  rw [textChars_append, value?, skipSpace_cons rfl]
  simp only [pieces?_textChars, Option.map_some]

theorem isSpace_of_isDigit {d : Char} (hd : d.isDigit = true) : isSpace d = false := by
  simp [isSpace, Double.ne_of_isDigit hd (show ' '.isDigit = false from rfl),
    Double.ne_of_isDigit hd (show '\n'.isDigit = false from rfl),
    Double.ne_of_isDigit hd (show '\t'.isDigit = false from rfl),
    Double.ne_of_isDigit hd (show '\r'.isDigit = false from rfl)]

theorem value?_int (n : Int) (hrest : EndsNumber rest) :
    value? (fuel + 1) (wholeChars n ++ rest) = some (.number (.ofInt n), rest) := by
  by_cases hn : n < 0
  · have hsign : wholeChars n ++ rest = '-' :: (Nat.toDigits 10 n.natAbs ++ rest) := by
      simp [wholeChars, hn]
    rw [hsign, value?, skipSpace_cons rfl]
    simp only [numeral?_toDigits true n.natAbs hrest, Option.map_some]
    simp [Numeral.ofInt, hn]
  · have hdigits : wholeChars n ++ rest = Nat.toDigits 10 n.natAbs ++ rest := by
      simp [wholeChars, hn]
    obtain ⟨d, ds, hds⟩ :=
      List.exists_cons_of_ne_nil (Nat.toDigits_ne_nil (n := n.natAbs) (b := 10))
    have hd : d.isDigit = true := Double.isDigit_of_mem (hds ▸ List.mem_cons_self ..)
    have hne (c : Char) (hc : c.isDigit = false) : d ≠ c := Double.ne_of_isDigit hd hc
    have hnumeral := numeral?_toDigits false n.natAbs hrest
    rw [hds, List.cons_append] at hnumeral
    rw [hdigits, hds, List.cons_append, value?, skipSpace_cons (isSpace_of_isDigit hd)]
    split
    · next h => exact absurd (List.cons.inj h).1 (hne 'n' rfl)
    · next h => exact absurd (List.cons.inj h).1 (hne 't' rfl)
    · next h => exact absurd (List.cons.inj h).1 (hne 'f' rfl)
    · next h => exact absurd (List.cons.inj h).1 (hne '"' rfl)
    · next h => exact absurd (List.cons.inj h).1 (hne '[' rfl)
    · next h => exact absurd (List.cons.inj h).1 (hne '\x7b' rfl)
    · next h => exact absurd (List.cons.inj h).1 (hne '-' rfl)
    · rw [hnumeral, Option.map_some, Numeral.ofInt, hds]
      simp [hn]

theorem value?_openList (hspace : isSpace c = false) (hne : c ≠ ']') :
    value? (fuel + 1) ('[' :: (newLine depth ++ c :: cs)) =
      (items? fuel (c :: cs)).map fun p => (.list p.1, p.2) := by
  rw [value?, skipSpace_cons rfl]
  simp only [skipSpace_append isSpace_of_mem_newLine, skipSpace_cons hspace]
  split
  · next h => exact absurd (List.cons.inj h).1 hne
  · rfl

theorem value?_openObject (s : String) :
    value? (fuel + 1) ('\x7b' :: (newLine depth ++ (textChars s ++ cs))) =
      (members? fuel (textChars s ++ cs)).map fun p => (.object p.1, p.2) := by
  have hquote : skipSpace (textChars s ++ cs) = textChars s ++ cs := rfl
  rw [value?, skipSpace_cons rfl]
  simp only [skipSpace_append isSpace_of_mem_newLine, hquote]
  rfl

theorem items?_close (h : value? fuel cs = some (x, newLine depth ++ ']' :: rest)) :
    items? (fuel + 1) cs = some ([x], rest) := by
  rw [items?, h]
  simp only [skipSpace_append isSpace_of_mem_newLine,
    skipSpace_cons (show isSpace ']' = false from rfl)]

theorem items?_comma (h : value? fuel cs = some (x, ',' :: rest)) :
    items? (fuel + 1) cs = (items? fuel rest).map fun p => (x :: p.1, p.2) := by
  rw [items?, h]
  simp only [skipSpace_cons (show isSpace ',' = false from rfl)]

theorem members?_close (h : value? fuel cs = some (x, newLine depth ++ '\x7d' :: rest)) :
    members? (fuel + 1) (textChars s ++ ':' :: ' ' :: cs) =
      some ([(Piece.writtenText s, x)], rest) := by
  rw [textChars_append, members?, skipSpace_cons rfl]
  simp only [pieces?_textChars, skipSpace_cons (show isSpace ':' = false from rfl), value?_space, h,
    skipSpace_append isSpace_of_mem_newLine, skipSpace_cons (show isSpace '\x7d' = false from rfl)]

theorem members?_comma (h : value? fuel cs = some (x, ',' :: rest)) :
    members? (fuel + 1) (textChars s ++ ':' :: ' ' :: cs) =
      (members? fuel rest).map fun p => ((Piece.writtenText s, x) :: p.1, p.2) := by
  rw [textChars_append, members?, skipSpace_cons rfl]
  simp only [pieces?_textChars, skipSpace_cons (show isSpace ':' = false from rfl), value?_space, h,
    skipSpace_cons (show isSpace ',' = false from rfl)]

end
end Source

/-! ### Whole values -/

open Source

/-- Whether a written value is read back, wherever it stands and whatever follows it. -/
def ReadsBack (x : Json) : Prop :=
  ∀ depth fuel rest, (x.prettyChars depth).length ≤ fuel → EndsNumber rest →
    value? fuel (x.prettyChars depth ++ rest) = some (x.spell, rest)

theorem items?_pretty {x : Json} {items : List Json} (h : ∀ y ∈ x :: items, y.ReadsBack)
    (depth fuel : Nat) (rest : List Char)
    (hfuel : (x.prettyChars (depth + 1) ++ prettyItems depth items).length ≤ fuel) :
    items? fuel (x.prettyChars (depth + 1) ++ (prettyItems depth items ++ rest)) =
      some (spellItems (x :: items), rest) := by
  obtain ⟨hx, hitems⟩ := List.forall_mem_cons.mp h
  induction items generalizing x fuel with
  | nil =>
    simp only [prettyItems, List.length_append, List.length_singleton] at hfuel
    obtain ⟨fuel, rfl⟩ : ∃ n, fuel = n + 1 := ⟨fuel - 1, by omega⟩
    have hvalue := hx (depth + 1) fuel (newLine depth ++ ']' :: rest) (by omega)
      (endsNumber_newLine depth _)
    simp only [prettyItems, List.append_assoc, List.singleton_append]
    exact items?_close hvalue
  | cons y items ih =>
    simp only [prettyItems, List.length_append, List.length_cons] at hfuel
    obtain ⟨fuel, rfl⟩ : ∃ n, fuel = n + 1 := ⟨fuel - 1, by omega⟩
    have hvalue := hx (depth + 1) fuel
      (',' :: (newLine (depth + 1) ++
        (y.prettyChars (depth + 1) ++ (prettyItems depth items ++ rest))))
      (by omega) (endsNumber_comma _)
    obtain ⟨hy, hrest⟩ := List.forall_mem_cons.mp hitems
    have hmore := ih hitems fuel (by simp only [List.length_append]; omega) hy hrest
    simp only [prettyItems, List.append_assoc, List.cons_append]
    rw [items?_comma hvalue, items?_append isSpace_of_mem_newLine, hmore]
    rfl

theorem members?_pretty {m : String × Json} {members : List (String × Json)}
    (h : ∀ n ∈ m :: members, n.2.ReadsBack) (depth fuel : Nat) (rest : List Char)
    (hfuel : (textChars m.1 ++ ':' :: ' ' :: m.2.prettyChars (depth + 1) ++
      prettyMembers depth members).length ≤ fuel) :
    members? fuel (textChars m.1 ++ ':' :: ' ' :: (m.2.prettyChars (depth + 1) ++
        (prettyMembers depth members ++ rest))) =
      some (spellMembers (m :: members), rest) := by
  obtain ⟨hm, hmembers⟩ := List.forall_mem_cons.mp h
  induction members generalizing m fuel with
  | nil =>
    simp only [prettyMembers, List.length_append, List.length_cons, List.length_nil] at hfuel
    obtain ⟨fuel, rfl⟩ : ∃ n, fuel = n + 1 := ⟨fuel - 1, by omega⟩
    have hvalue := hm (depth + 1) fuel (newLine depth ++ '\x7d' :: rest) (by omega)
      (endsNumber_newLine depth _)
    simp only [prettyMembers, List.append_assoc, List.singleton_append]
    exact members?_close hvalue
  | cons n members ih =>
    simp only [prettyMembers, List.length_append, List.length_cons] at hfuel
    obtain ⟨fuel, rfl⟩ : ∃ n, fuel = n + 1 := ⟨fuel - 1, by omega⟩
    have hvalue := hm (depth + 1) fuel
      (',' :: (newLine (depth + 1) ++ (textChars n.1 ++ ':' :: ' ' ::
        (n.2.prettyChars (depth + 1) ++ (prettyMembers depth members ++ rest)))))
      (by omega) (endsNumber_comma _)
    obtain ⟨hn, hrest⟩ := List.forall_mem_cons.mp hmembers
    have hmore := ih hmembers fuel
      (by simp only [List.length_append, List.length_cons]; omega) hn hrest
    simp only [prettyMembers, List.append_assoc, List.cons_append]
    rw [members?_comma hvalue, members?_append isSpace_of_mem_newLine, hmore]
    rfl

/-- A written value begins with a character of its own, which closes no list. -/
theorem Whole.exists_cons {x : Json} (h : x.Whole) (depth : Nat) :
    ∃ c cs, x.prettyChars depth = c :: cs ∧ isSpace c = false ∧ c ≠ ']' := by
  cases h with
  | null => exact ⟨_, _, rfl, rfl, by decide⟩
  | bool b => cases b <;> exact ⟨_, _, rfl, rfl, by decide⟩
  | int n =>
    have hne : wholeChars n ≠ [] := by
      rw [wholeChars]
      split
      · exact List.cons_ne_nil _ _
      · exact Nat.toDigits_ne_nil
    obtain ⟨c, cs, hcs⟩ := List.exists_cons_of_ne_nil hne
    refine ⟨c, cs, hcs, ?_⟩
    rcases mem_wholeChars (hcs ▸ List.mem_cons_self ..) with hc | rfl
    · exact ⟨isSpace_of_isDigit hc, Double.ne_of_isDigit hc rfl⟩
    · decide
  | text s => exact ⟨'"', _, rfl, rfl, by decide⟩
  | @list items h => cases items <;> exact ⟨'[', _, rfl, rfl, by decide⟩
  | @object members h => cases members <;> exact ⟨'\x7b', _, rfl, rfl, by decide⟩

/-- A written value is never empty, so there is fuel for its first step. -/
theorem Whole.readsBack_of_succ {x : Json} (hx : x.Whole)
    (h : ∀ depth fuel rest, (x.prettyChars depth).length ≤ fuel + 1 → EndsNumber rest →
      value? (fuel + 1) (x.prettyChars depth ++ rest) = some (x.spell, rest)) : x.ReadsBack := by
  intro depth fuel rest hfuel hrest
  cases fuel with
  | zero =>
    obtain ⟨c, cs, hcs, _⟩ := hx.exists_cons depth
    rw [hcs, List.length_cons] at hfuel
    omega
  | succ fuel => exact h depth fuel rest hfuel hrest

theorem readsBack_list {items : List Json} (hwhole : ∀ x ∈ items, x.Whole)
    (h : ∀ x ∈ items, x.ReadsBack) : (list items).ReadsBack := by
  refine (Whole.list hwhole).readsBack_of_succ fun depth fuel rest hfuel _ => ?_
  cases items with
  | nil => rfl
  | cons x items =>
    simp only [prettyChars, List.length_cons, List.length_append] at hfuel
    obtain ⟨c, cs, hcs, hspace, hne⟩ := (hwhole x (List.mem_cons_self ..)).exists_cons (depth + 1)
    have hitems := items?_pretty h depth fuel rest (by simp only [List.length_append]; omega)
    rw [hcs, List.cons_append] at hitems
    simp only [prettyChars, hcs, List.append_assoc, List.cons_append]
    rw [value?_openList hspace hne, hitems]
    rfl

theorem readsBack_object {members : List (String × Json)} (hwhole : ∀ m ∈ members, m.2.Whole)
    (h : ∀ m ∈ members, m.2.ReadsBack) : (object members).ReadsBack := by
  refine (Whole.object hwhole).readsBack_of_succ fun depth fuel rest hfuel _ => ?_
  cases members with
  | nil => rfl
  | cons m members =>
    simp only [prettyChars, List.length_cons, List.length_append] at hfuel
    have hmembers := members?_pretty h depth fuel rest
      (by simp only [List.length_cons, List.length_append]; omega)
    simp only [prettyChars, List.append_assoc, List.cons_append]
    rw [value?_openObject, hmembers]
    rfl

/-- Every value without doubles is read back from the text it is written as. -/
theorem Whole.readsBack {x : Json} (h : x.Whole) : x.ReadsBack := by
  induction h with
  | null => exact Whole.null.readsBack_of_succ fun _ _ _ _ _ => rfl
  | bool b => exact (Whole.bool b).readsBack_of_succ fun _ _ _ _ _ => by cases b <;> rfl
  | int n => exact (Whole.int n).readsBack_of_succ fun _ _ _ _ hrest => value?_int n hrest
  | text s => exact (Whole.text s).readsBack_of_succ fun _ _ rest _ _ => value?_text s rest
  | list hwhole ih => exact readsBack_list hwhole ih
  | object hwhole ih => exact readsBack_object hwhole ih

/-- The tree of a written text is the value as it is spelled. -/
theorem Source.ofText?_pretty {x : Json} (h : x.Whole) :
    Source.ofText? x.pretty = some x.spell := by
  have hend : EndsNumber [] := fun c hc => by cases hc
  have hvalue := h.readsBack 0 (2 * (x.prettyChars 0).length + 2) [] (by omega) hend
  rw [List.append_nil] at hvalue
  simp only [Source.ofText?, pretty, String.toList_ofList, hvalue]
  rfl

end DatasetSearch.Json
