import DatasetSearch.Proofs.Dictionaries
import DatasetSearch.Proofs.Query.RoundTrip
import DatasetSearch.Route
import Mathlib.Data.List.Basic

/-! A route can be read back from its text, but for what the text cannot tell.

Pairs collect under their keys in the order in which they come, whatever keys come in between
(`get?_ofPairs`). An empty single value and an empty list are not written, and a list of one item
comes back as a single value; all else comes back as it was (`text_reads_back`). -/
namespace DatasetSearch.Route
variable {q : Query} {key : String}

/-! ### Updates -/

theorem get?_foldl_applyEntry {l : List (String × Option Value)} (h : (l.map Prod.fst).Nodup) :
    (l.foldl applyEntry q).get? key = (l.lookup key).getD (q.get? key) := by
  induction l generalizing q with
  | nil => rfl
  | cons e rest ih =>
    obtain ⟨k, o⟩ := e
    obtain ⟨hk, hrest⟩ := List.nodup_cons.mp h
    have hentry : (applyEntry q (k, o)).get? key = if key = k then o else q.get? key := by
      cases o with
      | none => exact Sorted.get?_erase
      | some v => exact Sorted.get?_insert
    rw [List.foldl_cons, ih hrest, hentry, lookup_cons_eq]
    by_cases hn : key = k
    · subst hn
      rw [lookup_eq_none_of_not_mem hk, if_pos rfl, if_pos rfl]
      rfl
    · rw [if_neg hn, if_neg hn]

/-- An update decides about its own keys only. -/
theorem get?_apply (u : Update) : (apply q u).get? key = (u.get? key).getD (q.get? key) :=
  get?_foldl_applyEntry u.nodup_keys

/-- Of two updates the later one counts alone, if it says something of every key of the earlier. -/
theorem apply_apply {u v : Update}
    (h : ∀ key, v.get? key = none → u.get? key = none) :
    apply (apply q u) v = apply q v := by
  refine Sorted.eq_of_get? fun key => ?_
  rw [get?_apply, get?_apply, get?_apply]
  cases hv : v.get? key with
  | none => rw [h key hv, Option.getD_none, Option.getD_none]
  | some o => rfl

/-! ### Values collected from pairs -/

/-- The values that pairs have for a key, in their order. -/
def valuesAt (key : String) (ps : List (String × String)) : List String :=
  ps.filterMap fun p => if p.1 = key then some p.2 else none

/-- One value alone, or a list of them. -/
def collected : List String → Option Value
  | [] => none
  | [s] => some (.single s)
  | items => some (.many items)

theorem collected_append (vs : List String) (s : String) :
    collected (vs ++ [s]) = some (match collected vs with
      | none => .single s
      | some v => v.add s) := by
  match vs with
  | [] => rfl
  | [_] => rfl
  | _ :: _ :: _ => rfl

theorem get?_addPair {vs : List String} (p : String × String) (h : q.get? key = collected vs) :
    (addPair q p).get? key = collected (vs ++ if p.1 = key then [p.2] else []) := by
  obtain ⟨k, s⟩ := p
  by_cases hk : k = key
  · subst hk
    rw [if_pos rfl, collected_append, addPair, h]
    cases collected vs with
    | none => rw [Sorted.get?_insert, if_pos rfl]
    | some v => rw [Sorted.get?_insert, if_pos rfl]
  · rw [if_neg hk, List.append_nil, ← h, addPair]
    cases q.get? k with
    | none => rw [Sorted.get?_insert, if_neg (Ne.symm hk)]
    | some v => rw [Sorted.get?_insert, if_neg (Ne.symm hk)]

theorem get?_foldl_addPair {vs : List String} (ps : List (String × String))
    (h : q.get? key = collected vs) :
    (ps.foldl addPair q).get? key = collected (vs ++ valuesAt key ps) := by
  induction ps generalizing q vs with
  | nil => simp [valuesAt, h]
  | cons p ps ih =>
    rw [List.foldl_cons, ih (get?_addPair p h), List.append_assoc]
    by_cases hp : p.1 = key <;> simp [valuesAt, hp]

/-- Pairs of one key collect in their order. -/
theorem get?_ofPairs (ps : List (String × String)) :
    (ofPairs ps).get? key = collected (valuesAt key ps) := by
  have hempty : (Sorted.empty : Query).get? key = collected [] := rfl
  exact get?_foldl_addPair ps hempty

theorem valuesAt_append (ps qs : List (String × String)) :
    valuesAt key (ps ++ qs) = valuesAt key ps ++ valuesAt key qs :=
  List.filterMap_append

theorem valuesAt_map (name : String) (items : List String) :
    valuesAt key (items.map (name, ·)) = if name = key then items else [] := by
  by_cases hn : name = key <;> simp [valuesAt, hn, List.filterMap_map]

/-- When every entry writes its values under its own key, a key has the values of its entry. -/
theorem valuesAt_flatMap (w : Value → List String) {es : List (String × Value)}
    (h : (es.map Prod.fst).Nodup) :
    valuesAt key (es.flatMap fun e => (w e.2).map (e.1, ·)) = ((es.lookup key).map w).getD [] := by
  induction es with
  | nil => rfl
  | cons e rest ih =>
    obtain ⟨k, v⟩ := e
    obtain ⟨hk, hrest⟩ := List.nodup_cons.mp h
    rw [List.flatMap_cons, valuesAt_append, valuesAt_map, ih hrest, lookup_cons_eq]
    by_cases hn : k = key
    · subst hn
      simp [lookup_eq_none_of_not_mem hk]
    · simp [hn, Ne.symm hn]

/-! ### The text of a route -/

/-- What the text of a route shows of a single value. -/
def Value.shownSingle : Value → List String
  | .single s => if s.isEmpty then [] else [s]
  | .many _ => []

/-- What it shows of a list. -/
def Value.shownItems : Value → List String
  | .single _ => []
  | .many items => items

def Value.shown (v : Value) : List String := v.shownSingle ++ v.shownItems

theorem scalarPair?_toParam (k : String) (v : Value) :
    (Query.scalarPair? (k, v.toParam)).toList = v.shownSingle.map (k, ·) := by
  cases v with
  | single s => by_cases hs : s = "" <;> simp [Query.scalarPair?, Value.toParam, Value.shownSingle,
      Query.Value.isFalsy, Query.Value.scalarText?, hs]
  | many items => rfl

theorem listPairs_toParam (k : String) (v : Value) :
    Query.listPairs (k, v.toParam) = v.shownItems.map (k, ·) := by
  cases v <;> rfl

/-- The pairs that the text of a route holds. -/
def pairs (q : Query) : List (String × String) :=
  q.entries.flatMap (fun e => e.2.shownSingle.map (e.1, ·)) ++
    q.entries.flatMap fun e => e.2.shownItems.map (e.1, ·)

theorem decode_text (q : Query) : DatasetSearch.Query.decode (text q) = some (pairs q) := by
  have hkeys : ((q.entries.map fun e => (e.1, e.2.toParam)).map Prod.fst).Nodup := by
    rw [List.map_map]
    exact q.nodup_keys
  have hitems := Keyed.items_ofList hkeys
  rw [text, Query.encode, Query.decode_encodePairs, Query.pairs, hitems, pairs]
  congr 2
  · rw [List.filterMap_eq_flatMap_toList, List.flatMap_map]
    exact congrArg (List.flatMap · q.entries) (funext fun e => scalarPair?_toParam e.1 e.2)
  · rw [List.flatMap_map]
    exact congrArg (List.flatMap · q.entries) (funext fun e => listPairs_toParam e.1 e.2)

/-- A route read back has, for every key, what its text showed of the value. -/
theorem get?_ofPairs_pairs (q : Query) (key : String) :
    (ofPairs (pairs q)).get? key = (q.get? key).bind fun v => collected v.shown := by
  rw [get?_ofPairs, pairs, valuesAt_append, valuesAt_flatMap _ q.nodup_keys,
    valuesAt_flatMap _ q.nodup_keys, ← Sorted.get?]
  cases q.get? key <;> rfl

/-- What a value comes back as: nothing when it is an empty text or an empty list, a single value
when it is a list of one item, and else what it was. -/
def Value.reread : Value → Option Value
  | .single s => if s = "" then none else some (.single s)
  | .many [] => none
  | .many [s] => some (.single s)
  | .many items => some (.many items)

theorem collected_shown (v : Value) : collected v.shown = v.reread := by
  match v with
  | .single s => by_cases hs : s = "" <;> simp [Value.shown, Value.shownSingle, Value.shownItems,
      collected, Value.reread, hs]
  | .many [] => rfl
  | .many [_] => rfl
  | .many (_ :: _ :: _) => rfl

theorem ofPairs_pairs (q : Query) : ofPairs (pairs q) = q.filterMap Value.reread := by
  refine Sorted.eq_of_get? fun key => ?_
  rw [get?_ofPairs_pairs, Sorted.get?_filterMap]
  exact congrArg _ (funext collected_shown)

theorem valuesAt_eq (key : String) (ps : List (String × String)) :
    valuesAt key ps = (ps.filter (·.1 = key)).map Prod.snd := by
  rw [← List.filterMap_eq_map, List.filterMap_filter]
  simp only [valuesAt, decide_eq_true_eq, Function.comp_apply]

/-- A route is read back from its text with every value that is an empty text or an empty list gone
and every list of one item as a single value, and with no other change. The pairs of one key collect
in their order, a single one to a single value and several to a list. -/
theorem text_reads_back :
    (∀ q : Query, ∃ ps, DatasetSearch.Query.decode (text q) = some ps ∧
      (ofPairs ps).entries = q.entries.filterMap fun e => e.2.reread.map (e.1, ·)) ∧
    ∀ (ps : List (String × String)) (key : String),
      (ofPairs ps).get? key = match (ps.filter (·.1 = key)).map Prod.snd with
        | [] => none
        | [s] => some (.single s)
        | items => some (.many items) := by
  constructor
  · intro q
    exact ⟨pairs q, decode_text q, congrArg Sorted.entries (ofPairs_pairs q)⟩
  · intro ps key
    rw [get?_ofPairs, valuesAt_eq]
    rfl

end DatasetSearch.Route
