import DatasetSearch.Keyed
import DatasetSearch.Proofs.Lookup
import DatasetSearch.Sorted
import Mathlib.Data.List.Basic

/-! Looking keys up after writing them. -/
namespace DatasetSearch

/-! ### Lists that hold each key once -/

namespace Keyed
variable {α : Type} {key : α → String}

theorem place_of_not_mem {a : α} {l : List α} (h : key a ∉ l.map key) : place key a l = l ++ [a] := by
  induction l with
  | nil => rfl
  | cons b rest ih =>
    obtain ⟨hb, hrest⟩ := not_or.mp (mt List.mem_cons.mpr h)
    rw [place, if_neg (Ne.symm hb), ih hrest, List.cons_append]

/-- Items of new keys go to the end in their order. -/
theorem items_putAll {k : Keyed key} {l : List α} (h : ((k.items ++ l).map key).Nodup) :
    (k.putAll l).items = k.items ++ l := by
  induction l generalizing k with
  | nil => rw [List.append_nil]; rfl
  | cons a rest ih =>
    have hnew : key a ∉ k.items.map key := by
      rw [List.map_append, List.nodup_append] at h
      exact fun hmem => h.2.2 _ hmem _ (List.mem_cons_self ..) rfl
    have hput : (k.put a).items = k.items ++ [a] := place_of_not_mem hnew
    have hstep : k.putAll (a :: rest) = (k.put a).putAll rest := rfl
    rw [hstep, ih (by simpa [hput] using h), hput, List.append_assoc, List.singleton_append]

theorem items_ofList {l : List α} (h : (l.map key).Nodup) : (ofList l : Keyed key).items = l :=
  items_putAll (k := empty) h

theorem items_put (k : Keyed key) (a : α) : (k.put a).items = place key a k.items := rfl

/-- Writing an item of another key leaves an item where it stands, whatever the item. -/
theorem place_append_cons {a b : α} (h : key a ≠ key b) (before after : List α) :
    place key a (before ++ b :: after) =
      if key a ∈ before.map key then place key a before ++ b :: after
      else before ++ b :: place key a after := by
  induction before with
  | nil => simp [place, Ne.symm h]
  | cons c rest ih =>
    by_cases hc : key c = key a
    · simp [place, hc]
    · simp only [List.cons_append, place, if_neg hc, ih, List.map_cons, List.mem_cons,
        Ne.symm hc, false_or]
      split <;> rfl

/-- What is written around an item of another key does not hang on the item. -/
theorem exists_items_putAll {name : String} {l : List α} (h : name ∉ l.map key)
    (before after : List α) :
    ∃ before' after', ∀ (k : Keyed key) (b : α), key b = name → k.items = before ++ b :: after →
      (k.putAll l).items = before' ++ b :: after' := by
  induction l generalizing before after with
  | nil => exact ⟨before, after, fun k b _ hk => hk⟩
  | cons a rest ih =>
    obtain ⟨ha, hrest⟩ := not_or.mp (mt List.mem_cons.mpr h)
    have hput : ∃ before₁ after₁, ∀ (k : Keyed key) (b : α), key b = name →
        k.items = before ++ b :: after → (k.put a).items = before₁ ++ b :: after₁ := by
      by_cases hmem : key a ∈ before.map key
      · refine ⟨place key a before, after, fun k b hb hk => ?_⟩
        rw [items_put, hk, place_append_cons (fun he => ha (he.trans hb).symm), if_pos hmem]
      · refine ⟨before, place key a after, fun k b hb hk => ?_⟩
        rw [items_put, hk, place_append_cons (fun he => ha (he.trans hb).symm), if_neg hmem]
    obtain ⟨before₁, after₁, hstep⟩ := hput
    obtain ⟨before', after', hitems⟩ := ih hrest before₁ after₁
    exact ⟨before', after', fun k b hb hk => hitems (k.put a) b hb (hstep k b hb hk)⟩

theorem eq_of_items {k k' : Keyed key} (h : k.items = k'.items) : k = k' := by
  cases k
  cases k'
  cases h
  rfl

theorem ofList_items (k : Keyed key) : ofList k.items = k := eq_of_items (items_ofList k.distinct)

theorem find?_place {a : α} {l : List α} {name : String} :
    (place key a l).find? (key · == name) =
      if key a = name then some a else l.find? (key · == name) := by
  induction l with
  | nil => by_cases h : key a = name <;> simp [place, h]
  | cons b rest ih =>
    rw [place]
    split
    · next hb => by_cases h : key a = name <;> simp [hb, h]
    · next hb =>
      by_cases h : key b = name
      · have ha : key a ≠ name := fun ha => hb (h.trans ha.symm)
        simp [h, ha]
      · simp [h, ih]

theorem find?_put (k : Keyed key) (a : α) (name : String) :
    (k.put a).find? name = if key a = name then some a else k.find? name :=
  find?_place

theorem putAll_cons (k : Keyed key) (a : α) (l : List α) :
    k.putAll (a :: l) = (k.put a).putAll l := rfl

/-- What is put last under a key is what is found. -/
theorem find?_putAll (k : Keyed key) (l : List α) (name : String) :
    (k.putAll l).find? name = ((l.filter (key · == name)).getLast?).or (k.find? name) := by
  induction l generalizing k with
  | nil => rfl
  | cons a rest ih =>
    rw [putAll_cons, ih, find?_put]
    by_cases h : key a = name
    · rw [List.filter_cons_of_pos (by simpa using h), List.getLast?_cons, if_pos h]
      cases (rest.filter (key · == name)).getLast? <;> rfl
    · rw [List.filter_cons_of_neg (by simpa using h), if_neg h]

/-- New keys go to the end in the order in which they first come. -/
theorem keys_putAll (k : Keyed key) (l : List α) :
    (k.putAll l).keys = k.keys ++ ((l.map key).removeAll k.keys).eraseDups := by
  induction l generalizing k with
  | nil => simp [putAll, List.removeAll]
  | cons a rest ih =>
    rw [putAll_cons, ih, keys_put, List.map_cons]
    by_cases h : key a ∈ k.keys
    · simp [h, List.removeAll]
    · have hrest : (rest.map key).removeAll (k.keys ++ [key a]) =
          ((rest.map key).removeAll k.keys).filter (!· == key a) := by
        rw [List.removeAll, List.removeAll, List.filter_filter]
        refine List.filter_congr fun x _ => ?_
        by_cases hx : x = key a <;> simp [hx]
      have hnew : (key a :: rest.map key).removeAll k.keys =
          key a :: (rest.map key).removeAll k.keys := by simp [h, List.removeAll]
      rw [if_neg h, hrest, hnew, List.eraseDups_cons, List.append_assoc, List.singleton_append]

theorem eq_filterMap_find? {l : List α} (h : (l.map key).Nodup) :
    l = (l.map key).filterMap fun name => l.find? (key · == name) := by
  induction l with
  | nil => rfl
  | cons a rest ih =>
    obtain ⟨ha, hrest⟩ := List.nodup_cons.mp h
    have hothers : (rest.map key).filterMap (fun name => (a :: rest).find? (key · == name)) =
        (rest.map key).filterMap fun name => rest.find? (key · == name) := by
      refine List.filterMap_congr fun name hname => ?_
      rw [List.find?_cons_of_neg]
      simpa using fun he : key a = name => ha (he ▸ hname)
    rw [List.map_cons, List.filterMap_cons, hothers, ← ih hrest]
    simp

/-- Where all keys are different, an item is what is found under its key. -/
theorem find?_of_mem {l : List α} (h : (l.map key).Nodup) {a : α} (ha : a ∈ l) :
    l.find? (key · == key a) = some a := by
  induction l with
  | nil => cases ha
  | cons b rest ih =>
    obtain ⟨hb, hrest⟩ := List.nodup_cons.mp h
    rcases List.mem_cons.mp ha with rfl | ha
    · exact List.find?_cons_of_pos (by simp)
    · have hne : key b ≠ key a := fun he => hb (he ▸ List.mem_map_of_mem ha)
      rw [List.find?_cons_of_neg (by simpa using hne)]
      exact ih hrest ha

theorem find?_eq_some_iff {k : Keyed key} {name : String} {a : α} :
    k.find? name = some a ↔ a ∈ k.items ∧ key a = name := by
  constructor
  · intro ha
    exact ⟨List.mem_of_find?_eq_some ha, beq_iff_eq.mp (List.find?_some ha :)⟩
  · rintro ⟨ha, rfl⟩
    exact find?_of_mem k.distinct ha

theorem isSome_find? {k : Keyed key} {name : String} :
    (k.find? name).isSome = true ↔ name ∈ k.keys := by
  simp only [Option.isSome_iff_exists, find?_eq_some_iff, keys, List.mem_map]

theorem mem_items_put {k : Keyed key} {a b : α} :
    b ∈ (k.put a).items ↔ a = b ∨ key a ≠ key b ∧ b ∈ k.items := by
  have hmem (k : Keyed key) : b ∈ k.items ↔ k.find? (key b) = some b := by
    simp [find?_eq_some_iff]
  rw [hmem, hmem, find?_put]
  by_cases hkey : key a = key b
  · simp [hkey]
  · have hne : a ≠ b := fun hab => hkey (congrArg key hab)
    simp [hkey, hne]

theorem keys_ofList (l : List α) : (ofList l : Keyed key).keys = (l.map key).eraseDups := by
  have hnone : (empty : Keyed key).keys = [] := rfl
  rw [ofList, keys_putAll, hnone, List.removeAll_nil, List.nil_append]

/-- The list that items make stands in the order in which their keys first come, and holds the last
item of each. -/
theorem items_ofList_eq (l : List α) :
    (ofList l : Keyed key).items =
      (l.map key).eraseDups.filterMap fun name => (l.filter (key · == name)).getLast? := by
  rw [eq_filterMap_find? (ofList l : Keyed key).distinct, ← keys, keys_ofList]
  refine List.filterMap_congr fun name _ => ?_
  refine (find?_putAll empty l name).trans ?_
  exact Option.or_none

theorem items_erase_of_not_mem {k : Keyed key} {name : String} (h : name ∉ k.keys) :
    (k.erase name).items = k.items := by
  refine List.filter_eq_self.mpr fun a ha => ?_
  have hne : key a ≠ name := fun he => h (he ▸ List.mem_map_of_mem ha)
  simpa using hne

end Keyed

/-! ### Dictionaries in the order of their keys -/

namespace Sorted
variable {α : Type} {d : Sorted α} {key name : String} {value : α}

theorem lookup_place (l : List (String × α)) :
    (place key value l).lookup name = if name = key then some value else l.lookup name := by
  induction l with
  | nil => rw [place, lookup_cons_eq]
  | cons e rest ih =>
    obtain ⟨k, v⟩ := e
    simp only [place]
    split
    · rw [lookup_cons_eq]
    · split
      · next heq =>
        subst heq
        rw [lookup_cons_eq, lookup_cons_eq]
        by_cases hn : name = key <;> simp [hn]
      · next hne =>
        rw [lookup_cons_eq, lookup_cons_eq, ih]
        by_cases hk : name = k
        · have hn : name ≠ key := fun hn => hne (hn.symm.trans hk)
          rw [if_pos hk, if_neg hn, if_pos hk]
        · rw [if_neg hk, if_neg hk]

theorem get?_insert : (d.insert key value).get? name = if name = key then some value else d.get? name :=
  lookup_place d.entries

theorem lookup_filter (l : List (String × α)) :
    (l.filter (·.1 != key)).lookup name = if name = key then none else l.lookup name := by
  by_cases h : name = key
  · subst h
    rw [lookup_filter_self, if_pos rfl]
  · rw [lookup_filter_of_ne h, if_neg h]

theorem get?_erase : (d.erase key).get? name = if name = key then none else d.get? name :=
  lookup_filter d.entries

theorem nodup_keys (d : Sorted α) : (d.entries.map Prod.fst).Nodup := by
  refine List.pairwise_map.mpr (d.ordered.imp ?_)
  exact fun hlt heq => String.lt_irrefl _ (heq ▸ hlt)

theorem mem_keys_iff : name ∈ d.keys ↔ (d.get? name).isSome = true := by
  constructor
  · intro h
    obtain ⟨⟨_, v⟩, hmem, rfl⟩ := List.mem_map.mp h
    have hfound : d.get? _ = some v := (lookup_eq_some_iff_mem d.nodup_keys).mpr hmem
    rw [hfound]
    rfl
  · intro h
    obtain ⟨v, hv⟩ := Option.isSome_iff_exists.mp h
    exact List.mem_map_of_mem (f := Prod.fst) ((lookup_eq_some_iff_mem d.nodup_keys).mp hv)

theorem nodup_entries (d : Sorted α) : d.entries.Nodup := by
  refine d.ordered.imp ?_
  rintro a b hlt rfl
  exact String.lt_irrefl _ hlt

theorem get?_foldl_insert {l : List (String × α)} (h : (l.map Prod.fst).Nodup) :
    (l.foldl (fun d e => d.insert e.1 e.2) d).get? name = (l.lookup name).or (d.get? name) := by
  induction l generalizing d with
  | nil => rfl
  | cons e rest ih =>
    obtain ⟨k, v⟩ := e
    obtain ⟨hk, hrest⟩ := List.nodup_cons.mp h
    rw [List.foldl_cons, ih hrest, get?_insert, lookup_cons_eq]
    by_cases hn : name = k
    · subst hn
      rw [lookup_eq_none_of_not_mem hk, if_pos rfl, if_pos rfl]
      rfl
    · rw [if_neg hn, if_neg hn]

theorem get?_ofList {l : List (String × α)} (h : (l.map Prod.fst).Nodup) :
    (ofList l).get? name = l.lookup name := by
  rw [ofList, get?_foldl_insert h]
  exact Option.or_none

/-- Dictionaries that answer every look-up alike are equal. -/
theorem eq_of_get? {d e : Sorted α} (h : ∀ name, d.get? name = e.get? name) : d = e := by
  have hmem : ∀ x, x ∈ d.entries ↔ x ∈ e.entries := by
    rintro ⟨name, value⟩
    rw [← lookup_eq_some_iff_mem d.nodup_keys, ← lookup_eq_some_iff_mem e.nodup_keys]
    exact iff_of_eq (congrArg (· = some value) (h name))
  have hperm : d.entries.Perm e.entries :=
    (List.perm_ext_iff_of_nodup d.nodup_entries e.nodup_entries).mpr hmem
  have hentries : d.entries = e.entries :=
    hperm.eq_of_pairwise (fun a b _ _ hab hba => (String.lt_irrefl _ (String.lt_trans hab hba)).elim)
      d.ordered e.ordered
  cases d
  cases e
  cases hentries
  rfl

/-! ### Changing values and laying over -/

section
variable {β : Type} {f : α → Option β}

/-- The entries whose values `f` keeps, with what it makes of them. -/
def filterMap (f : α → Option β) (d : Sorted α) : Sorted β where
  entries := d.entries.filterMap fun e => (f e.2).map (e.1, ·)
  ordered := by
    refine d.ordered.filterMap _ fun e e' hlt x hx x' hx' => ?_
    obtain ⟨_, _, rfl⟩ := Option.map_eq_some_iff.mp hx
    obtain ⟨_, _, rfl⟩ := Option.map_eq_some_iff.mp hx'
    exact hlt

theorem lookup_filterMap {l : List (String × α)} (h : (l.map Prod.fst).Nodup) :
    (l.filterMap fun e => (f e.2).map (e.1, ·)).lookup name = (l.lookup name).bind f := by
  induction l with
  | nil => rfl
  | cons e rest ih =>
    obtain ⟨k, v⟩ := e
    obtain ⟨hk, hrest⟩ := List.nodup_cons.mp h
    rw [List.filterMap_cons, lookup_cons_eq]
    by_cases hn : name = k
    · subst hn
      have hnone := ih hrest
      rw [lookup_eq_none_of_not_mem hk] at hnone
      cases hf : f v with
      | none => simp [hf, hnone]
      | some b => simp [hf]
    · cases hf : f v with
      | none => simp [hn, ih hrest]
      | some b => simp [hn, lookup_cons_eq, ih hrest]

theorem get?_filterMap : (d.filterMap f).get? name = (d.get? name).bind f :=
  lookup_filterMap d.nodup_keys

end

/-- The entries of both; where they have a key in common, that of `e`. -/
def overlay (d e : Sorted α) : Sorted α := e.entries.foldl (fun d x => d.insert x.1 x.2) d

theorem get?_overlay {e : Sorted α} :
    (d.overlay e).get? name = (e.get? name).or (d.get? name) :=
  get?_foldl_insert e.nodup_keys

end Sorted
end DatasetSearch
