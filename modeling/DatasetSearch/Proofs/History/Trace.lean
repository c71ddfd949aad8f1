import DatasetSearch.Proofs.History.Stored

/-! What a history holds of all that was done to it.

A `trace` tells which entries were written and which keys were erased, first those of the stored
entries. A key is held just when its last writing comes after its last erasure; its entry is the one
that was written last, and the keys stand in the order in which they were first written since they
were last erased (`Tells`). One mark keeps this, and by induction every run does
(`run_tells_trace`). -/
namespace DatasetSearch.History

/-- What can be done to a history. -/
inductive Edit where
  | log (key : String) (kind : HistoryKind) (date : Int)
  | forget (key : String)
  | reload
deriving DecidableEq

def edit (h : History) : Edit → History
  | .log key kind date => h.log key kind date
  | .forget key => (h.delete key).1
  | .reload => ofStored h.toStored

/-- Carries edits out one after the other. -/
def run (h : History) : List Edit → History
  | [] => h
  | e :: rest => run (h.edit e) rest

/-! ### Traces -/

/-- One place of a trace. -/
inductive Mark where
  | write (e : HistoryEntry)
  | erase (key : String)
deriving DecidableEq

/-- The kind of a stored name. A missing or unknown one is a term. -/
def kindNamed : Option String → HistoryKind
  | some "creator" => .creator
  | some "subject" => .subject
  | some "funder" => .funder
  | some "database" => .database
  | _ => .term

/-- What an edit tells. An empty text is not written. -/
def Edit.marks : Edit → List Mark
  | .log key kind date => if key = "" then [] else [.write ⟨key, date, kind⟩]
  | .forget key => [.erase key]
  | .reload => []

/-- What is told of a history that is loaded from stored entries and then edited. -/
def trace (rs : List StoredEntry) (es : List Edit) : List Mark :=
  (rs.map fun r => .write ⟨r.key, r.date, kindNamed r.kind⟩) ++ es.flatMap Edit.marks

/-- The mark at a place writes a key. -/
def Writes (t : List Mark) (key : String) (i : Nat) : Prop :=
  ∃ e, t[i]? = some (.write e) ∧ e.key = key

/-- The mark at a place erases a key. -/
def Erases (t : List Mark) (key : String) (i : Nat) : Prop := t[i]? = some (.erase key)

/-- The mark at a place writes an entry, and no later one writes its key. -/
def LastWrite (t : List Mark) (e : HistoryEntry) (i : Nat) : Prop :=
  t[i]? = some (.write e) ∧ ∀ j, Writes t e.key j → j ≤ i

/-- The last erasure of a key, if any, comes before a place. -/
def ErasedBefore (t : List Mark) (key : String) (i : Nat) : Prop := ∀ j, Erases t key j → j < i

/-- The mark at a place is the first to write a key since its last erasure. -/
def FirstSince (t : List Mark) (key : String) (i : Nat) : Prop :=
  Writes t key i ∧ ErasedBefore t key i ∧ ∀ j < i, Writes t key j → ∃ k, j < k ∧ Erases t key k

/-- The last writing of an entry's key is that of the entry, and comes after the last erasure. -/
def Stands (t : List Mark) (e : HistoryEntry) : Prop :=
  ∃ i, LastWrite t e i ∧ ErasedBefore t e.key i

/-- Every writing of a key is followed by an erasure. -/
def Gone (t : List Mark) (key : String) : Prop :=
  ∀ j, Writes t key j → ∃ k, j < k ∧ Erases t key k

/-- A history holds what a trace tells. That a key which is not held is gone is what puts it at the
end when it is written again. -/
structure Tells (t : List Mark) (h : History) : Prop where
  held : ∀ e, e ∈ h.items ↔ Stands t e
  gone : ∀ key, key ∉ h.keys → Gone t key
  first : ∀ key ∈ h.keys, ∃ i, FirstSince t key i
  ordered : h.keys.Pairwise fun a b => ∃ i j, FirstSince t a i ∧ FirstSince t b j ∧ i < j

/-! ### One more mark -/

section
variable {t : List Mark} {a e : HistoryEntry} {key name : String} {i j : Nat}

theorem getElem?_snoc {m m' : Mark} :
    (t ++ [m])[j]? = some m' ↔ t[j]? = some m' ∨ j = t.length ∧ m = m' := by
  rw [List.getElem?_append]
  split
  · next hj => simp [Nat.ne_of_lt hj]
  · next hj =>
    rw [List.getElem?_eq_none (Nat.not_lt.mp hj), List.getElem?_singleton]
    split <;> simp <;> omega

theorem Writes.lt_length (h : Writes t key j) : j < t.length :=
  let ⟨_, hj, _⟩ := h
  (List.getElem?_eq_some_iff.mp hj).1

theorem Erases.lt_length (h : Erases t key j) : j < t.length := (List.getElem?_eq_some_iff.mp h).1

theorem writes_snoc_write :
    Writes (t ++ [.write a]) key j ↔ Writes t key j ∨ j = t.length ∧ a.key = key := by
  simp only [Writes, getElem?_snoc, Mark.write.injEq]
  constructor
  · rintro ⟨e, he | ⟨hj, rfl⟩, hkey⟩
    · exact .inl ⟨e, he, hkey⟩
    · exact .inr ⟨hj, hkey⟩
  · rintro (⟨e, he, hkey⟩ | ⟨hj, hkey⟩)
    · exact ⟨e, .inl he, hkey⟩
    · exact ⟨a, .inr ⟨hj, rfl⟩, hkey⟩

@[simp] theorem writes_snoc_erase : Writes (t ++ [.erase name]) key j ↔ Writes t key j := by
  simp [Writes, getElem?_snoc]

@[simp] theorem erases_snoc_write : Erases (t ++ [.write a]) key j ↔ Erases t key j := by
  simp [Erases, getElem?_snoc]

theorem erases_snoc_erase :
    Erases (t ++ [.erase name]) key j ↔ Erases t key j ∨ j = t.length ∧ name = key := by
  simp only [Erases, getElem?_snoc, Mark.erase.injEq]

theorem stands_snoc_write :
    Stands (t ++ [.write a]) e ↔ a = e ∨ a.key ≠ e.key ∧ Stands t e := by
  constructor
  · rintro ⟨i, ⟨hat, hlast⟩, hbefore⟩
    rcases getElem?_snoc.mp hat with hi | ⟨-, hae⟩
    · have hlt : i < t.length := (List.getElem?_eq_some_iff.mp hi).1
      have hne : a.key ≠ e.key := fun hkey =>
        absurd (hlast t.length (writes_snoc_write.mpr (.inr ⟨rfl, hkey⟩))) (Nat.not_le.mpr hlt)
      exact .inr ⟨hne, i, ⟨hi, fun j hj => hlast j (writes_snoc_write.mpr (.inl hj))⟩,
        fun j hj => hbefore j (erases_snoc_write.mpr hj)⟩
    · exact .inl (Mark.write.inj hae)
  · rintro (rfl | ⟨hne, i, ⟨hi, hlast⟩, hbefore⟩)
    · refine ⟨t.length, ⟨by simp, fun j hj => ?_⟩, fun j hj => (erases_snoc_write.mp hj).lt_length⟩
      rcases writes_snoc_write.mp hj with hj | ⟨rfl, -⟩
      · exact Nat.le_of_lt hj.lt_length
      · exact Nat.le_refl _
    · refine ⟨i, ⟨getElem?_snoc.mpr (.inl hi), fun j hj => ?_⟩,
        fun j hj => hbefore j (erases_snoc_write.mp hj)⟩
      exact hlast j ((writes_snoc_write.mp hj).resolve_right fun hj => hne hj.2)

theorem stands_snoc_erase : Stands (t ++ [.erase name]) e ↔ e.key ≠ name ∧ Stands t e := by
  constructor
  · rintro ⟨i, ⟨hat, hlast⟩, hbefore⟩
    have hi : t[i]? = some (.write e) := (getElem?_snoc.mp hat).resolve_right (by simp)
    have hlt : i < t.length := (List.getElem?_eq_some_iff.mp hi).1
    have hne : e.key ≠ name := fun hkey =>
      absurd (hbefore t.length (erases_snoc_erase.mpr (.inr ⟨rfl, hkey.symm⟩))) (by omega)
    exact ⟨hne, i, ⟨hi, fun j hj => hlast j (writes_snoc_erase.mpr hj)⟩,
      fun j hj => hbefore j (erases_snoc_erase.mpr (.inl hj))⟩
  · rintro ⟨hne, i, ⟨hi, hlast⟩, hbefore⟩
    refine ⟨i, ⟨getElem?_snoc.mpr (.inl hi), fun j hj => hlast j (writes_snoc_erase.mp hj)⟩,
      fun j hj => ?_⟩
    exact hbefore j ((erases_snoc_erase.mp hj).resolve_right fun hj => hne hj.2.symm)

theorem FirstSince.snoc_write (h : FirstSince t key i) : FirstSince (t ++ [.write a]) key i := by
  obtain ⟨hi, hbefore, hall⟩ := h
  refine ⟨writes_snoc_write.mpr (.inl hi), fun j hj => hbefore j (erases_snoc_write.mp hj),
    fun j hlt hj => ?_⟩
  have hj := (writes_snoc_write.mp hj).resolve_right fun hj => by have := hi.lt_length; omega
  obtain ⟨k, hk, herased⟩ := hall j hlt hj
  exact ⟨k, hk, erases_snoc_write.mpr herased⟩

theorem FirstSince.snoc_erase (h : FirstSince t key i) (hne : key ≠ name) :
    FirstSince (t ++ [.erase name]) key i := by
  obtain ⟨hi, hbefore, hall⟩ := h
  refine ⟨writes_snoc_erase.mpr hi, fun j hj => hbefore j ?_, fun j hlt hj => ?_⟩
  · exact (erases_snoc_erase.mp hj).resolve_right fun hj => hne hj.2.symm
  · obtain ⟨k, hk, herased⟩ := hall j hlt (writes_snoc_erase.mp hj)
    exact ⟨k, hk, erases_snoc_erase.mpr (.inl herased)⟩

/-- A key that is gone is written for the first time. -/
theorem Gone.firstSince (h : Gone t a.key) : FirstSince (t ++ [.write a]) a.key t.length := by
  refine ⟨writes_snoc_write.mpr (.inr ⟨rfl, rfl⟩), fun j hj => (erases_snoc_write.mp hj).lt_length,
    fun j hlt hj => ?_⟩
  have hold := (writes_snoc_write.mp hj).resolve_right fun hj => Nat.ne_of_lt hlt hj.1
  obtain ⟨k, hk, herased⟩ := h j hold
  exact ⟨k, hk, erases_snoc_write.mpr herased⟩

theorem Gone.snoc_write (h : Gone t key) (hne : a.key ≠ key) : Gone (t ++ [.write a]) key := by
  intro j hj
  obtain ⟨k, hk, herased⟩ := h j ((writes_snoc_write.mp hj).resolve_right fun hj => hne hj.2)
  exact ⟨k, hk, erases_snoc_write.mpr herased⟩

theorem Gone.snoc_erase (h : key ≠ name → Gone t key) : Gone (t ++ [.erase name]) key := by
  intro j hj
  have hj := writes_snoc_erase.mp hj
  by_cases hkey : key = name
  · exact ⟨t.length, hj.lt_length, erases_snoc_erase.mpr (.inr ⟨rfl, hkey.symm⟩)⟩
  · obtain ⟨k, hk, herased⟩ := h hkey j hj
    exact ⟨k, hk, erases_snoc_erase.mpr (.inl herased)⟩

end

/-! ### A history follows its trace -/

section
variable {t : List Mark} {h : History}

theorem tells_empty : Tells [] .empty where
  held e := iff_of_false List.not_mem_nil fun ⟨_, ⟨hi, _⟩, _⟩ => by simp at hi
  gone key _ j hj := absurd hj.lt_length (Nat.not_lt_zero j)
  first key hkey := absurd hkey List.not_mem_nil
  ordered := .nil

theorem Tells.write (ht : Tells t h) (a : HistoryEntry) : Tells (t ++ [.write a]) (h.put a) where
  held e := by rw [Keyed.mem_items_put, stands_snoc_write, ht.held]
  gone key hkey := by
    rw [Keyed.keys_put] at hkey
    have hout : key ∉ h.keys ∧ a.key ≠ key := by
      split at hkey
      · next hmem => exact ⟨hkey, fun he => hkey (he ▸ hmem)⟩
      · exact ⟨fun hmem => hkey (List.mem_append_left _ hmem),
          fun he => hkey (List.mem_append_right _ (List.mem_singleton.mpr he.symm))⟩
    exact (ht.gone key hout.1).snoc_write hout.2
  first key hkey := by
    rw [Keyed.keys_put] at hkey
    have hold (hmem : key ∈ h.keys) : ∃ i, FirstSince (t ++ [.write a]) key i :=
      let ⟨i, hi⟩ := ht.first key hmem
      ⟨i, hi.snoc_write⟩
    split at hkey
    · exact hold hkey
    · next hnew =>
      rcases List.mem_append.mp hkey with hmem | hmem
      · exact hold hmem
      · obtain rfl := List.mem_singleton.mp hmem
        exact ⟨t.length, (ht.gone _ hnew).firstSince⟩
  ordered := by
    have hold : h.keys.Pairwise fun x y => ∃ i j,
        FirstSince (t ++ [.write a]) x i ∧ FirstSince (t ++ [.write a]) y j ∧ i < j :=
      ht.ordered.imp fun ⟨i, j, hi, hj, hlt⟩ => ⟨i, j, hi.snoc_write, hj.snoc_write, hlt⟩
    rw [Keyed.keys_put]
    split
    · exact hold
    · next hnew =>
      refine List.pairwise_append.mpr ⟨hold, List.pairwise_singleton .., fun x hx y hy => ?_⟩
      obtain rfl := List.mem_singleton.mp hy
      obtain ⟨i, hi⟩ := ht.first x hx
      exact ⟨i, t.length, hi.snoc_write, (ht.gone _ hnew).firstSince, hi.1.lt_length⟩

theorem Tells.erase (ht : Tells t h) (name : String) :
    Tells (t ++ [.erase name]) (h.erase name) where
  held e := by
    rw [stands_snoc_erase, ← ht.held, Keyed.erase, List.mem_filter, bne_iff_ne, and_comm]
  gone key hkey := by
    rw [Keyed.keys_erase] at hkey
    refine .snoc_erase fun hne => ht.gone key fun hmem => hkey ?_
    exact List.mem_filter.mpr ⟨hmem, by simpa using hne⟩
  first key hkey := by
    rw [Keyed.keys_erase] at hkey
    obtain ⟨hmem, hne⟩ := List.mem_filter.mp hkey
    obtain ⟨i, hi⟩ := ht.first key hmem
    exact ⟨i, hi.snoc_erase (by simpa using hne)⟩
  ordered := by
    rw [Keyed.keys_erase]
    have hne {key : String} (hkey : key ∈ h.keys.filter (· != name)) : key ≠ name := by
      simpa using (List.mem_filter.mp hkey).2
    refine (ht.ordered.filter _).imp_of_mem fun hx hy hfirst => ?_
    obtain ⟨i, j, hi, hj, hlt⟩ := hfirst
    exact ⟨i, j, hi.snoc_erase (hne hx), hj.snoc_erase (hne hy), hlt⟩

theorem entry_eq (r : StoredEntry) : r.entry = ⟨r.key, r.date, kindNamed r.kind⟩ := by
  obtain ⟨key, date, kind⟩ := r
  refine congrArg (HistoryEntry.mk key date) ?_
  dsimp only
  unfold kindNamed
  split
  · decide
  · decide
  · decide
  · decide
  · next hcreator hsubject hfunder hdatabase =>
    cases kind with
    | none => rfl
    | some name =>
      by_cases hterm : name = "term"
      · rw [hterm]
        decide
      · have hnone : HistoryKind.parse? name = none := HistoryKind.parse?_eq_none (by simp_all)
        rw [Option.bind_some, hnone]
        rfl

/-- Stored entries are written one after the other. -/
theorem Tells.putAll (ht : Tells t h) (rs : List StoredEntry) :
    Tells (t ++ rs.map fun r => .write ⟨r.key, r.date, kindNamed r.kind⟩)
      (h.putAll (rs.map StoredEntry.entry)) := by
  induction rs generalizing t h with
  | nil => rwa [List.map_nil, List.append_nil]
  | cons r rest ih =>
    rw [List.map_cons, List.append_cons, List.map_cons, Keyed.putAll_cons, ← entry_eq r]
    exact ih (ht.write r.entry)

theorem Tells.edit (ht : Tells t h) (e : Edit) : Tells (t ++ e.marks) (h.edit e) := by
  cases e with
  | log key kind date =>
    simp only [History.edit, log, Edit.marks, String.isEmpty_iff]
    split
    · rwa [List.append_nil]
    · exact ht.write ⟨key, date, kind⟩
  | forget key => exact ht.erase key
  | reload =>
    rw [Edit.marks, List.append_nil, History.edit, ofStored_toStored]
    exact ht

theorem Tells.run (ht : Tells t h) (es : List Edit) :
    Tells (t ++ es.flatMap Edit.marks) (h.run es) := by
  induction es generalizing t h with
  | nil => rwa [List.flatMap_nil, List.append_nil]
  | cons e rest ih =>
    rw [List.flatMap_cons, ← List.append_assoc]
    exact ih (ht.edit e)

theorem tells_trace (rs : List StoredEntry) (es : List Edit) :
    Tells (trace rs es) ((ofStored rs).run es) :=
  (tells_empty.putAll rs).run es

/-- A history holds each key once, and a key just when its last writing comes after its last
erasure; its entry is the one that was written last. The keys stand in the order of their first
writings since they were last erased. Looking a key up, the size and being empty agree with the
entries; deleting says whether the key was held and leaves the others in their order, and storing
and loading changes nothing. -/
theorem run_tells_trace (rs : List StoredEntry) (es : List Edit) :
    let h := (ofStored rs).run es
    let t := trace rs es
    h.keys.Nodup ∧
      (∀ e, e ∈ h.items ↔ ∃ i, LastWrite t e i ∧ ErasedBefore t e.key i) ∧
      (h.keys.Pairwise fun a b => ∃ i j, FirstSince t a i ∧ FirstSince t b j ∧ i < j) ∧
      (∀ key e, h.find? key = some e ↔ e ∈ h.items ∧ e.key = key) ∧
      h.size = h.items.length ∧ (h.isEmpty = true ↔ h.items = []) ∧
      (∀ key, ((h.delete key).2 = true ↔ key ∈ h.keys) ∧
        (h.delete key).1.items = h.items.filter (·.key != key)) ∧
      ofStored h.toStored = h := by
  intro h t
  have ht : Tells t h := tells_trace rs es
  exact ⟨h.distinct, ht.held, ht.ordered, fun _ _ => Keyed.find?_eq_some_iff, rfl,
    List.isEmpty_iff, fun _ => ⟨Keyed.isSome_find?, rfl⟩, ofStored_toStored h⟩

example : let e (key : String) (kind : HistoryKind) : HistoryEntry := ⟨key, 0, kind⟩
    ((ofStored [⟨"rain", 0, none⟩, ⟨"snow", 0, some "keyword"⟩]).run
      [.log "rain" .creator 0, .reload, .log "" .term 0, .forget "rain", .log "soil" .subject 0,
        .log "rain" .funder 0]).items =
      [e "snow" .term, e "soil" .subject, e "rain" .funder] := by decide

end
end DatasetSearch.History
