import DatasetSearch.Files
import DatasetSearch.Proofs.Lookup
import DatasetSearch.Proofs.Text.Encoding

/-! Writing a file beside another and putting it in its place.

`read_eq_ok_iff`, `write_eq_ok_iff` and `rename_eq_ok_iff` say all that the three operations on
files do when they succeed. Where a path leads hangs on the folders alone (`SameFolders`), and these
operations make and remove none, so both paths go on leading where they led (`rename_written`) and
the text that was written beside the other file is read in its place. -/
namespace DatasetSearch.Files.Tree
variable {t t' : Tree} {path source : String} {place other : List String} {x : Target}
  {c : ByteArray}

/-! ### What stands where -/

/-- The places of the folders that are always there. -/
def always (place : List String) : Bool := place.all (· == "..") || place == ["/"]

theorem entry?_eq (t : Tree) (place : List String) :
    t.entry? place = if always place then some .folder else t.entries.lookup place := rfl

theorem always_eq_false (h : t.entry? place ≠ some .folder) : always place = false := by
  rw [entry?_eq] at h
  cases halways : always place with
  | false => rfl
  | true => exact absurd (if_pos halways) h

theorem entry?_set_self (h : t.entry? place ≠ some .folder) (e : Entry) :
    entry? (t.set place e) place = some e := by
  rw [entry?_eq, always_eq_false h, set, List.lookup_cons_self]
  rfl

theorem entry?_set_of_ne (h : other ≠ place) (e : Entry) :
    entry? (t.set place e) other = t.entry? other := by
  rw [entry?_eq, entry?_eq, set, List.lookup_cons, beq_false_of_ne h, lookup_filter_of_ne h]

theorem entry?_remove_self (h : t.entry? place ≠ some .folder) :
    entry? (t.remove place) place = none := by
  rw [entry?_eq, always_eq_false h, remove, lookup_filter_self]
  rfl

theorem entry?_remove_of_ne (h : other ≠ place) :
    entry? (t.remove place) other = t.entry? other := by
  rw [entry?_eq, entry?_eq, remove, lookup_filter_of_ne h]

/-! ### The operations -/

/-- Whether a file can be written at a path: it leads to where no folder is, and does not end as
that of a folder does. -/
def Writable (t : Tree) (path : String) : Prop :=
  namesFolder path = false ∧ ∃ x, t.target path = .ok x ∧ t.entry? x.place ≠ some .folder

theorem read_eq_ok_iff {text : String} :
    t.read path = .ok text ↔
      ∃ x c, t.target path = .ok x ∧ t.entry? x.place = some (.file c) ∧ namesFolder path = false ∧
        String.fromUTF8? c = some text := by
  rw [read]
  cases htarget : t.target path with
  | error fault => simp [bind, Except.bind]
  | ok x =>
    cases hentry : t.entry? x.place with
    | none => simp [bind, Except.bind, hentry]
    | some e =>
      cases e with
      | folder => simp [bind, Except.bind, hentry]
      | file c =>
        cases namesFolder path <;> cases htext : String.fromUTF8? c <;>
          simp [bind, Except.bind, hentry, htext]

theorem write_eq_ok_iff :
    t.write path c = .ok t' ↔
      ∃ x, t.target path = .ok x ∧ t.entry? x.place ≠ some .folder ∧ namesFolder path = false ∧
        t.set x.place (.file c) = t' := by
  rw [write]
  cases htarget : t.target path with
  | error fault => simp [bind, Except.bind]
  | ok x =>
    by_cases hentry : t.entry? x.place = some .folder
    · simp [bind, Except.bind, hentry]
    · cases namesFolder path <;> simp [bind, Except.bind, hentry]

theorem rename_eq_ok_iff :
    t.rename source path = .ok t' ↔
      ∃ x y c, t.target source = .ok x ∧ t.target path = .ok y ∧
        x.name?.isSome ∧ y.name?.isSome ∧
        t.entry? x.place = some (.file c) ∧ t.entry? y.place ≠ some .folder ∧
        namesFolder source = false ∧ namesFolder path = false ∧
        (t.remove x.place).set y.place (.file c) = t' := by
  rw [rename]
  cases hx : t.target source with
  | error fault => simp [bind, Except.bind]
  | ok x =>
    cases hy : t.target path with
    | error fault => simp [bind, Except.bind]
    | ok y =>
      cases hxname : x.name? with
      | none => simp [bind, Except.bind, hxname]
      | some name =>
        cases hyname : y.name? with
        | none => simp [bind, Except.bind, hxname, hyname]
        | some name' =>
          cases hentry : t.entry? x.place with
          | none => simp [bind, Except.bind, hxname, hyname, hentry]
          | some e =>
            cases e with
            | folder => simp [bind, Except.bind, hxname, hyname, hentry]
            | file c =>
              by_cases hfound : t.entry? y.place = some .folder
              · cases namesFolder source <;> cases namesFolder path <;>
                  simp [bind, Except.bind, hxname, hyname, hentry, hfound]
              · cases namesFolder source <;> cases namesFolder path <;>
                  simp [bind, Except.bind, hxname, hyname, hentry, hfound]

/-! ### Where a path leads -/

def SameFolders (t t' : Tree) : Prop :=
  ∀ place, t.entry? place = some .folder ↔ t'.entry? place = some .folder

theorem SameFolders.walk {names : List String} (h : SameFolders t t')
    (hwalk : t.walk place names = .ok x) : t'.walk place names = .ok x := by
  fun_induction t.walk place names with
  | case11 place name rest hstop hup hrest hdot hdots hlen hentry ih =>
    have hentry' := (h _).mp hentry
    simp only [Tree.walk, hentry', if_neg hlen, ih hwalk]
  | case6 place rest hrest ih => simp only [Tree.walk, ih hwalk]
  | case7 place rest hrest ih => simp only [Tree.walk, ih hwalk]
  | case5 place name hdot hdots hlen => simp only [Tree.walk, if_neg hlen, hwalk]
  | case4 | case8 | case9 | case10 => cases hwalk
  | _ => exact hwalk

theorem start_eq_nil (h : path.toList.head? ≠ some '/') : start path = [] := by
  rw [start, if_neg]
  rw [String.startsWith_string_iff]
  rintro ⟨rest, hrest⟩
  exact h (by rw [← hrest]; rfl)

theorem target_eq_ok_iff :
    t.target path = .ok x ↔
      (path.contains '\x00' = false ∧ path.isEmpty = false ∧ path.utf8ByteSize ≤ pathLimit) ∧
        t.walk (start path) (names path) = .ok x := by
  rw [target]
  cases path.contains '\x00' with
  | true => simp
  | false =>
    cases path.isEmpty with
    | true => simp
    | false =>
      by_cases hlong : pathLimit < path.utf8ByteSize
      · simp [hlong, Nat.not_le.mpr hlong]
      · simp [hlong, Nat.not_lt.mp hlong]

theorem SameFolders.target (h : SameFolders t t') (htarget : t.target path = .ok x) :
    t'.target path = .ok x := by
  obtain ⟨hpath, hwalk⟩ := target_eq_ok_iff.mp htarget
  exact target_eq_ok_iff.mpr ⟨hpath, h.walk hwalk⟩

/-- A place whose folders are all there, itself among them. -/
def Reached (t : Tree) (place : List String) : Prop :=
  ∀ q, q <+: place → t.entry? q = some .folder

theorem Reached.above (h : Reached t place) : Reached t (above place) := by
  rw [Tree.above]
  split
  · exact h
  · split
    · next hall =>
      -- there is always one folder more to go up to
      intro q hq
      have hups : ∀ name ∈ q, (name == "..") = true := by
        intro name hname
        rcases List.mem_cons.mp (hq.subset hname) with rfl | hmem
        · rfl
        · exact List.all_eq_true.mp hall name hmem
      rw [entry?_eq, always, List.all_eq_true.mpr hups]
      rfl
    · exact fun q hq => h q (hq.trans (List.dropLast_prefix place))

theorem Reached.walk {names : List String} (h : Reached t place)
    (hwalk : t.walk place names = .ok x) : Reached t x.folder := by
  fun_induction t.walk place names with
  | case11 place name rest hstop hup hrest hdot hdots hlen hentry ih =>
    refine ih ?_ hwalk
    intro q hq
    rcases List.prefix_concat_iff.mp hq with rfl | hq
    · exact hentry
    · exact h q hq
  | case6 place rest hrest ih => exact ih h hwalk
  | case7 place rest hrest ih => exact ih h.above hwalk
  | case4 | case8 | case9 | case10 => cases hwalk
  | case3 place => cases hwalk; exact h.above
  | _ => cases hwalk; exact h

theorem reached_start (t : Tree) (path : String) : Reached t (start path) := by
  have hprefix : ∀ q, q <+: ["/"] → always q = true := by
    intro q hq
    rcases List.prefix_cons_iff.mp hq with rfl | ⟨r, rfl, hr⟩
    · rfl
    · rw [List.prefix_nil.mp hr]
      rfl
  intro q hq
  have hq' : q <+: ["/"] := by
    rw [start] at hq
    split at hq
    · exact hq
    · rw [List.prefix_nil.mp hq]
      exact List.nil_prefix
  rw [entry?_eq, hprefix q hq']
  rfl

theorem reached_target (h : t.target path = .ok x) : Reached t x.folder :=
  (reached_start t path).walk (target_eq_ok_iff.mp h).2

/-- A path that leads to no name leads to a folder. -/
theorem isSome_name? (h : t.target path = .ok x) (hentry : t.entry? x.place ≠ some .folder) :
    x.name?.isSome = true := by
  cases hname : x.name? with
  | some name => rfl
  | none =>
    have hplace : x.place = x.folder := by
      rw [Target.place, hname]
      exact List.append_nil _
    rw [hplace] at hentry
    exact absurd (reached_target h _ (List.prefix_refl _)) hentry

/-! ### Replacing a file -/

theorem SameFolders.symm (h : SameFolders t t') : SameFolders t' t := fun place => (h place).symm

theorem SameFolders.trans {t'' : Tree} (h : SameFolders t t') (h' : SameFolders t' t'') :
    SameFolders t t'' := fun place => (h place).trans (h' place)

theorem sameFolders_set (h : t.entry? place ≠ some .folder) (c : ByteArray) :
    SameFolders t (t.set place (.file c)) := by
  intro other
  by_cases hother : other = place
  · subst hother
    rw [entry?_set_self h]
    simp [h]
  · rw [entry?_set_of_ne hother]

theorem sameFolders_remove (h : t.entry? place ≠ some .folder) :
    SameFolders t (t.remove place) := by
  intro other
  by_cases hother : other = place
  · subst hother
    rw [entry?_remove_self h]
    simp [h]
  · rw [entry?_remove_of_ne hother]

theorem SameFolders.writable (h : SameFolders t t') (hpath : t.Writable path) :
    t'.Writable path := by
  obtain ⟨hfolder, x, htarget, hentry⟩ := hpath
  exact ⟨hfolder, x, h.target htarget, fun he => hentry ((h _).mpr he)⟩

theorem exists_write_iff : (∃ t', t.write path c = .ok t') ↔ t.Writable path := by
  constructor
  · rintro ⟨t', h⟩
    obtain ⟨x, htarget, hentry, hfolder, -⟩ := write_eq_ok_iff.mp h
    exact ⟨hfolder, x, htarget, hentry⟩
  · rintro ⟨hfolder, x, htarget, hentry⟩
    exact ⟨_, write_eq_ok_iff.mpr ⟨x, htarget, hentry, hfolder, rfl⟩⟩

/-- Writing leaves the new content where the path leads, and every folder. -/
theorem of_write (h : t.write path c = .ok t') :
    SameFolders t t' ∧ ∃ x, t'.target path = .ok x ∧ t'.entry? x.place = some (.file c) := by
  obtain ⟨x, htarget, hentry, _, rfl⟩ := write_eq_ok_iff.mp h
  have hsame := sameFolders_set hentry c
  exact ⟨hsame, x, hsame.target htarget, entry?_set_self hentry _⟩

/-- A file that was just written can be put wherever one could be written before. -/
theorem exists_rename_iff (hwrite : t.write source c = .ok t') :
    (∃ t'', t'.rename source path = .ok t'') ↔ t.Writable path := by
  obtain ⟨hsame, x, hx, hentry⟩ := of_write hwrite
  constructor
  · rintro ⟨t'', h⟩
    obtain ⟨_, y, _, _, hy, _, _, _, hfound, _, hfolder, _⟩ := rename_eq_ok_iff.mp h
    exact hsame.symm.writable ⟨hfolder, y, hy, hfound⟩
  · intro hpath
    obtain ⟨hfolder, y, hy, hfound⟩ := hsame.writable hpath
    obtain ⟨_, _, _, hsource, _⟩ := write_eq_ok_iff.mp hwrite
    have hxname := isSome_name? hx (by rw [hentry]; nofun)
    exact ⟨_, rename_eq_ok_iff.mpr
      ⟨x, y, c, hx, hy, hxname, isSome_name? hy hfound, hentry, hfound, hsource, hfolder, rfl⟩⟩

theorem sameFolders_rename (h : t.rename source path = .ok t') : SameFolders t t' := by
  obtain ⟨x, y, c, _, _, _, _, hentry, hfound, _, _, rfl⟩ := rename_eq_ok_iff.mp h
  have hremove : SameFolders t (t.remove x.place) := sameFolders_remove (by rw [hentry]; nofun)
  exact hremove.trans (sameFolders_set (fun he => hfound ((hremove _).mpr he)) c)

/-- What was written beside a file and put in its place stands there. -/
theorem of_rename {t'' : Tree} (hwrite : t.write source c = .ok t')
    (hrename : t'.rename source path = .ok t'') :
    namesFolder path = false ∧
      ∃ y, t''.target path = .ok y ∧ t''.entry? y.place = some (.file c) := by
  obtain ⟨_, x, hx, hentry⟩ := of_write hwrite
  obtain ⟨x', y, c', hx', hy, _, _, hentry', hfound, _, hfolder, rfl⟩ := rename_eq_ok_iff.mp hrename
  obtain rfl : x = x' := Except.ok.inj (hx.symm.trans hx')
  obtain rfl : c' = c := by
    rw [hentry] at hentry'
    cases hentry'
    rfl
  have hremove : SameFolders t' (t'.remove x.place) :=
    sameFolders_remove (by rw [hentry]; nofun)
  have hfound' : entry? (t'.remove x.place) y.place ≠ some .folder :=
    fun he => hfound ((hremove _).mpr he)
  have hsame := hremove.trans (sameFolders_set hfound' c')
  exact ⟨hfolder, y, hsame.target hy, entry?_set_self hfound' _⟩

/-- What was written beside a file and put in its place is what is read there. -/
theorem read_rename {t'' : Tree} {text : String} (hwrite : t.write source text.toUTF8 = .ok t')
    (hrename : t'.rename source path = .ok t'') : t''.read path = .ok text := by
  obtain ⟨hfolder, y, htarget, hentry⟩ := of_rename hwrite hrename
  exact read_eq_ok_iff.mpr
    ⟨y, text.toUTF8, htarget, hentry, hfolder, Text.Percent.fromUTF8?_toByteArray text⟩

/-- Whether a file can be written beside a path and then put in its place. -/
def Replaceable (t : Tree) (path : String) : Prop :=
  t.Writable (temporary path) ∧ t.Writable path

theorem Replaceable.exists_rename (h : t.Replaceable path) (text : String) :
    ∃ written files, t.write (temporary path) text.toUTF8 = .ok written ∧
      written.rename (temporary path) path = .ok files ∧ files.read path = .ok text ∧
      files.Replaceable path := by
  obtain ⟨hbeside, hplace⟩ := h
  obtain ⟨written, hwrite⟩ := exists_write_iff.mpr hbeside
  obtain ⟨files, hrename⟩ := (exists_rename_iff hwrite).mpr hplace
  have hsame : SameFolders t files := (of_write hwrite).1.trans (sameFolders_rename hrename)
  exact ⟨written, files, hwrite, hrename, read_rename hwrite hrename, hsame.writable hbeside,
    hsame.writable hplace⟩

end DatasetSearch.Files.Tree
