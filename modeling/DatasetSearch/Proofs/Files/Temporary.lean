import DatasetSearch.Proofs.Files.Replacing
import DatasetSearch.Proofs.Text.Encoding

/-! The file beside another.

A path names a file by the name it ends in (`Naming`), and the path of the file beside it has the
same folder and another name (`Naming.temporary_eq`). Not always another: a name that has the ending
`.tmp` already stays, and then the path is the same (`temporary_eq_self_iff`). Where the paths differ
so do their last names (`getLast?_names_temporary`), and paths with different last names never lead
to the same file (`Tree.held_write_of_ne`). -/
namespace DatasetSearch.Files
variable {path : String} {folder name other before : List Char}

/-- Whether a path names a file: it does not end in a slash, and its last name is that of something
in a folder. -/
def NamesFile (path : String) : Prop :=
  namesFolder path = false ∧ ∃ name, (names path).getLast? = some name ∧ name ≠ "." ∧ name ≠ ".."

/-- Whether the last name of a path is a text with the ending `.tmp` after it. A single point does
not count, for with the ending cut off it names no file any more. -/
def EndsInTmp (path : String) : Prop :=
  ∃ kept, (names path).getLast? = some (kept ++ ".tmp") ∧ kept ≠ "" ∧ kept ≠ "."

/-- A path of a folder, which is nothing or ends in a slash, and a name. -/
structure Naming (path : String) (folder name : List Char) : Prop where
  eq : path = String.ofList (folder ++ name)
  folder : folder = [] ∨ ∃ before, folder = before ++ ['/']
  noSlash : '/' ∉ name
  name : name ≠ []

/-! ### The last name of a path -/

theorem names_name (hslash : '/' ∉ name) (hname : name ≠ []) :
    names (String.ofList name) = [String.ofList name] := by
  rw [names, String.toList_ofList, Text.splitAll_eq_splitOn, List.splitOn_eq_singleton hslash]
  simp [hname]

theorem names_slash (before : List Char) (hslash : '/' ∉ name) (hname : name ≠ []) :
    names (String.ofList (before ++ '/' :: name)) =
      names (String.ofList before) ++ [String.ofList name] := by
  have hsplit := names_name hslash hname
  rw [names, String.toList_ofList, Text.splitAll_eq_splitOn] at hsplit ⊢
  rw [List.splitOn_append_cons_self, List.map_append, List.filter_append, hsplit, names,
    String.toList_ofList, Text.splitAll_eq_splitOn]

theorem Naming.getLast?_names (h : Naming path folder name) :
    (names path).getLast? = some (String.ofList name) := by
  obtain ⟨rfl, rfl | ⟨before, rfl⟩, hslash, hname⟩ := h
  · rw [List.nil_append, names_name hslash hname]
    rfl
  · rw [List.append_assoc, List.singleton_append, names_slash before hslash hname,
      List.getLast?_concat]

/-- A path is cut after its last slash. -/
theorem exists_lastSlash (path : List Char) : ∃ folder name, path = folder ++ name ∧
    (folder = [] ∨ ∃ before, folder = before ++ ['/']) ∧ '/' ∉ name := by
  by_cases hslash : '/' ∈ path
  · obtain ⟨after, before, hpath, hafter⟩ :=
      List.eq_append_cons_of_mem (List.mem_reverse.mpr hslash)
    have hback : path = (before.reverse ++ ['/']) ++ after.reverse := by
      rw [← path.reverse_reverse, hpath, List.reverse_append, List.reverse_cons]
    exact ⟨_, _, hback, .inr ⟨_, rfl⟩, fun hmem => hafter (List.mem_reverse.mp hmem)⟩
  · exact ⟨[], path, rfl, .inl rfl, hslash⟩

theorem NamesFile.exists_naming (h : NamesFile path) :
    ∃ folder name, Naming path folder name ∧ name ≠ ['.'] ∧ name ≠ ['.', '.'] := by
  obtain ⟨hfolder, last, hlast, hdot, hdots⟩ := h
  obtain ⟨folder, name, hpath, hleads, hslash⟩ := exists_lastSlash path.toList
  have hname : name ≠ [] := by
    rintro rfl
    rw [List.append_nil] at hpath
    obtain rfl | ⟨before, rfl⟩ := hleads
    · rw [names, hpath] at hlast
      cases hlast
    · rw [namesFolder, hpath, List.getLast?_concat] at hfolder
      cases hfolder
  have h : Naming path folder name :=
    ⟨by rw [← hpath, String.ofList_toList], hleads, hslash, hname⟩
  have heq : String.ofList name = last := Option.some.inj (h.getLast?_names.symm.trans hlast)
  refine ⟨folder, name, h, ?_, ?_⟩
  · rintro rfl
    exact hdot heq.symm
  · rintro rfl
    exact hdots heq.symm

/-! ### The name without its ending -/

theorem stem_append (hname : name ≠ []) {ending : List Char} (hending : '.' ∉ ending) :
    stem (name ++ '.' :: ending) = name := by
  obtain ⟨c, before, hreverse⟩ := List.exists_cons_of_ne_nil (List.reverse_ne_nil_iff.mpr hname)
  have hskip : ∀ c ∈ ending.reverse, decide (c ≠ '.') = true := by
    intro c hc
    exact decide_eq_true fun hdot => hending (hdot ▸ List.mem_reverse.mp hc)
  have hrest : (name ++ '.' :: ending).reverse.dropWhile (· ≠ '.') = '.' :: c :: before := by
    rw [List.reverse_append, List.reverse_cons, List.append_assoc,
      List.dropWhile_append_of_pos hskip, hreverse]
    rfl
  rw [stem, hrest]
  exact (congrArg List.reverse hreverse).symm.trans (List.reverse_reverse name)

theorem stem_subset (name : List Char) : stem name ⊆ name := by
  rw [stem]
  split
  · next c before hrest =>
    have hsuffix : c :: before <:+ name.reverse :=
      (List.suffix_cons _ _).trans (hrest ▸ List.dropWhile_suffix _)
    exact fun d hd => List.mem_reverse.mp (hsuffix.subset (List.mem_reverse.mp hd))
  · exact List.Subset.refl name

theorem stem_ne_nil (hname : name ≠ []) : stem name ≠ [] := by
  rw [stem]
  split
  · simp
  · exact hname

/-- The name of the file beside the one of a name. -/
def besideName (name : List Char) : List Char :=
  if stem name = ['.'] then ['.', '.'] else stem name ++ ['.', 't', 'm', 'p']

theorem besideName_eq_self_iff (hname : name ≠ []) (hdots : name ≠ ['.', '.']) :
    besideName name = name ↔
      ∃ kept, name = kept ++ ['.', 't', 'm', 'p'] ∧ kept ≠ [] ∧ kept ≠ ['.'] := by
  rw [besideName]
  constructor
  · intro h
    split at h
    · exact absurd h.symm hdots
    · next hstem => exact ⟨stem name, h.symm, stem_ne_nil hname, hstem⟩
  · rintro ⟨kept, rfl, hkept, hdot⟩
    rw [stem_append hkept (by decide), if_neg hdot]

/-! ### The file beside -/

/-- Nothing is cut from a path that ends in a name. -/
theorem Naming.dropStops_eq (h : Naming path folder name) (hdot : name ≠ ['.']) :
    dropStops path.toList.reverse = name.reverse ++ folder.reverse := by
  have hpath : path.toList.reverse = name.reverse ++ folder.reverse := by
    rw [h.eq, String.toList_ofList, List.reverse_append]
  have hslash : '/' ∉ name.reverse := fun hmem => h.noSlash (List.mem_reverse.mp hmem)
  rw [hpath]
  cases hreverse : name.reverse with
  | nil => exact absurd (List.reverse_eq_nil_iff.mp hreverse) h.name
  | cons c rest =>
    rw [hreverse] at hslash
    unfold dropStops
    split
    · next before heq =>
      obtain ⟨rfl, -⟩ := List.cons.inj heq
      exact absurd List.mem_cons_self hslash
    · next before heq =>
      obtain ⟨rfl, hrest⟩ := List.cons.inj heq
      cases rest with
      | nil => exact absurd (List.reverse_eq_iff.mp hreverse) hdot
      | cons d rest =>
        obtain ⟨rfl, -⟩ := List.cons.inj hrest
        exact absurd (List.mem_cons_of_mem _ List.mem_cons_self) hslash
    · rfl

/-- The file beside is in the same folder, and its name has the ending `.tmp` for the one that the
name had. -/
theorem Naming.temporary_eq (h : Naming path folder name) (hdot : name ≠ ['.'])
    (hdots : name ≠ ['.', '.']) :
    temporary path = String.ofList (folder ++ besideName name) := by
  have hpath : path.toList = folder ++ name := by rw [h.eq, String.toList_ofList]
  have hkept := h.dropStops_eq hdot
  have hskip : ∀ c ∈ name.reverse, decide (c ≠ '/') = true := by
    intro c hc
    exact decide_eq_true fun hslash => h.noSlash (hslash ▸ List.mem_reverse.mp hc)
  have hlast : folder.reverse.takeWhile (· ≠ '/') = [] ∧
      folder.reverse.dropWhile (· ≠ '/') = folder.reverse := by
    obtain hnil | ⟨before, hbefore⟩ := h.folder
    · rw [hnil]
      exact ⟨rfl, rfl⟩
    · rw [hbefore, List.reverse_append]
      exact ⟨rfl, rfl⟩
  have hlength : (name.reverse ++ folder.reverse).length = path.length := by
    rw [← String.length_toList, hpath]
    simp [Nat.add_comm]
  rw [temporary, besideName]
  simp only [hkept, List.takeWhile_append_of_pos hskip, List.dropWhile_append_of_pos hskip, hlast,
    List.append_nil, List.reverse_reverse, h.name, hdot, hdots, false_or, if_false, hlength,
    and_true]
  split
  · rfl
  · rw [List.append_assoc]

theorem Naming.temporary (h : Naming path folder name) (hdot : name ≠ ['.'])
    (hdots : name ≠ ['.', '.']) : Naming (temporary path) folder (besideName name) where
  eq := h.temporary_eq hdot hdots
  folder := h.folder
  noSlash := by
    have hstem : '/' ∉ stem name := fun hmem => h.noSlash (stem_subset name hmem)
    rw [besideName]
    split <;> simp [hstem]
  name := by
    rw [besideName]
    split <;> simp

/-- A path that ends so is that of its own file beside, and no other path is. -/
theorem temporary_eq_self_iff (h : NamesFile path) : temporary path = path ↔ EndsInTmp path := by
  obtain ⟨folder, name, h, hdot, hdots⟩ := h.exists_naming
  have hself : Files.temporary path = path ↔ besideName name = name := by
    rw [h.temporary_eq hdot hdots, h.eq, String.ofList_inj, List.append_cancel_left_eq]
  rw [hself, besideName_eq_self_iff h.name hdots, EndsInTmp, h.getLast?_names]
  constructor
  · rintro ⟨kept, rfl, hkept, hpoint⟩
    exact ⟨String.ofList kept, by rw [String.ofList_append],
      fun h => hkept (String.ofList_inj.mp h), fun h => hpoint (String.ofList_inj.mp h)⟩
  · rintro ⟨kept, hlast, hkept, hpoint⟩
    have hname := congrArg String.toList (Option.some.inj hlast)
    rw [String.toList_ofList, String.toList_append] at hname
    exact ⟨kept.toList, hname, fun h => hkept (String.toList_inj.mp h),
      fun h => hpoint (String.toList_inj.mp h)⟩

/-- Where the file beside is another, its name is. -/
theorem getLast?_names_temporary (h : NamesFile path) (hne : temporary path ≠ path) :
    (names (temporary path)).getLast? ≠ (names path).getLast? := by
  obtain ⟨folder, name, h, hdot, hdots⟩ := h.exists_naming
  have hother := h.temporary hdot hdots
  rw [hother.getLast?_names, h.getLast?_names]
  intro heq
  have hname : besideName name = name := String.ofList_inj.mp (Option.some.inj heq)
  exact hne (by rw [hother.eq, hname, h.eq])

/-! ### What a path holds -/

namespace Tree
variable {t t' : Tree} {place : List String} {other source : String} {x y : Target} {c : ByteArray}

/-- What stands where a path leads. -/
def held (t : Tree) (path : String) : Option Entry :=
  (t.target path).toOption.bind fun x => t.entry? x.place

theorem held_eq (h : t.target path = .ok x) : t.held path = t.entry? x.place := by
  rw [held, h]
  rfl

theorem name?_of_walk {names : List String} (h : t.walk place names = .ok x) :
    x.name? = none ∨ x.name? = names.getLast? := by
  fun_induction t.walk place names with
  | case11 place name rest hstop hup hrest hdot hdots hlen hentry ih =>
    rw [List.getLast?_cons_of_ne_nil hrest]
    exact ih h
  | case6 place rest hrest ih | case7 place rest hrest ih =>
    rw [List.getLast?_cons_of_ne_nil hrest]
    exact ih h
  | case4 | case8 | case9 | case10 => cases h
  | case5 place name hdot hdots hlen => cases h; exact .inr rfl
  | _ => cases h; exact .inl rfl

/-- A path leads to its last name. -/
theorem getLast?_place (h : t.target path = .ok x) (hentry : t.entry? x.place ≠ some .folder) :
    x.place.getLast? = (names path).getLast? := by
  obtain ⟨name, hname⟩ := Option.isSome_iff_exists.mp (isSome_name? h hentry)
  obtain hnone | hlast := name?_of_walk (target_eq_ok_iff.mp h).2
  · cases hnone.symm.trans hname
  · rw [← hlast, Target.place, hname]
    exact List.getLast?_concat

theorem SameFolders.toOption_target (h : SameFolders t t') (path : String) :
    (t'.target path).toOption = (t.target path).toOption := by
  cases htarget : t.target path with
  | ok x => rw [h.target htarget]
  | error fault =>
    cases htarget' : t'.target path with
    | ok x => cases htarget.symm.trans (h.symm.target htarget')
    | error fault' => rfl

theorem held_write_self (h : t.write path c = .ok t') : t'.held path = some (.file c) := by
  obtain ⟨-, x, htarget, hentry⟩ := of_write h
  rw [held_eq htarget, hentry]

theorem held_rename {t'' : Tree} (hwrite : t.write source c = .ok t')
    (hrename : t'.rename source path = .ok t'') : t''.held path = some (.file c) := by
  obtain ⟨-, y, htarget, hentry⟩ := of_rename hwrite hrename
  rw [held_eq htarget, hentry]

/-- Paths with different last names do not lead to the same file. -/
theorem held_write_of_ne (h : t.write other c = .ok t')
    (hne : (names other).getLast? ≠ (names path).getLast?) : t'.held path = t.held path := by
  obtain ⟨y, hy, hentry, -, rfl⟩ := write_eq_ok_iff.mp h
  rw [held, held, (sameFolders_set hentry c).toOption_target]
  cases hx : t.target path with
  | error fault => rfl
  | ok x =>
    refine entry?_set_of_ne (fun hplace => hne ?_) _
    rw [← getLast?_place hy hentry, ← getLast?_place hx (hplace ▸ hentry), hplace]

end Tree
end DatasetSearch.Files
