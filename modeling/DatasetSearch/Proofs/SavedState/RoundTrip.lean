import DatasetSearch.Proofs.Files.Replacing
import DatasetSearch.Proofs.SavedState.Text

/-! A saved state loads back.

`load_save`: saving says that it is done exactly when a file can be written both beside the state's
own and in its place, and what is then loaded is the saved state, brought to the present version. -/
namespace DatasetSearch.SavedState
open Program (World)

/-- Saving writes the text beside the state's file and then puts it in its place. -/
theorem run_save_eq_ok_iff {path : String} {s : SavedState} {w w' : World} :
    (save path s).run w = (.ok (), w') ↔
      ∃ written files, w.files.write (Files.temporary path) s.text.toUTF8 = .ok written ∧
        written.rename (Files.temporary path) path = .ok files ∧ { w with files } = w' := by
  simp only [save, Program.run]
  cases hwrite : w.files.write (Files.temporary path) s.text.toUTF8 with
  | error fault => simp
  | ok written =>
    cases hrename : written.rename (Files.temporary path) path with
    | error fault => simp [hrename]
    | ok files => simp [hrename]

/-- Saving changes nothing but files. -/
theorem run_save_snd (path : String) (s : SavedState) (w : World) :
    ∃ files, ((save path s).run w).2 = { w with files } := by
  simp only [save, Program.run]
  cases w.files.write (Files.temporary path) s.text.toUTF8 with
  | error fault => exact ⟨w.files, rfl⟩
  | ok written =>
    cases hrename : written.rename (Files.temporary path) path with
    | error fault => exact ⟨written, by simp only [hrename]⟩
    | ok files => exact ⟨files, by simp only [hrename]⟩

/-- Where a file can be put in the place of the state's, saving puts the state's text there. -/
theorem exists_save {path : String} {w : World} (h : w.files.Replaceable path) (s : SavedState) :
    ∃ files, (save path s).run w = (.ok (), { w with files }) ∧ files.read path = .ok s.text ∧
      files.Replaceable path := by
  obtain ⟨written, files, hwrite, hrename, hread, hfiles⟩ := h.exists_rename s.text
  exact ⟨files, run_save_eq_ok_iff.mpr ⟨written, files, hwrite, hrename, rfl⟩, hread, hfiles⟩

theorem run_save_iff_replaceable {path : String} {s : SavedState} {w : World} :
    ((save path s).run w).1 = .ok () ↔ w.files.Replaceable path := by
  constructor
  · intro hok
    obtain ⟨written, files, hwrite, hrename, -⟩ :=
      run_save_eq_ok_iff.mp (Prod.ext hok rfl : (save path s).run w = (.ok (), _))
    exact ⟨Files.Tree.exists_write_iff.mp ⟨written, hwrite⟩,
      (Files.Tree.exists_rename_iff hwrite).mp ⟨files, hrename⟩⟩
  · intro h
    obtain ⟨files, hsave, -⟩ := exists_save h s
    rw [hsave]

/-- A text that is the state's is loaded as the state. -/
theorem run_load {path : String} {s : SavedState} {w : World} (h : s.Fits) (year : Int)
    (hread : w.files.read path = .ok s.text) : ((load year path).run w).1 = .ok s.upgrade := by
  simp only [load, Program.run, hread, run_text h year]

/-- A state that was saved is loaded as it was, but for a version below the second, which is raised
to it; and it is saved wherever its file and the one beside it can be written. -/
theorem load_save (year : Int) (path : String) (w : World) {s : SavedState} (h : s.Fits) :
    ((∃ w', (save path s).run w = (.ok (), w')) ↔
      w.files.Writable (Files.temporary path) ∧ w.files.Writable path) ∧
    ∀ w', (save path s).run w = (.ok (), w') →
      ((load year path).run w').1 =
        .ok { s with version := if s.version < 2 then 2 else s.version } := by
  refine ⟨⟨?_, ?_⟩, ?_⟩
  · rintro ⟨w', hsave⟩
    obtain ⟨written, files, hwrite, hrename, -⟩ := run_save_eq_ok_iff.mp hsave
    exact ⟨Files.Tree.exists_write_iff.mp ⟨written, hwrite⟩,
      (Files.Tree.exists_rename_iff hwrite).mp ⟨files, hrename⟩⟩
  · rintro ⟨htemporary, hpath⟩
    obtain ⟨written, hwrite⟩ := Files.Tree.exists_write_iff.mpr htemporary
    obtain ⟨files, hrename⟩ := (Files.Tree.exists_rename_iff hwrite).mpr hpath
    exact ⟨_, run_save_eq_ok_iff.mpr ⟨written, files, hwrite, hrename, rfl⟩⟩
  · intro w' hsave
    obtain ⟨written, files, hwrite, hrename, rfl⟩ := run_save_eq_ok_iff.mp hsave
    have hversion : max s.version stateVersion = if s.version < 2 then 2 else s.version := by
      rw [stateVersion]
      split <;> omega
    rw [run_load h year (Files.Tree.read_rename hwrite hrename), upgrade, hversion]

/-- A state of the first version with a text of quotes, backslashes and control characters, numbers
at both ends of their ranges, a key that is there twice, and an entry without a kind. -/
def awkward : SavedState where
  version := 1
  session := some ⟨"a\"b\\c\x00\n", "0000-0002-1825-0097", leastInt64⟩
  history := [⟨"rain", 10, none⟩, ⟨"snow", greatestInt64, some "term"⟩, ⟨"rain", -1, some ""⟩]
  view := { Search.View.initial 2024 with
    dataCoverage := ⟨leastInt64, greatestInt64⟩, openPanels := [3, 18446744073709551615, 3] }
  contentTypes := ["", "é\x7f😀"]

/-- A name by itself is the path of what has that name in the folder that a program runs in. -/
theorem target_name (t : Files.Tree) {name : String} (hnames : Files.names name = [name])
    (hstart : Files.Tree.start name = []) (hnul : name.contains '\x00' = false)
    (hname : name ≠ "" ∧ name ≠ "." ∧ name ≠ ".." ∧ name.utf8ByteSize ≤ Files.nameLimit) :
    t.target name = .ok ⟨[], some name⟩ := by
  obtain ⟨hempty, hdot, hdots, hsize⟩ := hname
  have hlimit : Files.nameLimit ≤ Files.pathLimit := by decide
  have hwalk : t.walk [] [name] = .ok ⟨[], some name⟩ := by
    simp [Files.Tree.walk, Nat.not_lt.mpr hsize]
  refine Files.Tree.target_eq_ok_iff.mpr ⟨⟨hnul, ?_, ?_⟩, ?_⟩
  · simpa using hempty
  · omega
  · rw [hstart, hnames, hwalk]

theorem writable_name {t : Files.Tree} {name : String} (hnames : Files.names name = [name])
    (hstart : Files.Tree.start name = []) (hfolder : Files.namesFolder name = false)
    (hnul : name.contains '\x00' = false)
    (hname : name ≠ "" ∧ name ≠ "." ∧ name ≠ ".." ∧ name.utf8ByteSize ≤ Files.nameLimit)
    (hentry : t.entry? [name] ≠ some .folder) : t.Writable name :=
  ⟨hfolder, ⟨[], some name⟩, target_name t hnames hstart hnul hname, hentry⟩

theorem load_awkward :
    awkward.Fits ∧ ∃ w', (save "state.json" awkward).run {} = (.ok (), w') ∧
      ((load 2024 "state.json").run w').1 = .ok { awkward with version := 2 } := by
  have hview : awkward.view.Fits :=
    { ranges := by intro r; cases r <;> decide
      openPanels := by decide }
  have hfits : awkward.Fits :=
    { version := by decide
      session := by intro x hx; cases hx; decide
      history := by decide
      view := hview }
  have htemporary : Files.temporary "state.json" = "state.tmp" := by decide
  have hbeside : Files.Tree.empty.Writable "state.tmp" :=
    writable_name (by decide) (by decide +kernel) (by decide) (by simp) (by decide) nofun
  have hplace : Files.Tree.empty.Writable "state.json" :=
    writable_name (by decide) (by decide +kernel) (by decide) (by simp) (by decide) nofun
  obtain ⟨hsaved, hloaded⟩ := load_save 2024 "state.json" {} hfits
  obtain ⟨w', hw'⟩ := hsaved.mpr ⟨htemporary ▸ hbeside, hplace⟩
  exact ⟨hfits, w', hw', hloaded w' hw'⟩

end DatasetSearch.SavedState
