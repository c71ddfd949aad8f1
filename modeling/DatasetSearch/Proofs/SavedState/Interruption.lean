import DatasetSearch.Proofs.Files.Temporary
import DatasetSearch.Proofs.SavedState.RoundTrip

/-! Saving that is interrupted.

`Seen` says which trees of files can be seen while a program runs: a text is written byte after byte,
so that a write that stops or fails may leave its first bytes, while a rename is done at once or not
at all. What a run leaves is among them (`seen_run`). While a state is saved, its file holds all of
what it held or all of the new text, unless it is its own file beside (`save_interrupted_iff`). -/
namespace DatasetSearch
open Files (Entry Fault NamesFile Tree)

namespace Program
variable {α : Type}

/-- The first bytes of a text. -/
def firstBytes (text : String) (n : Nat) : ByteArray := text.toUTF8.extract 0 n

theorem firstBytes_zero (text : String) : firstBytes text 0 = .empty := by
  simp [firstBytes]

theorem firstBytes_all (text : String) : firstBytes text text.toUTF8.size = text.toUTF8 :=
  ByteArray.extract_zero_size

/-- From which trees of files to which a program may come, whatever it is answered, if it is stopped
at any time or runs to its end. -/
inductive Seen : Program α → Tree → Tree → Prop
  | now {p t} : Seen p t t
  | fetch {r next t t'} (reply) (later : Seen (next reply) t t') : Seen (.fetch r next) t t'
  | loop {σ β : Type} {s : σ} {round : σ → Round σ β} {next t t'} (result)
    (later : Seen (next result) t t') : Seen (.loop s round next) t t'
  | print {line next t t'} (later : Seen next t t') : Seen (.print line next) t t'
  | readText {path next t t'} (answer) (later : Seen (next answer) t t') :
    Seen (.readText path next) t t'
  /-- A write is stopped. -/
  | cut {path text next t t'} (n : Nat) (hwrite : t.write path (firstBytes text n) = .ok t') :
    Seen (.writeText path text next) t t'
  /-- A write fails on its way. -/
  | torn {path text next t t' t''} (n : Nat) (fault : Fault)
    (hwrite : t.write path (firstBytes text n) = .ok t')
    (later : Seen (next (some fault)) t' t'') : Seen (.writeText path text next) t t''
  /-- A write fails before anything is done. -/
  | refused {path text next t t'} (fault : Fault) (later : Seen (next (some fault)) t t') :
    Seen (.writeText path text next) t t'
  | written {path text next t t' t''} (hwrite : t.write path text.toUTF8 = .ok t')
    (later : Seen (next none) t' t'') : Seen (.writeText path text next) t t''
  | unmoved {source target next t t'} (fault : Fault) (later : Seen (next (some fault)) t t') :
    Seen (.rename source target next) t t'
  | moved {source target next t t' t''} (hrename : t.rename source target = .ok t')
    (later : Seen (next none) t' t'') : Seen (.rename source target next) t t''

theorem seen_done {a : α} {t t' : Tree} (h : Seen (done a) t t') : t' = t := by
  cases h
  rfl

/-- What a program leaves when it runs in a world is one of the trees that can be seen. -/
theorem seen_run (p : Program α) (w : World) : Seen p w.files (p.run w).2.files := by
  induction p generalizing w with
  | done a => exact .now
  | fetch r next ih =>
    rw [run]
    exact .fetch _ (ih _ { w with replies := w.replies.tail, requests := w.requests ++ [r] })
  | loop s round next ih =>
    rw [run]
    exact .loop _ (ih _ { w with input := (rounds round s w.input).2 })
  | print line next ih => exact .print (ih { w with output := w.output ++ [line] })
  | readText path next ih => exact .readText _ (ih _ w)
  | writeText path text next ih =>
    rw [run]
    split
    · next files hwrite => exact .written hwrite (ih none { w with files })
    · next fault hwrite => exact .refused fault (ih _ w)
  | rename source target next ih =>
    rw [run]
    split
    · next files hrename => exact .moved hrename (ih none { w with files })
    · next fault hrename => exact .unmoved fault (ih _ w)

end Program

namespace SavedState
open Program (Seen firstBytes)
variable {path : String} {s : SavedState} {t t' : Tree}

/-- All that can be seen while a state is saved: nothing is done yet, or the first bytes are written
to the file beside, or this is done and the file beside is put in the place of the state's. -/
theorem seen_save_iff : Seen (save path s) t t' ↔
    t' = t ∨
    (∃ n, t.write (Files.temporary path) (firstBytes s.text n) = .ok t') ∨
    ∃ written, t.write (Files.temporary path) s.text.toUTF8 = .ok written ∧
      written.rename (Files.temporary path) path = .ok t' := by
  constructor
  · intro h
    cases h with
    | now => exact .inl rfl
    | cut n hwrite => exact .inr (.inl ⟨n, hwrite⟩)
    | torn n fault hwrite later =>
      rw [Program.seen_done later]
      exact .inr (.inl ⟨n, hwrite⟩)
    | refused fault later => exact .inl (Program.seen_done later)
    | written hwrite later =>
      have hall := hwrite
      rw [← Program.firstBytes_all] at hall
      cases later with
      | now => exact .inr (.inl ⟨_, hall⟩)
      | unmoved fault later =>
        rw [Program.seen_done later]
        exact .inr (.inl ⟨_, hall⟩)
      | moved hrename later =>
        rw [Program.seen_done later]
        exact .inr (.inr ⟨_, hwrite, hrename⟩)
  · rintro (rfl | ⟨n, hwrite⟩ | ⟨written, hwrite, hrename⟩)
    · exact .now
    · exact .cut n hwrite
    · exact .written hwrite (.moved hrename .now)

/-! ### What the state's file holds meanwhile -/

section
variable (h : Seen (save path s) t t')
include h

theorem whole_of_ne (hpath : NamesFile path) (hne : Files.temporary path ≠ path) :
    t'.held path = t.held path ∨ t'.held path = some (.file s.text.toUTF8) := by
  have hnames := Files.getLast?_names_temporary hpath hne
  obtain rfl | ⟨n, hwrite⟩ | ⟨written, hwrite, hrename⟩ := seen_save_iff.mp h
  · exact .inl rfl
  · exact .inl (Tree.held_write_of_ne hwrite hnames)
  · exact .inr (Tree.held_rename hwrite hrename)

theorem eq_of_not_writable (hplace : ¬t.Writable (Files.temporary path)) : t' = t := by
  obtain rfl | ⟨n, hwrite⟩ | ⟨written, hwrite, -⟩ := seen_save_iff.mp h
  · rfl
  · exact absurd (Tree.exists_write_iff.mp ⟨t', hwrite⟩) hplace
  · exact absurd (Tree.exists_write_iff.mp ⟨written, hwrite⟩) hplace

end

/-- If the file beside is the state's own, it can be seen with any first bytes of the new text. -/
theorem exists_seen_part (hself : Files.temporary path = path) (hplace : t.Writable path)
    (s : SavedState) (n : Nat) :
    ∃ t', Seen (save path s) t t' ∧ t'.held path = some (.file (firstBytes s.text n)) := by
  obtain ⟨t', hwrite⟩ := Tree.exists_write_iff.mpr hplace
  exact ⟨t', seen_save_iff.mpr (.inr (.inl ⟨n, hself.symm ▸ hwrite⟩)), Tree.held_write_self hwrite⟩

theorem two_le_size_text (s : SavedState) : 2 ≤ s.text.toUTF8.size := by
  obtain ⟨rest, hrest⟩ : ∃ rest, s.toJson.prettyChars 0 = ['\x7b', '\n'] ++ rest := ⟨_, rfl⟩
  have htext : s.text = String.ofList ['\x7b', '\n'] ++ String.ofList rest := by
    rw [text, Json.pretty, hrest, String.ofList_append]
  have hopen : (String.ofList ['\x7b', '\n']).utf8ByteSize = 2 := by decide
  have hsize : s.text.utf8ByteSize = 2 + (String.ofList rest).utf8ByteSize := by
    rw [htext, String.utf8ByteSize_append, hopen]
  exact Nat.le_of_add_right_le (Nat.le_of_eq hsize.symm)

/-- Not all first bytes of the new text are what was there or the whole text. -/
theorem exists_part (s : SavedState) (old : Option Entry) :
    ∃ n, some (.file (firstBytes s.text n)) ≠ old ∧ firstBytes s.text n ≠ s.text.toUTF8 := by
  have hlong := two_le_size_text s
  have hsize : ∀ n ≤ 1, (firstBytes s.text n).size = n := by
    intro n hn
    rw [firstBytes, ByteArray.size_extract]
    omega
  have hpart : ∀ n ≤ 1, firstBytes s.text n ≠ s.text.toUTF8 := by
    intro n hn hall
    have hfew := hsize n hn
    rw [hall] at hfew
    omega
  -- what was there is not both empty and one byte
  by_cases hold : some (.file (firstBytes s.text 0)) = old
  · refine ⟨1, fun hold' => ?_, hpart 1 (by omega)⟩
    have hsame : firstBytes s.text 0 = firstBytes s.text 1 :=
      Entry.file.inj (Option.some.inj (hold.trans hold'.symm))
    have hsizes := congrArg ByteArray.size hsame
    rw [hsize 0 (by omega), hsize 1 (by omega)] at hsizes
    omega
  · exact ⟨0, hold, hpart 0 (by omega)⟩

/-- While a state is saved, the path of its file holds what it held or the whole new text, at every
time and after every failure. This is so unless the path has the ending of the file beside, so that
the state's file is its own, and a file can be written there. Then the path holds any number of first
bytes of the new text, if the write stops after them. -/
theorem save_interrupted_iff (hpath : NamesFile path) (s : SavedState) (t : Tree) :
    ((∀ t', Seen (save path s) t t' →
        t'.held path = t.held path ∨ t'.held path = some (.file s.text.toUTF8)) ↔
      ¬(Files.EndsInTmp path ∧ t.Writable path)) ∧
    (Files.EndsInTmp path → t.Writable path →
      ∀ n, ∃ t', Seen (save path s) t t' ∧ t'.held path = some (.file (firstBytes s.text n))) := by
  have hparts : Files.EndsInTmp path → t.Writable path → ∀ n, ∃ t', Seen (save path s) t t' ∧
      t'.held path = some (.file (firstBytes s.text n)) := fun hends hplace n =>
    exists_seen_part ((Files.temporary_eq_self_iff hpath).mpr hends) hplace s n
  refine ⟨⟨?_, ?_⟩, hparts⟩
  · rintro hwhole ⟨hends, hplace⟩
    obtain ⟨n, hold, hnew⟩ := exists_part s (t.held path)
    obtain ⟨t', hseen, hheld⟩ := hparts hends hplace n
    obtain hkept | hdone := hwhole t' hseen
    · exact hold (hheld.symm.trans hkept)
    · exact hnew (Entry.file.inj (Option.some.inj (hheld.symm.trans hdone)))
  · intro h t' hseen
    by_cases hself : Files.temporary path = path
    · have hplace : ¬t.Writable (Files.temporary path) := fun hplace =>
        h ⟨(Files.temporary_eq_self_iff hpath).mp hself, hself ▸ hplace⟩
      exact .inl (by rw [eq_of_not_writable hseen hplace])
    · exact whole_of_ne hseen hpath hself

/-- A tree with a file of a given name. -/
def holding (name text : String) : Tree := ⟨[([name], .file text.toUTF8)]⟩

theorem save_interrupted_json : NamesFile "state.json" ∧
    ∀ t', Seen (save "state.json" (.initial 1970)) (holding "state.json" "old") t' →
      t'.held "state.json" = (holding "state.json" "old").held "state.json" ∨
        t'.held "state.json" = some (.file (initial 1970).text.toUTF8) := by
  have hpath : NamesFile "state.json" := ⟨by decide, "state.json", by decide, by decide, by decide⟩
  have hother : Files.temporary "state.json" ≠ "state.json" := by decide
  obtain ⟨hwhole, -⟩ := save_interrupted_iff hpath (.initial 1970) (holding "state.json" "old")
  exact ⟨hpath, hwhole.mpr fun h => hother ((Files.temporary_eq_self_iff hpath).mpr h.1)⟩

/-- A save to a path with the ending that is stopped at once leaves an empty file, where the file was
not empty and the new text is not. -/
theorem emptied_by_save : NamesFile "saved.tmp" ∧
    (holding "saved.tmp" "old").held "saved.tmp" = some (.file "old".toUTF8) ∧
    (initial 1970).text.toUTF8 ≠ .empty ∧
    ∃ t', Seen (save "saved.tmp" (.initial 1970)) (holding "saved.tmp" "old") t' ∧
      t'.held "saved.tmp" = some (.file .empty) := by
  have hpath : NamesFile "saved.tmp" := ⟨by decide, "saved.tmp", by decide, by decide, by decide⟩
  have hself : Files.temporary "saved.tmp" = "saved.tmp" := by decide
  have htarget : (holding "saved.tmp" "old").target "saved.tmp" = .ok ⟨[], some "saved.tmp"⟩ :=
    target_name _ (by decide) (Tree.start_eq_nil (by decide)) (by simp) (by decide)
  have hplace : (holding "saved.tmp" "old").Writable "saved.tmp" := ⟨by decide, _, htarget, nofun⟩
  refine ⟨hpath, Tree.held_eq htarget, fun hempty => ?_, ?_⟩
  · have hlong := two_le_size_text (.initial 1970)
    rw [hempty] at hlong
    exact absurd hlong (by decide)
  · obtain ⟨t', hseen, hheld⟩ := exists_seen_part hself hplace (.initial 1970) 0
    exact ⟨t', hseen, by rw [hheld, Program.firstBytes_zero]⟩

end SavedState
end DatasetSearch
