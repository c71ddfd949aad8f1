import DatasetSearch.Command.Run
import DatasetSearch.Proofs.Program

/-! Running the parts of a command.

How a part that failed or went well is followed by the next (`run_andThen`), and that no command
writes a file by itself (`keepsFiles_execute`). -/
namespace DatasetSearch.Command
open Program (World KeepsFiles)
variable {α β : Type} {a : App}

/-! ### One part after the other -/

theorem run_andThen_ok {p : Result α} {x : α} {w w' : World} (h : p.run w = (.ok x, w'))
    (f : α → Result β) : (p.andThen f).run w = (f x).run w' := by
  rw [Result.andThen, Program.run_bind, h]

theorem run_andThen_error {p : Result α} {e : Failure} {w w' : World}
    (h : p.run w = (.error e, w')) (f : α → Result β) : (p.andThen f).run w = (.error e, w') := by
  rw [Result.andThen, Program.run_bind, h]
  rfl

theorem run_ofFile (p : Program (Except SavedState.FileError α)) (w : World) :
    (ofFile p).run w = ((p.run w).1.mapError .file, (p.run w).2) := by
  rw [ofFile, Program.run_bind]
  rfl

theorem run_ofFile_eq_ok_iff {p : Program (Except SavedState.FileError α)} {x : α} {w : World} :
    ((ofFile p).run w).1 = .ok x ↔ (p.run w).1 = .ok x := by
  rw [run_ofFile]
  cases (p.run w).1 with
  | ok y => exact ⟨fun h => congrArg Except.ok (Except.ok.inj h), fun h => by cases h; rfl⟩
  | error e => exact ⟨nofun, nofun⟩

/-- A file's program fails only with what is wrong with a file. -/
theorem exists_of_ofFile {p : Program (Except SavedState.FileError α)} {f : Failure} {w : World}
    (h : ((ofFile p).run w).1 = .error f) : ∃ e, f = .file e := by
  rw [run_ofFile] at h
  cases hresult : (p.run w).1 with
  | ok x =>
    rw [hresult] at h
    cases h
  | error e =>
    rw [hresult] at h
    cases h
    exact ⟨e, rfl⟩

theorem run_printAll (lines : List String) (next : Program α) (w : World) :
    (printAll lines next).run w = next.run { w with output := w.output ++ lines } := by
  induction lines generalizing w with
  | nil => rw [List.append_nil]; rfl
  | cons line rest ih =>
    rw [printAll, Program.run, ih, List.append_assoc, List.singleton_append]

/-! ### No command writes a file -/

theorem keepsFiles_andThen {p : Result α} {f : α → Result β} (hp : p.KeepsFiles)
    (hf : ∀ x, (f x).KeepsFiles) : (p.andThen f).KeepsFiles :=
  hp.bind fun
    | .ok x => hf x
    | .error _ => trivial

theorem keepsFiles_printAll (lines : List String) {next : Program α} (h : next.KeepsFiles) :
    (printAll lines next).KeepsFiles := by
  induction lines with
  | nil => exact h
  | cons line rest ih => exact ih

theorem keepsFiles_searched {p : Program (App × App.SearchResult)} (h : p.KeepsFiles) :
    (searched p).KeepsFiles :=
  h.bind fun
    | (_, .ok _) => trivial
    | (_, .error _) => trivial

theorem keepsFiles_fetchMore (a : App) : a.fetchMore.KeepsFiles := by
  rw [App.fetchMore]
  split
  · trivial
  · exact fun _ => trivial

theorem keepsFiles_morePages (n : Nat) (p : App × Search.Outcome) : (morePages n p).KeepsFiles := by
  induction n generalizing p with
  | zero => trivial
  | succ n ih =>
    rw [morePages]
    split
    · exact keepsFiles_andThen (keepsFiles_searched (keepsFiles_fetchMore p.1)) ih
    · trivial

theorem keepsFiles_runSearch (now : Int) (term : String) (routes : List String) (pages : Nat)
    (a : App) : (runSearch now term routes pages a).KeepsFiles := by
  rw [runSearch]
  split
  · trivial
  · refine keepsFiles_andThen (keepsFiles_andThen (keepsFiles_searched fun _ => trivial) fun p =>
      keepsFiles_morePages _ p) fun a => keepsFiles_printAll _ trivial

theorem keepsFiles_logIn (a : App) : (logIn a).KeepsFiles
  | .ok _ => trivial
  | .error _ => trivial

theorem keepsFiles_execute (now : Int) (c : Command) (a : App) : (execute now c a).KeepsFiles := by
  cases c with
  | search term routes pages => exact keepsFiles_runSearch now term routes pages a
  | complete term creators =>
    refine KeepsFiles.bind (fun _ => trivial) fun
      | .ok texts => keepsFiles_printAll texts trivial
      | .error _ => trivial
  | contentTypes =>
    refine KeepsFiles.bind (fun _ => trivial) fun
      | (_, .ok types) => keepsFiles_printAll types trivial
      | (_, .error _) => trivial
  | history kind start =>
    rw [execute, showHistory]
    split
    · trivial
    · exact keepsFiles_printAll _ trivial
  | wholeHistory => exact keepsFiles_printAll _ trivial
  | forget key => trivial
  | login => exact keepsFiles_logIn a
  | whoami =>
    rw [execute, showUser]
    split
    · trivial
    · exact fun _ => trivial
  | logout => exact fun _ => trivial

end DatasetSearch.Command
