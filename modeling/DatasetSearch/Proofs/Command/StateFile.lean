import DatasetSearch.Proofs.App.Restart
import DatasetSearch.Proofs.Command.Results
import DatasetSearch.Proofs.SavedState.RoundTrip
import DatasetSearch.Proofs.SavedState.Sizes

/-! The file of the saved state after a command.

`run_cases` says all that a run can come to: it fails and leaves every file, or it puts the text of
what its command left in the place of the state's file. A command that only reads (`OnlyReads`)
leaves what a restart makes of the file, so the first such command settles the file and no later one
changes it (`state_file_whole`). -/
namespace DatasetSearch
open Program (World)

/-! ### Settled states -/

namespace SavedState
variable {s : SavedState}

theorem settled_settled (s : SavedState) : s.settled.settled = s.settled :=
  congrArg (fun history => { s with version := stateVersion, history }) (merged_merged s.history)

theorem upgrade_settled (s : SavedState) : s.settled.upgrade = s.settled := rfl

/-- Every date of the merged entries is one of the entries'. -/
theorem Fits.settled (h : s.Fits) : s.settled.Fits where
  version := show stateVersion < twoPow 32 by decide
  session := h.session
  history := by
    intro r hr
    obtain ⟨last, hlast, hdate, _⟩ := exists_of_mem_merged hr
    have hfits : last.Fits := h.history last (List.mem_filter.mp (List.mem_of_getLast? hlast)).1
    rw [StoredEntry.Fits, hdate]
    exact hfits
  view := h.view

end SavedState

namespace Command
variable {now : Int} {env : Variables.Env} {c : Command} {w : World}

/-- The application that a command works on. -/
abbrev opened (now : Int) (settings : Settings) (saved : SavedState) : App :=
  App.reopened settings (Calendar.yearAt now) saved

/-! ### What a run can come to -/

theorem run_load_snd (year : Int) (path : String) (w : World) :
    ((SavedState.load year path).run w).2 = w := rfl

section
variable {settings : Settings} {saved : SavedState} {a : App} {w' w'' : World}

theorem run_of_load (hsettings : Settings.read env = .ok settings)
    (hload : ((SavedState.load (Calendar.yearAt now) settings.statePath).run w).1 = .ok saved) :
    (run now env c).run w =
      ((execute now c (opened now settings saved)).andThen fun a =>
        ofFile (SavedState.save settings.statePath a.snapshot)).run w := by
  have hfile : (ofFile (SavedState.load (Calendar.yearAt now) settings.statePath)).run w =
      (.ok saved, w) := by
    rw [run_ofFile, hload, run_load_snd]
    rfl
  rw [run, hsettings]
  exact run_andThen_ok hfile _

theorem run_of_save (hsettings : Settings.read env = .ok settings)
    (hload : ((SavedState.load (Calendar.yearAt now) settings.statePath).run w).1 = .ok saved)
    (hexecute : (execute now c (opened now settings saved)).run w = (.ok a, w'))
    (hsave : (SavedState.save settings.statePath a.snapshot).run w' = (.ok (), w'')) :
    (run now env c).run w = (.ok (), w'') := by
  rw [run_of_load hsettings hload, run_andThen_ok hexecute, run_ofFile, hsave]
  rfl

end

/-- Where the state's file can be replaced, a run fails and leaves all files, or replaces the
state's file by what its command has left. -/
theorem run_cases (now : Int) (c : Command)
    (hfiles : ∀ settings, Settings.read env = .ok settings →
      w.files.Replaceable settings.statePath) :
    (∃ failure w', (run now env c).run w = (.error failure, w') ∧ w'.files = w.files) ∨
    ∃ settings saved a w' files, Settings.read env = .ok settings ∧
      ((SavedState.load (Calendar.yearAt now) settings.statePath).run w).1 = .ok saved ∧
      (execute now c (opened now settings saved)).run w = (.ok a, w') ∧
      (run now env c).run w = (.ok (), { w' with files }) ∧
      files.read settings.statePath = .ok a.snapshot.text ∧
      files.Replaceable settings.statePath := by
  cases hsettings : Settings.read env with
  | error e =>
    refine .inl ⟨.settings e, w, ?_, rfl⟩
    rw [run, hsettings]
    rfl
  | ok settings =>
    cases hload : ((SavedState.load (Calendar.yearAt now) settings.statePath).run w).1 with
    | error e =>
      refine .inl ⟨.file e, w, ?_, rfl⟩
      rw [run, hsettings]
      refine run_andThen_error ?_ _
      rw [run_ofFile, hload, run_load_snd]
      rfl
    | ok saved =>
      have hkeeps := (keepsFiles_execute now c (opened now settings saved)).run w
      cases hexecute : (execute now c (opened now settings saved)).run w with
      | mk result w' =>
        rw [hexecute] at hkeeps
        cases result with
        | error failure =>
          refine .inl ⟨failure, w', ?_, hkeeps⟩
          rw [run_of_load hsettings hload, run_andThen_error hexecute]
        | ok a =>
          have hplace : w'.files.Replaceable settings.statePath :=
            hkeeps ▸ hfiles settings hsettings
          obtain ⟨files, hsave, hread, hagain⟩ := SavedState.exists_save hplace a.snapshot
          exact .inr ⟨settings, saved, a, w', files, rfl, hload, hexecute,
            run_of_save hsettings hload hexecute hsave, hread, hagain⟩

/-! ### Commands that only read -/

/-- Whether a command, on an application and in a world, has nothing to change in what is saved: it
forgets only what is not remembered, and asks only after a session that is still good. -/
def OnlyReads (a : App) (w : World) : Command → Prop
  | .complete _ _ | .contentTypes | .history _ _ | .wholeHistory => True
  | .forget key => key ∉ a.history.keys
  | .whoami => a.account.session? = none ∨
      ∃ body, w.replies.headD Http.Reply.unreachable a.account.checkRequest = .response ⟨200, body⟩
  | .search _ _ _ | .login | .logout => False

theorem eq_of_run_printAll {a b : App} {lines : List String} {w' : World}
    (h : (printAll lines (succeed a)).run w = (.ok b, w')) : b = a := by
  rw [run_printAll] at h
  cases h
  rfl

theorem snapshot_of_onlyReads {a b : App} {w' : World} (h : OnlyReads a w c)
    (hrun : (execute now c a).run w = (.ok b, w')) : b.snapshot = a.snapshot := by
  cases c with
  | search term routes pages => exact h.elim
  | complete term creators =>
    simp only [execute, runComplete, App.complete, Program.bind, Program.run] at hrun
    split at hrun
    · rw [eq_of_run_printAll hrun]
    · cases hrun
  | contentTypes =>
    simp only [execute, listContentTypes, App.refreshContentTypes, Program.bind, Program.run] at hrun
    cases htexts : Search.textsIn (Search.contentTypesUrl a.settings.apiBase)
        (w.replies.headD Http.Reply.unreachable
          { url := Search.contentTypesUrl a.settings.apiBase }) with
    | ok types =>
      simp only [htexts] at hrun
      rw [eq_of_run_printAll hrun]
      obtain ⟨htypes, hview⟩ := Search.Facets.offer_keeps a.facets types
      simp only [App.snapshot, htypes, hview]
    | error e =>
      simp only [htexts] at hrun
      cases hrun
  | history kind start =>
    simp only [execute, showHistory] at hrun
    split at hrun
    · cases hrun
    · rw [eq_of_run_printAll hrun]
  | wholeHistory => rw [eq_of_run_printAll hrun]
  | forget key =>
    cases hrun
    simp only [App.snapshot, History.toStored, History.forget, Keyed.items_erase_of_not_mem h]
  | login => exact h.elim
  | whoami =>
    simp only [execute, showUser] at hrun
    cases hsession : a.account.session? with
    | none =>
      simp only [hsession] at hrun
      cases hrun
      rfl
    | some session =>
      rw [OnlyReads, hsession] at h
      obtain hnone | ⟨body, hreply⟩ := h
      · cases hnone
      simp only [hsession, App.checkSession, Program.bind, Program.run, hreply,
        Account.Store.finishCheck] at hrun
      cases hrun
      rfl
  | logout => exact h.elim

/-- A command that only reads leaves the text of a settled state where it is. -/
theorem read_of_onlyReads {path : String} {s : SavedState} (hfits : s.Fits)
    (hsettled : s.settled = s) (hread : w.files.read path = .ok s.text)
    (hplace : w.files.Replaceable path)
    (hreads : ∀ settings, Settings.read env = .ok settings →
      settings.statePath = path ∧ OnlyReads (opened now settings s) w c) :
    ((run now env c).run w).2.files.read path = .ok s.text := by
  have hfiles : ∀ settings, Settings.read env = .ok settings →
      w.files.Replaceable settings.statePath := fun settings h => (hreads settings h).1 ▸ hplace
  obtain ⟨failure, w', hrun, hsame⟩ |
    ⟨settings, saved, a, w', files, hsettings, hload, hexecute, hrun, hnew, _⟩ :=
    run_cases now c hfiles
  · rw [hrun, hsame, hread]
  · obtain ⟨rfl, honly⟩ := hreads settings hsettings
    have hupgrade : s.upgrade = s := by rw [← hsettled, SavedState.upgrade_settled]
    rw [SavedState.run_load hfits _ hread, hupgrade] at hload
    cases hload
    have hsnapshot : a.snapshot = s := by
      rw [snapshot_of_onlyReads honly hexecute, App.snapshot_reopened, hsettled]
    rw [hrun, hnew, hsnapshot]

/-- A command replaces the state's file as a whole or leaves it alone, wherever the file can be
replaced. If it fails, all files are as they were. If it goes well, the file holds what the
application saves after the command. After a command that only reads, this is the state that was
loaded, with the present version and with every key of its history once, in whatever year it is
loaded again; and no such command that comes later changes the file, be its time, input, replies and
other settings what they may. -/
theorem state_file_whole {now : Int} (hnow : Json.InInt64 now) (env : Variables.Env) (c : Command)
    (w : World) (hfiles : ∀ settings, Settings.read env = .ok settings →
      w.files.Replaceable settings.statePath) :
    let ended := (run now env c).run w
    (∀ failure, ended.1 = .error failure → ended.2.files = w.files) ∧
    (ended.1 = .ok () → ∃ settings saved a, Settings.read env = .ok settings ∧
      ((SavedState.load (Calendar.yearAt now) settings.statePath).run w).1 = .ok saved ∧
      ((execute now c (opened now settings saved)).run w).1 = .ok a ∧
      ended.2.files.read settings.statePath = .ok a.snapshot.text ∧
      (OnlyReads (opened now settings saved) w c →
        (∀ year, ((SavedState.load year settings.statePath).run ended.2).1 =
          .ok { saved with version := 2, history := merged saved.history }) ∧
        ∀ now' env' c' w', w'.files = ended.2.files →
          (∀ settings', Settings.read env' = .ok settings' →
            settings'.statePath = settings.statePath ∧
              OnlyReads (opened now' settings' saved.settled) w' c') →
          ((run now' env' c').run w').2.files.read settings.statePath =
            ended.2.files.read settings.statePath)) := by
  intro ended
  obtain ⟨failure, w', hrun, hsame⟩ |
    ⟨settings, saved, a, w', files, hsettings, hload, hexecute, hrun, hread, hplace⟩ :=
    run_cases now c hfiles
  · have hended : ended = (.error failure, w') := hrun
    rw [hended]
    exact ⟨fun _ _ => hsame, nofun⟩
  · have hended : ended = (.ok (), { w' with files }) := hrun
    rw [hended]
    refine ⟨nofun, fun _ => ⟨settings, saved, a, hsettings, hload, by rw [hexecute], hread, ?_⟩⟩
    intro honly
    have hsnapshot : a.snapshot = saved.settled :=
      (snapshot_of_onlyReads honly hexecute).trans (App.snapshot_reopened _ _ saved)
    have hfits : saved.settled.Fits :=
      (SavedState.fits_of_load (Calendar.yearAt_inInt64 hnow) hload).settled
    rw [hsnapshot] at hread
    refine ⟨fun year => SavedState.run_load hfits year hread, ?_⟩
    intro now' env' c' later hlater hreads
    have hread' : later.files.read settings.statePath = .ok saved.settled.text :=
      hlater ▸ hread
    have hthen := read_of_onlyReads hfits (SavedState.settled_settled saved) hread'
      (hlater ▸ hplace) hreads
    exact hthen.trans hread.symm

/-! ### Where nothing is set or saved -/

/-- The settings where no variable is set. -/
def standard : Settings where
  apiBase := "http://localhost:8000/api"
  appUrl := "http://localhost:8080"
  statePath := ".discovery_state.json"
  pageSize := 20
  timeoutSeconds := 30

theorem load_standard (h : w.files = .empty) :
    ((SavedState.load (Calendar.yearAt 0) standard.statePath).run w).1 =
      .ok (SavedState.initial 1970) := by
  have htarget : Files.Tree.empty.target ".discovery_state.json" = .ok ⟨[], some _⟩ :=
    SavedState.target_name _ (by decide) (Files.Tree.start_eq_nil (by decide)) (by simp) (by decide)
  have hread : w.files.read standard.statePath = .error .notFound := by
    rw [h, Files.Tree.read, standard, htarget]
    rfl
  simp only [SavedState.load, Program.run, hread]
  rfl

theorem replaceable_standard : Files.Tree.empty.Replaceable standard.statePath := by
  have htemporary : Files.temporary ".discovery_state.json" = ".discovery_state.tmp" := by decide
  have hbeside : Files.Tree.empty.Writable ".discovery_state.tmp" :=
    SavedState.writable_name (by decide) (Files.Tree.start_eq_nil (by decide)) (by decide) (by simp)
      (by decide) nofun
  have hplace : Files.Tree.empty.Writable ".discovery_state.json" :=
    SavedState.writable_name (by decide) (Files.Tree.start_eq_nil (by decide)) (by decide) (by simp)
      (by decide) nofun
  exact ⟨htemporary ▸ hbeside, hplace⟩

/-- Listing the history where no file is writes one, with the years up to the present one. -/
theorem file_of_first_listing :
    ((run 0 (fun _ => none) .wholeHistory).run {}).1 = .ok () ∧
    ∀ year, ((SavedState.load year ".discovery_state.json").run
      ((run 0 (fun _ => none) .wholeHistory).run {}).2).1 = .ok (SavedState.initial 1970) := by
  have hsettings : Settings.read (fun _ => none) = .ok standard := by decide +kernel
  have hload := load_standard (w := {}) rfl
  have hfiles : ∀ settings, Settings.read (fun _ => none) = .ok settings →
      ({} : World).files.Replaceable settings.statePath := by
    intro settings h
    cases hsettings.symm.trans h
    exact replaceable_standard
  have hrun : ((run 0 (fun _ => none) .wholeHistory).run {}).1 = .ok () := by
    obtain ⟨files, hsave, -⟩ := SavedState.exists_save (w := {}) replaceable_standard
      (opened 0 standard (SavedState.initial 1970)).snapshot
    rw [run_of_save hsettings hload rfl hsave]
  refine ⟨hrun, fun year => ?_⟩
  have hnow : Json.InInt64 0 := by decide
  obtain ⟨-, hok⟩ := state_file_whole hnow (fun _ => none) .wholeHistory {} hfiles
  obtain ⟨settings, saved, a, hread, hsaved, -, -, hsettles⟩ := hok hrun
  cases hsettings.symm.trans hread
  cases hload.symm.trans hsaved
  exact (hsettles trivial).1 year

end Command
end DatasetSearch
