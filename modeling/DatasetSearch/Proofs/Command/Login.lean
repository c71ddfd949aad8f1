import DatasetSearch.Proofs.Account.Inbox
import DatasetSearch.Proofs.Command.StateFile

/-! Logging in with lines of input.

A login has its turn before each line is read, and the next line is read only if it goes on waiting.
A line without a session leaves it waiting as it was (`Waits.heard`), so a run of such lines is passed
over (`rounds_before`). The login ends with the session of the first line that has one and leaves the
lines after it unread, is closed at the end of the input if there is none, and fails if a line before
it cannot be read (`login_takes_first_session`). -/
namespace DatasetSearch
open Account (Flow Message Session)
open Program (World rounds)

namespace Command
variable {origin : String} {f : Flow} {s : Account.Store} {l : Listening}
  {line : String} {before : List String} {session : Session}

/-- The session in a line: the line is JSON with a text under `token` that is not empty. The
researcher is the text under `orcid`, if it is one, and the seconds are those under `expiresIn`, if
they are a whole number of 64 bits. -/
def sessionIn? (line : String) : Option Session :=
  (Json.ofText? line).bind fun data =>
    let m : Message := ⟨"", data⟩
    if m.text "token" = "" then none else some ⟨m.text "token", m.text "orcid", m.seconds⟩

theorem bind_accept (h : s.appUrl = Text.trimSlashes origin) (line : String) :
    (messageOf origin line).bind s.accept = sessionIn? line := by
  rw [messageOf, sessionIn?]
  cases Json.ofText? line with
  | none => rfl
  | some data =>
    rw [Option.map_some, Option.bind_some, Option.bind_some, Account.Store.accept_eq h]
    have hiff : (⟨origin, data⟩ : Message).Acceptable origin ↔
        (⟨"", data⟩ : Message).text "token" ≠ "" := and_iff_right rfl
    by_cases htoken : (⟨"", data⟩ : Message).text "token" = ""
    · rw [if_neg fun hm => hiff.mp hm htoken]
      exact (if_pos htoken).symm
    · rw [if_pos (hiff.mpr htoken)]
      exact (if_neg htoken).symm

/-! ### The rounds of a login -/

/-- A login goes on waiting: its channel is open, and it does not take what is in it. -/
structure Waits (s : Account.Store) (l : Listening) : Prop where
  account : l.account = s
  opened : l.channel.closed = false
  ignored : l.channel.sent.bind s.accept = none

theorem findSome?_toList (sent : Option Message) :
    sent.toList.findSome? s.accept = sent.bind s.accept := by
  cases sent with
  | none => rfl
  | some m => cases h : s.accept m <;> simp [h]

/-- At first nothing was sent. -/
theorem waits_first (s : Account.Store) : Waits s { account := s } := ⟨rfl, rfl, rfl⟩

/-- After a line without a session the login waits as before. -/
theorem Waits.heard (hs : s.appUrl = Text.trimSlashes origin) (hline : sessionIn? line = none) :
    Waits s { account := s, channel := { sent := messageOf origin line } } :=
  ⟨rfl, rfl, (bind_accept hs line).trans hline⟩

section
variable (live : s.tokens.isCancelled f.token = false)
include live

/-- While it waits it changes nothing, and a line is read. -/
theorem Waits.round_eq (h : Waits s l) : l.round origin f =
    .read (fun line => { account := s, channel := { sent := messageOf origin line } })
      (Listening.unheard f s) := by
  have hturn : l.turn f = (s, none) := by
    rw [Listening.turn, h.account, h.opened]
    exact Account.Store.proceed_listens live ((findSome?_toList _).trans h.ignored)
  rw [Listening.round, hturn]

/-- With a message that it takes there is no further round. -/
theorem round_accepts {sent : Option Message} (hsent : sent.bind s.accept = some session) :
    Listening.round origin f { account := s, channel := { sent } } =
      .stop (.ok ((s.endFlow f).setLoggedIn session, session)) := by
  have hturn : Listening.turn f { account := s, channel := { sent } } =
      ((s.endFlow f).setLoggedIn session, some (.ok session)) :=
    Account.Store.proceed_accepts live ((findSome?_toList _).trans hsent)
  rw [Listening.round, hturn]
  rfl

/-- At the end of the input its channel is closed, and that ends it. -/
theorem unheard_none : Listening.unheard f s none = .error (.login .windowClosed) := by
  have hturn : Listening.turn f { account := s, channel := { closed := true } } =
      ((s.endFlow f).announce .loggedOut, some (.error .windowClosed)) :=
    Account.Store.proceed_closed live rfl
  simp only [Listening.unheard, hturn, Option.get_some, Listening.outcome]

variable (hs : s.appUrl = Text.trimSlashes origin)
include hs

/-- Lines without a session are passed over. -/
theorem rounds_before (h : Waits s l) (hbefore : ∀ line ∈ before, sessionIn? line = none)
    (rest : List (Except Files.Fault String)) : ∃ l', Waits s l' ∧
      rounds (Listening.round origin f) l (before.map .ok ++ rest) =
        rounds (Listening.round origin f) l' rest := by
  induction before generalizing l with
  | nil => exact ⟨l, h, rfl⟩
  | cons line others ih =>
    obtain ⟨hline, hothers⟩ := List.forall_mem_cons.mp hbefore
    obtain ⟨l', hl', heq⟩ := ih (Waits.heard hs hline) hothers
    refine ⟨l', hl', ?_⟩
    rw [List.map_cons, List.cons_append, Program.rounds_line (h.round_eq live), heq]

/-- The first line with a session decides, and the lines after it are not read. -/
theorem rounds_session (hbefore : ∀ line ∈ before, sessionIn? line = none)
    (hline : sessionIn? line = some session) (after : List (Except Files.Fault String)) :
    rounds (Listening.round origin f) { account := s } (before.map .ok ++ .ok line :: after) =
      (.ok ((s.endFlow f).setLoggedIn session, session), after) := by
  obtain ⟨l, hl, heq⟩ := rounds_before live hs (waits_first s) hbefore (.ok line :: after)
  rw [heq, Program.rounds_line (hl.round_eq live)]
  exact Program.rounds_stop (round_accepts live ((bind_accept hs line).trans hline)) after

/-- Without such a line all are read, and the login is closed. -/
theorem rounds_closed (hbefore : ∀ line ∈ before, sessionIn? line = none) :
    rounds (Listening.round origin f) { account := s } (before.map .ok) =
      (.error (.login .windowClosed), []) := by
  obtain ⟨l, hl, heq⟩ := rounds_before live hs (waits_first s) hbefore []
  rw [List.append_nil] at heq
  rw [heq, Program.rounds_nil (hl.round_eq live), unheard_none live]

/-- A line that cannot be read ends the command if there was none before it. -/
theorem rounds_failed (hbefore : ∀ line ∈ before, sessionIn? line = none) (fault : Files.Fault)
    (after : List (Except Files.Fault String)) :
    rounds (Listening.round origin f) { account := s } (before.map .ok ++ .error fault :: after) =
      (.error (.input fault), after) := by
  obtain ⟨l, hl, heq⟩ := rounds_before live hs (waits_first s) hbefore (.error fault :: after)
  rw [heq, Program.rounds_fault (hl.round_eq live)]
  rfl

end

/-! ### The command -/

section
variable {a : App} {w : World} {input : List (Except Files.Fault String)}

theorem run_logIn_ok {account : Account.Store}
    (h : rounds (Listening.round a.settings.appUrl a.account.beginLogin.2)
      { account := a.account.beginLogin.1 } w.input = (.ok (account, session), input)) :
    (logIn a).run w = (.ok { a with account },
      { w with input, output := w.output ++ ["logged in as " ++ session.orcid] }) := by
  simp only [logIn, Program.run, h]
  rfl

theorem run_logIn_error {failure : Failure}
    (h : rounds (Listening.round a.settings.appUrl a.account.beginLogin.2)
      { account := a.account.beginLogin.1 } w.input = (.error failure, input)) :
    (logIn a).run w = (.error failure, { w with input }) := by
  simp only [logIn, Program.run, h]
  rfl

end

section
variable (now : Int) (settings : Settings) (saved : SavedState)

/-- A login on an application that was just opened is not yet cancelled. -/
theorem isCancelled_opened :
    (opened now settings saved).account.beginLogin.1.tokens.isCancelled
      (opened now settings saved).account.beginLogin.2.token = false := by
  cases hsession : saved.session <;> simp only [opened, App.reopened, App.restore, hsession] <;> rfl

theorem appUrl_opened :
    (opened now settings saved).account.beginLogin.1.appUrl = Text.trimSlashes settings.appUrl := by
  cases hsession : saved.session <;> simp only [opened, App.reopened, App.restore, hsession] <;> rfl

end

theorem snapshot_loggedIn {a : App} {account : Account.Store} :
    ({ a with account := account.setLoggedIn session } : App).snapshot =
      { a.snapshot with session := some session } := rfl

/-- Logging in takes the first line that has a session if all lines before it can be read, prints its
researcher and reads no line after it. All goes well just when the file of the saved state can be
replaced, and then the file holds that session with the rest of what was saved as it was restored;
otherwise it is the file that fails. If no line has a session, all are read and the login is closed.
If a line cannot be read and none before it has a session, that ends the command. In both cases
nothing else is done: no file is changed and nothing is printed. -/
theorem login_takes_first_session {now : Int} {env : Variables.Env} (w : World) {settings : Settings}
    {saved : SavedState} (hsettings : Settings.read env = .ok settings)
    (hload : ((SavedState.load (Calendar.yearAt now) settings.statePath).run w).1 = .ok saved) :
    let ended := (run now env .login).run w
    (∀ (before : List String) line after session, w.input = before.map .ok ++ .ok line :: after →
      (∀ other ∈ before, sessionIn? other = none) → sessionIn? line = some session →
        ended.2.output = w.output ++ ["logged in as " ++ session.orcid] ∧
        ended.2.input = after ∧ ended.2.requests = w.requests ∧
        (ended.1 = .ok () ↔ w.files.Replaceable settings.statePath) ∧
        (ended.1 = .ok () → ended.2.files.read settings.statePath =
          .ok { saved.settled with session := some session }.text) ∧
        ∀ failure, ended.1 = .error failure → ∃ e, failure = .file e) ∧
    (∀ lines : List String, w.input = lines.map .ok →
      (∀ line ∈ lines, sessionIn? line = none) →
        ended = (.error (.login .windowClosed), { w with input := [] })) ∧
    ∀ (before : List String) fault after, w.input = before.map .ok ++ .error fault :: after →
      (∀ line ∈ before, sessionIn? line = none) →
        ended = (.error (.input fault), { w with input := after }) := by
  intro ended
  have hlive := isCancelled_opened now settings saved
  have hurl := appUrl_opened now settings saved
  have hrun : ended = _ := run_of_load hsettings hload
  refine ⟨fun before line after session hinput hbefore hline => ?_,
    fun lines hinput hlines => ?_, fun before fault after hinput hbefore => ?_⟩
  · have hrounds := hinput ▸ rounds_session hlive hurl hbefore hline after
    let s : SavedState := { saved.settled with session := some session }
    let printed : World :=
      { w with input := after, output := w.output ++ ["logged in as " ++ session.orcid] }
    -- all that is left to do is to save, after the researcher is printed
    have hexecute : (execute now .login (opened now settings saved)).run w = (.ok _, printed) :=
      run_logIn_ok hrounds
    rw [run_andThen_ok hexecute, snapshot_loggedIn, App.snapshot_reopened] at hrun
    have hworld := congrArg Prod.snd (hrun.trans (run_ofFile _ printed))
    obtain ⟨files, hfiles⟩ := SavedState.run_save_snd settings.statePath s printed
    have hended : ended.2 = { printed with files } := hworld.trans hfiles
    have hok : ended.1 = .ok () ↔ w.files.Replaceable settings.statePath := by
      rw [hrun, run_ofFile_eq_ok_iff]
      exact SavedState.run_save_iff_replaceable (w := printed)
    refine ⟨by rw [hended], by rw [hended], by rw [hended], hok, fun h => ?_, fun failure h => ?_⟩
    · obtain ⟨files, hsave, hread, -⟩ := SavedState.exists_save (w := printed) (hok.mp h) s
      rw [hworld, hsave]
      exact hread
    · exact exists_of_ofFile ((congrArg Prod.fst hrun).symm.trans h)
  · have hrounds := hinput ▸ rounds_closed hlive hurl hlines
    exact hrun.trans (run_andThen_error (run_logIn_error hrounds) _)
  · have hrounds := hinput ▸ rounds_failed hlive hurl hbefore fault after
    exact hrun.trans (run_andThen_error (run_logIn_error hrounds) _)

/-- Lines that are not JSON, have no token or an empty one, then one with a session, and one that is
no text. -/
def spoken : World where
  input := [.ok "logging in", .ok "[\"t\"]", .ok "\x7b\"token\": \"\"\x7d",
    .ok "\x7b\"token\": \"t\", \"expiresIn\": \"60\"\x7d", .error .notText]

theorem login_skips_to_session :
    let ended := (run 0 (fun _ => none) .login).run spoken
    ended.1 = .ok () ∧ ended.2.output = ["logged in as "] ∧ ended.2.input = [.error .notText] ∧
    ended.2.files.read ".discovery_state.json" =
      .ok { SavedState.initial 1970 with session := some ⟨"t", "", 0⟩ }.text := by
  have hsettings : Settings.read (fun _ => none) = .ok standard := by decide +kernel
  obtain ⟨hfirst, -⟩ := login_takes_first_session spoken hsettings (load_standard rfl)
  obtain ⟨houtput, hinput, -, hok, hread, -⟩ :=
    hfirst ["logging in", "[\"t\"]", "\x7b\"token\": \"\"\x7d"] _ _ ⟨"t", "", 0⟩ rfl
      (by decide +kernel) (by decide +kernel)
  exact ⟨hok.mpr replaceable_standard, houtput, hinput, hread (hok.mpr replaceable_standard)⟩

/-! ### Where a session is not enough -/

/-- The path of a file in a folder that is not there. -/
theorem target_missing {t : Files.Tree} {path : String} (folder name : String)
    (hnames : Files.names path = [folder, name]) (hstart : Files.Tree.start path = [])
    (hpath : path.contains '\x00' = false ∧ path ≠ "" ∧ path.utf8ByteSize ≤ Files.pathLimit)
    (hfolder : folder ≠ "." ∧ folder ≠ ".." ∧ folder.utf8ByteSize ≤ Files.nameLimit)
    (hentry : t.entry? [folder] = none) : t.target path = .error .notFound := by
  obtain ⟨hnul, hempty, hlimit⟩ := hpath
  obtain ⟨hdot, hdots, hsize⟩ := hfolder
  rw [Files.Tree.target, hnul, hstart, hnames]
  simp [Files.Tree.walk, Nat.not_lt.mpr hsize, Nat.not_lt.mpr hlimit, hempty, hentry]

/-- Nothing is set but the path of the file of the saved state. -/
def nowhere : Variables.Env := fun name =>
  if name = "DISCOVERY_STATE_PATH" then some "nowhere/state.json" else none

/-- A line with a session is not enough. Where the folder of the file is missing, nothing is saved yet,
so there is a state to go on with, but the session cannot be saved. Where a line before it cannot be
read, it is not reached. -/
theorem session_is_not_enough :
    let settings : Settings := { standard with statePath := "nowhere/state.json" }
    let line := "\x7b\"token\": \"t\"\x7d"
    let w : World := { input := [.ok line] }
    let w' : World := { input := [.error .notText, .ok line] }
    sessionIn? line = some ⟨"t", "", 0⟩ ∧
    (Settings.read nowhere = .ok settings ∧
      ((SavedState.load (Calendar.yearAt 0) settings.statePath).run w).1 =
        .ok (SavedState.initial 1970) ∧
      ((run 0 nowhere .login).run w).1 =
        .error (.file (.writing "nowhere/state.tmp" .notFound))) ∧
    Settings.read (fun _ => none) = .ok standard ∧
    ((SavedState.load (Calendar.yearAt 0) standard.statePath).run w').1 =
      .ok (SavedState.initial 1970) ∧
    ((run 0 (fun _ => none) .login).run w').1 = .error (.input .notText) := by
  intro settings line w w'
  have hline : sessionIn? line = some ⟨"t", "", 0⟩ := by decide +kernel
  have hnowhere : Settings.read nowhere = .ok settings := by decide +kernel
  have hstandard : Settings.read (fun _ => none) = .ok standard := by decide +kernel
  have htemporary : Files.temporary "nowhere/state.json" = "nowhere/state.tmp" := by decide
  have hplace : Files.Tree.empty.target "nowhere/state.json" = .error .notFound :=
    target_missing "nowhere" "state.json" (by decide) (Files.Tree.start_eq_nil (by decide))
      ⟨by simp, by simp, by decide⟩ (by decide) rfl
  have hbeside : Files.Tree.empty.target "nowhere/state.tmp" = .error .notFound :=
    target_missing "nowhere" "state.tmp" (by decide) (Files.Tree.start_eq_nil (by decide))
      ⟨by simp, by simp, by decide⟩ (by decide) rfl
  have hload : ((SavedState.load (Calendar.yearAt 0) settings.statePath).run w).1 =
      .ok (SavedState.initial 1970) := by
    simp only [SavedState.load, Program.run, Files.Tree.read, settings, w, hplace]
    rfl
  have hload' : ((SavedState.load (Calendar.yearAt 0) standard.statePath).run w').1 =
      .ok (SavedState.initial 1970) := load_standard rfl
  refine ⟨hline, ⟨hnowhere, hload, ?_⟩, hstandard, hload', ?_⟩
  · have hrounds := rounds_session (isCancelled_opened 0 settings (.initial 1970))
      (appUrl_opened 0 settings (.initial 1970)) (List.forall_mem_nil _) hline []
    have hlogin : (execute 0 .login (opened 0 settings (.initial 1970))).run w = (.ok _, _) :=
      run_logIn_ok hrounds
    rw [run_of_load hnowhere hload, run_andThen_ok hlogin, run_ofFile]
    simp only [SavedState.save, Program.run, settings, w, htemporary, Files.Tree.write, hbeside]
    rfl
  · have hrounds := rounds_failed (isCancelled_opened 0 standard (.initial 1970))
      (appUrl_opened 0 standard (.initial 1970)) (List.forall_mem_nil _) .notText [.ok line]
    have hlogin : (execute 0 .login (opened 0 standard (.initial 1970))).run w' =
        (.error (.input .notText), _) := run_logIn_error hrounds
    rw [run_of_load hstandard hload', run_andThen_error hlogin]

end Command
end DatasetSearch
