import DatasetSearch.Proofs.Account.Cookie
import DatasetSearch.Proofs.Account.NewestLogin
import DatasetSearch.Proofs.Json.Reading

/-! What comes to a login.

A message is acceptable if it comes from the application and has a token. What was sent to a login
that waits is what it has read and what is still in its inbox, and none that it has read is
acceptable (`heard`). So a login that returns a session returns that of the first acceptable message
that was sent to it, and one whose window is closed was sent none, whatever else happens in the run
(`message_of_returns`, `closed_of_returns`); and whoever is logged in was restored or sent in an
acceptable message (`origin_of_loggedIn`). -/
namespace DatasetSearch.Account

/-! ### Acceptable messages -/

namespace Message

/-- A text in the data of a message, empty if there is none. -/
def text (m : Message) (name : String) : String :=
  match m.data.member? name with
  | some (.text s) => s
  | _ => ""

/-- The seconds for which a session is good, none if the data do not say so in a whole number. -/
def seconds (m : Message) : Int :=
  match m.data.member? "expiresIn" with
  | some (.int n) => if Json.InInt64 n then n else 0
  | _ => 0

def session (m : Message) : Session := ⟨m.text "token", m.text "orcid", m.seconds⟩

/-- A message comes from the application, slashes at the ends of the addresses aside, and has a
token. -/
def Acceptable (appUrl : String) (m : Message) : Prop :=
  Text.trimSlashes m.origin = Text.trimSlashes appUrl ∧ m.text "token" ≠ ""

instance (appUrl : String) (m : Message) : Decidable (m.Acceptable appUrl) :=
  inferInstanceAs (Decidable (_ ∧ _))

theorem text_eq (m : Message) (name : String) :
    m.text name = ((m.data.member? name).bind Json.asText?).getD "" := by
  rw [text]
  cases m.data.member? name with
  | none => rfl
  | some v => cases v <;> rfl

theorem seconds_eq (m : Message) :
    m.seconds = ((m.data.member? "expiresIn").bind Json.asInt64?).getD 0 := by
  rw [seconds]
  cases m.data.member? "expiresIn" with
  | none => rfl
  | some v =>
    cases v with
    | int n =>
      have hint : Json.asInt64? (.int n) = if Json.InInt64 n then some n else none := rfl
      rw [Option.bind_some, hint]
      by_cases hn : Json.InInt64 n <;> simp [hn]
    | _ => rfl

end Message

/-- A store takes the session out of a message that is acceptable, and nothing out of any other. -/
theorem Store.accept_eq {s : Store} {appUrl : String} (h : s.appUrl = Text.trimSlashes appUrl)
    (m : Message) : s.accept m = if m.Acceptable appUrl then some m.session else none := by
  rw [accept, h]
  by_cases horigin : Text.trimSlashes m.origin = Text.trimSlashes appUrl
  · have htext := m.text_eq "token"
    cases htoken : (m.data.member? "token").bind Json.asText? with
    | none =>
      rw [htoken] at htext
      have hnot : ¬m.Acceptable appUrl := fun hm => hm.2 htext
      simp [horigin, hnot]
    | some token =>
      rw [htoken] at htext
      by_cases hempty : token = ""
      · have hnot : ¬m.Acceptable appUrl := fun hm => hm.2 (htext.trans hempty)
        simp [horigin, hnot, hempty]
      · have hm : m.Acceptable appUrl := ⟨horigin, fun he => hempty (htext.symm.trans he)⟩
        simp [horigin, hm, hempty, Message.session, htext, m.text_eq "orcid", m.seconds_eq]
  · have hnot : ¬m.Acceptable appUrl := fun hm => horigin hm.1
    simp [horigin, hnot]

/-- The first session in messages is that of the first acceptable one. -/
theorem Store.findSome?_accept {s : Store} {appUrl : String}
    (h : s.appUrl = Text.trimSlashes appUrl) (messages : List Message) :
    messages.findSome? s.accept =
      (messages.find? (·.Acceptable appUrl)).map Message.session := by
  induction messages with
  | nil => rfl
  | cons m rest ih =>
    rw [List.findSome?_cons, accept_eq h, List.find?_cons]
    by_cases hm : m.Acceptable appUrl
    · simp [hm]
    · simp [hm, ih]

/-! ### The inbox of a login -/

/-- How an event left the inbox of a login that waits after it. -/
inductive InboxStep (d : Desk Nat) (e : Event Nat) (n : Nat) (f : Flow) (inbox : List Message)
    (closed : Bool) : Prop where
  | begins (event : e = .login n) (inbox : inbox = []) (closed : closed = false)
  | gets (before : List Message) (message : Message) (event : e = .message n message)
      (waited : d.waiting.lookup n = some (.login f before closed))
      (inbox : inbox = before ++ [message])
  | closes (was : Bool) (event : e = .close n)
      (waited : d.waiting.lookup n = some (.login f inbox was)) (closed : closed = true)
  | reads (read : List Message) (event : e = .turn n)
      (waited : d.waiting.lookup n = some (.login f read closed))
      (ignored : read.findSome? d.store.accept = none) (inbox : inbox = [])
  | kept (noMessage : ∀ message, e ≠ .message n message) (noClose : e ≠ .close n)
      (waited : d.waiting.lookup n = some (.login f inbox closed))

section
variable {d : Desk Nat} {e : Event Nat} {n call : Nat} {f : Flow} {inbox : List Message}
  {closed : Bool} {w w' : Waiting}

theorem Desk.lookup_replace : (d.replace call w).waiting.lookup n =
    if n = call then (d.waiting.lookup call).map fun _ => w else d.waiting.lookup n := by
  rw [replace]
  induction d.waiting with
  | nil => simp
  | cons x rest ih =>
    obtain ⟨key, v⟩ := x
    rw [List.map_cons]
    by_cases hkey : key = call
    · subst hkey
      rw [if_pos rfl, lookup_cons_eq, lookup_cons_eq, ih, lookup_cons_eq]
      by_cases hn : n = key <;> simp [hn]
    · rw [if_neg hkey, lookup_cons_eq, lookup_cons_eq, ih, lookup_cons_eq]
      by_cases hn : n = key <;> by_cases hc : n = call <;> simp_all [eq_comm]

/-- A call that waits after another was given something else waited before. -/
theorem Desk.waited_of_replace (h : (d.replace call w).waiting.lookup n = some w') :
    n ≠ call ∧ d.waiting.lookup n = some w' ∨ n = call ∧ w = w' := by
  rw [lookup_replace] at h
  by_cases hn : n = call
  · rw [if_pos hn] at h
    obtain ⟨_, -, hw⟩ := Option.map_eq_some_iff.mp h
    exact .inr ⟨hn, hw⟩
  · rw [if_neg hn] at h
    exact .inl ⟨hn, h⟩

theorem Desk.lookup_remove : (d.remove call).waiting.lookup n =
    if n = call then none else d.waiting.lookup n := by
  split
  · next h => exact h ▸ lookup_filter_self d.waiting
  · next h => exact lookup_filter_of_ne h d.waiting

theorem Desk.lookup_add : (d.add call w).waiting.lookup n =
    (d.waiting.lookup n).or (if n = call then some w else none) := by
  rw [add, List.lookup_append, lookup_cons_eq]
  rfl

/-- A login that waits after another thing was begun or ended waited before. -/
theorem lookup_of_lookup_remove (h : (d.remove call).waiting.lookup n = some w) :
    d.waiting.lookup n = some w := by
  rw [Desk.lookup_remove] at h
  split at h
  · cases h
  · exact h

theorem inboxStep_message {m : Message} (h : (d.step (.message call m)).1.waiting.lookup n =
    some (.login f inbox closed)) : InboxStep d (.message call m) n f inbox closed := by
  rw [Desk.step] at h
  split at h
  · next g before was hcall =>
    rcases Desk.waited_of_replace h with ⟨hn, waited⟩ | ⟨rfl, hlogin⟩
    · exact .kept (fun m' he => hn (Event.message.inj he).1.symm) nofun waited
    · cases hlogin
      exact .gets before m rfl hcall rfl
  · next hcall =>
    refine .kept (fun m' he => ?_) nofun h
    cases he
    exact hcall _ _ _ h

theorem inboxStep_close (h : (d.step (.close call)).1.waiting.lookup n =
    some (.login f inbox closed)) : InboxStep d (.close call) n f inbox closed := by
  rw [Desk.step] at h
  split at h
  · next g before was hcall =>
    rcases Desk.waited_of_replace h with ⟨hn, waited⟩ | ⟨rfl, hlogin⟩
    · exact .kept nofun (fun he => hn (Event.close.inj he).symm) waited
    · cases hlogin
      exact .closes was rfl hcall rfl
  · next hcall =>
    refine .kept nofun (fun he => ?_) h
    cases he
    exact hcall _ _ _ h

/-- A login that waits after a turn waited before, or the turn was its own, and it ignored what it
read. -/
theorem Desk.waited_of_takeTurn {g : Flow} {read : List Message} {was : Bool}
    (h : (d.takeTurn call g read was).1.waiting.lookup n = some (.login f inbox closed)) :
    d.waiting.lookup n = some (.login f inbox closed) ∨
      n = call ∧ read.findSome? d.store.accept = none ∧
        Waiting.login g [] was = .login f inbox closed := by
  rw [takeTurn] at h
  cases hproceed : d.store.proceed g read was with
  | mk store result =>
    rw [hproceed] at h
    cases result with
    | some result => exact .inl (lookup_of_lookup_remove h)
    | none =>
      have hreplace : (d.replace call (.login g [] was)).waiting.lookup n =
          some (.login f inbox closed) := h
      rcases waited_of_replace hreplace with ⟨-, waited⟩ | ⟨hn, hlogin⟩
      · exact .inl waited
      · exact .inr ⟨hn, Store.ignored_of_proceed hproceed, hlogin⟩

theorem inboxStep_turn (h : (d.step (.turn call)).1.waiting.lookup n =
    some (.login f inbox closed)) : InboxStep d (.turn call) n f inbox closed := by
  have kept (waited : d.waiting.lookup n = some (.login f inbox closed)) :
      InboxStep d (.turn call) n f inbox closed := .kept nofun nofun waited
  rw [Desk.step] at h
  cases hcall : d.waiting.lookup call with
  | none =>
    rw [hcall] at h
    exact kept h
  | some w =>
    rw [hcall] at h
    cases w with
    | check => exact kept h
    | logout => exact kept h
    | login g read was =>
      rcases Desk.waited_of_takeTurn h with waited | ⟨rfl, ignored, hlogin⟩
      · exact kept waited
      · cases hlogin
        exact .reads read rfl hcall ignored rfl

theorem inboxStep_login (h : (d.step (.login call)).1.waiting.lookup n =
    some (.login f inbox closed)) : InboxStep d (.login call) n f inbox closed := by
  have hadd : (d.add call (.login d.store.beginLogin.2 [] false)).waiting.lookup n =
      some (.login f inbox closed) := h
  rw [Desk.lookup_add, Option.or_eq_some_iff] at hadd
  rcases hadd with hold | ⟨-, hnew⟩
  · exact .kept nofun nofun hold
  · split at hnew
    · next hn =>
      cases hnew
      exact .begins (by rw [hn]) rfl rfl
    · cases hnew

theorem lookup_of_lookup_add (hnot : w ≠ w') (h : (d.add call w).waiting.lookup n = some w') :
    d.waiting.lookup n = some w' := by
  rw [Desk.lookup_add, Option.or_eq_some_iff] at h
  rcases h with hold | ⟨-, hnew⟩
  · exact hold
  · split at hnew
    · exact absurd (Option.some.inj hnew) hnot
    · cases hnew

theorem inboxStep (h : (d.step e).1.waiting.lookup n = some (.login f inbox closed)) :
    InboxStep d e n f inbox closed := by
  cases e with
  | restore session => exact .kept nofun nofun h
  | login call => exact inboxStep_login h
  | message call m => exact inboxStep_message h
  | close call => exact inboxStep_close h
  | turn call => exact inboxStep_turn h
  | check call => exact .kept nofun nofun (lookup_of_lookup_add (w := .check) nofun h)
  | logout call => exact .kept nofun nofun (lookup_of_lookup_add (w := .logout) nofun h)
  | reply call r =>
    rw [Desk.step] at h
    split at h
    · exact .kept nofun nofun (lookup_of_lookup_remove h)
    · exact .kept nofun nofun (lookup_of_lookup_remove h)
    · exact .kept nofun nofun h

end

/-! ### What was sent to a login -/

/-- The message that a move brings to a call. -/
def Move.messageTo? (call : Nat) : Move → Option Message
  | .message n m => if n = call then some m else none
  | _ => none

/-- Whether a move closes the window of a login. -/
def Move.closes (call : Nat) : Move → Bool
  | .close n => n == call
  | _ => false

theorem Move.eq_message {mv : Move} {call : Nat} {m : Message} (h : mv.messageTo? call = some m) :
    mv = .message call m := by
  cases mv with
  | message n m' =>
    rw [messageTo?] at h
    split at h
    · next hn =>
      cases h
      rw [hn]
    · cases h
  | _ => cases h

theorem Move.eq_close {mv : Move} {call : Nat} (h : mv.closes call = true) : mv = .close call := by
  cases mv with
  | close n => rw [beq_iff_eq.mp h]
  | _ => cases h

theorem Move.messageTo?_eq_none {mv : Move} {place call : Nat}
    (h : ∀ message, mv.event place ≠ .message call message) : mv.messageTo? call = none := by
  cases mv with
  | message n m => exact if_neg fun hn => h m (by rw [hn]; rfl)
  | _ => rfl

theorem Move.closes_eq_false {mv : Move} {place call : Nat} (h : mv.event place ≠ .close call) :
    mv.closes call = false := by
  cases mv with
  | close n => exact beq_false_of_ne fun hn => h (by rw [hn]; rfl)
  | _ => rfl

namespace Run
variable {R : Run} {m n k : Nat} {f : Flow} {inbox : List Message} {closed : Bool}

/-- The moves after a place and before another. -/
def between (R : Run) (n m : Nat) : List Move := (R.moves.take m).drop (n + 1)

/-- The messages that were sent to the login begun at `n`, before `m`. -/
def received (R : Run) (n m : Nat) : List Message := (R.between n m).filterMap (Move.messageTo? n)

/-- The window of the login begun at `n` was closed before `m`. -/
def closedBy (R : Run) (n m : Nat) : Bool := (R.between n m).any (Move.closes n)

theorem between_succ (h : n < m) : R.between n (m + 1) = R.between n m ++ R.moves[m]?.toList := by
  rw [between, between, List.take_add_one, List.drop_append]
  congr 1
  cases hm : R.moves[m]? with
  | none => simp
  | some mv =>
    have hlength : m < R.moves.length := (List.getElem?_eq_some_iff.mp hm).1
    rw [List.length_take, Nat.min_eq_left (Nat.le_of_lt hlength), Nat.sub_eq_zero_of_le h]
    rfl

theorem exists_of_mem_between {mv : Move} (h : mv ∈ R.between n m) :
    ∃ k, n < k ∧ k < m ∧ R.moves[k]? = some mv := by
  obtain ⟨i, hi⟩ := List.mem_iff_getElem?.mp h
  rw [between, List.getElem?_drop, List.getElem?_take] at hi
  split at hi
  · next hlt => exact ⟨n + 1 + i, by omega, hlt, hi⟩
  · cases hi

theorem between_self (R : Run) (n : Nat) : R.between n (n + 1) = [] := by
  refine List.drop_eq_nil_of_le ?_
  rw [List.length_take]
  exact Nat.min_le_left ..

theorem received_succ (h : n < m) :
    R.received n (m + 1) = R.received n m ++ (R.moves[m]?.bind (Move.messageTo? n)).toList := by
  rw [received, between_succ h, List.filterMap_append, received]
  cases R.moves[m]? with
  | none => rfl
  | some mv => cases hmv : mv.messageTo? n <;> simp [hmv]

theorem closedBy_succ (h : n < m) :
    R.closedBy n (m + 1) = (R.closedBy n m || R.moves[m]?.any (Move.closes n)) := by
  rw [closedBy, between_succ h, List.any_append, closedBy]
  cases R.moves[m]? <;> simp

theorem appUrl_storeAt (R : Run) (m : Nat) : (R.storeAt m).appUrl = Text.trimSlashes R.appUrl := by
  induction m with
  | zero => rfl
  | succ m ih =>
    rw [← ih]
    cases R.happens m with
    | loginEnds _ _ _ _ _ _ _ _ _ ends leaves =>
      rw [leaves.store]
      cases ends with
      | accepted => exact Store.endFlow_appUrl
      | closed => exact Store.endFlow_appUrl
    | checked _ reply _ _ leaves =>
      rw [leaves.store]
      exact Store.appUrl_finishCheck _ reply
    | restored _ _ leaves => rw [leaves.store]; rfl
    | loginBegins _ leaves => rw [leaves.store]; rfl
    | loggedOut _ _ _ _ leaves => rw [leaves.store]; rfl
    | asks _ _ _ leaves => rw [leaves.store]
    | listens _ _ _ _ _ _ _ _ leaves => rw [leaves.store]
    | superseded _ _ _ _ _ _ _ leaves => rw [leaves.store]
    | nothing _ leaves => rw [leaves.store]

/-- What a login that waits was sent is what it has read and what is in its inbox. -/
structure Heard (R : Run) (n m : Nat) (inbox : List Message) (closed : Bool) : Prop where
  sent : ∃ read, R.received n m = read ++ inbox ∧ ∀ msg ∈ read, ¬msg.Acceptable R.appUrl
  isClosed : closed = R.closedBy n m

/-- A move that brings nothing to a login. -/
theorem Heard.kept (h : R.Heard n m inbox closed) (hn : n < m)
    (noMessage : R.moves[m]?.bind (Move.messageTo? n) = none)
    (noClose : R.moves[m]?.any (Move.closes n) = false) : R.Heard n (m + 1) inbox closed := by
  obtain ⟨hreceived, hclosed⟩ := h
  refine ⟨?_, ?_⟩
  · rw [received_succ hn, noMessage, Option.toList_none, List.append_nil]
    exact hreceived
  · rw [closedBy_succ hn, noClose, Bool.or_false]
    exact hclosed

/-- A login that waits after a move, case by case of what the move brings it. -/
theorem Heard.step {mv : Move} (hm : R.moves[m]? = some mv)
    (before : ∀ inbox closed, (R.waitingAt m).lookup n = some (.login f inbox closed) →
      R.Heard n m inbox closed)
    (step : InboxStep (R.deskAt m) (mv.event m) n f inbox closed) :
    R.Heard n (m + 1) inbox closed := by
  have quiet {inbox' : List Message} {closed' : Bool} (h : R.Heard n m inbox' closed') (hn : n < m)
      (noMessage : ∀ message, mv.event m ≠ .message n message) (noClose : mv.event m ≠ .close n) :
      R.Heard n (m + 1) inbox' closed' :=
    h.kept hn (by rw [hm]; exact Move.messageTo?_eq_none noMessage)
      (by rw [hm]; exact Move.closes_eq_false noClose)
  cases step with
  | begins event hinbox hclosed =>
    have hn : m = n := by cases mv <;> cases event; rfl
    subst hn
    refine ⟨⟨[], ?_, by simp⟩, ?_⟩
    · rw [received, between_self, hinbox]
      rfl
    · rw [closedBy, between_self, hclosed]
      rfl
  | gets earlier message event waited hinbox =>
    have hmv : mv = .message n message := by cases mv <;> cases event; rfl
    obtain ⟨⟨read, hread, hignored⟩, hclosed⟩ := before _ _ waited
    have hn := (waits_of_lookup waited).1
    have hto : R.moves[m]?.bind (Move.messageTo? n) = some message := by
      rw [hm, hmv]
      exact if_pos rfl
    refine ⟨⟨read, ?_, hignored⟩, ?_⟩
    · rw [received_succ hn, hto, hread, hinbox, List.append_assoc]
      rfl
    · rw [closedBy_succ hn, hm, hmv, ← hclosed]
      exact (Bool.or_false closed).symm
  | closes was event waited hclosed =>
    have hmv : mv = .close n := by cases mv <;> cases event; rfl
    obtain ⟨hreceived, -⟩ := before _ _ waited
    have hn := (waits_of_lookup waited).1
    refine ⟨?_, ?_⟩
    · rw [received_succ hn, hm, hmv]
      simpa [Move.messageTo?] using hreceived
    · rw [closedBy_succ hn, hm, hmv, hclosed]
      simp [Move.closes]
  | reads read event waited ignored hinbox =>
    have hkept := quiet (before _ _ waited) (waits_of_lookup waited).1 (by rw [event]; nofun)
      (by rw [event]; nofun)
    obtain ⟨⟨earlier, hread, hignored⟩, hclosed⟩ := hkept
    have hread' : ∀ msg ∈ read, ¬msg.Acceptable R.appUrl := by
      have hnone := (Store.findSome?_accept (appUrl_storeAt R m) read).symm.trans ignored
      simpa using hnone
    refine ⟨⟨earlier ++ read, by rw [hread, hinbox, List.append_nil], fun msg hmsg => ?_⟩, hclosed⟩
    rcases List.mem_append.mp hmsg with hmsg | hmsg
    · exact hignored msg hmsg
    · exact hread' msg hmsg
  | kept noMessage noClose waited =>
    exact quiet (before _ _ waited) (waits_of_lookup waited).1 noMessage noClose

theorem heard (h : (R.waitingAt m).lookup n = some (.login f inbox closed)) :
    R.Heard n m inbox closed := by
  induction m generalizing inbox closed with
  | zero => cases h
  | succ m ih =>
    cases hm : R.moves[m]? with
    | none =>
      have leaves : R.Leaves m (R.storeAt m) (R.waitingAt m) [] := R.course.leaves_past hm
      rw [leaves.waiting] at h
      exact (ih h).kept (waits_of_lookup h).1 (by rw [hm]; rfl) (by rw [hm]; rfl)
    | some mv =>
      have hdesk : R.deskAt (m + 1) = ((R.deskAt m).step (mv.event m)).1 := R.course.deskAt_succ hm
      rw [waitingAt, hdesk] at h
      exact .step hm (fun _ _ => ih) (inboxStep h)

/-- What was sent before is the first part of what was sent until later. -/
theorem exists_received_append (hn : n < k) (hk : k ≤ m) :
    ∃ more, R.received n m = R.received n k ++ more := by
  induction hk with
  | refl => exact ⟨[], (List.append_nil _).symm⟩
  | step hk ih =>
    obtain ⟨more, hmore⟩ := ih
    rw [received_succ (Nat.lt_of_lt_of_le hn hk), hmore, List.append_assoc]
    exact ⟨_, rfl⟩

/-! ### How a login ends -/

/-- The first acceptable message that was sent to the login begun at `n`, before `m`. -/
def firstAcceptable? (R : Run) (n m : Nat) : Option Message :=
  (R.received n m).find? (·.Acceptable R.appUrl)

/-- The session in the messages that were sent to a login is that of the first acceptable one. -/
theorem findSome?_received (R : Run) (n m k : Nat) :
    (R.received n m).findSome? (R.storeAt k).accept =
      (R.firstAcceptable? n m).map Message.session :=
  Store.findSome?_accept (appUrl_storeAt R k) _

/-- A login finds in its inbox what it would find in all that was sent to it. -/
theorem Heard.findSome?_accept (h : R.Heard n m inbox closed) :
    inbox.findSome? (R.storeAt m).accept = (R.firstAcceptable? n m).map Message.session := by
  obtain ⟨⟨read, hread, hignored⟩, -⟩ := h
  have hnone : read.find? (·.Acceptable R.appUrl) = none := by simpa using hignored
  rw [Store.findSome?_accept (appUrl_storeAt R m), firstAcceptable?, hread, List.find?_append, hnone,
    Option.none_or]

/-- A login that returns a session returns that of the first acceptable message. -/
theorem message_of_returns {session : Session} (h : R.Returns n m (.ok session)) :
    ∃ msg, R.firstAcceptable? n m = some msg ∧ msg.session = session := by
  cases answeredBy h with
  | superseded _ _ _ _ _ answer => cases answer
  | checked _ _ answer => cases answer
  | loggedOut _ answer => cases answer
  | loginEnds f inbox closed store result waits live ends answer =>
    cases answer
    cases ends with
    | accepted _ found =>
      rw [(heard waits).findSome?_accept] at found
      exact Option.map_eq_some_iff.mp found

/-- A login ends as closed only if no acceptable message was sent to it and none can be. -/
theorem closed_of_returns (h : R.Returns n m (.error .windowClosed)) :
    R.firstAcceptable? n m = none ∧ R.closedBy n m = true := by
  cases answeredBy h with
  | superseded _ _ _ _ _ answer => cases answer
  | checked _ _ answer => cases answer
  | loggedOut _ answer => cases answer
  | loginEnds f inbox closed store result waits live ends answer =>
    cases answer
    cases ends with
    | closed none isClosed =>
      rw [(heard waits).findSome?_accept] at none
      exact ⟨Option.map_eq_none_iff.mp none, (heard waits).isClosed ▸ isClosed⟩

/-! ### Where a session comes from -/

theorem exists_of_mem_received {msg : Message} (h : msg ∈ R.received n m) :
    ∃ k, n < k ∧ k < m ∧ R.moves[k]? = some (.message n msg) := by
  obtain ⟨mv, hmv, hto⟩ := List.mem_filterMap.mp h
  rw [Move.eq_message hto] at hmv
  exact exists_of_mem_between hmv

/-- A session was restored, or sent to a login in an acceptable message. -/
inductive Origin (R : Run) (m : Nat) (session : Session) : Prop where
  | restored (k : Nat) (before : k < m) (move : R.moves[k]? = some (.restore session))
  | sent (n k : Nat) (msg : Message) (login : R.moves[n]? = some .login) (order : n < k ∧ k < m)
      (move : R.moves[k]? = some (.message n msg)) (acceptable : msg.Acceptable R.appUrl)
      (carries : msg.session = session)

theorem Origin.succ {session : Session} (h : R.Origin m session) : R.Origin (m + 1) session := by
  cases h with
  | restored k before move => exact .restored k (Nat.lt_succ_of_lt before) move
  | sent n k msg login order move acceptable carries =>
    exact .sent n k msg login ⟨order.1, Nat.lt_succ_of_lt order.2⟩ move acceptable carries

theorem origin_of_returns {session : Session} (h : R.Returns n m (.ok session)) :
    R.Origin m session := by
  obtain ⟨msg, hfirst, hsession⟩ := message_of_returns h
  obtain ⟨k, hnk, hkm, hmove⟩ := exists_of_mem_received (List.mem_of_find?_eq_some hfirst)
  have hacceptable : msg.Acceptable R.appUrl := of_decide_eq_true (List.find?_some hfirst :)
  have hlogin : R.moves[n]? = some .login := by
    cases answeredBy h with
    | superseded _ _ _ waits => exact (listens_iff.mp (listens_of_lookup waits)).1
    | loginEnds _ _ _ _ _ waits => exact (listens_iff.mp (listens_of_lookup waits)).1
    | checked _ _ answer => cases answer
    | loggedOut _ answer => cases answer
  exact .sent n k msg hlogin ⟨hnk, hkm⟩ hmove hacceptable hsession

theorem origin_of_heldAt {session : Session} (h : R.heldAt m = some session) :
    R.Origin m session := by
  induction m with
  | zero => cases h
  | succ m ih =>
    rw [heldAt] at h
    split at h
    · next move =>
      cases h
      exact .restored m (Nat.lt_succ_self m) move
    · next n _ answers _ =>
      cases h
      have hreturns : R.Returns n m (.ok session) := by
        rw [Returns, Answers, answers]
        exact List.mem_singleton_self _
      exact (origin_of_returns hreturns).succ
    · cases h
    · cases h
    · exact (ih h).succ

theorem origin_of_loggedIn {session : Session} (h : R.stateAt m = .loggedIn session) :
    R.Origin m session :=
  origin_of_heldAt (heldAt_of_loggedIn h)

end Run
end DatasetSearch.Account
