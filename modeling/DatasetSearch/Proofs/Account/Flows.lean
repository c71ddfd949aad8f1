import DatasetSearch.Proofs.Account.Moves
import DatasetSearch.Proofs.Lookup

/-! The logins that wait, and the one that is pending.

The logins that wait before a move are those that were begun and have not been answered, each with
the flow that it began with (`listens_iff`). Flows are numbered in the order in which they begin.
One of them may be pending; it is the latest, it waits, and its token is live, while every other
login that waits is cancelled (`Guarded`). -/
namespace DatasetSearch.Account.Run
variable {R : Run} {m n : Nat} {f : Flow}

/-- A login waits with a flow among some calls. -/
def Among (waiting : List (Nat × Waiting)) (n : Nat) (f : Flow) : Prop :=
  ∃ inbox closed, (n, .login f inbox closed) ∈ waiting

/-- The login begun at `n` waits before `m`. -/
def Listens (R : Run) (n m : Nat) (f : Flow) : Prop := Among (R.waitingAt m) n f

/-! ### Lists of waiting calls -/

section Lists
variable {waiting : List (Nat × Waiting)} {call : Nat}

theorem map_fst_instead (w : Waiting) :
    (instead waiting call w).map Prod.fst = waiting.map Prod.fst := by
  rw [instead, List.map_map]
  refine List.map_congr_left fun p _ => ?_
  simp only [Function.comp]
  split
  · next h => exact h.symm
  · rfl

theorem among_without : Among (without waiting call) n f ↔ Among waiting n f ∧ n ≠ call := by
  simp only [Among, mem_without]
  constructor
  · rintro ⟨inbox, closed, h, hne⟩
    exact ⟨⟨inbox, closed, h⟩, hne⟩
  · rintro ⟨⟨inbox, closed, h⟩, hne⟩
    exact ⟨inbox, closed, h, hne⟩

theorem among_append {w : Waiting} :
    Among (waiting ++ [(call, w)]) n f ↔
      Among waiting n f ∨ n = call ∧ ∃ inbox closed, w = .login f inbox closed := by
  simp only [Among, List.mem_append, List.mem_singleton, Prod.mk.injEq]
  constructor
  · rintro ⟨inbox, closed, h | ⟨rfl, rfl⟩⟩
    · exact .inl ⟨inbox, closed, h⟩
    · exact .inr ⟨rfl, inbox, closed, rfl⟩
  · rintro (⟨inbox, closed, h⟩ | ⟨rfl, inbox, closed, rfl⟩)
    · exact ⟨inbox, closed, .inl h⟩
    · exact ⟨inbox, closed, .inr ⟨rfl, rfl⟩⟩

/-- A login that goes on listening waits with the flow that it had. -/
theorem among_instead (hd : (waiting.map Prod.fst).Nodup) {g : Flow} {inbox inbox' : List Message}
    {closed closed' : Bool} (hw : waiting.lookup call = some (.login g inbox closed)) :
    Among (instead waiting call (.login g inbox' closed')) n f ↔ Among waiting n f := by
  have hmem := (lookup_eq_some_iff_mem hd).mp hw
  constructor
  · rintro ⟨i, c, h⟩
    obtain ⟨p, hp, he⟩ := List.mem_map.mp h
    split at he
    · obtain ⟨rfl, hlogin⟩ := Prod.mk.inj he
      cases hlogin
      exact ⟨inbox, closed, hmem⟩
    · exact ⟨i, c, he ▸ hp⟩
  · rintro ⟨i, c, h⟩
    by_cases hn : n = call
    · have hl := (lookup_eq_some_iff_mem hd).mpr h
      rw [hn, hw] at hl
      cases hl
      exact ⟨inbox', closed', List.mem_map.mpr ⟨_, h, by rw [if_pos hn, hn]⟩⟩
    · exact ⟨i, c, List.mem_map.mpr ⟨_, h, if_neg hn⟩⟩

end Lists

/-! ### The names of waiting calls -/

theorem waits_iff : R.Waits n m ↔ n < m ∧ ∀ k, n ≤ k → k < m → ∀ a, ¬R.Answers n k a :=
  ⟨fun h => ⟨h.1, fun k hnk hkm a => h.2 k a hnk hkm⟩,
    fun h => ⟨h.1, fun k a hnk hkm => h.2 k hnk hkm a⟩⟩

theorem waits_succ : R.Waits n (m + 1) ↔ (R.Waits n m ∨ n = m) ∧ ∀ a, ¬R.Answers n m a := by
  rw [waits_iff, waits_iff]
  exact since_succ

/-- The waiting calls have names of their own, and none of them has been answered. -/
structure Named (R : Run) (m : Nat) : Prop where
  distinct : ((R.waitingAt m).map Prod.fst).Nodup
  waits : ∀ n ∈ (R.waitingAt m).map Prod.fst, R.Waits n m

theorem Named.append (h : R.Named m) {store : Store} {w : Waiting}
    (leaves : R.Leaves m store (R.waitingAt m ++ [(m, w)]) []) : R.Named (m + 1) := by
  have hnames : (R.waitingAt (m + 1)).map Prod.fst = (R.waitingAt m).map Prod.fst ++ [m] := by
    rw [leaves.waiting, List.map_append]
    rfl
  refine ⟨?_, fun n hn => ?_⟩
  · rw [leaves.waiting]
    exact nodup_names_append w h.distinct fun n hn => (h.waits n hn).1
  · rw [hnames, List.mem_append, List.mem_singleton] at hn
    exact waits_succ.mpr ⟨hn.imp_left (h.waits n), fun _ => not_answers leaves⟩

theorem Named.quiet (h : R.Named m) {store : Store} {waiting : List (Nat × Waiting)}
    (leaves : R.Leaves m store waiting [])
    (hw : waiting.map Prod.fst = (R.waitingAt m).map Prod.fst) : R.Named (m + 1) := by
  have hnames : (R.waitingAt (m + 1)).map Prod.fst = (R.waitingAt m).map Prod.fst := by
    rw [leaves.waiting, hw]
  refine ⟨hnames ▸ h.distinct, fun n hn => ?_⟩
  rw [hnames] at hn
  exact waits_succ.mpr ⟨.inl (h.waits n hn), fun _ => not_answers leaves⟩

theorem Named.answered (h : R.Named m) {store : Store} {call : Nat} {a : Answer}
    (leaves : R.Leaves m store (without (R.waitingAt m) call) [(call, a)]) : R.Named (m + 1) := by
  refine ⟨?_, fun n hn => ?_⟩
  · rw [leaves.waiting]
    exact (List.filter_sublist.map _).nodup h.distinct
  · rw [leaves.waiting] at hn
    obtain ⟨p, hp, rfl⟩ := List.mem_map.mp hn
    obtain ⟨hp, hne⟩ := mem_without.mp hp
    refine waits_succ.mpr ⟨.inl (h.waits p.1 (List.mem_map.mpr ⟨p, hp, rfl⟩)), fun a ha => ?_⟩
    exact hne (eq_of_answers leaves ha).1

theorem named (R : Run) (m : Nat) : R.Named m := by
  induction m with
  | zero => exact ⟨List.nodup_nil, by simp [waitingAt, deskAt, Desk.run]⟩
  | succ m ih =>
    cases R.happens m with
    | loginBegins _ leaves => exact ih.append leaves
    | asks _ _ _ leaves => exact ih.append leaves
    | restored _ _ leaves => exact ih.quiet leaves rfl
    | nothing _ leaves => exact ih.quiet leaves rfl
    | listens _ _ _ _ _ _ _ _ leaves => exact ih.quiet leaves (map_fst_instead _)
    | superseded _ _ _ _ _ _ _ leaves => exact ih.answered leaves
    | loginEnds _ _ _ _ _ _ _ _ _ _ leaves => exact ih.answered leaves
    | checked _ _ _ _ leaves => exact ih.answered leaves
    | loggedOut _ _ _ _ leaves => exact ih.answered leaves

theorem waits_of_lookup {w : Waiting} (h : (R.waitingAt m).lookup n = some w) : R.Waits n m :=
  (R.named m).waits n
    (List.mem_map.mpr ⟨_, (lookup_eq_some_iff_mem (R.named m).distinct).mp h, rfl⟩)

/-- Only a call that waits is answered. -/
theorem waits_of_answers {a : Answer} (ha : R.Answers n m a) : R.Waits n m := by
  cases answeredBy ha with
  | superseded _ _ _ waits => exact waits_of_lookup waits
  | loginEnds _ _ _ _ _ waits => exact waits_of_lookup waits
  | checked _ waits => exact waits_of_lookup waits
  | loggedOut waits => exact waits_of_lookup waits

theorem listens_of_lookup {inbox : List Message} {closed : Bool}
    (h : (R.waitingAt m).lookup n = some (.login f inbox closed)) : R.Listens n m f :=
  ⟨inbox, closed, (lookup_eq_some_iff_mem (R.named m).distinct).mp h⟩

theorem Listens.lookup (h : R.Listens n m f) :
    ∃ inbox closed, (R.waitingAt m).lookup n = some (.login f inbox closed) := by
  obtain ⟨inbox, closed, hm⟩ := h
  exact ⟨inbox, closed, (lookup_eq_some_iff_mem (R.named m).distinct).mpr hm⟩

/-! ### Which logins wait -/

/-- One move adds the login that it begins and removes the one that it answers. -/
theorem listens_succ : R.Listens n (m + 1) f ↔
    (R.Listens n m f ∨ n = m ∧ R.moves[m]? = some .login ∧ f = R.flowAt m) ∧
      ∀ a, ¬R.Answers n m a := by
  have same {store : Store} {waiting : List (Nat × Waiting)} (leaves : R.Leaves m store waiting [])
      (noLogin : R.moves[m]? ≠ some .login)
      (hw : Among waiting n f ↔ Among (R.waitingAt m) n f) :
      R.Listens n (m + 1) f ↔
        (R.Listens n m f ∨ n = m ∧ R.moves[m]? = some .login ∧ f = R.flowAt m) ∧
          ∀ a, ¬R.Answers n m a := by
    rw [Listens, leaves.waiting, hw]
    simp [noLogin, Answers, leaves.answers, Listens]
  have removed {store : Store} {call : Nat} {a : Answer}
      (leaves : R.Leaves m store (without (R.waitingAt m) call) [(call, a)])
      (noLogin : R.moves[m]? ≠ some .login) :
      R.Listens n (m + 1) f ↔
        (R.Listens n m f ∨ n = m ∧ R.moves[m]? = some .login ∧ f = R.flowAt m) ∧
          ∀ a, ¬R.Answers n m a := by
    rw [Listens, leaves.waiting, among_without]
    simp [noLogin, Answers, leaves.answers, Listens]
  cases R.happens m with
  | restored _ move leaves => exact same leaves (by simp [move]) Iff.rfl
  | nothing passive leaves => exact same leaves passive.noLogin Iff.rfl
  | listens _ _ _ _ _ _ waits passive leaves =>
    exact same leaves passive.noLogin (among_instead (R.named m).distinct waits)
  | asks w noLogin move leaves =>
    refine same leaves (by rcases move with move | move <;> simp [move]) ?_
    rw [among_append]
    simp [noLogin]
  | superseded _ _ _ _ _ move _ leaves => exact removed leaves (by simp [move])
  | loginEnds _ _ _ _ _ _ _ move _ _ leaves => exact removed leaves (by simp [move])
  | checked _ _ _ move leaves => exact removed leaves (by simp [move])
  | loggedOut _ _ _ move leaves => exact removed leaves (by simp [move])
  | loginBegins move leaves =>
    rw [Listens, leaves.waiting, among_append]
    simp [move, Answers, leaves.answers, Listens, eq_comm]

/-- The logins that wait are those that were begun and have not been answered. -/
theorem listens_iff :
    R.Listens n m f ↔ R.moves[n]? = some .login ∧ f = R.flowAt n ∧ R.Waits n m := by
  induction m with
  | zero => simp [Listens, Among, waitingAt, deskAt, Desk.run, Waits]
  | succ m ih =>
    rw [listens_succ, ih, waits_succ]
    constructor
    · rintro ⟨⟨hn, hf, hw⟩ | ⟨rfl, hn, hf⟩, hk⟩
      · exact ⟨hn, hf, .inl hw, hk⟩
      · exact ⟨hn, hf, .inr rfl, hk⟩
    · rintro ⟨hn, hf, hw | rfl, hk⟩
      · exact ⟨.inl ⟨hn, hf, hw⟩, hk⟩
      · exact ⟨.inr ⟨rfl, hn, hf⟩, hk⟩

/-! ### What a move does to the flows -/

/-- Two stores have begun the same flows, and the same one is pending. -/
structure SameFlows (s s' : Store) : Prop where
  flows : s'.flows = s.flows
  pending : s'.pending = s.pending
  tokens : s'.tokens = s.tokens

theorem SameFlows.refl (s : Store) : SameFlows s s := ⟨rfl, rfl, rfl⟩

theorem sameFlows_of_ends {s store : Store} {inbox : List Message} {closed : Bool}
    {result : Except LoginError Session} (h : Ends s f inbox closed store result) :
    SameFlows (s.endFlow f) store ∧ store.state ≠ .loggingIn := by
  cases h with
  | accepted session _ => exact ⟨⟨rfl, rfl, rfl⟩, nofun⟩
  | closed _ _ => exact ⟨⟨rfl, rfl, rfl⟩, nofun⟩

theorem sameFlows_finishCheck (s : Store) (reply : Http.Reply) :
    SameFlows s (s.finishCheck reply).1 ∧
      ((s.finishCheck reply).1.state = .loggingIn → s.state = .loggingIn) := by
  unfold Store.finishCheck
  split
  · exact ⟨.refl s, id⟩
  · exact ⟨⟨rfl, rfl, rfl⟩, nofun⟩

/-- What a move is to the flows: one begins, a live one ends, or they stay as they are. -/
inductive FlowMove (R : Run) (m : Nat) : Prop where
  | begins (move : R.moves[m]? = some .login)
      (store : R.storeAt (m + 1) = (R.storeAt m).beginLogin.1)
  | ends (n : Nat) (f : Flow) (noLogin : R.moves[m]? ≠ some .login) (listened : R.Listens n m f)
      (live : (R.storeAt m).tokens.isCancelled f.token = false)
      (gone : ∀ g, ¬R.Listens n (m + 1) g)
      (flows : SameFlows ((R.storeAt m).endFlow f) (R.storeAt (m + 1)))
      (state : R.stateAt (m + 1) ≠ .loggingIn)
  | kept (noLogin : R.moves[m]? ≠ some .login)
      (flows : SameFlows (R.storeAt m) (R.storeAt (m + 1)))
      (listens : ∀ n f, R.Listens n m f → (R.storeAt m).tokens.isCancelled f.token = false →
        R.Listens n (m + 1) f)
      (state : R.stateAt (m + 1) = .loggingIn → R.stateAt m = .loggingIn)

/-- A login that is not answered goes on listening. -/
theorem Listens.succ (h : R.Listens n m f) (ha : ∀ a, ¬R.Answers n m a) : R.Listens n (m + 1) f :=
  listens_succ.mpr ⟨.inl h, ha⟩

/-- The answer to a call that is no live login leaves the live logins listening. -/
theorem Listens.succ_of_answer {store : Store} {waiting : List (Nat × Waiting)} {call : Nat}
    {a : Answer} (h : R.Listens n m f) (leaves : R.Leaves m store waiting [(call, a)])
    (hne : n ≠ call) : R.Listens n (m + 1) f :=
  h.succ fun _ ha => hne (eq_of_answers leaves ha).1

theorem Listens.unique {g : Flow} {inbox : List Message} {closed : Bool} (h : R.Listens n m f)
    (hw : (R.waitingAt m).lookup n = some (.login g inbox closed)) : f = g := by
  obtain ⟨i, c, hl⟩ := h.lookup
  rw [hw] at hl
  cases hl
  rfl

theorem flowMove (R : Run) (m : Nat) : R.FlowMove m := by
  have stateAt_of {store : Store} {waiting : List (Nat × Waiting)} {answers : List (Nat × Answer)}
      (leaves : R.Leaves m store waiting answers) : R.stateAt (m + 1) = store.state := by
    rw [stateAt, leaves.store]
  cases R.happens m with
  | loginBegins move leaves => exact .begins move leaves.store
  | loginEnds n g inbox closed store result waits move live ends leaves =>
    have hends := sameFlows_of_ends ends
    have gone (f : Flow) : ¬R.Listens n (m + 1) f :=
      fun h => (listens_succ.mp h).2 _ (answers_of_leaves leaves)
    exact .ends n g (by simp [move]) (listens_of_lookup waits) live gone
      (leaves.store ▸ hends.1) (stateAt_of leaves ▸ hends.2)
  | restored session move leaves =>
    exact .kept (by simp [move]) (leaves.store ▸ ⟨rfl, rfl, rfl⟩)
      (fun n f h _ => h.succ fun _ => not_answers leaves) (stateAt_of leaves ▸ nofun)
  | asks w noLogin move leaves =>
    exact .kept (by rcases move with move | move <;> simp [move]) (leaves.store ▸ .refl _)
      (fun n f h _ => h.succ fun _ => not_answers leaves) (stateAt_of leaves ▸ id)
  | listens _ _ _ _ _ _ _ passive leaves =>
    exact .kept passive.noLogin (leaves.store ▸ .refl _)
      (fun n f h _ => h.succ fun _ => not_answers leaves) (stateAt_of leaves ▸ id)
  | nothing passive leaves =>
    exact .kept passive.noLogin (leaves.store ▸ .refl _)
      (fun n f h _ => h.succ fun _ => not_answers leaves) (stateAt_of leaves ▸ id)
  | superseded n g inbox closed waits move cancelled leaves =>
    refine .kept (by simp [move]) (leaves.store ▸ .refl _) (fun n' f h hlive => ?_)
      (stateAt_of leaves ▸ id)
    refine h.succ_of_answer leaves fun hn => ?_
    subst hn
    rw [h.unique waits, cancelled] at hlive
    cases hlive
  | checked n reply waits move leaves =>
    have hcheck := sameFlows_finishCheck (R.storeAt m) reply
    refine .kept (by simp [move]) (leaves.store ▸ hcheck.1) (fun n' f h _ => ?_)
      (stateAt_of leaves ▸ hcheck.2)
    refine h.succ_of_answer leaves fun hn => ?_
    obtain ⟨i, c, hl⟩ := h.lookup
    rw [hn, waits] at hl
    cases hl
  | loggedOut n reply waits move leaves =>
    refine .kept (by simp [move]) (leaves.store ▸ ⟨rfl, rfl, rfl⟩) (fun n' f h _ => ?_)
      (stateAt_of leaves ▸ nofun)
    refine h.succ_of_answer leaves fun hn => ?_
    obtain ⟨i, c, hl⟩ := h.lookup
    rw [hn, waits] at hl
    cases hl

/-- A login waits as soon as it has begun. -/
theorem waits_of_login (h : R.moves[m]? = some .login) : R.Waits m (m + 1) :=
  waits_succ.mpr ⟨.inr rfl, fun _ => not_answers (leaves_login h)⟩

/-! ### The order of flows -/

theorem flows_succ_of_login (h : R.moves[m]? = some .login) :
    (R.storeAt (m + 1)).flows = (R.storeAt m).flows + 1 := by
  cases R.flowMove m with
  | begins _ store => rw [store]; rfl
  | ends _ _ noLogin => exact absurd h noLogin
  | kept noLogin => exact absurd h noLogin

theorem flows_le (R : Run) (h : n ≤ m) : (R.storeAt n).flows ≤ (R.storeAt m).flows := by
  induction h with
  | refl => exact Nat.le_refl _
  | @step m _ ih =>
    refine Nat.le_trans ih ?_
    cases R.flowMove m with
    | begins move _ => rw [flows_succ_of_login move]; exact Nat.le_succ _
    | ends _ f _ _ _ _ flows _ => exact Nat.le_of_eq (by rw [flows.flows, Store.endFlow_flows])
    | kept _ flows _ _ => exact Nat.le_of_eq flows.flows.symm

theorem flowAt_id (n : Nat) : (R.flowAt n).id = (R.storeAt n).flows + 1 := rfl

/-- A later login has a greater number. -/
theorem flowAt_id_lt {k : Nat} (hn : R.moves[n]? = some .login) (h : n < k) :
    (R.flowAt n).id < (R.flowAt k).id := by
  have := R.flows_le (show n + 1 ≤ k from h)
  rw [flows_succ_of_login hn] at this
  rw [flowAt_id, flowAt_id]
  omega

theorem Listens.id_le (h : R.Listens n m f) : f.id ≤ (R.storeAt m).flows := by
  obtain ⟨hn, rfl, hw⟩ := listens_iff.mp h
  have := R.flows_le (show n + 1 ≤ m from hw.1)
  rw [flows_succ_of_login hn] at this
  exact this

/-- Two logins that wait with one flow are the same call. -/
theorem Listens.inj {n' : Nat} (h : R.Listens n m f) (h' : R.Listens n' m f) : n = n' := by
  obtain ⟨hn, hf, _⟩ := listens_iff.mp h
  obtain ⟨hn', hf', _⟩ := listens_iff.mp h'
  rw [hf] at hf'
  have hid := congrArg Flow.id hf'
  rcases Nat.lt_trichotomy n n' with hlt | heq | hgt
  · have := flowAt_id_lt hn hlt
    omega
  · exact heq
  · have := flowAt_id_lt hn' hgt
    omega

/-! ### The pending login -/

/-- How the pending login and the tokens tell the latest login from the others. -/
structure Guarded (R : Run) (m : Nat) : Prop where
  cancelled_issued : ∀ k ∈ (R.storeAt m).tokens.cancelled, k.number < (R.storeAt m).tokens.issued
  pending_issued : ∀ f, (R.storeAt m).pending = some f →
    f.token.number < (R.storeAt m).tokens.issued
  /-- The pending login is not cancelled. -/
  live : ∀ f, (R.storeAt m).pending = some f → f.token ∉ (R.storeAt m).tokens.cancelled
  /-- It is the latest that was begun. -/
  latest : ∀ f, (R.storeAt m).pending = some f → f.id = (R.storeAt m).flows
  /-- It waits. -/
  waits : ∀ f, (R.storeAt m).pending = some f → ∃ n, R.Listens n m f
  /-- The latest is pending as long as it waits. -/
  pends : ∀ n f, R.Listens n m f → f.id = (R.storeAt m).flows → (R.storeAt m).pending = some f
  /-- Any other login that waits is cancelled. -/
  overtaken : ∀ n f, R.Listens n m f →
    (R.storeAt m).pending = some f ∨ f.token ∈ (R.storeAt m).tokens.cancelled
  /-- While the state says that somebody is logging in, a login is pending. -/
  loggingIn : R.stateAt m = .loggingIn → ∃ f, (R.storeAt m).pending = some f

/-- A login that waits and was not cancelled is the pending one. -/
theorem Guarded.pending_of_live (h : R.Guarded m) (hl : R.Listens n m f)
    (hc : (R.storeAt m).tokens.isCancelled f.token = false) : (R.storeAt m).pending = some f :=
  (h.overtaken n f hl).resolve_right (Tokens.isCancelled_eq_false_iff.mp hc)

/-- A login that begins cancels the pending one, and with it whatever waits. -/
theorem Guarded.begins (h : R.Guarded m) (move : R.moves[m]? = some .login)
    (store : R.storeAt (m + 1) = (R.storeAt m).beginLogin.1) : R.Guarded (m + 1) := by
  have hcancelled : (R.storeAt (m + 1)).tokens.cancelled =
      ((R.storeAt m).pending.map Flow.token).toList ++ (R.storeAt m).tokens.cancelled := by
    rw [store, ← Tokens.cancelAny_cancelled]
    rfl
  have hissued : (R.storeAt (m + 1)).tokens.issued = (R.storeAt m).tokens.issued + 1 := by
    rw [store]
    simp [Store.beginLogin, Store.announce, Tokens.issue]
  have hpending : (R.storeAt (m + 1)).pending = some (R.flowAt m) := by
    rw [store]
    rfl
  have htoken : (R.flowAt m).token.number = (R.storeAt m).tokens.issued := by
    simp [flowAt, Store.beginLogin, Tokens.next]
  have before (k : Token) (hk : k ∈ (R.storeAt (m + 1)).tokens.cancelled) :
      k.number < (R.storeAt m).tokens.issued := by
    rw [hcancelled, List.mem_append, Option.mem_toList, Option.map_eq_some_iff] at hk
    rcases hk with ⟨f, hf, rfl⟩ | hk
    · exact h.pending_issued f hf
    · exact h.cancelled_issued k hk
  have new (f : Flow) (hf : (R.storeAt (m + 1)).pending = some f) : f = R.flowAt m :=
    Option.some.inj (hf.symm.trans hpending)
  refine ⟨fun k hk => ?_, fun f hf => ?_, fun f hf hk => ?_, fun f hf => ?_, fun f hf => ?_,
    fun n f hl hid => ?_, fun n f hl => ?_, fun _ => ⟨_, hpending⟩⟩
  · have := before k hk
    omega
  · rw [new f hf, htoken, hissued]
    exact Nat.lt_succ_self _
  · have := before _ hk
    rw [new f hf, htoken] at this
    exact Nat.lt_irrefl _ this
  · rw [new f hf, flows_succ_of_login move, flowAt_id]
  · rw [new f hf]
    exact ⟨m, listens_iff.mpr ⟨move, rfl, waits_of_login move⟩⟩
  · rcases (listens_succ.mp hl).1 with hl | ⟨_, _, rfl⟩
    · have := hl.id_le
      rw [flows_succ_of_login move] at hid
      omega
    · exact hpending
  · rcases (listens_succ.mp hl).1 with hl | ⟨_, _, rfl⟩
    · refine .inr ?_
      rw [hcancelled, List.mem_append]
      rcases h.overtaken n f hl with hf | hk
      · exact .inl (by simp [hf])
      · exact .inr hk
    · exact .inl hpending

/-- A live login that ends was the pending one, and leaves none. -/
theorem Guarded.ends (h : R.Guarded m) (noLogin : R.moves[m]? ≠ some .login)
    (listened : R.Listens n m f) (live : (R.storeAt m).tokens.isCancelled f.token = false)
    (gone : ∀ g, ¬R.Listens n (m + 1) g)
    (flows : SameFlows ((R.storeAt m).endFlow f) (R.storeAt (m + 1)))
    (state : R.stateAt (m + 1) ≠ .loggingIn) : R.Guarded (m + 1) := by
  have hpending := h.pending_of_live listened live
  have hnone : (R.storeAt (m + 1)).pending = none :=
    flows.pending.trans (Store.endFlow_pending hpending)
  have htokens : (R.storeAt (m + 1)).tokens = (R.storeAt m).tokens :=
    flows.tokens.trans Store.endFlow_tokens
  have before (n' : Nat) (g : Flow) (hl : R.Listens n' (m + 1) g) : R.Listens n' m g :=
    (listens_succ.mp hl).1.resolve_right fun hm => noLogin hm.2.1
  -- the pending login is the one that ended
  have notPending (n' : Nat) (g : Flow) (hl : R.Listens n' (m + 1) g) :
      (R.storeAt m).pending ≠ some g := by
    intro hg
    have hfg : f = g := Option.some.inj (hpending.symm.trans hg)
    have hn : n = n' := listened.inj (hfg ▸ before n' g hl)
    exact gone g (hn ▸ hl)
  refine ⟨?_, by simp [hnone], by simp [hnone], by simp [hnone], by simp [hnone],
    fun n' g hl hid => ?_, fun n' g hl => ?_, fun hs => absurd hs state⟩
  · rw [htokens]
    exact h.cancelled_issued
  · rw [flows.flows, Store.endFlow_flows] at hid
    exact absurd (h.pends n' g (before n' g hl) hid) (notPending n' g hl)
  · rw [htokens]
    exact .inr ((h.overtaken n' g (before n' g hl)).resolve_left (notPending n' g hl))

theorem Guarded.kept (h : R.Guarded m) (noLogin : R.moves[m]? ≠ some .login)
    (flows : SameFlows (R.storeAt m) (R.storeAt (m + 1)))
    (listens : ∀ n f, R.Listens n m f → (R.storeAt m).tokens.isCancelled f.token = false →
      R.Listens n (m + 1) f)
    (state : R.stateAt (m + 1) = .loggingIn → R.stateAt m = .loggingIn) : R.Guarded (m + 1) := by
  have before (n : Nat) (f : Flow) (hl : R.Listens n (m + 1) f) : R.Listens n m f :=
    (listens_succ.mp hl).1.resolve_right fun hm => noLogin hm.2.1
  refine ⟨?_, ?_, ?_, ?_, fun f hf => ?_, fun n f hl => ?_, fun n f hl => ?_, fun hs => ?_⟩
  · rw [flows.tokens]
    exact h.cancelled_issued
  · rw [flows.tokens, flows.pending]
    exact h.pending_issued
  · rw [flows.tokens, flows.pending]
    exact h.live
  · rw [flows.flows, flows.pending]
    exact h.latest
  · rw [flows.pending] at hf
    obtain ⟨n, hl⟩ := h.waits f hf
    exact ⟨n, listens n f hl (Tokens.isCancelled_eq_false_iff.mpr (h.live f hf))⟩
  · rw [flows.flows, flows.pending]
    exact h.pends n f (before n f hl)
  · rw [flows.tokens, flows.pending]
    exact h.overtaken n f (before n f hl)
  · rw [flows.pending]
    exact h.loggingIn (state hs)

theorem guarded (R : Run) (m : Nat) : R.Guarded m := by
  induction m with
  | zero =>
    refine ⟨?_, ?_, ?_, ?_, ?_, ?_, ?_, ?_⟩ <;>
      simp [storeAt, stateAt, Listens, Among, waitingAt, deskAt, Desk.run, Store.make]
  | succ m ih =>
    cases R.flowMove m with
    | begins move store => exact ih.begins move store
    | ends n f noLogin listened live gone flows state =>
      exact ih.ends noLogin listened live gone flows state
    | kept noLogin flows listens state => exact ih.kept noLogin flows listens state

end DatasetSearch.Account.Run
