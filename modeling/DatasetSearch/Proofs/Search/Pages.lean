import DatasetSearch.Proofs.Search.Held

/-! Where a page of more records is added.

A call for more continues the page that is shown when it begins. When its reply comes, the store
asks whether a search or a clearing began since, and whether the last record still has the same
token. Neither tells of a search that had begun before the call and delivered its records since, nor
of another call's page, when the tokens are the same. `pages_continue_iff` says what the tokens
would have to tell for every page to be added to the records that it was asked for. -/
namespace DatasetSearch.Search.Run
variable {R : Run} {m n : Nat} {page : List Record}

/-- The call for more begun at `n` adds its page to the records at `m`. -/
def Appends (R : Run) (n m : Nat) (page : List Record) : Prop :=
  (∃ r, R.moves[n]? = some (.fetchMore r)) ∧ R.broughtAt m = some (n, page)

/-- The move at a place brings records that change the page: those of a search, or a page that is
not empty. -/
def Changes (R : Run) (k : Nat) : Prop :=
  ∃ c records, R.broughtAt k = some (c, records) ∧
    ((∃ r, R.moves[c]? = some (.search r)) ∨ records ≠ [])

/-- The search begun at `s` delivers its records at `k`. -/
def Delivers (R : Run) (s k : Nat) : Prop :=
  (∃ r, R.moves[s]? = some (.search r)) ∧ ∃ records, R.broughtAt k = some (s, records)

/-- No page is put under records that it does not belong to. -/
structure PagesContinue (R : Run) : Prop where
  /-- A page is added to the records that were shown when it was asked for. -/
  same_records : ∀ {n m page}, R.Appends n m page → R.recordsAt m = R.recordsAt n
  /-- Of the pages asked for on the same records one at most is added, but for empty ones. -/
  one_page : ∀ {n m page n' m' page'}, R.Appends n m page → R.Appends n' m' page' →
    R.heldAt n = R.heldAt n' → page ≠ [] → page' ≠ [] → n = n'
  /-- A page asked for before a search delivered its records is not added after it did. -/
  not_after_search : ∀ {s k n m page}, R.Delivers s k → n < k → k < m → ¬R.Appends n m page

/-- When a page comes for a call that no search or clearing has overtaken, and the last record has
the token that it had, the page shown did not change. -/
def CursorsTell (R : Run) : Prop :=
  ∀ n m r reply page, R.moves[n]? = some (.fetchMore r) → R.Waits n m →
    R.moves[m]? = some (.reply n reply) → recordsOf? reply = some page → R.SameEnd n m →
    ∀ k, n < k → k < m → ¬R.Changes k

/-- No two moves bring records that end with the same token. -/
def TokensDiffer (R : Run) : Prop :=
  ∀ j k c d records records', R.broughtAt j = some (c, records) →
    R.broughtAt k = some (d, records') → records ≠ [] →
    records.getLast?.map Record.token = records'.getLast?.map Record.token → j = k

/-! ### When the page changes -/

theorem broughtAt_of_fetchMore {r : Request} (hn : R.moves[n]? = some (.fetchMore r)) :
    R.broughtAt n = none := by
  simp only [broughtAt, hn]

/-- A call brings records once. -/
theorem brought_once {j k : Nat} {records records' : List Record}
    (hj : R.broughtAt j = some (n, records)) (hk : R.broughtAt k = some (n, records')) : j = k := by
  obtain ⟨_, _, hj⟩ := (ends_of_broughtAt hj).1
  obtain ⟨_, _, hk⟩ := (ends_of_broughtAt hk).1
  exact answers_once hj hk

theorem heldAt_succ_of_unchanged (hc : ¬R.Changes m) (hm : R.moves[m]? ≠ some .clear) :
    R.heldAt (m + 1) = R.heldAt m := by
  cases hb : R.broughtAt m with
  | none => exact heldAt_succ_of_none hb hm
  | some p =>
    obtain ⟨c, records⟩ := p
    rcases (ends_of_broughtAt hb).2 with ⟨hsearch, _⟩ | ⟨⟨r, hr⟩, _⟩
    · exact absurd ⟨c, records, hb, .inl hsearch⟩ hc
    · have hempty : records = [] := Classical.byContradiction fun hne =>
        hc ⟨c, records, hb, .inr hne⟩
      rw [heldAt_succ_of_more hb hr, hempty, List.map_nil, List.append_nil]

/-- A move that changes the page leaves on it, if anything, what it brought at the end. -/
theorem last_of_changes (hc : R.Changes m) (hne : R.heldAt (m + 1) ≠ []) :
    ∃ c records, R.broughtAt m = some (c, records) ∧ records ≠ [] ∧
      (R.heldAt (m + 1)).getLast? = records.getLast?.map (c, ·) := by
  obtain ⟨c, records, hb, hsome⟩ := hc
  refine ⟨c, records, hb, ?_⟩
  rcases (ends_of_broughtAt hb).2 with ⟨⟨r, hr⟩, _⟩ | ⟨⟨r, hr⟩, _⟩
  · rw [heldAt_succ_of_search hb hr] at hne ⊢
    exact ⟨fun hnil => hne (by rw [hnil, List.map_nil]), List.getLast?_map ..⟩
  · have hne' : records ≠ [] := hsome.resolve_left fun ⟨_, hs⟩ => by rw [hr] at hs; cases hs
    rw [heldAt_succ_of_more hb hr, List.getLast?_append, List.getLast?_map]
    refine ⟨hne', ?_⟩
    rw [List.getLast?_eq_some_getLast hne']
    rfl

/-- The last record of a page was brought by a move since which the page has not changed. -/
theorem last_brought (hne : R.heldAt m ≠ []) :
    ∃ j c records, j < m ∧ R.broughtAt j = some (c, records) ∧ records ≠ [] ∧
      (R.heldAt m).getLast? = records.getLast?.map (c, ·) ∧
      ∀ k, j < k → k < m → ¬R.Changes k := by
  induction m with
  | zero => exact absurd rfl hne
  | succ m ih =>
    by_cases hc : R.Changes m
    · obtain ⟨c, records, hb, hrecords, hlast⟩ := last_of_changes hc hne
      exact ⟨m, c, records, Nat.lt_succ_self m, hb, hrecords, hlast, fun k hj hk => by omega⟩
    · by_cases hm : R.moves[m]? = some .clear
      · exact absurd (heldAt_succ_of_clear hm) hne
      · rw [heldAt_succ_of_unchanged hc hm] at hne ⊢
        obtain ⟨j, c, records, hj, hb, hrecords, hlast, hquiet⟩ := ih hne
        refine ⟨j, c, records, Nat.lt_succ_of_lt hj, hb, hrecords, hlast, fun k hjk hkm => ?_⟩
        rcases Nat.lt_or_eq_of_le (Nat.le_of_lt_succ hkm) with hlt | rfl
        · exact hquiet k hjk hlt
        · exact hc

theorem heldAt_eq_of_unchanged (hnm : n ≤ m)
    (h : ∀ k, n ≤ k → k < m → ¬R.Changes k ∧ R.moves[k]? ≠ some .clear) :
    R.heldAt m = R.heldAt n := by
  induction hnm with
  | refl => rfl
  | @step m hnm ih =>
    have hm := h m hnm (Nat.lt_succ_self m)
    rw [heldAt_succ_of_unchanged hm.1 hm.2]
    exact ih fun k hnk hkm => h k hnk (Nat.lt_succ_of_lt hkm)

/-- A page that is there again has not changed in between: what was replaced never comes back. -/
theorem unchanged_of_heldAt_eq (he : R.heldAt m = R.heldAt n) (hne : R.heldAt n ≠ []) {k : Nat}
    (hnk : n ≤ k) (hkm : k < m) : ¬R.Changes k := by
  obtain ⟨j, c, records, hj, hb, hrecords, hlast, _⟩ := last_brought hne
  obtain ⟨j', c', records', _, hb', hrecords', hlast', hquiet⟩ := last_brought (he ▸ hne)
  have hc : c = c' := by
    rw [he, hlast, List.getLast?_eq_some_getLast hrecords,
      List.getLast?_eq_some_getLast hrecords'] at hlast'
    exact (Prod.mk.inj (Option.some.inj hlast')).1
  have hjj : j = j' := brought_once hb (hc ▸ hb')
  exact hquiet k (by omega) hkm

/-! ### When a page is added -/

theorem Appends.ends (h : R.Appends n m page) :
    R.Waits n m ∧ R.SameEnd n m ∧
      ∃ reply, R.moves[m]? = some (.reply n reply) ∧ recordsOf? reply = some page := by
  obtain ⟨⟨r, hr⟩, hb⟩ := h
  obtain ⟨reply, move, hpage, _⟩ := broughtAt_eq_some_iff.mp hb
  refine ⟨(ends_of_broughtAt hb).1.1, ?_, reply, move, hpage⟩
  rcases (ends_of_broughtAt hb).2 with ⟨⟨r', hr'⟩, _⟩ | ⟨_, hsame⟩
  · rw [hr] at hr'
    cases hr'
  · exact hsame

theorem Appends.recordsAt_succ (h : R.Appends n m page) :
    R.recordsAt (m + 1) = R.recordsAt m ++ page := by
  obtain ⟨⟨r, hr⟩, hb⟩ := h
  rw [← map_snd_heldAt, heldAt_succ_of_more hb hr, List.map_append, map_snd_heldAt]
  simp [Function.comp_def]

/-- A call for more that waits was begun with records shown. -/
theorem continuation_of_waits {r : Request} (hn : R.moves[n]? = some (.fetchMore r))
    (hw : R.Waits n m) : ∃ c, (R.waitingAt m).lookup n = some (.more c) := by
  cases hc : (R.storeAt n).beginMore R.base r with
  | none =>
    refine absurd ?_ ((hw.2 n (Nat.le_refl n) hw.1).1 (.outcome (.ok Store.nothingMore)))
    rw [(leaves_nothing_more hn hc).answers]
    exact List.mem_singleton_self _
  | some c =>
    have hb : R.begun n = some (.more c) := by simp only [begun, hn, hc, Option.map_some]
    exact ⟨c, R.lookup_iff.mpr (R.mem_waitingAt_iff.mpr ⟨hb, hw⟩)⟩

theorem heldAt_ne_nil_of_waits {r : Request} (hn : R.moves[n]? = some (.fetchMore r))
    (hw : R.Waits n m) : R.heldAt n ≠ [] := by
  intro hnil
  obtain ⟨c, hc⟩ := continuation_of_waits hn hw
  obtain ⟨_, _, _, hcursor, _⟩ := continuation_of_begun (begun_of_lookup hc).2
  have hrecords : (R.storeAt n).results.records = [] := by
    rw [← recordsAt, ← map_snd_heldAt, hnil, List.map_nil]
  simp [Results.lastToken?, hrecords] at hcursor

/-- What comes of the reply to a call for more. -/
theorem moreEnds_of_reply {r : Request} {reply : Http.Reply}
    (hn : R.moves[n]? = some (.fetchMore r)) (hw : R.Waits n m)
    (hm : R.moves[m]? = some (.reply n reply)) : R.MoreEnds m n r := by
  obtain ⟨c, hc⟩ := continuation_of_waits hn hw
  obtain ⟨r', hr', he⟩ := more_ends hc hm (leaves_more_reply hm hc)
  rw [hn] at hr'
  cases hr'
  exact he

theorem superseded_iff_not_sameEnd {r : Request} {reply : Http.Reply}
    (hn : R.moves[n]? = some (.fetchMore r)) (hw : R.Waits n m)
    (hm : R.moves[m]? = some (.reply n reply)) :
    R.Answers n m (.error .superseded) ↔ ¬R.SameEnd n m := by
  cases moreEnds_of_reply hn hw hm with
  | discarded changed leaves => exact ⟨fun _ => changed, fun _ => answers_of_leaves leaves⟩
  | succeeds same _ _ _ _ leaves =>
    exact ⟨fun ha => by simp [Answers, leaves.answers] at ha, fun hs => absurd same hs⟩
  | fails same _ _ e _ ours leaves =>
    refine ⟨fun ha => ?_, fun hs => absurd same hs⟩
    rw [Answers, leaves.answers] at ha
    simp only [List.mem_singleton, Prod.mk.injEq, true_and, Answer.outcome.injEq,
      Except.error.injEq] at ha
    exact absurd ha.symm ours

theorem appends_of_sameEnd {r : Request} {reply : Http.Reply}
    (hn : R.moves[n]? = some (.fetchMore r)) (hw : R.Waits n m)
    (hm : R.moves[m]? = some (.reply n reply)) (hp : recordsOf? reply = some page)
    (hs : R.SameEnd n m) : R.Appends n m page := by
  refine ⟨⟨r, hn⟩, ?_⟩
  cases moreEnds_of_reply hn hw hm with
  | discarded changed _ => exact absurd hs changed
  | succeeds _ _ _ _ _ leaves => exact broughtAt_of_succeeds hm hp leaves.answers
  | fails _ reply' move' _ none _ _ =>
    rw [hm] at move'
    cases move'
    rw [hp] at none
    cases none

theorem appends_iff {r : Request} {reply : Http.Reply}
    (hn : R.moves[n]? = some (.fetchMore r)) (hw : R.Waits n m)
    (hm : R.moves[m]? = some (.reply n reply)) :
    R.Appends n m page ↔ R.SameEnd n m ∧ recordsOf? reply = some page := by
  constructor
  · intro h
    obtain ⟨_, hs, reply', hm', hp⟩ := h.ends
    rw [hm] at hm'
    cases hm'
    exact ⟨hs, hp⟩
  · exact fun ⟨hs, hp⟩ => appends_of_sameEnd hn hw hm hp hs

/-! ### Pages that continue -/

/-- A page is added to the records that it was asked for exactly when none of the moves since then
changed them. -/
theorem Appends.heldAt_eq_iff (h : R.Appends n m page) :
    R.heldAt m = R.heldAt n ↔ ∀ k, n < k → k < m → ¬R.Changes k := by
  obtain ⟨⟨hn, hw⟩, hs, _⟩ := h.ends
  obtain ⟨r, hr⟩ := h.1
  constructor
  · intro he k hnk hkm
    exact unchanged_of_heldAt_eq he (heldAt_ne_nil_of_waits hr ⟨hn, hw⟩) (Nat.le_of_lt hnk) hkm
  · intro hquiet
    refine heldAt_eq_of_unchanged (Nat.le_of_lt hn) fun k hnk hkm => ?_
    rcases Nat.lt_or_eq_of_le hnk with hlt | rfl
    · exact ⟨hquiet k hlt hkm, fun hc => hs.1 ⟨k, hlt, hkm, supersedes_of_clear hc⟩⟩
    · refine ⟨fun ⟨_, _, hb, _⟩ => ?_, by simp [hr]⟩
      rw [broughtAt_of_fetchMore hr] at hb
      cases hb

theorem CursorsTell.heldAt_eq (h : R.CursorsTell) (ha : R.Appends n m page) :
    R.heldAt m = R.heldAt n := by
  obtain ⟨hw, hs, reply, hm, hp⟩ := ha.ends
  obtain ⟨r, hr⟩ := ha.1
  exact ha.heldAt_eq_iff.mpr (h n m r reply page hr hw hm hp hs)

theorem CursorsTell.one_page (h : R.CursorsTell) {n' m' : Nat} {page' : List Record}
    (ha : R.Appends n m page) (ha' : R.Appends n' m' page') (he : R.heldAt n = R.heldAt n')
    (hp : page ≠ []) (hp' : page' ≠ []) : n = n' := by
  have hheld : R.heldAt m = R.heldAt m' := by rw [h.heldAt_eq ha, he, h.heldAt_eq ha']
  have hne : R.heldAt m ≠ [] := by
    obtain ⟨r, hr⟩ := ha.1
    rw [h.heldAt_eq ha]
    exact heldAt_ne_nil_of_waits hr ha.ends.1
  rcases Nat.lt_trichotomy m m' with hlt | rfl | hlt
  · exact absurd ⟨n, page, ha.2, .inr hp⟩
      (unchanged_of_heldAt_eq hheld.symm hne (Nat.le_refl m) hlt)
  · have hb := ha'.2
    rw [ha.2] at hb
    exact (Prod.mk.inj (Option.some.inj hb)).1
  · exact absurd ⟨n', page', ha'.2, .inr hp'⟩
      (unchanged_of_heldAt_eq hheld (hheld ▸ hne) (Nat.le_refl m') hlt)

theorem CursorsTell.pagesContinue (h : R.CursorsTell) : R.PagesContinue where
  same_records ha := by rw [← map_snd_heldAt, h.heldAt_eq ha, map_snd_heldAt]
  one_page := h.one_page
  not_after_search := fun ⟨hs, records, hb⟩ hnk hkm ha =>
    ha.heldAt_eq_iff.mp (h.heldAt_eq ha) _ hnk hkm ⟨_, records, hb, .inl hs⟩

/-- Where no search delivers and nothing is cleared, records are only added. -/
theorem heldAt_succ_of_kept (hs : ∀ s, ¬R.Delivers s m) (hm : R.moves[m]? ≠ some .clear) :
    ∃ more, R.heldAt (m + 1) = R.heldAt m ++ more ∧ (R.Changes m → more ≠ []) := by
  by_cases hc : R.Changes m
  · obtain ⟨c, records, hb, hsearch | hrecords⟩ := hc
    · exact absurd ⟨hsearch, records, hb⟩ (hs c)
    · rcases (ends_of_broughtAt hb).2 with ⟨hsearch, _⟩ | ⟨⟨r, hr⟩, _⟩
      · exact absurd ⟨hsearch, records, hb⟩ (hs c)
      · exact ⟨_, heldAt_succ_of_more hb hr, fun _ hnil => hrecords (List.map_eq_nil_iff.mp hnil)⟩
  · exact ⟨[], by rw [heldAt_succ_of_unchanged hc hm, List.append_nil], fun h => absurd h hc⟩

theorem length_heldAt_le (hnm : n ≤ m)
    (h : ∀ k, n ≤ k → k < m → (∀ s, ¬R.Delivers s k) ∧ R.moves[k]? ≠ some .clear) :
    (R.heldAt n).length ≤ (R.heldAt m).length := by
  induction hnm with
  | refl => exact Nat.le_refl _
  | @step m hnm ih =>
    have hm := h m hnm (Nat.lt_succ_self m)
    obtain ⟨more, hmore, _⟩ := heldAt_succ_of_kept hm.1 hm.2
    have hle := ih fun k hnk hkm => h k hnk (Nat.lt_succ_of_lt hkm)
    rw [hmore, List.length_append]
    omega

/-- Where pages continue, what would have changed the records was no search, and a page would have
made them more. -/
theorem PagesContinue.cursorsTell (h : R.PagesContinue) : R.CursorsTell := by
  intro n m r reply page hn hw hm hp hs k hnk hkm hc
  have ha := appends_of_sameEnd hn hw hm hp hs
  have hkept : ∀ j, n < j → j < m → (∀ s, ¬R.Delivers s j) ∧ R.moves[j]? ≠ some .clear :=
    fun j hnj hjm => ⟨fun s hd => h.not_after_search hd hnj hjm ha,
      fun hj => hs.1 ⟨j, hnj, hjm, supersedes_of_clear hj⟩⟩
  obtain ⟨more, hmore, hsome⟩ := heldAt_succ_of_kept (hkept k hnk hkm).1 (hkept k hnk hkm).2
  have hbefore : (R.heldAt (n + 1)).length ≤ (R.heldAt k).length :=
    length_heldAt_le hnk fun j hnj hjk => hkept j hnj (Nat.lt_trans hjk hkm)
  have hafter : (R.heldAt (k + 1)).length ≤ (R.heldAt m).length :=
    length_heldAt_le hkm fun j hkj hjm => hkept j (Nat.lt_trans hnk hkj) hjm
  have hstart : R.heldAt (n + 1) = R.heldAt n :=
    heldAt_succ_of_none (broughtAt_of_fetchMore hn) (by simp [hn])
  have hgrown : 0 < more.length := List.length_pos_iff.mpr (hsome hc)
  have hsame : (R.heldAt m).length = (R.heldAt n).length := by
    have := congrArg List.length (h.same_records ha)
    simpa only [← map_snd_heldAt, List.length_map] using this
  rw [hmore, List.length_append] at hafter
  rw [hstart] at hbefore
  omega

theorem lastToken?_eq {c : Nat} {records : List Record}
    (h : (R.heldAt m).getLast? = records.getLast?.map (c, ·)) :
    (R.storeAt m).results.lastToken? = records.getLast?.map Record.token := by
  rw [Results.lastToken?, ← recordsAt, ← map_snd_heldAt, List.getLast?_map, h]
  simp [Function.comp_def]

/-- Tokens that the server never repeats do tell. -/
theorem TokensDiffer.cursorsTell (h : R.TokensDiffer) : R.CursorsTell := by
  intro n m r reply page hn hw hm hp hs k hnk hkm
  have hne := heldAt_ne_nil_of_waits hn hw
  obtain ⟨j, c, records, hj, hb, hrecords, hlast, _⟩ := last_brought hne
  have hne' : R.heldAt m ≠ [] := by
    intro hnil
    have hsome : (R.storeAt n).results.lastToken? ≠ none := by
      rw [lastToken?_eq hlast, List.getLast?_eq_some_getLast hrecords]
      simp
    rw [← hs.2, Results.lastToken?, ← recordsAt, ← map_snd_heldAt, hnil] at hsome
    exact hsome rfl
  obtain ⟨j', c', records', _, hb', _, hlast', hquiet⟩ := last_brought hne'
  have htokens := hs.2
  rw [lastToken?_eq hlast, lastToken?_eq hlast'] at htokens
  have hjj : j = j' := h j j' c c' records records' hb hb' hrecords htokens.symm
  exact hquiet k (by omega) hkm

/-- Where pages are added. When the reply to a call for more comes, the call is superseded
exactly when a search or a clearing began since it or the token at the end of the page is another;
otherwise the page in the reply is added at the end of the records. These are the ones that were
shown when the call began exactly when no search delivered records and no page was added in between.
So no page of a run is put under records that it does not belong to exactly when the tokens tell of
every such change, which they do when no two deliveries end with the same token. -/
theorem pages_continue_iff (R : Run) :
    (∀ n m r reply, R.moves[n]? = some (.fetchMore r) → R.Waits n m →
      R.moves[m]? = some (.reply n reply) →
        (R.Answers n m (.error .superseded) ↔ ¬R.SameEnd n m) ∧
        ∀ page, R.Appends n m page ↔ R.SameEnd n m ∧ recordsOf? reply = some page) ∧
    (∀ n m page, R.Appends n m page →
      R.recordsAt (m + 1) = R.recordsAt m ++ page ∧
      (R.heldAt m = R.heldAt n ↔ ∀ k, n < k → k < m → ¬R.Changes k)) ∧
    (R.PagesContinue ↔ R.CursorsTell) ∧
    (R.TokensDiffer → R.CursorsTell) := by
  refine ⟨fun n m r reply hn hw hm => ⟨superseded_iff_not_sameEnd hn hw hm, fun page => ?_⟩,
    fun n m page ha => ⟨ha.recordsAt_succ, ha.heldAt_eq_iff⟩,
    ⟨PagesContinue.cursorsTell, CursorsTell.pagesContinue⟩, TokensDiffer.cursorsTell⟩
  exact appends_iff hn hw hm

/-- The reply to a search: one hit with a name of its own, and no token. -/
def oneHit (name : String) : Http.Reply :=
  .response ⟨200, "[\x7b\"document\":[\x7b\"_id\":\"" ++ name ++ "\"\x7d]\x7d]"⟩

/-- More is asked for while a second search is in flight, and comes after that search delivered. -/
def crossedPages : Run where
  base := "http://server/api"
  moves := [.search { term := "rain" }, .reply 0 (oneHit "rain-1"), .search { term := "snow" },
    .fetchMore { term := "rain" }, .reply 2 (oneHit "snow-1"), .reply 3 (oneHit "rain-2")]

theorem crossedPages_names :
    (crossedPages.recordsAt 3).map Record.id = ["rain-1"] ∧
      (crossedPages.recordsAt 5).map Record.id = ["snow-1"] ∧
      (crossedPages.recordsAt 6).map Record.id = ["snow-1", "rain-2"] := by
  decide +kernel

/-- A page asked for on the records of one search is added to those of another. -/
theorem pages_do_not_continue : ¬crossedPages.PagesContinue := by
  intro h
  have hp : ((crossedPages.broughtAt 5).map Prod.fst) = some 3 := by decide +kernel
  obtain ⟨⟨n, page⟩, hb, rfl⟩ := Option.map_eq_some_iff.mp hp
  have ha : crossedPages.Appends 3 5 page := ⟨⟨_, rfl⟩, hb⟩
  have he := h.same_records ha
  have hnames := crossedPages_names
  rw [he, hnames.1] at hnames
  exact absurd hnames.2.1 (by decide)

end DatasetSearch.Search.Run
