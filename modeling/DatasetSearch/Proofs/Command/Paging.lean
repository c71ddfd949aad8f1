import DatasetSearch.Proofs.Command.Listing
import DatasetSearch.Proofs.Command.StateFile
import DatasetSearch.Proofs.Search.Cursor
import DatasetSearch.Proofs.Search.Dialogue

/-! What a search asks for and shows.

Searching is a dialogue: the first page is asked for, and the pages after it as long as they are
full (`run_runSearch`). Nothing else touches the store that holds the records so far, so no page is
refused, and while pages are full there is a record to go on after. All records are listed at the
end (`Listed`), or none (`search_pages`). -/
namespace DatasetSearch
open Program (World)

/-- Pages of results hold at least one record. -/
theorem Settings.pageSize_pos {lookup : String → Option String} {s : Settings}
    (h : Settings.read lookup = .ok s) : 0 < s.pageSize := by
  have hpos : ∀ {value : String} {n : Nat}, readPageSize value = .ok n → 0 < n := by
    intro value n hn
    rw [readPageSize] at hn
    split at hn
    · cases hn
    · cases hn
    · next hzero _ =>
      cases hn
      exact Nat.pos_of_ne_zero hzero
  simp only [read, bind, Except.bind] at h
  split at h
  · cases h
  split at h
  · cases h
  split at h
  · cases h
  next hsize =>
  split at h
  · cases h
  cases h
  exact hpos hsize

open Search (Exchange Outcome Record cursorAt dialogue gathered tokenName tokenPairs)

/-! ### Routes -/

namespace Command

/-- A search has a route if every text of one has an equals sign. -/
theorem exists_routeOf_iff (term : String) (routes : List String) :
    (∃ route, routeOf term routes = .ok route) ↔ ∀ text ∈ routes, '=' ∈ text.toList := by
  have hsplit : ∀ text, (∃ p, splitRoute text = .ok p) ↔ '=' ∈ text.toList := by
    intro text
    rw [splitRoute]
    split <;> simp [*]
  have hall : (∃ pairs, routes.mapM splitRoute = .ok pairs) ↔
      ∀ text ∈ routes, '=' ∈ text.toList := by
    induction routes with
    | nil => exact ⟨fun _ => nofun, fun _ => ⟨[], rfl⟩⟩
    | cons text rest ih =>
      rw [List.forall_mem_cons, ← hsplit text, ← ih, List.mapM_cons]
      cases splitRoute text with
      | error e => simp [bind, Except.bind]
      | ok p => cases rest.mapM splitRoute <;> simp [bind, Except.bind, pure, Except.pure]
  rw [← hall, routeOf]
  cases routes.mapM splitRoute <;> simp [Except.map]

end Command

/-! ### One page after the other -/

/-- What comes of a request. -/
def Program.World.exchange (w : World) (request : Http.Request) : Exchange :=
  ⟨request, w.replies.headD Http.Reply.unreachable request⟩

/-- A world after some exchanges. -/
def Program.World.after (w : World) (xs : List Exchange) : World :=
  { w with
    replies := w.replies.drop xs.length
    requests := w.requests ++ xs.map Exchange.request }

theorem Program.run_fetch {α : Type} (request : Http.Request) (next : Http.Reply → Program α)
    (w : World) :
    (Program.fetch request next).run w =
      (next (w.exchange request).reply).run (w.after [w.exchange request]) := by
  simp only [World.after, World.exchange, Program.run, List.length_singleton, List.drop_one,
    List.map_singleton]

theorem Program.World.after_nil (w : World) : w.after [] = w := by
  simp [World.after]

theorem Program.World.after_cons (w : World) (x : Exchange) (xs : List Exchange) :
    w.after (x :: xs) = (w.after [x]).after xs := by
  simp [World.after]

namespace Command
variable {a : App} {w : World}

/-- The request of a page, with the cursor that it begins after. -/
def asks (base : String) (r : Search.Request) (cursor : Option String) : Http.Request :=
  { url := Search.searchUrl base { r with token := cursor } }

/-- An application that shows more records. -/
def showing (a : App) (records : List Record) : App :=
  { a with search := { a.search with results := ⟨a.search.results.records ++ records⟩ } }

theorem showing_nil (a : App) : showing a [] = a := by
  rw [showing, List.append_nil]

theorem showing_append (a : App) (records others : List Record) :
    showing (showing a records) others = showing a (records ++ others) := by
  simp only [showing, List.append_assoc]

section
variable {outcome : Outcome} {cursor : String} {records : List Record}
  {e : Search.Error} {x : Exchange}

/-- A full page holds something, so there is a record to go on after. -/
theorem ne_nil_of_hasMore {size : Nat} (hsize : 0 < size)
    (h : (Outcome.ofPage records.length size).hasMore = true) : records ≠ [] := by
  rintro rfl
  exact absurd (beq_iff_eq.mp h) (Nat.ne_of_lt hsize)

/-- Nothing comes between a call for more and its end, so it is refused by nothing but its reply. -/
theorem run_fetchMore (hcursor : a.search.results.lastToken? = some cursor)
    (hx : w.exchange (asks a.settings.apiBase a.request (some cursor)) = x) :
    (searched a.fetchMore).run w =
      ((x.found.map fun records =>
        (showing a records, Outcome.ofPage records.length a.settings.pageSize)).mapError
          Failure.search, w.after [x]) := by
  obtain ⟨record, hlast, rfl⟩ := Option.map_eq_some_iff.mp hcursor
  let c : Search.Continuation :=
    { generation := a.search.generation
      cursor := record.token
      url := Search.searchUrl a.settings.apiBase { a.request with token := some record.token }
      pageSize := a.request.pageSize }
  have hbegin : a.search.beginMore a.settings.apiBase a.request = some c :=
    Search.Store.beginMore_eq hlast
  have hcontinues : a.search.Continues c := ⟨rfl, hcursor⟩
  subst hx
  rw [searched, App.fetchMore, hbegin]
  refine (Program.run_fetch _ _ w).trans ?_
  dsimp only [Program.bind]
  cases hfound : (w.exchange (asks a.settings.apiBase a.request (some record.token))).found with
  | ok records =>
    have hfinish : a.search.finishMore c (w.exchange { url := c.url }).reply = _ :=
      Search.Store.finishMore_ok hcontinues hfound
    rw [hfinish]
    rfl
  | error e =>
    have hfinish : a.search.finishMore c (w.exchange { url := c.url }).reply = _ :=
      Search.Store.finishMore_error hcontinues hfound
    rw [hfinish]
    rfl

/-- The exchanges for at most so many pages after what is shown. -/
def furtherPages (n : Nat) (a : App) (outcome : Outcome)
    (replies : List (Http.Request → Http.Reply)) : List Exchange :=
  if outcome.hasMore then
    dialogue (asks a.settings.apiBase a.request) a.settings.pageSize n
      a.search.results.lastToken? replies
  else []

theorem furtherPages_zero (a : App) (replies : List (Http.Request → Http.Reply)) :
    furtherPages 0 a outcome replies = [] := by
  rw [furtherPages]
  split <;> rfl

theorem furtherPages_of_not (n : Nat) (replies : List (Http.Request → Http.Reply))
    (h : outcome.hasMore = false) : furtherPages n a outcome replies = [] := by
  rw [furtherPages, h]
  rfl

theorem furtherPages_of_error (n : Nat) (h : outcome.hasMore = true)
    (hcursor : a.search.results.lastToken? = some cursor)
    (hx : w.exchange (asks a.settings.apiBase a.request (some cursor)) = x)
    (hfound : x.found = .error e) : furtherPages (n + 1) a outcome w.replies = [x] := by
  rw [furtherPages, if_pos h, hcursor]
  exact Search.dialogue_not_full hx.symm (Exchange.isFull_of_error hfound)

/-- Where the records of a page are the last that are shown, the pages after it are further pages
after what is shown. -/
theorem dialogue_of_ok (n : Nat) {cursor : Option String} (hsize : 0 < a.settings.pageSize)
    (hx : w.exchange (asks a.settings.apiBase a.request cursor) = x)
    (hfound : x.found = .ok records)
    (hlast : records ≠ [] →
      a.search.results.lastToken? = records.getLast?.map Record.token) :
    dialogue (asks a.settings.apiBase a.request) a.settings.pageSize (n + 1) cursor w.replies =
      x :: furtherPages n a (.ofPage records.length a.settings.pageSize) (w.after [x]).replies := by
  have hfull : x.isFull a.settings.pageSize = (records.length == a.settings.pageSize) :=
    Exchange.isFull_of_ok hfound
  cases hlength : records.length == a.settings.pageSize with
  | false =>
    rw [hlength] at hfull
    rw [Search.dialogue_not_full hx.symm hfull, furtherPages_of_not n _ hlength]
  | true =>
    rw [hlength] at hfull
    have hmore : (Outcome.ofPage records.length a.settings.pageSize).hasMore = true := hlength
    have hcursor : a.search.results.lastToken? = x.lastToken? := by
      rw [Exchange.lastToken?_of_ok hfound, hlast (ne_nil_of_hasMore hsize hmore)]
    have hreplies : (w.after [x]).replies = w.replies.tail := List.drop_one
    rw [Search.dialogue_full hx.symm hfull, furtherPages, if_pos hmore, hcursor, hreplies]

theorem furtherPages_of_ok (n : Nat) (hsize : 0 < a.settings.pageSize) (h : outcome.hasMore = true)
    (hcursor : a.search.results.lastToken? = some cursor)
    (hx : w.exchange (asks a.settings.apiBase a.request (some cursor)) = x)
    (hfound : x.found = .ok records) :
    furtherPages (n + 1) a outcome w.replies =
      x :: furtherPages n (showing a records) (.ofPage records.length a.settings.pageSize)
        (w.after [x]).replies := by
  rw [furtherPages, if_pos h, hcursor]
  refine dialogue_of_ok (a := showing a records) n hsize hx hfound fun hne => ?_
  exact congrArg (Option.map _) (List.getLast?_append_of_ne_nil _ hne)

end

/-- Further pages are asked for as a dialogue, as long as something is shown to go on after. -/
theorem run_morePages {outcome : Outcome} (n : Nat) (hsize : 0 < a.settings.pageSize)
    (hheld : outcome.hasMore = true → a.search.results.records ≠ []) :
    (morePages n (a, outcome)).run w =
      (((gathered (furtherPages n a outcome w.replies)).map (showing a)).mapError Failure.search,
        w.after (furtherPages n a outcome w.replies)) := by
  induction n generalizing a outcome w with
  | zero =>
    rw [furtherPages_zero, Program.World.after_nil, gathered]
    simp only [morePages, Except.map, showing_nil]
    rfl
  | succ n ih =>
    cases hmore : outcome.hasMore with
    | false =>
      rw [furtherPages_of_not _ _ hmore, Program.World.after_nil, morePages, hmore, gathered]
      simp only [Except.map, showing_nil]
      rfl
    | true =>
      obtain ⟨cursor, hcursor⟩ : ∃ cursor, a.search.results.lastToken? = some cursor := by
        refine Option.isSome_iff_exists.mp ?_
        rw [Search.Results.lastToken?, Option.isSome_map]
        exact List.getLast?_isSome.mpr (hheld hmore)
      obtain ⟨x, hx⟩ : ∃ x, w.exchange (asks a.settings.apiBase a.request (some cursor)) = x :=
        ⟨_, rfl⟩
      have hstep := run_fetchMore hcursor hx
      rw [morePages, hmore, if_pos rfl]
      cases hfound : x.found with
      | error e =>
        rw [hfound] at hstep
        rw [furtherPages_of_error n hmore hcursor hx hfound, run_andThen_error hstep,
          Search.gathered_cons_of_error hfound]
        rfl
      | ok records =>
        rw [hfound] at hstep
        have hagain : (Outcome.ofPage records.length a.settings.pageSize).hasMore = true →
            (showing a records).search.results.records ≠ [] := fun hfull hnil =>
          ne_nil_of_hasMore hsize hfull (List.append_eq_nil_iff.mp hnil).2
        refine (run_andThen_ok hstep _).trans ((ih (a := showing a records) hsize hagain).trans ?_)
        rw [furtherPages_of_ok n hsize hmore hcursor hx hfound,
          Search.gathered_cons_of_ok hfound]
        generalize furtherPages n (showing a records)
          (.ofPage records.length a.settings.pageSize) (w.after [x]).replies = rest
        rw [Program.World.after_cons w x rest]
        cases gathered rest with
        | ok others => simp only [Except.map, showing_append]
        | error e => rfl

/-! ### The first page -/

/-- An application that has searched, with the records that were found. -/
def found (now : Int) (route : Route.Query) (a : App) (records : List Record) : App :=
  let b := a.prepare now route
  { b with
    search := { (b.search.begin b.settings.apiBase b.request).1 with
      results := ⟨records⟩, status := .succeeded, inFlight := none } }

/-- A search in a store that nothing has touched is overtaken by none. -/
theorem run_firstPage {now : Int} {route : Route.Query} {x : Exchange} (hfresh : a.search = {})
    (hx : w.exchange (asks a.settings.apiBase (a.prepare now route).request none) = x) :
    (searched (a.runSearch now route)).run w =
      ((x.found.map fun records =>
        (found now route a records, Outcome.ofPage records.length a.settings.pageSize)).mapError
          Failure.search, w.after [x]) := by
  let b := a.prepare now route
  let store := (b.search.begin b.settings.apiBase b.request).1
  let ticket := (b.search.begin b.settings.apiBase b.request).2
  have hwanted : store.tokens.isCancelled ticket.token = false := by
    have hb : b.search = {} := hfresh
    simp only [store, ticket, hb]
    rfl
  have hfinish : store.finish ticket (w.exchange { url := ticket.url }).reply =
      store.settle ticket x.found := by
    subst hx
    rw [Search.Store.finish, hwanted, if_neg (by nofun)]
    rfl
  have hrun : a.runSearch now route = .fetch { url := ticket.url } fun reply =>
      .done ({ b with search := (store.finish ticket reply).1 },
        (store.finish ticket reply).2) := rfl
  rw [searched, hrun]
  refine (Program.run_fetch _ _ w).trans ?_
  dsimp only [Program.bind]
  subst hx
  cases hfound : (w.exchange (asks a.settings.apiBase (a.prepare now route).request none)).found with
  | ok records =>
    rw [hfound, Search.Store.settle_ok records rfl] at hfinish
    rw [hfinish]
    rfl
  | error e =>
    rw [hfound, Search.Store.settle_error e rfl] at hfinish
    rw [hfinish]
    rfl

/-- A search shows all that its exchanges bring, or fails with their error and shows nothing. -/
theorem run_runSearch {now : Int} {term : String} {routes : List String} {route : Route.Query}
    (pages : Nat) (hroute : routeOf term routes = .ok route) (hfresh : a.search = {})
    (hsize : 0 < a.settings.pageSize) {xs : List Exchange}
    (hxs : dialogue (asks a.settings.apiBase (a.prepare now route).request) a.settings.pageSize
      (max pages 1) none w.replies = xs) :
    (∀ records, gathered xs = .ok records → ∃ b, (runSearch now term routes pages a).run w =
      (.ok b, { w.after xs with output := w.output ++ records.flatMap recordLines })) ∧
    ∀ e, gathered xs = .error e →
      (runSearch now term routes pages a).run w = (.error (.search e), w.after xs) := by
  obtain ⟨x, hx⟩ : ∃ x,
      w.exchange (asks a.settings.apiBase (a.prepare now route).request none) = x := ⟨_, rfl⟩
  have hfirst := run_firstPage hfresh hx
  have hpages : max pages 1 = pages - 1 + 1 := by omega
  rw [hpages] at hxs
  simp only [runSearch, hroute]
  cases hfound : x.found with
  | error e =>
    rw [hfound] at hfirst
    rw [Search.dialogue_not_full hx.symm (Exchange.isFull_of_error hfound)] at hxs
    subst hxs
    rw [Search.gathered_cons_of_error hfound]
    refine ⟨fun records hrecords => ?_, fun e' he => ?_⟩
    · cases hrecords
    · cases he
      exact run_andThen_error (run_andThen_error hfirst _) _
  | ok records =>
    rw [hfound] at hfirst
    have hnext : dialogue (asks a.settings.apiBase (a.prepare now route).request)
        a.settings.pageSize (pages - 1 + 1) none w.replies =
          x :: furtherPages (pages - 1) (found now route a records)
            (.ofPage records.length a.settings.pageSize) (w.after [x]).replies :=
      dialogue_of_ok (a := found now route a records) (pages - 1) hsize hx hfound fun _ => rfl
    have hheld : (Outcome.ofPage records.length a.settings.pageSize).hasMore = true →
        (found now route a records).search.results.records ≠ [] := ne_nil_of_hasMore hsize
    have hmore := run_morePages (a := found now route a records) (w := w.after [x]) (pages - 1)
      hsize hheld
    rw [hxs] at hnext
    subst hnext
    revert hmore
    generalize furtherPages (pages - 1) (found now route a records)
      (.ofPage records.length a.settings.pageSize) (w.after [x]).replies = rest
    intro hmore
    rw [Search.gathered_cons_of_ok hfound, Program.World.after_cons w x rest]
    have hpaged := (run_andThen_ok hfirst (morePages (pages - 1))).trans hmore
    cases hrest : gathered rest with
    | ok others =>
      rw [hrest] at hpaged
      refine ⟨fun records' hrecords => ?_, fun e he => ?_⟩
      · cases hrecords
        refine ⟨showing (found now route a records) others, ?_⟩
        refine (run_andThen_ok hpaged _).trans ?_
        rw [run_printAll]
        rfl
      · cases he
    | error e =>
      rw [hrest] at hpaged
      refine ⟨fun records' hrecords => ?_, fun e' he => ?_⟩
      · cases hrecords
      · cases he
        exact run_andThen_error hpaged _

/-! ### What is asked for and shown -/

/-- The exchanges by which a search asks for so many pages of a server that replies so. -/
structure Paged (base : String) (r : Search.Request) (pages : Nat)
    (replies : List (Http.Request → Http.Reply)) (xs : List Exchange) : Prop where
  /-- Each reply is what the server says to its request. -/
  replied : ∀ (k : Nat) (x : Exchange), xs[k]? = some x →
    x.reply = (replies[k]?.getD Http.Reply.unreachable) x.request
  /-- All requests are one, but for where their pages begin. -/
  asked : ∀ (k : Nat) (x : Exchange), xs[k]? = some x →
    x.request = asks base r (cursorAt none xs k)
  /-- A further page is asked for only after a full one, and if there may be one more. -/
  further : ∀ (k : Nat) (x : Exchange), xs[k]? = some x → k + 1 < xs.length →
    x.isFull r.pageSize = true ∧ k + 1 < max pages 1
  /-- It is asked for in that case, too. -/
  number : xs.length = min (max pages 1) (xs.findIdx (!·.isFull r.pageSize) + 1)

theorem paged_dialogue (base : String) (r : Search.Request) (pages : Nat)
    (replies : List (Http.Request → Http.Reply)) :
    Paged base r pages replies (dialogue (asks base r) r.pageSize (max pages 1) none replies) where
  replied _ _ h := Search.reply_dialogue h
  asked _ _ h := Search.request_dialogue h
  further := by
    intro k x hx hk
    rw [Search.length_dialogue, Nat.lt_min] at hk
    obtain ⟨hpages, hindex⟩ := hk
    obtain ⟨hlength, rfl⟩ := List.getElem?_eq_some_iff.mp hx
    have hfull := List.not_of_lt_findIdx (Nat.lt_of_add_lt_add_right hindex)
    exact ⟨by simpa using hfull, hpages⟩
  number := Search.length_dialogue _ _ _

/-- All requests have the same pairs, but for the token of the last hit before them. -/
theorem Paged.decode {base : String} {r : Search.Request} {pages : Nat}
    {replies : List (Http.Request → Http.Reply)} {xs : List Exchange}
    (h : Paged base r pages replies xs) (hfilters : tokenName ∉ r.filters.keys) :
    ∃ front back, (∀ p ∈ front ++ back, p.1 ≠ tokenName) ∧
      ∀ (k : Nat) (x : Exchange), xs[k]? = some x →
        ∃ query, x.request.url = base ++ "/discovery/search?" ++ query ∧
          Query.decode query =
            some (front ++ tokenPairs (cursorAt none xs k) ++ back) := by
  obtain ⟨front, back, hother, hpairs⟩ := r.pairs_withToken hfilters
  refine ⟨front, back, hother, fun k x hx => ?_⟩
  refine ⟨Search.Request.queryString { r with token := cursorAt none xs k }, ?_, ?_⟩
  · rw [h.asked k x hx]
    rfl
  · rw [Search.Request.decode_queryString, hpairs]

theorem isStandard_prepare (now : Int) (settings : Settings) (saved : SavedState)
    (route : Route.Query) : ((opened now settings saved).prepare now route).facets.IsStandard := by
  have hmade : { Search.Facets.make (Calendar.yearAt now) (.initial (Calendar.yearAt now)) with
      view := saved.view }.IsStandard := Search.Facets.isStandard_make _ saved.view
  exact (hmade.selectContentTypes saved.contentTypes).load route

/-- What a search for so many pages asks for and shows. It fails before it asks for anything if a
route has no equals sign. Otherwise it asks for a first page, and for a further one after each page
with just as many hits as a page is to have, until there are as many pages as are wanted. All
requests have the pairs of the first, and each further one has the token of the last hit before it,
unless that is empty. If all replies are lists of hits, the record of each hit is listed in their
order, and nothing can fail any more but the file of the saved state. If one is not, the search fails
with what is wrong with that reply, and shows nothing. -/
theorem search_pages {now : Int} {env : Variables.Env} (term : String) (routes : List String)
    (pages : Nat) (w : World) {settings : Settings} {saved : SavedState}
    (hsettings : Settings.read env = .ok settings)
    (hload : ((SavedState.load (Calendar.yearAt now) settings.statePath).run w).1 = .ok saved) :
    let ended := (run now env (.search term routes pages)).run w
    ((∃ route, routeOf term routes = .ok route) ↔ ∀ text ∈ routes, '=' ∈ text.toList) ∧
    (∀ failure, routeOf term routes = .error failure → ended = (.error failure, w)) ∧
    ∀ route, routeOf term routes = .ok route → ∃ xs : List Exchange,
      Paged settings.apiBase ((opened now settings saved).prepare now route).request pages
        w.replies xs ∧
      ended.2.requests = w.requests ++ xs.map Exchange.request ∧
      (∃ front back, (∀ p ∈ front ++ back, p.1 ≠ tokenName) ∧
        ∀ (k : Nat) (x : Exchange), xs[k]? = some x →
          ∃ query, x.request.url = settings.apiBase ++ "/discovery/search?" ++ query ∧
            Query.decode query =
              some (front ++ tokenPairs (cursorAt none xs k) ++ back)) ∧
      (∀ hits : List (List Json), xs.map Exchange.hits? = hits.map some →
        (∃ listings, List.Forall₂ (fun hit => Listed (.ofHit hit)) hits.flatten listings ∧
          ended.2.output = w.output ++ listings.flatten) ∧
        ∀ failure, ended.1 = .error failure → ∃ e, failure = .file e) ∧
      ∀ x ∈ xs, x.hits? = none →
        ∃ e, x.found = .error e ∧ ended.1 = .error (.search e) ∧ ended.2.output = w.output := by
  intro ended
  refine ⟨exists_routeOf_iff term routes, fun failure hfailure => ?_, fun route hroute => ?_⟩
  · have hexecute : (execute now (.search term routes pages) (opened now settings saved)).run w =
        (.error failure, w) := by
      rw [execute, runSearch, hfailure]
      rfl
    exact (run_of_load hsettings hload).trans (run_andThen_error hexecute _)
  · obtain ⟨xs, hxs⟩ : ∃ xs, dialogue (asks settings.apiBase
        ((opened now settings saved).prepare now route).request) settings.pageSize (max pages 1)
          none w.replies = xs := ⟨_, rfl⟩
    have hpaged : Paged settings.apiBase ((opened now settings saved).prepare now route).request
        pages w.replies xs := hxs ▸ paged_dialogue _ _ _ _
    have hdecode := hpaged.decode
      ((isStandard_prepare now settings saved route).token_not_mem settings.pageSize)
    obtain ⟨hok, herror⟩ := run_runSearch (a := opened now settings saved) pages hroute rfl
      (Settings.pageSize_pos hsettings) hxs
    have hfails : ∀ x ∈ xs, ∀ e, x.found = .error e → gathered xs = .error e := by
      intro x hx e he
      subst hxs
      exact Search.gathered_of_error hx he
    refine ⟨xs, hpaged, ?_⟩
    cases hgathered : gathered xs with
    | ok records =>
      obtain ⟨b, hrun⟩ := hok records hgathered
      obtain ⟨files, hfiles⟩ := SavedState.run_save_snd settings.statePath b.snapshot
        { w.after xs with output := w.output ++ records.flatMap recordLines }
      have hended : ended = (ofFile (SavedState.save settings.statePath b.snapshot)).run
          { w.after xs with output := w.output ++ records.flatMap recordLines } :=
        (run_of_load hsettings hload).trans (run_andThen_ok hrun _)
      have hworld : ended.2 =
          { w.after xs with output := w.output ++ records.flatMap recordLines, files } := by
        rw [hended, run_ofFile, hfiles]
      rw [hworld]
      refine ⟨rfl, hdecode, fun hits hhits => ⟨?_, fun failure hfailure => ?_⟩,
        fun x hx hnone => ?_⟩
      · rw [Search.gathered_of_hits hhits] at hgathered
        cases hgathered
        refine ⟨_, forall₂_listed.mpr rfl, ?_⟩
        rw [List.flatMap_def, List.map_map]
        rfl
      · rw [hended] at hfailure
        exact exists_of_ofFile hfailure
      · obtain ⟨e, he⟩ := x.exists_error hnone
        rw [hfails x hx e he] at hgathered
        cases hgathered
    | error e =>
      have hended : ended = (.error (.search e), w.after xs) :=
        (run_of_load hsettings hload).trans (run_andThen_error (herror e hgathered) _)
      rw [hended]
      refine ⟨rfl, hdecode, fun hits hhits => ?_, fun x hx hnone => ?_⟩
      · rw [Search.gathered_of_hits hhits] at hgathered
        cases hgathered
      · obtain ⟨e', he⟩ := x.exists_error hnone
        obtain rfl : e = e' := Except.error.inj (hgathered.symm.trans (hfails x hx e' he))
        exact ⟨e, he, rfl, rfl⟩

/-- An environment in which a page has one result. -/
def onePerPage : Variables.Env := fun name =>
  if name = "DISCOVERY_PAGE_SIZE" then some "1" else none

/-- The reply with a record, and the one that follows it. -/
def foundOne : Http.Reply := .response ⟨200,
  "[\x7b\"document\": [\x7b\"name\": \"Rain\", \"url\": \"https://data.test/1\", " ++
    "\"dateCreated\": \"2019-05-01\", \"creator\": [\"Ada\", \"Bo\"]\x7d], " ++
      "\"paginationToken\": \"a=b\"\x7d]"⟩
def foundNone : Http.Reply := .response ⟨200, "[]"⟩

/-- A server that finds one record and then no more. -/
def oneFound : World where
  replies := [fun _ => foundOne, fun _ => foundNone]

/-- Of the three pages that are wanted the third is not asked for, since the second is not full. -/
theorem two_of_three_pages :
    let ended := (run 0 onePerPage (.search "rain" ["a=public"] 3)).run oneFound
    Settings.read onePerPage = .ok { standard with pageSize := 1 } ∧
    ended.2.requests.length = 2 ∧
    ended.2.output = ["2019  Rain  https://data.test/1", "      Ada; Bo"] := by
  have hsettings : Settings.read onePerPage = .ok { standard with pageSize := 1 } := by
    decide +kernel
  have hroute : routeOf "rain" ["a=public"] =
      .ok (Route.ofPairs [("q", "rain"), ("a", "public")]) := by
    decide +kernel
  obtain ⟨-, -, hpages⟩ := search_pages "rain" ["a=public"] 3 oneFound hsettings
    (load_standard rfl)
  obtain ⟨xs, hpaged, hrequests, -, hshown, -⟩ := hpages _ hroute
  have hlisted : (Search.hitsIn foundOne).map (·.map fun hit => recordLines (.ofHit hit)) =
      some [["2019  Rain  https://data.test/1", "      Ada; Bo"]] := by
    decide +kernel
  obtain ⟨hits, hhits, hlines⟩ := Option.map_eq_some_iff.mp hlisted
  have hfirst : ∀ x, xs[0]? = some x → x.hits? = some hits := by
    intro x hx
    rw [Exchange.hits?, hpaged.replied 0 x hx]
    exact hhits
  have hsecond : ∀ x, xs[1]? = some x → x.hits? = some [] := by
    intro x hx
    rw [Exchange.hits?, hpaged.replied 1 x hx]
    show Search.hitsIn foundNone = some []
    rfl
  have hsize : hits.length = 1 := by
    rw [← List.length_map, hlines]
    rfl
  have hnumber : xs.length = min 3 (xs.findIdx (!·.isFull 1) + 1) := hpaged.number
  rcases xs with _ | ⟨x, _ | ⟨y, _ | ⟨z, rest⟩⟩⟩
  · simp at hnumber
  · have hfull : x.isFull 1 = true := by rw [Exchange.isFull, hfirst x rfl]; simp [hsize]
    simp [List.findIdx_cons, hfull] at hnumber
  · obtain ⟨⟨listings, hlistings, houtput⟩, -⟩ := hshown [hits, []] (by
      rw [List.map_cons, List.map_cons, hfirst x rfl, hsecond y rfl]
      rfl)
    rw [forall₂_listed, List.flatten_cons, List.flatten_cons, List.flatten_nil,
      List.append_nil, List.append_nil, hlines] at hlistings
    rw [← hlistings] at houtput
    refine ⟨hsettings, ?_, houtput⟩
    rw [hrequests]
    rfl
  · have hfull := (hpaged.further 1 y rfl (by simp)).1
    rw [Exchange.isFull, hsecond y rfl] at hfull
    cases hfull

end Command
end DatasetSearch
