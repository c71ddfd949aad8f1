import DatasetSearch.Proofs.Query.RoundTrip
import DatasetSearch.Proofs.Search.Moves
import DatasetSearch.Proofs.Search.Standard

/-! What a call for more records asks for.

A token adds one pair to the query string of a request and leaves all other pairs where they stand
(`decode_queryString`); the empty token adds none, since an empty text is not written. So a call for
more asks for what follows the last record shown exactly when that record has a token that is not
empty. After a record without one it asks for the first page again (`asksForNext_iff`). -/
namespace DatasetSearch.Search
open Query (decode)

/-- The name under which a request has its token. -/
def tokenName : String := "paginationToken"

/-- The pairs that a token adds to a query string. -/
def tokenPairs : Option String → List (String × String)
  | some t => if t = "" then [] else [(tokenName, t)]
  | none => []

/-! ### The pair of a token -/

namespace Request

/-- The request's own parameters before its token. -/
def start (r : Request) : List (String × Query.Value) := r.core.dropLast

theorem core_withToken (r : Request) (token : Option String) :
    { r with token }.core = r.start ++ [(tokenName, .ofOption token)] := by
  rw [start, core, core]
  split <;> rfl

theorem items_core (r : Request) : (Keyed.ofList r.core : Query.Params).items = r.core :=
  Keyed.items_ofList ((Facets.keys_core r).nodup (by decide))

theorem filterMap_token (token : Option String) (rest : List (String × Query.Value)) :
    ((tokenName, .ofOption token) :: rest).filterMap Query.scalarPair? =
      tokenPairs token ++ rest.filterMap Query.scalarPair? := by
  cases token with
  | none => rfl
  | some t =>
    by_cases ht : t = "" <;>
      simp [Query.scalarPair?, Query.Value.ofOption, Query.Value.isFalsy, Query.Value.scalarText?,
        tokenPairs, ht]

theorem listPairs_token (token : Option String) :
    Query.listPairs (tokenName, .ofOption token) = [] := by
  cases token <;> rfl

/-- Where the filters leave the token's parameter alone, the token adds its pair and changes
nothing else. -/
theorem pairs_withToken (r : Request) (h : tokenName ∉ r.filters.keys) :
    ∃ before after, (∀ p ∈ before ++ after, p.1 ≠ tokenName) ∧
      ∀ token, Query.pairs { r with token }.params = before ++ tokenPairs token ++ after := by
  obtain ⟨front, back, hitems⟩ := Keyed.exists_items_putAll h r.start []
  have hparams : ∀ token : Option String,
      { r with token }.params.items = front ++ (tokenName, .ofOption token) :: back := by
    intro token
    refine hitems _ _ rfl ?_
    rw [items_core, core_withToken]
  have hdistinct := { r with token := none }.params.distinct
  rw [hparams none, List.map_append, List.map_cons, List.nodup_append] at hdistinct
  obtain ⟨-, hback, hfront⟩ := hdistinct
  have hother : ∀ x ∈ front ++ back, x.1 ≠ tokenName := by
    intro x hx
    rcases List.mem_append.mp hx with hx | hx
    · exact hfront x.1 (List.mem_map_of_mem hx) tokenName (List.mem_cons_self ..)
    · exact fun he => (List.nodup_cons.mp hback).1 (List.mem_map.mpr ⟨x, hx, he⟩)
  refine ⟨front.filterMap Query.scalarPair?, back.filterMap Query.scalarPair? ++
    (front ++ back).flatMap Query.listPairs, ?_, fun token => ?_⟩
  · intro p hp
    rw [← List.append_assoc, ← List.filterMap_append] at hp
    rcases List.mem_append.mp hp with hp | hp
    · obtain ⟨x, hx, hpair⟩ := List.mem_filterMap.mp hp
      rw [Query.fst_of_scalarPair? hpair]
      exact hother x hx
    · obtain ⟨x, hx, hpair⟩ := List.mem_flatMap.mp hp
      rw [Query.fst_of_mem_listPairs hpair]
      exact hother x hx
  · rw [Query.pairs, hparams token]
    simp only [List.filterMap_append, List.flatMap_append, List.flatMap_cons, filterMap_token,
      listPairs_token, List.nil_append, List.append_assoc]

theorem decode_queryString (r : Request) : decode r.queryString = some (Query.pairs r.params) :=
  Query.decode_encodePairs _

end Request

/-- The standard filters leave the token's parameter alone. -/
theorem Facets.IsStandard.token_not_mem {f : Facets} (h : f.IsStandard) (pageSize : Nat) :
    tokenName ∉ (f.request pageSize).filters.keys := by
  obtain ⟨-, hnames, hapart⟩ := List.nodup_append.mp Facets.nodup_names
  have hitems : f.params.items = f.filters.flatMap (·.params rangeCells f.view) :=
    Keyed.items_ofList ((Facets.keys_params h).nodup hnames)
  intro hmem
  have hkey : tokenName ∈ (f.filters.flatMap (·.params rangeCells f.view)).map Prod.fst :=
    hitems ▸ hmem
  exact hapart tokenName (by decide) tokenName ((Facets.keys_params h).subset hkey) rfl

/-! ### Calls for more -/

/-- A call for more that is begun on a store asks for what follows the last record shown: its
address has the token of that record, once. -/
def Store.AsksForNext (base : String) (r : Request) (s : Store) : Prop :=
  ∃ c query ps record, s.beginMore base r = some c ∧
    c.url = base ++ "/discovery/search?" ++ query ∧ decode query = some ps ∧
    s.results.records.getLast? = some record ∧
    ps.filter (·.1 = tokenName) = [(tokenName, record.token)]

theorem tokenPairs_of_ne {t : String} (h : t ≠ "") : tokenPairs (some t) = [(tokenName, t)] :=
  if_neg h

theorem tokenPairs_eq_nil_iff {t : String} : tokenPairs (some t) = [] ↔ t = "" := by
  by_cases h : t = "" <;> simp [tokenPairs, h]

theorem filter_tokenPairs {before after : List (String × String)}
    (h : ∀ p ∈ before ++ after, p.1 ≠ tokenName) (token : Option String) :
    (before ++ tokenPairs token ++ after).filter (·.1 = tokenName) = tokenPairs token := by
  have hnone : ∀ ps : List (String × String), (∀ p ∈ ps, p.1 ≠ tokenName) →
      ps.filter (·.1 = tokenName) = [] := fun ps hps =>
    List.filter_eq_nil_iff.mpr fun p hp => by simpa using hps p hp
  have htoken : (tokenPairs token).filter (·.1 = tokenName) = tokenPairs token := by
    cases token with
    | none => rfl
    | some t => by_cases ht : t = "" <;> simp [tokenPairs, ht]
  rw [List.filter_append, List.filter_append, htoken,
    hnone before fun p hp => h p (List.mem_append_left _ hp),
    hnone after fun p hp => h p (List.mem_append_right _ hp), List.nil_append, List.append_nil]

namespace Store
variable {base : String} {r : Request} {s : Store} {record : Record}

theorem beginMore_eq (hlast : s.results.records.getLast? = some record) :
    s.beginMore base r = some
      { generation := s.generation
        cursor := record.token
        url := searchUrl base { r with token := some record.token }
        pageSize := r.pageSize } := by
  rw [beginMore, Results.lastToken?, hlast]
  rfl

theorem asksForNext_iff (h : tokenName ∉ r.filters.keys)
    (hlast : s.results.records.getLast? = some record) :
    s.AsksForNext base r ↔ record.token ≠ "" := by
  obtain ⟨before, after, hother, hpairs⟩ := r.pairs_withToken h
  have hfilter := filter_tokenPairs hother (some record.token)
  rw [← hpairs] at hfilter
  constructor
  · rintro ⟨c, query, ps, last, hbegin, hurl, hps, hlast', hpair⟩ hempty
    obtain rfl : record = last := Option.some.inj (hlast.symm.trans hlast')
    obtain rfl := Option.some.inj ((beginMore_eq hlast).symm.trans hbegin)
    obtain rfl : _ = query := (String.append_right_inj _).mp hurl
    obtain rfl := Option.some.inj ((Request.decode_queryString _).symm.trans hps)
    rw [hfilter, tokenPairs_eq_nil_iff.mpr hempty] at hpair
    cases hpair
  · intro hne
    exact ⟨_, _, _, record, beginMore_eq hlast, rfl, Request.decode_queryString _, hlast,
      hfilter.trans (tokenPairs_of_ne hne)⟩

/-- Only the empty token makes the address of the first page. -/
theorem searchUrl_eq_iff (h : tokenName ∉ r.filters.keys) (t : String) :
    searchUrl base { r with token := some t } = searchUrl base { r with token := none } ↔
      t = "" := by
  obtain ⟨before, after, -, hpairs⟩ := r.pairs_withToken h
  have hquery : ∀ token, { r with token }.queryString =
      Query.encodePairs (before ++ tokenPairs token ++ after) := fun token =>
    congrArg Query.encodePairs (hpairs token)
  constructor
  · intro hurl
    have hsame := congrArg decode ((String.append_right_inj _).mp hurl)
    rw [hquery, hquery, Query.decode_encodePairs, Query.decode_encodePairs] at hsame
    have hlength := congrArg List.length (Option.some.inj hsame)
    refine tokenPairs_eq_nil_iff.mp (List.length_eq_zero_iff.mp ?_)
    simpa [tokenPairs] using hlength
  · rintro rfl
    rw [searchUrl, searchUrl, hquery, hquery]
    rfl

/-- The tokens that are not empty are the texts that hits have for one. -/
theorem token_ofHit_eq_iff (hit : Json) {t : String} (ht : t ≠ "") :
    (Record.ofHit hit).token = t ↔ hit.member? tokenName = some (.text t) := by
  have htoken : (Record.ofHit hit).token = ((hit.member? tokenName).bind Json.asText?).getD "" := rfl
  rw [htoken]
  cases hit.member? tokenName with
  | none => simpa using Ne.symm ht
  | some x => cases x <;> simp [Json.asText?, Ne.symm ht]

/-- What a call for more asks for. With records shown there is such a call. It asks for what
follows the last record exactly when that record has a token that is not empty, which is when the
record's hit has such a text for one. Otherwise its address is the one of the first page. -/
theorem more_asks_for_next_iff (base : String) (s : Store) {r : Request}
    (h : tokenName ∉ r.filters.keys) {record : Record}
    (hlast : s.results.records.getLast? = some record) :
    (∃ c, s.beginMore base r = some c) ∧
    (s.AsksForNext base r ↔ record.token ≠ "") ∧
    (∀ c, s.beginMore base r = some c →
      (c.url = searchUrl base { r with token := none } ↔ record.token = "")) ∧
    ∀ hit, Record.ofHit hit = record → ∀ t, t ≠ "" →
      (record.token = t ↔ hit.member? "paginationToken" = some (.text t)) := by
  refine ⟨⟨_, beginMore_eq hlast⟩, asksForNext_iff h hlast, fun c hc => ?_, ?_⟩
  · obtain rfl := Option.some.inj ((beginMore_eq hlast).symm.trans hc)
    exact searchUrl_eq_iff h record.token
  · rintro hit rfl t ht
    exact token_ofHit_eq_iff hit ht

/-- A store that shows one record, which has a token. -/
def tokened : Store := { results := ⟨[{ id := "rain-1", token := "a=b&c" }]⟩ }

/-- A request whose filters have a parameter. -/
def aboutRain : Request := { filters := .ofList [("subject", .text "rain & snow")] }

theorem tokened_asks_for_next :
    tokenName ∉ aboutRain.filters.keys ∧ tokened.AsksForNext "http://server/api" aboutRain := by
  have hfilters : tokenName ∉ aboutRain.filters.keys := by decide
  have hasks := more_asks_for_next_iff "http://server/api" tokened hfilters rfl
  exact ⟨hfilters, hasks.2.1.mpr (by decide)⟩

end Store

namespace Run

/-- The reply to a search: one hit, without a token. -/
def untokened : Http.Reply := .response ⟨200, "[\x7b\"document\":[\x7b\"_id\":\"rain-1\"\x7d]\x7d]"⟩

/-- A search and a call for more, to both of which the server says the same. -/
def pageTwice : Run where
  base := "http://server/api"
  moves := [.search { term := "rain", pageSize := 1 }, .reply 0 untokened,
    .fetchMore { term := "rain", pageSize := 1 }, .reply 2 untokened]

/-- After a record without a token a call for more asks for the first page again, and puts it
under itself. -/
theorem page_asked_twice :
    ¬(pageTwice.storeAt 2).AsksForNext pageTwice.base { term := "rain", pageSize := 1 } ∧
      ((Desk.run pageTwice.base {} pageTwice.events).2.requests.map Http.Request.url =
        ["http://server/api/discovery/search?term=rain&pageSize=1",
          "http://server/api/discovery/search?term=rain&pageSize=1"]) ∧
      (pageTwice.recordsAt 4).map Record.id = ["rain-1", "rain-1"] := by
  refine ⟨?_, by decide +kernel, by decide +kernel⟩
  have htoken : (pageTwice.storeAt 2).results.lastToken? = some "" := by decide +kernel
  obtain ⟨record, hlast, hempty⟩ := Option.map_eq_some_iff.mp htoken
  exact fun h => (Store.asksForNext_iff (by decide) hlast).mp h hempty

end Run
end DatasetSearch.Search
