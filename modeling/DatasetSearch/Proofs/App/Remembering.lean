import DatasetSearch.Proofs.App.Reached
import DatasetSearch.Proofs.Search.Carried

/-! What a search writes into the history.

The texts that a search asks for stand in its request. Those that it remembers are these and, since
a text counts as in use whether its filter is on or off, the texts of filters that are off
(`mem_said_iff`). So the history follows the request in every case just when each text of a filter
that is off is also asked for as something that is remembered later
(`search_remembers_request_iff`). -/
namespace DatasetSearch

namespace App
open Program (World)
open Query (decode)
open Search (Facets Request searchUrl textPairs wholePairs boundsPairs sortPairs)

/-! ### Texts that are asked for -/

/-- The parameters of a request that are remembered, and as what. -/
def rememberedParams : List (String × HistoryKind) :=
  [("term", .term), ("creatorName", .creator), ("subject", .subject), ("fundingFunderName", .funder)]

/-- What a pair of a request is to be remembered as, if it is. -/
def remembered? (p : String × String) : Option (String × HistoryKind) :=
  (rememberedParams.lookup p.1).map (p.2, ·)

/-- The texts of a request that are to be remembered, and as what. -/
def askedTexts (r : Request) : List (String × HistoryKind) :=
  ((decode r.queryString).getD []).filterMap remembered?

/-- A text that is not empty, as something, where a condition holds. -/
def noted (b : Bool) (text : String) (kind : HistoryKind) : List (String × HistoryKind) :=
  if b && text ≠ "" then [(text, kind)] else []

/-- The texts of the filters that are off. -/
def offTexts (f : Facets) : List (String × HistoryKind) :=
  rememberedFilters.flatMap fun (label, kind) => noted (!f.isOn label) (f.textOf label) kind

/-- The term and the texts of the filters, be they on or off. -/
def saidTexts (f : Facets) : List (String × HistoryKind) :=
  noted true f.term .term ++
    rememberedFilters.flatMap fun (label, kind) => noted true (f.textOf label) kind

variable {f : Facets} {name label : String} {kind : HistoryKind} {p : String × HistoryKind}

theorem mem_noted {b : Bool} {text : String} :
    p ∈ noted b text kind ↔ b = true ∧ text ≠ "" ∧ p = (text, kind) := by
  rw [noted]
  split
  · next h => simp_all
  · next h => simp_all

/-- A parameter that is remembered as nothing. -/
abbrev Unremembered (name : String) : Prop := name ∉ rememberedParams.map Prod.fst

theorem remembered?_eq_none (h : Unremembered name) (text : String) :
    remembered? (name, text) = none := by
  rw [remembered?, lookup_eq_none_of_not_mem h]
  rfl

theorem filterMap_textPairs (h : rememberedParams.lookup name = some kind) (text : String) :
    (textPairs name text).filterMap remembered? = noted true text kind := by
  rw [textPairs, noted]
  split
  · next htext => simp [htext]
  · next htext => simp [htext, remembered?, h]

theorem filterMap_wholePairs (h : Unremembered name) (n : Int) :
    (wholePairs name n).filterMap remembered? = [] := by
  rw [wholePairs]
  split
  · rfl
  · rw [List.filterMap_cons_none (remembered?_eq_none h _)]
    rfl

theorem filterMap_sortPairs (key : Search.SortKey) (direction : Search.Direction) :
    (sortPairs key direction).filterMap remembered? = [] := by
  cases key <;> cases direction <;> rfl

theorem filterMap_textFilter (h : rememberedParams.lookup name = some kind) (label : String) :
    (if f.isOn label then textPairs name (f.textOf label) else []).filterMap remembered? =
      noted (f.isOn label) (f.textOf label) kind := by
  cases f.isOn label with
  | true => exact filterMap_textPairs h _
  | false => rfl

theorem filterMap_carriedTexts : f.carriedTexts.filterMap remembered? =
    noted (f.isOn "an") (f.textOf "an") .creator ++
      (noted (f.isOn "f") (f.textOf "f") .funder ++ noted (f.isOn "sj") (f.textOf "sj") .subject) := by
  have hcreator : rememberedParams.lookup "creatorName" = some .creator := rfl
  have hfunder : rememberedParams.lookup "fundingFunderName" = some .funder := rfl
  have hsubject : rememberedParams.lookup "subject" = some .subject := rfl
  have howner : (if f.isOn "on" then textPairs "ownerName" (f.textOf "on") else []).filterMap
      remembered? = [] := by
    rw [textPairs]
    split
    · split <;> rfl
    · rfl
  simp only [Facets.carriedTexts, List.flatMap_cons, List.flatMap_nil, List.filterMap_append, howner,
    filterMap_textFilter hcreator, filterMap_textFilter hfunder, filterMap_textFilter hsubject,
    List.append_nil, List.nil_append]

theorem filterMap_carriedYears : f.carriedYears.filterMap remembered? = [] := by
  have hnames : ∀ name ∈ ["creationDate", "publicationYear", "dataCoverage"],
      Unremembered (name ++ "Start") ∧ Unremembered (name ++ "End") := by decide
  rw [Facets.carriedYears, List.filterMap_flatMap, List.flatMap_eq_nil_iff]
  rintro ⟨name, label, bounds⟩ hmem
  obtain ⟨hlow, hhigh⟩ := hnames name (List.mem_map_of_mem (f := Prod.fst) hmem)
  dsimp only
  split
  · rw [boundsPairs, List.filterMap_append, filterMap_wholePairs hlow, filterMap_wholePairs hhigh]
    rfl
  · rfl

theorem filterMap_carriedItems : f.carriedItems.filterMap remembered? = [] := by
  have hnames : ∀ name ∈ ["contentType", "availability"], Unremembered name := by decide
  rw [Facets.carriedItems, List.filterMap_flatMap, List.flatMap_eq_nil_iff]
  rintro ⟨name, label⟩ hmem
  have hname := hnames name (List.mem_map_of_mem (f := Prod.fst) hmem)
  dsimp only
  split
  · rw [List.filterMap_map, List.filterMap_eq_nil_iff]
    exact fun text _ => remembered?_eq_none hname text
  · rfl

/-- A request asks for the term and for the texts of the filters that are on. -/
theorem askedTexts_request (h : f.IsStandard) (pageSize : Nat) :
    askedTexts (f.request pageSize) = noted true f.term .term ++
      (noted (f.isOn "an") (f.textOf "an") .creator ++
        (noted (f.isOn "f") (f.textOf "f") .funder ++
          noted (f.isOn "sj") (f.textOf "sj") .subject)) := by
  have hdecode : decode (f.request pageSize).queryString = some _ :=
    Facets.decode_request h pageSize none
  have hpage : Unremembered "pageSize" := by decide
  have hterm : rememberedParams.lookup "term" = some .term := rfl
  have htoken : (Search.tokenPairs none).filterMap remembered? = [] := rfl
  rw [askedTexts, hdecode, Option.getD_some]
  simp only [List.filterMap_append, filterMap_textPairs hterm, filterMap_sortPairs,
    filterMap_wholePairs hpage, htoken, filterMap_carriedTexts, filterMap_carriedYears,
    filterMap_carriedItems, List.append_nil]

theorem mem_noted_true (b : Bool) (text : String) (kind : HistoryKind) :
    p ∈ noted true text kind ↔ p ∈ noted b text kind ∨ p ∈ noted (!b) text kind := by
  cases b <;> simp [mem_noted]

/-- What is remembered is what is asked for and what filters that are off hold. -/
theorem mem_saidTexts_iff (h : f.IsStandard) (pageSize : Nat) :
    p ∈ saidTexts f ↔ p ∈ askedTexts (f.request pageSize) ++ offTexts f := by
  rw [askedTexts_request h, offTexts, saidTexts, rememberedFilters]
  simp only [List.flatMap_cons, List.flatMap_nil, List.append_nil, List.mem_append]
  rw [mem_noted_true (f.isOn "an") (f.textOf "an"), mem_noted_true (f.isOn "sj") (f.textOf "sj"),
    mem_noted_true (f.isOn "f") (f.textOf "f")]
  tauto

/-- No text is asked for as the same as what a filter that is off holds it as. -/
theorem not_mem_offTexts (h : f.IsStandard) (pageSize : Nat)
    (hasked : p ∈ askedTexts (f.request pageSize)) : p ∉ offTexts f := by
  rw [askedTexts_request h] at hasked
  rw [offTexts, rememberedFilters]
  simp only [List.flatMap_cons, List.flatMap_nil, List.append_nil, List.mem_append, mem_noted] at *
  grind

/-! ### Texts that are remembered -/

/-- On a standard page the text of a filter counts as in use unless it is empty. -/
theorem activeText?_eq (h : f.IsStandard) (hmem : (label, kind) ∈ rememberedFilters) :
    activeText? f label = if f.textOf label = "" then none else some (f.textOf label) := by
  have hframes : ∀ p ∈ rememberedFilters, ∃ fr ∈ Facets.frames, fr.label = p.1 ∧ fr.kind = .text := by
    decide
  obtain ⟨fr, hfr, rfl, hkind⟩ := hframes _ hmem
  obtain ⟨x, t, hx, rfl, ht, htext⟩ := h.exists_text hfr hkind
  have hxkind : x.kind = .text := hkind
  have hactive : f.isActive x = (FilterValue.text t).isTruthy := by
    rw [← ht, Facets.isActive, Filter.isActive, hxkind]
    rfl
  simp only [activeText?, hx, hactive, ht, htext]
  cases t with
  | none => rfl
  | some s => by_cases hs : s = "" <;> simp [hs, FilterValue.isTruthy]

theorem filterMap_activeText? (h : f.IsStandard) :
    rememberedFilters.filterMap (fun p => (activeText? f p.1).map (·, p.2)) =
      rememberedFilters.flatMap fun p => noted true (f.textOf p.1) p.2 := by
  rw [List.filterMap_eq_flatMap_toList]
  refine List.flatMap_congr fun p hp => ?_
  rw [activeText?_eq h hp]
  by_cases htext : f.textOf p.1 = "" <;> simp [noted, htext]

/-- The texts of a search that are not empty. -/
theorem filter_searchedTexts (h : f.IsStandard) :
    (searchedTexts f).filter (·.1 ≠ "") = saidTexts f := by
  have hrest : (rememberedFilters.flatMap fun p => noted true (f.textOf p.1) p.2).filter (·.1 ≠ "") =
      rememberedFilters.flatMap fun p => noted true (f.textOf p.1) p.2 := by
    refine List.filter_eq_self.mpr fun p hp => ?_
    obtain ⟨_, _, hp⟩ := List.mem_flatMap.mp hp
    obtain ⟨-, hne, rfl⟩ := mem_noted.mp hp
    exact decide_eq_true hne
  rw [searchedTexts, filterMap_activeText? h, List.filter_cons, hrest, saidTexts]
  by_cases hterm : f.term = "" <;> simp [noted, hterm]

/-! ### The entry of a text -/

/-- The kinds of what is remembered of a search, in the order in which it is remembered. -/
def searchedKinds : List HistoryKind := [.term, .creator, .subject, .funder]

/-- As what a text is among texts: the last kind that it has there. -/
def kindOf? (texts : List (String × HistoryKind)) (t : String) : Option HistoryKind :=
  searchedKinds.reverse.find? fun kind => (t, kind) ∈ texts

/-- The entry of a text once texts were remembered: the entry that it had, unless it is among them. -/
def entryAfter (texts : List (String × HistoryKind)) (now : Int) (h : History) (t : String) :
    Option HistoryEntry :=
  ((kindOf? texts t).map fun kind => ⟨t, now, kind⟩).or (h.find? t)

theorem kinds_noted (b : Bool) (text : String) (kind : HistoryKind) :
    ((noted b text kind).map Prod.snd).Sublist [kind] := by
  rw [noted]
  split
  · exact .refl _
  · exact List.nil_sublist _

theorem kinds_saidTexts (f : Facets) : ((saidTexts f).map Prod.snd).Sublist searchedKinds := by
  rw [saidTexts, rememberedFilters]
  simp only [List.flatMap_cons, List.flatMap_nil, List.append_nil, List.map_append]
  exact (kinds_noted ..).append ((kinds_noted ..).append ((kinds_noted ..).append (kinds_noted ..)))

theorem foldl_log (texts : List (String × HistoryKind)) (now : Int) (history : History) :
    texts.foldl (fun h p => h.log p.1 p.2 now) history =
      history.putAll ((texts.filter (·.1 ≠ "")).map fun p => ⟨p.1, now, p.2⟩) := by
  induction texts generalizing history with
  | nil => rfl
  | cons p rest ih =>
    rw [List.foldl_cons, ih, History.log]
    by_cases hp : p.1 = ""
    · simp [hp]
    · simp [hp, Keyed.putAll_cons]

theorem remember_eq (h : f.IsStandard) (now : Int) (history : History) :
    remember f now history = history.putAll ((saidTexts f).map fun p => ⟨p.1, now, p.2⟩) := by
  rw [remember, foldl_log, filter_searchedTexts h]

/-- The last entry that is written for a text is that of its last kind. -/
theorem getLast?_saidTexts (f : Facets) (t : String) :
    ((saidTexts f).filter (·.1 == t)).getLast? = (kindOf? (saidTexts f) t).map (t, ·) := by
  have hkinds : ((saidTexts f).reverse.map Prod.snd).Sublist searchedKinds.reverse := by
    rw [List.map_reverse]
    exact (kinds_saidTexts f).reverse
  rw [getLast?_filter, find?_fst_eq (by decide) hkinds, kindOf?]
  simp only [List.mem_reverse]

theorem find?_remember (h : f.IsStandard) (pageSize : Nat) (now : Int) (history : History) (t : String) :
    (remember f now history).find? t =
      entryAfter (askedTexts (f.request pageSize) ++ offTexts f) now history t := by
  have hkind : kindOf? (saidTexts f) t =
      kindOf? (askedTexts (f.request pageSize) ++ offTexts f) t := by
    simp only [kindOf?, mem_saidTexts_iff h pageSize]
  rw [remember_eq h, Keyed.find?_putAll, List.filter_map, List.getLast?_map, entryAfter, ← hkind]
  have hlast := getLast?_saidTexts f t
  refine congrArg (Option.or · _) ?_
  exact (congrArg (Option.map _) hlast).trans (Option.map_map ..)

/-! ### Where filters that are off do not matter -/

theorem kind_mem_of_off (hp : p ∈ offTexts f) : p.2 ∈ searchedKinds := by
  have hkinds : ∀ q ∈ rememberedFilters, q.2 ∈ searchedKinds := by decide
  obtain ⟨q, hq, hp⟩ := List.mem_flatMap.mp hp
  obtain ⟨-, -, rfl⟩ := mem_noted.mp hp
  exact hkinds q hq

/-- Texts of filters that are off leave the kind of a text just when it is asked for as something
later. -/
theorem kindOf?_append_eq_iff (h : f.IsStandard) (pageSize : Nat) (t : String) :
    kindOf? (askedTexts (f.request pageSize) ++ offTexts f) t =
        kindOf? (askedTexts (f.request pageSize)) t ↔
      ∀ kind, (t, kind) ∈ offTexts f → ∃ later, (t, later) ∈ askedTexts (f.request pageSize) ∧
        [kind, later].Sublist searchedKinds := by
  have hiff := find?_or_eq_iff (p := fun kind => (t, kind) ∈ askedTexts (f.request pageSize))
    (q := fun kind => (t, kind) ∈ offTexts f) (l := searchedKinds.reverse) (by decide)
    fun kind hasked => decide_eq_false (not_mem_offTexts h pageSize (of_decide_eq_true hasked))
  have hreverse : ∀ kind later, [later, kind].Sublist searchedKinds.reverse ↔
      [kind, later].Sublist searchedKinds := fun kind later =>
    @List.reverse_sublist _ [kind, later] searchedKinds
  simp only [kindOf?, List.mem_append, Bool.decide_or, hiff, hreverse, decide_eq_true_eq,
    List.mem_reverse]
  exact ⟨fun hall kind hkind => hall kind (kind_mem_of_off hkind) hkind,
    fun hall kind _ hkind => hall kind hkind⟩

theorem entryAfter_empty (texts : List (String × HistoryKind)) (now : Int) (t : String) :
    entryAfter texts now .empty t = (kindOf? texts t).map fun kind => ⟨t, now, kind⟩ :=
  Option.or_none

/-- What a search writes into the history. Let an application be asked to search by a route. It sends
the request of its page once the route is loaded, and whatever the reply, afterwards the history has
for each text the last kind, in the order of terms, creators, subjects and funders, as which it is
asked for in that request or held by a filter that is off; every other entry is what it was. So the
entries are those of the request, whatever the history was, just when each text that a filter
holds while it is off is also asked for as something later in that order. -/
theorem search_remembers_request_iff {a : App} (h : Reached a) (route : Route.Query) :
    let f := a.facets.load route
    let r := f.request a.settings.pageSize
    (∀ now w, ((a.runSearch now route).run w).2.requests =
      w.requests ++ [{ url := searchUrl a.settings.apiBase r }]) ∧
    (∀ now w t, ((a.runSearch now route).run w).1.1.history.find? t =
      entryAfter (askedTexts r ++ offTexts f) now a.history t) ∧
    ((∀ now w history t, ((runSearch now route { a with history }).run w).1.1.history.find? t =
        entryAfter (askedTexts r) now history t) ↔
      ∀ p ∈ offTexts f, ∃ later, (p.1, later) ∈ askedTexts r ∧
        [p.2, later].Sublist searchedKinds) := by
  intro f r
  have hf : f.IsStandard := h.isStandard.load route
  have hwritten : ∀ now w history t,
      ((runSearch now route { a with history }).run w).1.1.history.find? t =
        entryAfter (askedTexts r ++ offTexts f) now history t := fun now w history t =>
    find?_remember hf a.settings.pageSize now history t
  refine ⟨fun now w => rfl, fun now w t => hwritten now w a.history t, fun hall p hp => ?_,
    fun hlater now w history t => ?_⟩
  · -- what is written shows in a history that was empty
    have hentry := hall 0 {} .empty p.1
    rw [hwritten, entryAfter_empty, entryAfter_empty] at hentry
    have hkind := Option.map_injective (fun _ _ he => (HistoryEntry.mk.inj he).2.2) hentry
    exact (kindOf?_append_eq_iff hf _ p.1).mp hkind p.2 hp
  · have hkind := (kindOf?_append_eq_iff hf a.settings.pageSize t).mpr fun kind hkind =>
      hlater (t, kind) hkind
    rw [hwritten, entryAfter, entryAfter, hkind]

/-! ### Two applications -/

/-- An application that searched for a creator, whose filter was then switched off. -/
def renamed : App :=
  let a := ((untouched.runSearch 0 (Route.ofPairs [("an", "rain")])).run {}).1.1
  { a with
    facets := a.facets.mapFirst "an" fun v x =>
      x.edit Search.rangeCells (Search.resetRange 2025) .disable v }

/-- An application with a subject in a filter that was never switched on. -/
def typed : App :=
  { untouched with
    facets := untouched.facets.mapFirst "sj" fun v x =>
      x.edit Search.rangeCells (Search.resetRange 2025) (.setValue (.text (some "snow"))) v }

theorem reached_renamed : Reached renamed :=
  .edit (.runSearch reached_untouched 0 _ {}) 2025 (.filter "an" .disable) trivial rfl

theorem reached_typed : Reached typed :=
  .edit reached_untouched 2025 (.filter "sj" (.setValue (.text (some "snow")))) trivial rfl

/-- The text of the filter that is off is asked for as a subject, and remembered as that. -/
theorem renamed_remembers_request : Reached renamed ∧
    let route := Route.ofPairs [("q", "snow"), ("sj", "rain")]
    offTexts (renamed.facets.load route) = [("rain", .creator)] ∧
    ∀ now w history t, ((runSearch now route { renamed with history }).run w).1.1.history.find? t =
      entryAfter [("snow", .term), ("rain", .subject)] now history t := by
  refine ⟨reached_renamed, ?_⟩
  intro route
  have hoff : offTexts (renamed.facets.load route) = [("rain", .creator)] := by decide +kernel
  have hasked : askedTexts ((renamed.facets.load route).request renamed.settings.pageSize) =
      [("snow", .term), ("rain", .subject)] := by decide +kernel
  obtain ⟨-, -, hiff⟩ := search_remembers_request_iff reached_renamed route
  rw [hoff, hasked] at hiff
  have hlater : ∀ p ∈ [("rain", HistoryKind.creator)], ∃ later,
      (p.1, later) ∈ [("snow", .term), ("rain", .subject)] ∧ [p.2, later].Sublist searchedKinds := by
    rintro p (_ | ⟨_, ⟨⟩⟩)
    exact ⟨.subject, by decide, by decide⟩
  exact ⟨hoff, hiff.mpr hlater⟩

/-- A subject that the request does not ask for is remembered. -/
theorem typed_remembers_more : Reached typed ∧
    let route := Route.ofPairs [("q", "rain")]
    let searched := (typed.runSearch 0 route).run {}
    searched.2.requests =
      [{ url := "http://localhost:8000/api/discovery/search?term=rain&pageSize=20" }] ∧
    askedTexts ((typed.facets.load route).request 20) = [("rain", .term)] ∧
    searched.1.1.history.items = [⟨"rain", 0, .term⟩, ⟨"snow", 0, .subject⟩] ∧
    ¬∀ t, searched.1.1.history.find? t =
      entryAfter (askedTexts ((typed.facets.load route).request 20)) 0 typed.history t := by
  refine ⟨reached_typed, by decide +kernel, by decide +kernel, by decide +kernel, fun hall => ?_⟩
  have hsnow := hall "snow"
  revert hsnow
  decide +kernel

end App
end DatasetSearch
