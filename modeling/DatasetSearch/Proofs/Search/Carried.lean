import DatasetSearch.Proofs.Search.Bookmark
import DatasetSearch.Proofs.Search.Cursor

/-! What the query string of a search page carries.

The parameters of a page write one pair for each scalar that is set and, after all of these, one for
each item of a list. On a page with the standard filters no two parameters share a name, so every
filter writes what it has to write where it stands (`writes_params`), and the whole query string can
be said in full (`request_carries`). -/
namespace DatasetSearch

namespace Query

/-- What parameters write: the pairs of scalars, and those of lists, which come after all scalars. -/
structure Writes (ps : List (String × Value)) (scalars lists : List (String × String)) : Prop where
  scalars : ps.filterMap scalarPair? = scalars
  lists : ps.flatMap listPairs = lists

theorem Writes.nil : Writes [] [] [] := ⟨rfl, rfl⟩

theorem Writes.append {ps qs : List (String × Value)} {a b c d : List (String × String)}
    (h : Writes ps a b) (h' : Writes qs c d) : Writes (ps ++ qs) (a ++ c) (b ++ d) where
  scalars := by rw [List.filterMap_append, h.scalars, h'.scalars]
  lists := by rw [List.flatMap_append, h.lists, h'.lists]

end Query

namespace Search
open DatasetSearch.Filter (Frame)
open Query (Writes decode)

/-! ### Pairs -/

/-- A text under a name, unless it is empty. -/
def textPairs (name text : String) : List (String × String) :=
  if text = "" then [] else [(name, text)]

/-- A whole number under a name, unless it is zero. -/
def wholePairs (name : String) (n : Int) : List (String × String) :=
  if n = 0 then [] else [(name, wholeText n)]

/-- The bounds of a range under their two names. -/
def boundsPairs (name : String) (b : Bounds) : List (String × String) :=
  wholePairs (name ++ "Start") b.low ++ wholePairs (name ++ "End") b.high

/-- What the records are sorted by, unless it is their relevance. -/
def sortPairs (key : SortKey) (direction : Direction) : List (String × String) :=
  if key = .relevance then [] else [("sortBy", key.param), ("order", direction.text)]

theorem writes_text (name text : String) : Writes [(name, .text text)] (textPairs name text) [] := by
  refine ⟨?_, rfl⟩
  by_cases h : text = "" <;>
    simp [Query.scalarPair?, Query.Value.isFalsy, Query.Value.scalarText?, textPairs, h]

theorem writes_whole (name : String) (n : Int) : Writes [(name, .int n)] (wholePairs name n) [] := by
  refine ⟨?_, rfl⟩
  by_cases h : n = 0 <;>
    simp [Query.scalarPair?, Query.Value.isFalsy, Query.Value.scalarText?, wholePairs, h]

theorem writes_token (token : Option String) :
    Writes [(tokenName, .ofOption token)] (tokenPairs token) [] := by
  refine ⟨?_, ?_⟩
  · rw [Request.filterMap_token, List.filterMap_nil, List.append_nil]
  · rw [List.flatMap_singleton, Request.listPairs_token]

theorem writes_sort (key : SortKey) (direction : Direction) :
    Writes (("sortBy", .text key.param) ::
        if key = .relevance then [] else [("order", .text direction.text)])
      (sortPairs key direction) [] := by
  cases key <;> cases direction <;> exact ⟨rfl, rfl⟩

/-- The request's own pairs. -/
theorem writes_core {r : Request} (hnumber : r.pageNumber = 0) :
    Writes r.core
      (textPairs "term" r.term ++ sortPairs r.sortKey r.direction ++
        wholePairs "pageSize" r.pageSize ++ tokenPairs r.token) [] := by
  have hwrites := (((writes_text "term" r.term).append (writes_sort r.sortKey r.direction)).append
    ((writes_whole "pageSize" r.pageSize).append (writes_whole "pageNumber" r.pageNumber))).append
      (writes_token r.token)
  simpa [Request.core, hnumber, wholePairs, tokenName] using hwrites

namespace Facets

/-! ### The filters of a page -/

/-- Whether the filter with a label is on. -/
def isOn (f : Facets) (label : String) : Bool := (f.filter? label).any (·.enabled)

/-- The text of a filter, empty if it has none. -/
def textOf (f : Facets) (label : String) : String :=
  match (f.filter? label).map f.valueOf with
  | some (.text (some s)) => s
  | _ => ""

/-- The items selected in a filter, in the order of their selection. -/
def itemsOf (f : Facets) (label : String) : List String :=
  match (f.filter? label).map f.valueOf with
  | some (.multiple items) => items
  | _ => []

/-- The pairs of the filters with a text. -/
def carriedTexts (f : Facets) : List (String × String) :=
  [("creatorName", "an"), ("ownerName", "on"), ("fundingFunderName", "f"), ("subject", "sj")].flatMap
    fun (name, label) => if f.isOn label then textPairs name (f.textOf label) else []

/-- The pairs of the year ranges, which the results page keeps. -/
def carriedYears (f : Facets) : List (String × String) :=
  [("creationDate", "cd", f.view.creationDate), ("publicationYear", "py", f.view.publicationYear),
    ("dataCoverage", "dc", f.view.dataCoverage)].flatMap
    fun (name, label, bounds) => if f.isOn label then boundsPairs name bounds else []

/-- The pairs of the filters with several items. -/
def carriedItems (f : Facets) : List (String × String) :=
  [("contentType", "ct"), ("availability", "a")].flatMap
    fun (name, label) => if f.isOn label then (f.itemsOf label).map (name, ·) else []

/-- All pairs of a request for a page of records with a token, in their order. -/
def carried (f : Facets) (pageSize : Nat) (token : Option String) : List (String × String) :=
  textPairs "term" f.term ++ sortPairs f.view.sortKey f.view.direction ++
    [("pageSize", wholeText pageSize)] ++ tokenPairs token ++
    f.carriedTexts ++ f.carriedYears ++ f.carriedItems

/-- What the filter with a label adds to a request. -/
def paramsAt (f : Facets) (label : String) : List (String × Query.Value) :=
  (f.filter? label).elim [] (·.params rangeCells f.view)

/-! ### What each filter writes -/

variable {f : Facets} {x : Filter YearRange}

/-- A standard filter with a text is found by its label. -/
theorem IsStandard.exists_text (h : f.IsStandard) {fr : Frame YearRange} (hfr : fr ∈ frames)
    (hkind : fr.kind = .text) : ∃ x t, f.filter? fr.label = some x ∧ x.frame = fr ∧
      f.valueOf x = .text t ∧ f.textOf fr.label = t.getD "" := by
  obtain ⟨x, hx, rfl⟩ := h.exists_filter hfr
  obtain ⟨t, ht⟩ := Filter.text_of_kind rangeCells f.view x hkind
  refine ⟨x, t, hx, rfl, ht, ?_⟩
  simp only [textOf, hx, Option.map_some, valueOf, ht]
  cases t <;> rfl

theorem writes_textFilter (h : f.IsStandard) (name label : String)
    (hframe : ⟨name, label, .text, none⟩ ∈ frames) :
    Writes (f.paramsAt label) (if f.isOn label then textPairs name (f.textOf label) else []) [] := by
  obtain ⟨x, t, hx, hxframe, ht, htext⟩ := h.exists_text hframe rfl
  have hname : x.name = name := congrArg Frame.name hxframe
  rw [paramsAt, hx, Option.elim_some, isOn, hx, Option.any_some, htext]
  cases hon : x.enabled with
  | false => rw [params_of_off hon]; exact .nil
  | true =>
    rw [params_of_on hon ht, if_pos rfl]
    cases t with
    | none => exact .nil
    | some s =>
      have hwrites := writes_text name s
      by_cases hs : s = ""
      · subst hs
        exact .nil
      · simpa [FilterValue.isTruthy, Filter.paramsOf, hname, hs, Query.Value.ofOption] using hwrites

theorem writes_listFilter (h : f.IsStandard) (name label : String)
    (hframe : ⟨name, label, .selectMultiple, none⟩ ∈ frames) :
    Writes (f.paramsAt label) []
      (if f.isOn label then (f.itemsOf label).map (name, ·) else []) := by
  obtain ⟨x, hx, hxframe⟩ := h.exists_filter hframe
  have hkind : x.kind = .selectMultiple := congrArg Frame.kind hxframe
  have hname : x.name = name := congrArg Frame.name hxframe
  obtain ⟨items, hitems⟩ := Filter.multiple_of_kind rangeCells f.view x hkind
  have hitemsOf : f.itemsOf label = items := by
    simp only [itemsOf, hx, Option.map_some, valueOf, hitems]
  rw [paramsAt, hx, Option.elim_some, isOn, hx, Option.any_some, hitemsOf]
  cases hon : x.enabled with
  | false => rw [params_of_off hon]; exact .nil
  | true =>
    rw [params_of_on hon hitems]
    refine ⟨rfl, ?_⟩
    simp [FilterValue.isTruthy, Filter.paramsOf, hname, Query.listPairs]

theorem writes_rangeFilter (h : f.IsStandard) (name label : String) (r : YearRange)
    (hframe : ⟨name, label, .range, some r⟩ ∈ frames) :
    Writes (f.paramsAt label) (if f.isOn label then boundsPairs name (f.view.range r) else [])
      [] := by
  obtain ⟨x, hx, hxframe⟩ := h.exists_filter hframe
  have hname : x.name = name := congrArg Frame.name hxframe
  have hvalue := (value_of_cell (v := f.view) (hxframe ▸ sound_of_mem_frames hframe)
    (congrArg Frame.cell? hxframe)).2
  rw [paramsAt, hx, Option.elim_some, isOn, hx, Option.any_some]
  cases hon : x.enabled with
  | false => rw [params_of_off hon]; exact .nil
  | true =>
    rw [params_of_on hon hvalue, ← hname]
    exact (writes_whole (x.name ++ "Start") _).append (writes_whole (x.name ++ "End") _)

/-- All filters together. -/
theorem writes_params (h : f.IsStandard) :
    Writes (f.filters.flatMap (·.params rangeCells f.view)) (f.carriedTexts ++ f.carriedYears)
      f.carriedItems := by
  have hparams : f.filters.flatMap (·.params rangeCells f.view) =
      f.paramsAt "an" ++ (f.paramsAt "on" ++ (f.paramsAt "ct" ++ (f.paramsAt "f" ++
        (f.paramsAt "sj" ++ (f.paramsAt "a" ++ (f.paramsAt "cd" ++ (f.paramsAt "py" ++
          f.paramsAt "dc"))))))) := by
    rw [h.flatMap_filters]
    simp [frames, standard, paramsAt, contentTypeLabel, Filter.frame, Filter.make,
      Filter.storedIn, Filter.withChoices]
  have hwrites :=
    (writes_textFilter h "creatorName" "an" (by decide)).append <|
    (writes_textFilter h "ownerName" "on" (by decide)).append <|
    (writes_listFilter h "contentType" "ct" (by decide)).append <|
    (writes_textFilter h "fundingFunderName" "f" (by decide)).append <|
    (writes_textFilter h "subject" "sj" (by decide)).append <|
    (writes_listFilter h "availability" "a" (by decide)).append <|
    (writes_rangeFilter h "creationDate" "cd" .creationDate (by decide)).append <|
    (writes_rangeFilter h "publicationYear" "py" .publicationYear (by decide)).append <|
    writes_rangeFilter h "dataCoverage" "dc" .dataCoverage (by decide)
  rw [hparams]
  simpa [carriedTexts, carriedYears, carriedItems, View.range] using hwrites

theorem decode_request (h : f.IsStandard) (pageSize : Nat) (token : Option String) :
    decode { f.request pageSize with token }.queryString =
      some (textPairs "term" f.term ++ sortPairs f.view.sortKey f.view.direction ++
        wholePairs "pageSize" pageSize ++ tokenPairs token ++
        f.carriedTexts ++ f.carriedYears ++ f.carriedItems) := by
  have hwrites := (writes_core (r := { f.request pageSize with token }) rfl).append (writes_params h)
  rw [Request.decode_queryString, Query.pairs, items_params h rfl, hwrites.scalars, hwrites.lists,
    List.nil_append, ← List.append_assoc]
  rfl

/-- What a search request carries. Whatever was done to a page, short of making other filters of its
filters, its query string for a page size and with a token decodes to the pairs of `carried`, in
that order: the request's own, then the texts, the years and the items of the filters that are on.
So no filter takes the place of another parameter or changes their order. -/
theorem request_carries {year : Int} {view : View} {f : Facets} (hf : Reached year view f)
    {pageSize : Nat} (hsize : 1 ≤ pageSize) (token : Option String) :
    decode { f.request pageSize with token }.queryString = some (f.carried pageSize token) := by
  have hpage : wholePairs "pageSize" pageSize = [("pageSize", wholeText pageSize)] :=
    if_neg (by omega)
  rw [decode_request (isStandard_of_reached hf), hpage]
  rfl

/-- A page that was loaded from a route and then sorted by name, and one of its filters switched
off again. -/
def crowded : Facets :=
  let f := (make 2025 (.initial 2025)).load (Route.ofPairs [("q", "rain & snow"), ("an", "Tarboton"),
    ("sj", "soil"), ("py", "0"), ("py", "2010"), ("ct", "CSV Data"), ("ct", "b=c")])
  let f := { f with view := f.view.sort .name .descending }
  f.mapFirst "an" fun v x => x.edit rangeCells (resetRange 2025) .toggle v

theorem carried_of_crowded : Reached 2025 (.initial 2025) crowded ∧
    decode { crowded.request 20 with token := some "t 1" }.queryString =
      some [("term", "rain & snow"), ("sortBy", "name"), ("order", "desc"), ("pageSize", "20"),
        ("paginationToken", "t 1"), ("subject", "soil"), ("publicationYearEnd", "2010"),
        ("contentType", "CSV Data"), ("contentType", "b=c")] := by
  have loaded := Reached.edit 2025 (.load (Route.ofPairs [("q", "rain & snow"), ("an", "Tarboton"),
    ("sj", "soil"), ("py", "0"), ("py", "2010"), ("ct", "CSV Data"), ("ct", "b=c")]))
    (.make : Reached 2025 (.initial 2025) _) trivial rfl
  have sorted := Reached.edit 2025 (.view (.sort .name .descending)) loaded trivial rfl
  have reached : Reached 2025 (.initial 2025) crowded :=
    .edit 2025 (.filter "an" .toggle) sorted trivial rfl
  refine ⟨reached, (request_carries reached (by decide) (some "t 1")).trans ?_⟩
  exact congrArg some (by decide +kernel)

end Facets
end Search
end DatasetSearch
