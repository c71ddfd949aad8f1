import DatasetSearch.Json.Printer
import DatasetSearch.Search.Highlight

/-! The records that a search finds.

The server's hits are documents with much freedom in their shape; `Record.ofHit` brings one into
the fixed form that is displayed. What a hit lacks, or has in a shape that is not understood, is
empty. -/
namespace DatasetSearch.Search

/-- The time that a dataset covers. -/
structure TimeSpan where
  startDate : String
  endDate : String
deriving DecidableEq, Repr

structure Record where
  id : String := ""
  name : String := ""
  url : String := ""
  description : String := ""
  creators : List String := []
  contributors : List String := []
  created : String := ""
  modified : String := ""
  published : String := ""
  keywords : List String := []
  funding : List String := []
  license : String := ""
  contentType : String := ""
  sharingStatus : String := ""
  place : Option Json := none
  period : Option TimeSpan := none
  highlights : List Highlight := []
  score : Double := .zero false
  /-- Where the page after this record begins. -/
  token : String := ""
deriving Repr, Inhabited

/-! ### The parts of a document -/

/-- A member that is a text, or a number as it is written. -/
def textField (doc : Json) (name : String) : String :=
  match doc.member? name with
  | some (.text s) => s
  | some (.int n) => wholeText n
  | some (.double x) => x.text .json
  | _ => ""

/-- The name in a list of names and of objects with a name. -/
def nameOf? : Json → Option String
  | .text s => some s
  | .object ms => ((Json.object ms).member? "name").bind Json.asText?
  | _ => none

/-- The names in a list, empty ones left out. -/
def names : Option Json → List String
  | some (.list items) => (items.filterMap nameOf?).filter (!·.isEmpty)
  | _ => []

/-- The funder of a grant; of a list of funders the first. -/
def funderOf? (grant : Json) : Option Json :=
  match grant.member? "funder" with
  | some (.list funders) => funders.head?
  | other => other

/-- The name of a grant's funder, or the grant's own when the funder has no name. -/
def fundingName? (grant : Json) : Option String :=
  (((funderOf? grant).bind (·.member? "name")).or (grant.member? "name")).bind Json.asText?

def fundingNames : Option Json → List String
  | some (.list grants) => grants.filterMap fundingName?
  | _ => []

/-- A licence is a text, or an object with a text or else a name. -/
def licenseText : Option Json → String
  | some (.text s) => s
  | some (.object ms) =>
    let x := Json.object ms
    (((x.member? "text").or (x.member? "name")).bind Json.asText?).getD ""
  | _ => ""

/-- A period with a start or an end. -/
def TimeSpan.of? (x : Json) : Option TimeSpan :=
  let t : TimeSpan := ⟨textField x "startDate", textField x "endDate"⟩
  if t.startDate.isEmpty && t.endDate.isEmpty then none else some t

/-- The document of a hit: the first one of its list. -/
def documentOf (hit : Json) : Json := ((hit.member? "document").bind Json.head?).getD .null

def Record.ofHit (hit : Json) : Record :=
  let doc := documentOf hit
  { id := textField doc "_id"
    name := textField doc "name"
    url := textField doc "url"
    description := textField doc "description"
    creators := names (doc.member? "creator")
    contributors := names (doc.member? "contributor")
    created := textField doc "dateCreated"
    modified := textField doc "dateModified"
    published := textField doc "datePublished"
    keywords := names (doc.member? "keywords")
    funding := fundingNames (doc.member? "funding")
    license := licenseText (doc.member? "license")
    contentType := textField doc "additionalType"
    sharingStatus := textField doc "creativeWorkStatus"
    place := (doc.member? "spatialCoverage").filter (!·.isNull)
    period := (doc.member? "temporalCoverage").bind TimeSpan.of?
    highlights := ((hit.member? "highlights").map highlightsOf).getD []
    score := ((hit.member? "score").bind Json.asDouble?).getD (.zero false)
    token := ((hit.member? "paginationToken").bind Json.asText?).getD "" }

/-! ### The answer to a search -/

/-- What a value is, with its article. -/
def kindName : Json → String
  | .null => "null"
  | .bool _ => "a boolean"
  | .int _ | .double _ => "a number"
  | .text _ => "a string"
  | .list _ => "an array"
  | .object _ => "an object"

/-- The records of an answer, or what is wrong with it. -/
def recordsOf (body : Json) : Except String (List Record) :=
  match body with
  | .list hits => .ok (hits.map Record.ofHit)
  | other => .error ("expected an array of search hits, got " ++ kindName other)

/-- The texts of an answer that is a list; items of other kinds are passed over. -/
def textsOf (body : Json) : Except String (List String) :=
  match body with
  | .list items => .ok (items.filterMap Json.asText?)
  | other => .error ("expected an array of strings, got " ++ other.compact)

/-! ### The stored form -/

def textsJson (items : List String) : Json := .list (items.map .text)

def TimeSpan.toJson (t : TimeSpan) : Json :=
  .object [("start_date", .text t.startDate), ("end_date", .text t.endDate)]

def Record.toJson (r : Record) : Json :=
  .object [("id", .text r.id), ("name", .text r.name), ("url", .text r.url),
    ("description", .text r.description), ("creator", textsJson r.creators),
    ("contributor", textsJson r.contributors), ("date_created", .text r.created),
    ("date_modified", .text r.modified), ("date_published", .text r.published),
    ("keywords", textsJson r.keywords), ("funding", textsJson r.funding),
    ("license", .text r.license), ("content_type", .text r.contentType),
    ("sharing_status", .text r.sharingStatus), ("spatial_coverage", r.place.getD .null),
    ("temporal_coverage", (r.period.map TimeSpan.toJson).getD .null),
    ("highlights", .list (r.highlights.map Highlight.toJson)), ("score", .double r.score),
    ("pagination_token", .text r.token)]

open Json (Reader)

def TimeSpan.reader : Reader TimeSpan := fun levels x => do
  let f ← Reader.fields ["start_date", "end_date"] levels x
  return { startDate := ← f.required "start_date" .text, endDate := ← f.required "end_date" .text }

def Record.fieldNames : List String :=
  ["id", "name", "url", "description", "creator", "contributor", "date_created", "date_modified",
   "date_published", "keywords", "funding", "license", "content_type", "sharing_status",
   "spatial_coverage", "temporal_coverage", "highlights", "score", "pagination_token"]

/-- A stored record; a field that is left out is empty. -/
def Record.reader : Reader Record := fun levels x => do
  let f ← Reader.fields Record.fieldNames levels x
  let text (name : String) := f.orElse name .text ""
  let texts (name : String) := f.orElse name (.list .text) []
  return {
    id := ← text "id", name := ← text "name", url := ← text "url"
    description := ← text "description", creators := ← texts "creator"
    contributors := ← texts "contributor", created := ← text "date_created"
    modified := ← text "date_modified", published := ← text "date_published"
    keywords := ← texts "keywords", funding := ← texts "funding", license := ← text "license"
    contentType := ← text "content_type", sharingStatus := ← text "sharing_status"
    place := ← f.orElse "spatial_coverage" (.optional .json) none
    period := ← f.orElse "temporal_coverage" (.optional TimeSpan.reader) none
    highlights := ← f.orElse "highlights" (.list Highlight.reader) []
    score := ← f.orElse "score" .double (.zero false), token := ← text "pagination_token" }

end DatasetSearch.Search
