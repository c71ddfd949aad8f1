import DatasetSearch.Proofs.Json.Readings
import DatasetSearch.Search.Record

/-! Null members of a hit.

A member that is null is read as if it were missing, but for two. A licence whose text is null has
no text, though it may have a name to fall back on, and a grant whose funder has null for a name has
none, though it may have a name of its own (`HidesFallback`). Leaving out a null member that is not
in the place, which is shown as it is, changes a record just in these two cases
(`ofHit_without_iff`). -/
namespace DatasetSearch.Search
open Json (Place Spots NullAt ShowsAt ShiftsAt Blind within child? member? asText?)

/-! ### Texts, names and numbers -/

theorem blind_textMember (name : String) : Blind fun x => (x.member? name).bind asText? :=
  have h : Blind asText? := .scalar (fun _ => rfl) (fun _ => rfl)
  h.child (r := (·.bind asText?)) rfl (.member name)

theorem blind_numberMember (name : String) : Blind fun x => (x.member? name).bind Json.asDouble? :=
  have h : Blind Json.asDouble? := .scalar (fun _ => rfl) (fun _ => rfl)
  h.child (r := (·.bind Json.asDouble?)) rfl (.member name)

/-- The text of a field that may be missing. -/
def fieldText : Option Json → String
  | some (.text s) => s
  | some (.int n) => wholeText n
  | some (.double x) => x.text .json
  | _ => ""

theorem blind_textField (name : String) : Blind (textField · name) :=
  have h : Blind fun x => fieldText (some x) := .scalar (fun _ => rfl) (fun _ => rfl)
  h.child rfl (.member name)

theorem blind_names (name : String) : Blind fun doc => names (doc.member? name) := by
  have hname : Blind nameOf? := (blind_textMember "name").ofObject (fun _ => rfl) (fun _ => rfl)
  have hnames : Blind fun x => names (some x) := by
    intro x path other hnull
    have heq (y : Json) :
        names (some y) = ((y.asList?.getD []).filterMap nameOf?).filter (!·.isEmpty) := by
      cases y <;> rfl
    show names (some (x.without other path)) = names (some x)
    rw [heq, heq]
    exact congrArg (List.filter (!·.isEmpty)) (hname.items hnull)
  exact hnames.child (r := names) rfl (.member name)

theorem blind_period : Blind fun doc => (doc.member? "temporalCoverage").bind TimeSpan.of? := by
  have h : Blind TimeSpan.of? := by
    intro x path name hnull
    simp only [TimeSpan.of?, blind_textField _ hnull]
  exact h.child (r := (·.bind TimeSpan.of?)) rfl (.member "temporalCoverage")

/-! ### Highlights -/

theorem blind_pieceOf? : Blind pieceOf? := by
  intro x path name hnull
  simp only [pieceOf?, blind_textMember _ hnull]

theorem blind_pieces :
    Blind fun x => (((x.member? "texts").bind Json.asList?).getD []).filterMap pieceOf? :=
  blind_pieceOf?.items.child (r := fun o => ((o.bind Json.asList?).getD []).filterMap pieceOf?) rfl
    (.member "texts")

theorem blind_highlights :
    Blind fun hit => ((hit.member? "highlights").map highlightsOf).getD [] := by
  have h : Blind Highlight.of? := by
    intro x path name hnull
    simp only [Highlight.of?, blind_textMember _ hnull, blind_numberMember _ hnull,
      blind_pieces hnull]
  exact h.items.child (r := fun o => (o.map highlightsOf).getD []) rfl (.member "highlights")

/-! ### Documents -/

/-- The place of a hit's document. -/
def documentPath : List Place := [.member "document", .item 0]

def licensePath : List Place := documentPath ++ [.member "license"]

def fundingPath : List Place := documentPath ++ [.member "funding"]

def grantPath (i : Nat) : List Place := fundingPath ++ [.item i]

def placePath : List Place := documentPath ++ [.member "spatialCoverage"]

theorem documentOf_eq (hit : Json) :
    documentOf hit =
      ((hit.child? (.member "document")).bind (child? (.item 0))).getD .null := by
  have hhead (x : Json) : x.head? = x.child? (.item 0) := by
    cases x with
    | list items => exact List.head?_eq_getElem?
    | _ => rfl
  unfold documentOf
  rw [funext hhead]
  rfl

theorem showsAt_document {α : Type} {f : Json → α} {spots : Spots} (h : ShowsAt spots f) :
    ShowsAt (within (.member "document") (within (.item 0) spots))
      fun hit => f (documentOf hit) := by
  have hitem : ShowsAt (within (.item 0) spots) fun x => f ((x.child? (.item 0)).getD .null) :=
    ShowsAt.child (r := fun o => f (o.getD .null)) h rfl (.item 0)
  have hdocument := ShowsAt.child (r := fun o => f ((o.bind (child? (.item 0))).getD .null)) hitem
    rfl (.member "document")
  rw [funext documentOf_eq]
  exact hdocument

theorem blind_document {α : Type} {f : Json → α} (h : Blind f) :
    Blind fun hit => f (documentOf hit) := by
  intro hit path name hnull
  refine (showsAt_document h.showsAt hnull).mpr ?_
  intro ⟨_, _, _, _, _, _, _, _, hfalse⟩
  exact hfalse

/-! ### Licences, grants and places -/

/-- Where a null hides the name of a licence. -/
def hidesLicenseName : Spots := fun license path name =>
  (path = [] ∧ name = "text") ∧ ∃ own, license.member? "name" = some (.text own) ∧ own ≠ ""

theorem showsAt_license :
    ShowsAt (within (.member "license") hidesLicenseName)
      fun doc => licenseText (doc.member? "license") := by
  have hobject : ShowsAt hidesLicenseName fun license =>
      (((license.member? "text").or (license.member? "name")).bind asText?).getD "" :=
    ShowsAt.fallback (Json.shiftsAt_member "text") (Json.shiftsAt_member "name") (·.getD "")
  refine ShowsAt.child (r := licenseText) ?_ rfl (.member "license")
  intro x path name hnull
  have hx := hobject hnull
  rcases hnull.list_or_object with ⟨items, items', rfl, hx'⟩ | ⟨members, members', rfl, hx'⟩
  · rw [hx']
    refine iff_of_true rfl ?_
    intro ⟨_, own, hown, _⟩
    cases hown
  · rw [hx'] at hx ⊢
    exact hx

/-- The funder that counts of one or a list of them. -/
def leadFunder : Option Json → Option Json
  | some (.list funders) => funders.head?
  | other => other

/-- The name of a funder, or of the first in a list of them. -/
def leadName : Spots := fun _ path name => (path = [] ∨ path = [.item 0]) ∧ name = "name"

/-- A null name of a funder, or of the first in a list of them, is read as the funder's name. -/
theorem shiftsAt_funderName :
    ShiftsAt (within (.member "funder") leadName)
      fun grant => (funderOf? grant).bind (member? "name") := by
  have hname := Json.shiftsAt_member "name"
  refine ShiftsAt.child (r := fun o => (leadFunder o).bind (member? "name")) ?_ rfl
    (.member "funder")
  intro x path name hnull
  show Json.Shift _ ((leadFunder (some x)).bind _)
    ((leadFunder (some (x.without name path))).bind _)
  rcases hnull.list_or_object with ⟨items, items', hx, hx'⟩ | ⟨members, members', hx, hx'⟩
  · have hlead (l : List Json) : leadFunder (some (.list l)) = (Json.list l).child? (.item 0) :=
      List.head?_eq_getElem?
    have hfirst := ShiftsAt.child (r := (·.bind (member? "name"))) hname rfl (.item 0) hnull
    rw [hx', hx, hlead, hlead, ← hx, ← hx']
    apply hfirst.congr
    constructor
    · intro ⟨rest, _, hpath, _, hrest, hname⟩
      rw [hrest] at hpath
      exact ⟨.inr hpath, hname⟩
    · intro ⟨hpath, hname⟩
      subst hname
      rcases hpath with rfl | rfl
      · rw [hx] at hnull
        cases Json.nullAt_nil.mp hnull
      · obtain ⟨y, hy, -⟩ := Json.nullAt_cons.mp hnull
        exact ⟨[], y, rfl, hy, rfl, rfl⟩
  · have hlead (ms : List (String × Json)) :
        leadFunder (some (.object ms)) = some (.object ms) := rfl
    rw [hx', hx, hlead, hlead, ← hx, ← hx']
    apply (hname hnull).congr
    refine and_congr_left fun _ => ⟨.inl, ?_⟩
    intro hpath
    rcases hpath with hpath | rfl
    · exact hpath
    · obtain ⟨y, hy, -⟩ := Json.nullAt_cons.mp hnull
      rw [hx] at hy
      cases hy

/-- Where a null hides a grant's own name. -/
def hidesGrantName : Spots := fun grant path name =>
  within (.member "funder") leadName grant path name ∧
    ∃ own, grant.member? "name" = some (.text own)

theorem showsAt_funding :
    ShowsAt (within (.member "funding") fun x path name =>
        ∃ i, within (.item i) hidesGrantName x path name)
      fun doc => fundingNames (doc.member? "funding") := by
  have hgrant : ShowsAt hidesGrantName fundingName? := by
    apply (ShowsAt.fallback shiftsAt_funderName (Json.shiftsAt_member "name") id).congr
    intro grant path name
    simp [hidesGrantName]
  refine ShowsAt.child (r := fundingNames) ?_ rfl (.member "funding")
  have heq (y : Json) : fundingNames (some y) = (y.asList?.getD []).filterMap fundingName? := by
    cases y <;> rfl
  rw [funext heq]
  exact hgrant.items

theorem showsAt_place :
    ShowsAt (within (.member "spatialCoverage") fun _ _ _ => True)
      fun doc => (doc.member? "spatialCoverage").filter (!·.isNull) := by
  refine ShowsAt.child (r := (·.filter (!·.isNull))) ?_ rfl (.member "spatialCoverage")
  intro x path name hnull
  refine iff_of_false (fun heq => hnull.without_ne ?_) fun h => h trivial
  rcases hnull.list_or_object with ⟨_, _, hx, hx'⟩ | ⟨_, _, hx, hx'⟩
  · rw [hx', hx] at heq ⊢
    exact Option.some.inj heq
  · rw [hx', hx] at heq ⊢
    exact Option.some.inj heq

/-! ### Records -/

/-- A record without its grants, its licence and its place. -/
def Record.bare (r : Record) : Record := { r with funding := [], license := "", place := none }

theorem Record.eq_iff_bare (r s : Record) :
    r = s ↔
      r.bare = s.bare ∧ r.funding = s.funding ∧ r.license = s.license ∧ r.place = s.place := by
  constructor
  · intro h
    exact h ▸ ⟨rfl, rfl, rfl, rfl⟩
  · intro ⟨hbare, hfunding, hlicense, hplace⟩
    cases r
    cases s
    simp only [Record.bare, Record.mk.injEq] at hbare
    simp_all

theorem blind_bare : Blind fun hit => (Record.ofHit hit).bare := by
  intro hit path name hnull
  have htext (field : String) := blind_document (blind_textField field) hnull
  have hnames (field : String) := blind_document (blind_names field) hnull
  simp only [Record.ofHit, Record.bare, htext, hnames, blind_document blind_period hnull,
    blind_highlights hnull, blind_numberMember _ hnull, blind_textMember _ hnull]

section
variable {hit : Json} {path : List Place} {name : String}

theorem license_without_iff (hnull : NullAt hit path name) :
    (Record.ofHit (hit.without name path)).license = (Record.ofHit hit).license ↔
      ¬(path = licensePath ∧ name = "text" ∧
        ∃ own, own ≠ "" ∧
          hit.at? (licensePath ++ [.member "name"]) = some (.text own)) := by
  refine (showsAt_document showsAt_license hnull).trans (not_congr ?_)
  refine (Json.within_foldr licensePath).trans ?_
  rw [Json.at?_append licensePath]
  constructor
  · intro ⟨rest, x, hpath, hx, ⟨hrest, hname⟩, own, hown, hne⟩
    rw [hrest, List.append_nil] at hpath
    refine ⟨hpath, hname, own, hne, ?_⟩
    rw [hx, Option.bind_some, Json.at?_singleton]
    exact hown
  · intro ⟨hpath, hname, own, hne, hown⟩
    obtain ⟨x, hx, hown⟩ := Option.bind_eq_some_iff.mp hown
    rw [Json.at?_singleton] at hown
    exact ⟨[], x, hpath.trans (List.append_nil _).symm, hx, ⟨rfl, hname⟩, own, hown, hne⟩

theorem hides_grant_iff :
    within (.member "document") (within (.item 0) (within (.member "funding") fun x path name =>
        ∃ i, within (.item i) hidesGrantName x path name)) hit path name ↔
      ∃ i rest grant, path = grantPath i ++ rest ∧ hit.at? (grantPath i) = some grant ∧
        hidesGrantName grant rest name := by
  refine (Json.within_foldr fundingPath).trans ?_
  constructor
  · intro ⟨rest, grants, hpath, hgrants, i, hspot⟩
    exact ⟨i, (Json.within_foldr (grantPath i)).mp
      ((Json.within_foldr fundingPath).mpr
        ⟨rest, grants, hpath, hgrants, hspot⟩)⟩
  · intro ⟨i, hgrant⟩
    obtain ⟨rest, grants, hpath, hgrants, hspot⟩ :=
      (Json.within_foldr fundingPath).mp
        ((Json.within_foldr (grantPath i)).mpr hgrant)
    exact ⟨rest, grants, hpath, hgrants, i, hspot⟩

theorem funding_without_iff (hnull : NullAt hit path name) :
    (Record.ofHit (hit.without name path)).funding = (Record.ofHit hit).funding ↔
      ¬∃ i, (path = grantPath i ++ [.member "funder"] ∨
          path = grantPath i ++ [.member "funder", .item 0]) ∧ name = "name" ∧
        ∃ own, hit.at? (grantPath i ++ [.member "name"]) = some (.text own) := by
  refine (showsAt_document showsAt_funding hnull).trans (not_congr (hides_grant_iff.trans ?_))
  apply exists_congr
  intro i
  rw [Json.at?_append (grantPath i)]
  constructor
  · intro ⟨_, grant, hpath, hgrant, ⟨rest, _, hfunder, _, hrest, hname⟩, own, hown⟩
    rw [hfunder] at hpath
    refine ⟨?_, hname, own, ?_⟩
    · rw [hpath]
      rcases hrest with rfl | rfl
      · exact .inl rfl
      · exact .inr rfl
    · rw [hgrant, Option.bind_some, Json.at?_singleton]
      exact hown
  · intro ⟨hpath, hname, own, hown⟩
    subst hname
    obtain ⟨grant, hgrant, hown⟩ := Option.bind_eq_some_iff.mp hown
    rw [Json.at?_singleton] at hown
    have hfunder (rest : List Place) (hrest : rest = [] ∨ rest = [.item 0])
        (hpath : path = grantPath i ++ .member "funder" :: rest) :
        ∃ rest grant, path = grantPath i ++ rest ∧ hit.at? (grantPath i) = some grant ∧
          hidesGrantName grant rest "name" := by
      rw [hpath] at hnull
      obtain ⟨_, hgrant', hnull⟩ := Json.nullAt_append.mp hnull
      obtain rfl := Option.some.inj (hgrant.symm.trans hgrant')
      obtain ⟨funder, hfunder, -⟩ := Json.nullAt_cons.mp hnull
      exact ⟨_, grant, hpath, hgrant, ⟨rest, funder, rfl, hfunder, hrest, rfl⟩, own, hown⟩
    rcases hpath with hpath | hpath
    · exact hfunder [] (.inl rfl) hpath
    · exact hfunder [.item 0] (.inr rfl) hpath

theorem place_without_iff (hnull : NullAt hit path name) :
    (Record.ofHit (hit.without name path)).place = (Record.ofHit hit).place ↔
      ¬placePath <+: path := by
  refine (showsAt_document showsAt_place hnull).trans (not_congr ?_)
  refine (Json.within_foldr placePath).trans ?_
  constructor
  · intro ⟨rest, _, hpath, _⟩
    exact ⟨rest, hpath.symm⟩
  · intro ⟨rest, hpath⟩
    rw [← hpath] at hnull ⊢
    obtain ⟨x, hx, -⟩ := Json.nullAt_append.mp hnull
    exact ⟨rest, x, rfl, hx, trivial⟩

/-- A null member hides the text that a record would fall back on. -/
inductive HidesFallback (hit : Json) : List Place → String → Prop
  /-- A licence has a name that is not empty, and null for its text. -/
  | license {own : String} (hne : own ≠ "")
      (hown : hit.at? (licensePath ++ [.member "name"]) = some (.text own)) :
    HidesFallback hit licensePath "text"
  /-- A grant has a name, and its funder has null for one. -/
  | funder {i : Nat} {own : String}
      (hown : hit.at? (grantPath i ++ [.member "name"]) = some (.text own)) :
    HidesFallback hit (grantPath i ++ [.member "funder"]) "name"
  /-- A grant has a name, and the first of its funders has null for one. -/
  | firstFunder {i : Nat} {own : String}
      (hown : hit.at? (grantPath i ++ [.member "name"]) = some (.text own)) :
    HidesFallback hit (grantPath i ++ [.member "funder", .item 0]) "name"

/-- Leaving a null member out changes the record of a hit just when it stands in the place, which is
shown as it is, or hides the text to fall back on. -/
theorem ofHit_without_iff (hnull : NullAt hit path name) :
    Record.ofHit (hit.without name path) = Record.ofHit hit ↔
      ¬(placePath <+: path ∨ HidesFallback hit path name) := by
  rw [Record.eq_iff_bare, and_iff_right (blind_bare hnull), funding_without_iff hnull,
    license_without_iff hnull, place_without_iff hnull, ← not_or, ← not_or]
  apply not_congr
  constructor
  · intro h
    rcases h with ⟨i, rfl | rfl, rfl, own, hown⟩ | ⟨rfl, rfl, own, hne, hown⟩ | hplace
    · exact .inr (.funder hown)
    · exact .inr (.firstFunder hown)
    · exact .inr (.license hne hown)
    · exact .inl hplace
  · intro h
    rcases h with hplace | hhides
    · exact .inr (.inr hplace)
    · cases hhides with
      | license hne hown => exact .inr (.inl ⟨rfl, rfl, _, hne, hown⟩)
      | funder hown => exact .inl ⟨_, .inl rfl, rfl, _, hown⟩
      | firstFunder hown => exact .inl ⟨_, .inr rfl, rfl, _, hown⟩

end

/-- A grant with null for a funder has its own name, as a grant without a funder has. -/
theorem null_funder_without :
    let grant : Json := .object [("funder", .null), ("name", .text "Grant 1")]
    let hit : Json := .object [("document", .list [.object [("funding", .list [grant])]])]
    NullAt hit (grantPath 0) "funder" ∧
      ¬(placePath <+: grantPath 0 ∨ HidesFallback hit (grantPath 0) "funder") ∧
      (Record.ofHit hit).funding = ["Grant 1"] ∧
      Record.ofHit (hit.without "funder" (grantPath 0)) = Record.ofHit hit := by
  intro grant hit
  have hnull : NullAt hit (grantPath 0) "funder" := rfl
  have hshown : ¬(placePath <+: grantPath 0 ∨ HidesFallback hit (grantPath 0) "funder") := by
    have hnames (path : List Place) (name : String) (h : HidesFallback hit path name) :
        name = "text" ∨ name = "name" := by
      cases h <;> simp
    intro h
    rcases h with hplace | hhides
    · exact absurd hplace (by decide)
    · exact absurd (hnames _ _ hhides) (by decide)
  exact ⟨hnull, hshown, rfl, (ofHit_without_iff hnull).mpr hshown⟩

/-- The name of a licence is lost to a null text, and the name of a grant to a null name of its
funder. -/
theorem null_hides_names :
    let license : Json := .object [("name", .text "MIT"), ("text", .null)]
    let grant : Json := .object [("funder", .object [("name", .null)]), ("name", .text "Grant 1")]
    let hit : Json :=
      .object [("document", .list [.object [("funding", .list [grant]), ("license", license)]])]
    let funderPath := grantPath 0 ++ [.member "funder"]
    (NullAt hit licensePath "text" ∧ ¬placePath <+: licensePath ∧
      (Record.ofHit hit).license = "" ∧
      (Record.ofHit (hit.without "text" licensePath)).license = "MIT") ∧
    NullAt hit funderPath "name" ∧ ¬placePath <+: funderPath ∧
      (Record.ofHit hit).funding = [] ∧
      (Record.ofHit (hit.without "name" funderPath)).funding = ["Grant 1"] :=
  ⟨⟨rfl, by decide, rfl, rfl⟩, rfl, by decide, rfl, rfl⟩

end DatasetSearch.Search
