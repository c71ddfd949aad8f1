import DatasetSearch.Json.Reader

/-! Highlighted fragments of a document.

The server cuts a text into pieces, some of which are hits. `spansOf` puts neighbouring pieces of
one kind together, leaves empty ones out and numbers the hits, so the spans depend only on which
characters are hits and not on how the text was cut. -/
namespace DatasetSearch.Search

/-- A stretch of text that is all hit or all not. A hit has its number among the hits. -/
structure Span where
  text : String
  isHit : Bool
  index : Nat
deriving DecidableEq, Repr

/-- The spans of one field of a document. -/
structure Highlight where
  path : String
  score : Double
  spans : List Span
deriving DecidableEq, Repr

/-! ### Spans of pieces -/

/-- Joins neighbouring pieces of one kind and drops empty ones. -/
def joinPieces : List (String × Bool) → List (String × Bool)
  | [] => []
  | (text, isHit) :: rest =>
    if text.isEmpty then joinPieces rest
    else
      match joinPieces rest with
      | (next, nextIsHit) :: more =>
        if isHit = nextIsHit then (text ++ next, isHit) :: more
        else (text, isHit) :: (next, nextIsHit) :: more
      | [] => [(text, isHit)]

/-- Numbers the hits from `index` on; the others have the number zero. -/
def numberFrom (index : Nat) : List (String × Bool) → List Span
  | [] => []
  | (text, true) :: rest => ⟨text, true, index⟩ :: numberFrom (index + 1) rest
  | (text, false) :: rest => ⟨text, false, 0⟩ :: numberFrom index rest

def spansOf (pieces : List (String × Bool)) : List Span := numberFrom 0 (joinPieces pieces)

/-! ### From the server's form -/

/-- A piece with a text; it is a hit when its type says so. -/
def pieceOf? (x : Json) : Option (String × Bool) :=
  ((x.member? "value").bind Json.asText?).map fun text =>
    (text, (x.member? "type").bind Json.asText? == some "hit")

/-- A highlight of a named field. Without a number as score the score is zero. -/
def Highlight.of? (x : Json) : Option Highlight :=
  ((x.member? "path").bind Json.asText?).map fun path =>
    { path
      score := ((x.member? "score").bind Json.asDouble?).getD (.zero false)
      spans := spansOf ((((x.member? "texts").bind Json.asList?).getD []).filterMap pieceOf?) }

/-- All highlights in a list; anything else has none. -/
def highlightsOf (x : Json) : List Highlight := (x.asList?.getD []).filterMap Highlight.of?

/-! ### The stored form -/

def Span.toJson (s : Span) : Json :=
  .object [("text", .text s.text), ("is_highlighted", .bool s.isHit), ("index", .int s.index)]

def Highlight.toJson (h : Highlight) : Json :=
  .object [("path", .text h.path), ("score", .double h.score),
    ("spans", .list (h.spans.map Span.toJson))]

open Json (Reader)

def Span.reader : Reader Span := fun levels x => do
  let f ← Reader.fields ["text", "is_highlighted", "index"] levels x
  return { text := ← f.required "text" .text, isHit := ← f.required "is_highlighted" .bool
           index := ← f.required "index" (.nat (twoPow 64)) }

def Highlight.reader : Reader Highlight := fun levels x => do
  let f ← Reader.fields ["path", "score", "spans"] levels x
  return { path := ← f.required "path" .text, score := ← f.required "score" .double
           spans := ← f.required "spans" (.list Span.reader) }

end DatasetSearch.Search
