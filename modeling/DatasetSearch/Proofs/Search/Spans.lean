import DatasetSearch.Search.Highlight
import Mathlib.Data.List.Chain

/-! The spans of a highlighted text.

Joined pieces hold text each and are hits and no hits by turns (`Joined`). Their first piece is as
long as the first run of equally marked characters (`Joined.takeWhile_flagged`), so only one such
list spells given characters with given marks (`Joined.eq_of_flagged`), and its hits can be numbered
in one way only (`eq_numberFrom`). Thus the spans of pieces are the one list in this form that
spells what the pieces spell, however the text was cut (`spansOf_canonical`). -/
namespace DatasetSearch.Search

/-- The characters of pieces, each with whether it belongs to a hit. -/
def flagged (pieces : List (String × Bool)) : List (Char × Bool) :=
  pieces.flatMap fun p => p.1.toList.map (·, p.2)

/-- A span without its number. -/
def Span.piece (s : Span) : String × Bool := (s.text, s.isHit)

/-- Spans that hold text each, are hits and no hits by turns, and have their hits numbered from
zero. -/
structure Canonical (spans : List Span) : Prop where
  filled : ∀ s ∈ spans, s.text ≠ ""
  alternating : spans.IsChain fun a b => a.isHit ≠ b.isHit
  numbered : (spans.filter (·.isHit)).map (·.index) = List.range (spans.countP (·.isHit))
  plain : ∀ s ∈ spans, s.isHit = false → s.index = 0

/-- Pieces that hold text each and are hits and no hits by turns. -/
structure Joined (pieces : List (String × Bool)) : Prop where
  filled : ∀ p ∈ pieces, p.1 ≠ ""
  alternating : pieces.IsChain fun a b => a.2 ≠ b.2

section
variable {text : String} {isHit : Bool} {rest a b pieces : List (String × Bool)}

theorem flagged_cons (p : String × Bool) (rest : List (String × Bool)) :
    flagged (p :: rest) = p.1.toList.map (·, p.2) ++ flagged rest := rfl

theorem joined_cons :
    Joined ((text, isHit) :: rest) ↔ text ≠ "" ∧ (∀ p ∈ rest.head?, isHit ≠ p.2) ∧ Joined rest := by
  constructor
  · intro ⟨hfilled, halternating⟩
    obtain ⟨htext, hrest⟩ := List.forall_mem_cons.mp hfilled
    obtain ⟨hhead, htail⟩ := List.isChain_cons.mp halternating
    exact ⟨htext, hhead, hrest, htail⟩
  · intro ⟨htext, hhead, hrest, htail⟩
    exact ⟨List.forall_mem_cons.mpr ⟨htext, hrest⟩, List.isChain_cons.mpr ⟨hhead, htail⟩⟩

/-! ### Joining -/

/-- Joining gives joined pieces that spell the same: a piece is put before what comes of the rest,
or made one with its first piece. -/
theorem joinPieces_spec (pieces : List (String × Bool)) :
    Joined (joinPieces pieces) ∧ flagged (joinPieces pieces) = flagged pieces := by
  induction pieces with
  | nil => exact ⟨⟨by simp [joinPieces], by simp [joinPieces]⟩, rfl⟩
  | cons p rest ih =>
    obtain ⟨text, isHit⟩ := p
    obtain ⟨hjoined, hflagged⟩ := ih
    rw [joinPieces, flagged_cons, ← hflagged]
    by_cases hempty : text.isEmpty = true
    · have htext : text = "" := by simpa using hempty
      rw [if_pos hempty, htext]
      exact ⟨hjoined, rfl⟩
    · have htext : text ≠ "" := by simpa using hempty
      rw [if_neg hempty]
      cases hrest : joinPieces rest with
      | nil =>
        refine ⟨joined_cons.mpr ⟨htext, by simp, ?_⟩, rfl⟩
        exact hrest ▸ hjoined
      | cons first more =>
        obtain ⟨next, nextIsHit⟩ := first
        rw [hrest] at hjoined
        obtain ⟨-, hhead, hmore⟩ := joined_cons.mp hjoined
        by_cases hsame : isHit = nextIsHit
        · subst hsame
          simp only [if_true]
          refine ⟨joined_cons.mpr ⟨by simp [htext], hhead, hmore⟩, ?_⟩
          simp only [flagged_cons, String.toList_append, List.map_append, List.append_assoc]
        · simp only [if_neg hsame]
          exact ⟨joined_cons.mpr ⟨htext, by simpa using hsame, hjoined⟩, rfl⟩

/-! ### Only one way to join -/

theorem Joined.head_flagged (h : Joined pieces) :
    (flagged pieces).head?.map Prod.snd = pieces.head?.map Prod.snd := by
  cases pieces with
  | nil => rfl
  | cons p rest =>
    obtain ⟨htext, -, -⟩ := joined_cons.mp h
    rw [flagged_cons]
    cases hchars : p.1.toList with
    | nil => exact absurd (String.toList_eq_nil_iff.mp hchars) htext
    | cons c cs => rfl

/-- The first piece is the first run of equally marked characters. -/
theorem Joined.takeWhile_flagged (h : Joined ((text, isHit) :: rest)) :
    (flagged ((text, isHit) :: rest)).takeWhile (·.2 == isHit) = text.toList.map (·, isHit) := by
  obtain ⟨-, hhead, hrest⟩ := joined_cons.mp h
  have hend : (flagged rest).takeWhile (·.2 == isHit) = [] := by
    cases hchars : flagged rest with
    | nil => rfl
    | cons m marks =>
      have hmark := hrest.head_flagged
      rw [hchars] at hmark
      obtain ⟨p, hp, hpm⟩ := Option.map_eq_some_iff.mp hmark.symm
      have hne : m.2 ≠ isHit := fun heq => hhead p hp (hpm.trans heq).symm
      exact List.takeWhile_cons_of_neg (by simpa using hne)
  rw [flagged_cons, List.takeWhile_append_of_pos (by simp), hend, List.append_nil]

theorem Joined.eq_of_flagged (ha : Joined a) (hb : Joined b) (h : flagged a = flagged b) :
    a = b := by
  induction a generalizing b with
  | nil =>
    have hhead := hb.head_flagged
    rw [← h] at hhead
    cases b with
    | nil => rfl
    | cons p rest => cases hhead
  | cons p rest ih =>
    obtain ⟨text, isHit⟩ := p
    have hmark := (hb.head_flagged.symm.trans (congrArg (·.head?.map Prod.snd) h.symm)).trans
      ha.head_flagged
    cases b with
    | nil => cases hmark
    | cons q others =>
      obtain ⟨text', isHit'⟩ := q
      obtain rfl : isHit' = isHit := Option.some.inj hmark
      have hrun := ha.takeWhile_flagged
      rw [h, hb.takeWhile_flagged] at hrun
      have hpair : Function.Injective fun c : Char => (c, isHit') :=
        fun c d hcd => congrArg Prod.fst hcd
      have htext : text' = text := String.toList_inj.mp (List.map_injective_iff.mpr hpair hrun)
      subst htext
      have hrest : flagged rest = flagged others := List.append_cancel_left h
      rw [ih (joined_cons.mp ha).2.2 (joined_cons.mp hb).2.2 hrest]

/-! ### Numbering -/

theorem map_piece_numberFrom (index : Nat) (pieces : List (String × Bool)) :
    (numberFrom index pieces).map Span.piece = pieces := by
  induction pieces generalizing index with
  | nil => rfl
  | cons p rest ih =>
    obtain ⟨text, isHit⟩ := p
    cases isHit <;> rw [numberFrom, List.map_cons, ih] <;> rfl

/-- Hits are numbered on from an index and all else has the number zero. -/
def NumberedFrom (index : Nat) (spans : List Span) : Prop :=
  (spans.filter (·.isHit)).map (·.index) = List.range' index (spans.countP (·.isHit)) ∧
    ∀ s ∈ spans, s.isHit = false → s.index = 0

theorem numberedFrom_hit {index : Nat} {s : Span} {spans : List Span} (hs : s.isHit = true) :
    NumberedFrom index (s :: spans) ↔ s.index = index ∧ NumberedFrom (index + 1) spans := by
  simp [NumberedFrom, hs, List.range'_succ, and_assoc]

theorem numberedFrom_plain {index : Nat} {s : Span} {spans : List Span} (hs : s.isHit = false) :
    NumberedFrom index (s :: spans) ↔ s.index = 0 ∧ NumberedFrom index spans := by
  simp [NumberedFrom, hs, and_left_comm]

theorem numberedFrom_numberFrom (index : Nat) (pieces : List (String × Bool)) :
    NumberedFrom index (numberFrom index pieces) := by
  induction pieces generalizing index with
  | nil => exact ⟨rfl, by simp [numberFrom]⟩
  | cons p rest ih =>
    obtain ⟨text, isHit⟩ := p
    cases isHit with
    | true => exact (numberedFrom_hit rfl).mpr ⟨rfl, ih (index + 1)⟩
    | false => exact (numberedFrom_plain rfl).mpr ⟨rfl, ih index⟩

theorem eq_numberFrom {index : Nat} {spans : List Span} (h : NumberedFrom index spans) :
    spans = numberFrom index (spans.map Span.piece) := by
  induction spans generalizing index with
  | nil => rfl
  | cons s rest ih =>
    obtain ⟨text, isHit, number⟩ := s
    cases isHit with
    | true =>
      obtain ⟨hnumber, hrest⟩ := (numberedFrom_hit rfl).mp h
      show _ = ⟨text, true, index⟩ :: numberFrom (index + 1) (rest.map Span.piece)
      rw [← ih hrest, ← hnumber]
    | false =>
      obtain ⟨hnumber, hrest⟩ := (numberedFrom_plain rfl).mp h
      show _ = ⟨text, false, 0⟩ :: numberFrom index (rest.map Span.piece)
      rw [← ih hrest, ← hnumber]

end

/-! ### Spans -/

theorem canonical_iff {spans : List Span} :
    Canonical spans ↔ Joined (spans.map Span.piece) ∧ NumberedFrom 0 spans := by
  have hchain : (spans.map Span.piece).IsChain (fun a b => a.2 ≠ b.2) ↔
      spans.IsChain fun a b => a.isHit ≠ b.isHit := List.isChain_map Span.piece
  constructor
  · intro h
    refine ⟨⟨?_, hchain.mpr h.alternating⟩, ?_, h.plain⟩
    · exact List.forall_mem_map.mpr h.filled
    · rw [h.numbered, List.range_eq_range']
  · intro ⟨hjoined, hnumbered, hplain⟩
    refine ⟨fun s hs => ?_, hchain.mp hjoined.alternating, ?_, hplain⟩
    · exact hjoined.filled s.piece (List.mem_map_of_mem hs)
    · rw [hnumbered, List.range_eq_range']

theorem map_piece_spansOf (pieces : List (String × Bool)) :
    (spansOf pieces).map Span.piece = joinPieces pieces := map_piece_numberFrom 0 _

theorem canonical_spansOf (pieces : List (String × Bool)) :
    Canonical (spansOf pieces) ∧
      flagged ((spansOf pieces).map Span.piece) = flagged pieces := by
  rw [canonical_iff, map_piece_spansOf]
  obtain ⟨hjoined, hflagged⟩ := joinPieces_spec pieces
  exact ⟨⟨hjoined, numberedFrom_numberFrom 0 _⟩, hflagged⟩

theorem Canonical.eq_of_flagged {a b : List Span} (ha : Canonical a) (hb : Canonical b)
    (h : flagged (a.map Span.piece) = flagged (b.map Span.piece)) : a = b := by
  obtain ⟨hja, hna⟩ := canonical_iff.mp ha
  obtain ⟨hjb, hnb⟩ := canonical_iff.mp hb
  rw [eq_numberFrom hna, eq_numberFrom hnb, hja.eq_of_flagged hjb h]

/-- The spans of pieces are the one list of spans in canonical form that spells what the pieces
spell. Pieces have the same spans just when they spell the same, and spans taken as pieces have
themselves as spans. -/
theorem spansOf_canonical (pieces : List (String × Bool)) :
    (∀ spans, spans = spansOf pieces ↔
      Canonical spans ∧ flagged (spans.map Span.piece) = flagged pieces) ∧
    (∀ others, spansOf pieces = spansOf others ↔ flagged pieces = flagged others) ∧
    spansOf ((spansOf pieces).map Span.piece) = spansOf pieces := by
  obtain ⟨hcanonical, hflagged⟩ := canonical_spansOf pieces
  have hsame (others : List (String × Bool)) (h : flagged pieces = flagged others) :
      spansOf pieces = spansOf others := by
    obtain ⟨hcanonical', hflagged'⟩ := canonical_spansOf others
    exact hcanonical.eq_of_flagged hcanonical' (hflagged.trans (h.trans hflagged'.symm))
  refine ⟨fun spans => ⟨?_, ?_⟩, fun others => ⟨fun h => ?_, hsame others⟩, ?_⟩
  · rintro rfl
    exact ⟨hcanonical, hflagged⟩
  · intro ⟨hspans, hspells⟩
    exact hspans.eq_of_flagged hcanonical (hspells.trans hflagged.symm)
  · rw [← hflagged, h, (canonical_spansOf others).2]
  · exact (hsame _ hflagged.symm).symm

example : spansOf [("", true), ("soil", true), ("", false), (" moisture", true), (" and ", false),
    ("rain", false), ("fall", true)] =
    [⟨"soil moisture", true, 0⟩, ⟨" and rain", false, 0⟩, ⟨"fall", true, 1⟩] := by decide

end DatasetSearch.Search
