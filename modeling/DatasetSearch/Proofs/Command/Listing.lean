import DatasetSearch.Command.Run
import Mathlib.Data.List.Forall2

/-! How a record is listed.

A record has a line with its year, its name and its address, and a second one with its creators if it
has any (`Listed`). The year is what the first four bytes of its date spell (`YearOf`). Just this is
printed (`listed_iff`). -/
namespace DatasetSearch.Command
open Search (Record)

/-! ### Years -/

/-- The year that a date begins with: its first four bytes, or dashes where no character ends
there. -/
inductive YearOf (date : String) : String → Prop where
  | written (year rest : String) (split : date = year ++ rest) (size : year.utf8ByteSize = 4) :
      YearOf date year
  | missing (unsplit : ∀ year rest : String, date = year ++ rest → year.utf8ByteSize ≠ 4) :
      YearOf date "----"

theorem utf8ByteSize_cons (c : Char) (cs : List Char) :
    (String.ofList (c :: cs)).utf8ByteSize = c.utf8Size + (String.ofList cs).utf8ByteSize := by
  rw [String.ofList_cons, String.utf8ByteSize_append, String.utf8ByteSize_singleton]

theorem takeBytes_zero (cs : List Char) : takeBytes 0 cs = some [] := by
  cases cs <;> rfl

theorem takeBytes_append (front rest : List Char) :
    takeBytes (String.ofList front).utf8ByteSize (front ++ rest) = some front := by
  induction front with
  | nil => exact takeBytes_zero rest
  | cons c front ih =>
    have hpos := c.utf8Size_pos
    rw [List.cons_append, utf8ByteSize_cons, takeBytes, if_neg (by omega),
      if_pos (Nat.le_add_right ..), Nat.add_sub_cancel_left, ih, Option.map_some]

theorem takeBytes_eq_some {n : Nat} {cs front : List Char} (h : takeBytes n cs = some front) :
    ∃ rest, cs = front ++ rest ∧ (String.ofList front).utf8ByteSize = n := by
  induction cs generalizing n front with
  | nil =>
    rw [takeBytes] at h
    split at h
    · next hn =>
      cases h
      exact ⟨[], rfl, hn.symm⟩
    · cases h
  | cons c others ih =>
    rw [takeBytes] at h
    split at h
    · next hn =>
      cases h
      exact ⟨c :: others, rfl, hn.symm⟩
    split at h
    · next hfits =>
      obtain ⟨front', hfront, rfl⟩ := Option.map_eq_some_iff.mp h
      obtain ⟨rest, rfl, hsize⟩ := ih hfront
      exact ⟨rest, rfl, by rw [utf8ByteSize_cons, hsize, Nat.add_sub_cancel' hfits]⟩
    · cases h

theorem yearText_append {year : String} (hsize : year.utf8ByteSize = 4) (rest : String) :
    yearText (year ++ rest) = year := by
  have htake := takeBytes_append year.toList rest.toList
  rw [String.ofList_toList, hsize, ← String.toList_append] at htake
  rw [yearText, htake]
  exact String.ofList_toList

theorem yearOf_yearText (date : String) : YearOf date (yearText date) := by
  cases htake : takeBytes 4 date.toList with
  | some front =>
    obtain ⟨rest, hrest, hsize⟩ := takeBytes_eq_some htake
    rw [yearText, htake]
    refine .written _ (String.ofList rest) ?_ hsize
    rw [← String.ofList_append, ← hrest, String.ofList_toList]
  | none =>
    rw [yearText, htake]
    refine .missing fun year rest hsplit hsize => ?_
    have hfront := takeBytes_append year.toList rest.toList
    rw [String.ofList_toList, hsize, ← String.toList_append, ← hsplit, htake] at hfront
    cases hfront

/-- A date has one year. -/
theorem YearOf.eq_yearText {date year : String} (h : YearOf date year) : year = yearText date := by
  cases h with
  | written _ rest hsplit hsize => rw [hsplit, yearText_append hsize]
  | missing hunsplit =>
    have htext := yearOf_yearText date
    generalize yearText date = text at htext ⊢
    cases htext with
    | written _ rest hsplit hsize => exact absurd hsize (hunsplit _ rest hsplit)
    | missing => rfl

/-! ### Records -/

/-- The lines that list a record: its year, its name and its address, and below them its creators if
it has any. -/
inductive Listed (r : Record) : List String → Prop where
  | plain (year : String) (dated : YearOf r.created year) (anonymous : r.creators = []) :
      Listed r [year ++ "  " ++ r.name ++ "  " ++ r.url]
  | credited (year : String) (dated : YearOf r.created year) (credits : r.creators ≠ []) :
      Listed r [year ++ "  " ++ r.name ++ "  " ++ r.url,
        "      " ++ "; ".intercalate r.creators]

theorem listed_iff {r : Record} {lines : List String} : Listed r lines ↔ recordLines r = lines := by
  rw [recordLines]
  constructor
  · intro h
    cases h with
    | plain year hyear hnone => rw [hyear.eq_yearText, hnone]; rfl
    | credited year hyear hne => rw [hyear.eq_yearText, if_neg (by simpa using hne)]
  · rintro rfl
    split
    · next hnone => exact .plain _ (yearOf_yearText _) (List.isEmpty_iff.mp hnone)
    · next hne => exact .credited _ (yearOf_yearText _) (by simpa using hne)

/-- The hits of a search are listed one by one. -/
theorem forall₂_listed {hits : List Json} {listings : List (List String)} :
    List.Forall₂ (fun hit => Listed (.ofHit hit)) hits listings ↔
      (hits.map fun hit => recordLines (.ofHit hit)) = listings := by
  constructor
  · intro h
    induction h with
    | nil => rfl
    | cons hhead _ ih => rw [List.map_cons, listed_iff.mp hhead, ih]
  · rintro rfl
    exact List.forall₂_map_right_iff.mpr (List.forall₂_same.mpr fun _ _ => listed_iff.mpr rfl)

end DatasetSearch.Command
