import DatasetSearch.Proofs.Text.Encoding
import DatasetSearch.Query

/-! A query string can be read back.

Keys and values are encoded so that no separator is left in them; splitting at the separators and
decoding what stands between them gives the pairs that were written, in their order. -/
namespace DatasetSearch.Query
open Text.Percent

theorem toList_encodePair (p : String × String) :
    (encodePair p).toList = (Text.Percent.encode p.1).toList ++ '=' :: (Text.Percent.encode p.2).toList := by
  simp [encodePair]

theorem decodePair_encodePair (p : String × String) : decodePair (encodePair p).toList = some p := by
  rw [decodePair, toList_encodePair, Text.splitFirst_append (not_mem_encode (.inr rfl) p.1)]
  simp only [decodeText_encode]

theorem not_mem_encodePair (p : String × String) : '&' ∉ (encodePair p).toList := by
  rw [toList_encodePair]
  intro hmem
  rcases List.mem_append.mp hmem with hkey | hvalue
  · exact not_mem_encode (.inl rfl) p.1 hkey
  · rcases List.mem_cons.mp hvalue with heq | hvalue
    · exact absurd heq (by decide)
    · exact not_mem_encode (.inl rfl) p.2 hvalue

theorem toList_encodePairs (ps : List (String × String)) :
    (encodePairs ps).toList = ['&'].intercalate (ps.map fun p => (encodePair p).toList) := by
  rw [encodePairs, String.toList_intercalate, List.map_map]
  rfl

theorem mapM_decodePair (ps : List (String × String)) :
    (ps.map fun p => (encodePair p).toList).mapM decodePair = some ps := by
  induction ps with
  | nil => rfl
  | cons p ps ih => simp [decodePair_encodePair, ih]

theorem splitAll_encodePairs {ps : List (String × String)} (h : ps ≠ []) :
    Text.splitAll '&' (encodePairs ps).toList = ps.map fun p => (encodePair p).toList := by
  rw [toList_encodePairs]
  refine Text.splitAll_intercalate (fun piece hpiece => ?_) (by simpa using h)
  obtain ⟨p, _, rfl⟩ := List.mem_map.mp hpiece
  exact not_mem_encodePair p

/-- Only no pairs at all make the empty text, since each pair has its `=`. -/
theorem toList_encodePairs_ne_nil {ps : List (String × String)} (h : ps ≠ []) :
    (encodePairs ps).toList ≠ [] := by
  intro he
  have hpieces := splitAll_encodePairs h
  rw [he, Text.splitAll] at hpieces
  obtain ⟨p, _, hp⟩ := List.mem_map.mp (hpieces ▸ List.mem_singleton_self [])
  rw [toList_encodePair] at hp
  exact absurd hp (by simp)

/-- Decoding gives back the pairs that were written. -/
theorem decode_encodePairs (ps : List (String × String)) : decode (encodePairs ps) = some ps := by
  by_cases h : ps = []
  · subst h
    rfl
  · rw [decode]
    split
    · next he => exact absurd he (toList_encodePairs_ne_nil h)
    · rw [splitAll_encodePairs h, mapM_decodePair]

theorem fst_of_scalarPair? {x : String × Value} {p : String × String} (h : scalarPair? x = some p) :
    p.1 = x.1 := by
  rw [scalarPair?] at h
  split at h
  · cases h
  · obtain ⟨_, _, rfl⟩ := Option.map_eq_some_iff.mp h
    rfl

theorem fst_of_mem_listPairs {x : String × Value} {p : String × String} (h : p ∈ listPairs x) :
    p.1 = x.1 := by
  rw [listPairs] at h
  split at h
  · obtain ⟨_, _, rfl⟩ := List.mem_map.mp h
    rfl
  · cases h

/-- A query string can be read back. Decoding it gives the key and the text of every scalar
value that is not falsy, in the order of the parameters, and after them the key with each item of
every list value. Every byte of a key or value but for letters, digits, `-`, `.`, `_` and `~` is
written as `%` and two upper-case digits. -/
theorem decode_encode (params : Params) :
    let scalars := params.items.filterMap fun
      | (_, .list _) => none
      | (key, value) => if value.isFalsy then none else value.scalarText?.map (key, ·)
    let repeated := params.items.flatMap fun
      | (key, .list items) => items.map (key, ·)
      | _ => []
    let escaped (s : String) := s.toUTF8.data.toList.flatMap written
    decode (encode params) = some (scalars ++ repeated) ∧
      (encode params).toList = ['&'].intercalate
        ((scalars ++ repeated).map fun p => escaped p.1 ++ '=' :: escaped p.2) := by
  intro scalars repeated escaped
  have hscalars : params.items.filterMap scalarPair? = scalars := by
    refine congrArg (List.filterMap · params.items) (funext fun p => ?_)
    obtain ⟨key, value⟩ := p
    cases value <;> rfl
  have hrepeated : params.items.flatMap listPairs = repeated := by
    refine congrArg (List.flatMap · params.items) (funext fun p => ?_)
    obtain ⟨key, value⟩ := p
    cases value <;> rfl
  have hpairs : pairs params = scalars ++ repeated := by rw [pairs, hscalars, hrepeated]
  refine ⟨by rw [encode, decode_encodePairs, hpairs], ?_⟩
  rw [encode, toList_encodePairs, hpairs]
  simp only [toList_encodePair, toList_encode_eq, escaped]

end DatasetSearch.Query
