import DatasetSearch.Proofs.Text.Lowercase

/-! Texts that are longer in lower case.

The capital I with a dot above is the one character that has two in lower case, so a text grows by
one character for each of them (`length_lowerFrom_eq`), and of two texts with one lower case the
longer one has fewer (`length_lt_iff_of_lower_eq`). Spelled with a small i and a dot instead, a text
has the same lower case (`lower_spelled`). -/
namespace DatasetSearch.Text

/-! ### Lengths -/

theorem length_lowerChar (c : Char) : (lowerChar c).length = if c = 'İ' then 2 else 1 := by
  have hdotted : c.toNat = 0x130 ↔ c = 'İ' := by
    rw [← Char.toNat_inj]
    rfl
  unfold lowerChar
  by_cases hascii : c.toNat < 0x80
  · have hne : c ≠ 'İ' := fun heq => absurd (hdotted.mpr heq) (by omega)
    rw [if_pos hascii, if_neg hne]
    rfl
  · simp only [if_neg hascii, hdotted]
    split <;> rfl

theorem length_lowerFrom_eq (before cs : List Char) :
    (lowerFrom before cs).length = cs.length + cs.count 'İ' := by
  induction cs generalizing before with
  | nil => rfl
  | cons c rest ih =>
    have hfirst : (if c = 'Σ' then [if startsCased before && !startsCased rest then 'ς' else 'σ']
        else lowerChar c).length = if c = 'İ' then 2 else 1 := by
      by_cases hsigma : c = 'Σ'
      · rw [if_pos hsigma, hsigma]
        rfl
      · rw [if_neg hsigma, length_lowerChar]
    rw [lowerFrom, List.length_append, hfirst, ih, List.length_cons, List.count_cons]
    by_cases hdotted : c = 'İ'
    · simp only [hdotted, if_true, beq_self_eq_true]
      omega
    · simp only [hdotted, if_false, beq_iff_eq]
      omega

/-- Of two texts with one lower case the longer one has fewer dotted capitals. -/
theorem length_lt_iff_of_lower_eq {s t : String} (h : lower s = lower t) :
    s.length < t.length ↔ t.toList.count 'İ' < s.toList.count 'İ' := by
  have hchars : lowerFrom [] s.toList = lowerFrom [] t.toList := String.ofList_inj.mp h
  have hlength := congrArg List.length hchars
  rw [length_lowerFrom_eq, length_lowerFrom_eq, String.length_toList,
    String.length_toList] at hlength
  omega

/-! ### Another spelling -/

/-- A text with a small i and a dot above for each dotted capital. -/
def spelled (cs : List Char) : List Char :=
  cs.flatMap fun c => if c = 'İ' then ['i', '\u0307'] else [c]

theorem spelled_cons (c : Char) (rest : List Char) :
    spelled (c :: rest) = (if c = 'İ' then ['i', '\u0307'] else [c]) ++ spelled rest :=
  List.flatMap_cons

theorem not_mem_spelled (cs : List Char) : 'İ' ∉ spelled cs := by
  intro hmem
  obtain ⟨c, -, hc⟩ := List.mem_flatMap.mp hmem
  by_cases hdotted : c = 'İ'
  · rw [if_pos hdotted] at hc
    exact absurd hc (by decide)
  · rw [if_neg hdotted] at hc
    exact hdotted (List.mem_singleton.mp hc).symm

/-- Both spellings begin with a letter that has case. -/
theorem startsCased_either (rest rest' : List Char) :
    startsCased ('i' :: rest) = startsCased ('İ' :: rest') := by
  have hsmall : inRanges caseIgnorable 'i' = false ∧ inRanges cased 'i' = true := by decide +kernel
  have hdotted : inRanges caseIgnorable 'İ' = false ∧ inRanges cased 'İ' = true := by decide +kernel
  simp [startsCased, hsmall, hdotted]

theorem startsCased_spelled (cs : List Char) : startsCased (spelled cs) = startsCased cs := by
  induction cs with
  | nil => rfl
  | cons c rest ih =>
    rw [spelled_cons]
    by_cases hdotted : c = 'İ'
    · rw [if_pos hdotted, hdotted]
      exact startsCased_either _ _
    · rw [if_neg hdotted]
      show startsCased (c :: spelled rest) = _
      rw [startsCased, startsCased, ih]

/-- The dot is passed over where a word is looked for, so what stands before a character only has to
agree on whether it is a word. -/
theorem lowerFrom_spelled {before before' : List Char} (cs : List Char)
    (h : startsCased before = startsCased before') :
    lowerFrom before (spelled cs) = lowerFrom before' cs := by
  induction cs generalizing before before' with
  | nil => rfl
  | cons c rest ih =>
    rw [spelled_cons]
    by_cases hdotted : c = 'İ'
    · have hdot : inRanges caseIgnorable '\u0307' = true := by decide +kernel
      have hbefore : startsCased ('\u0307' :: 'i' :: before) = startsCased ('İ' :: before') := by
        rw [startsCased, if_pos hdot]
        exact startsCased_either _ _
      rw [if_pos hdotted, hdotted]
      show 'i' :: '\u0307' :: lowerFrom ('\u0307' :: 'i' :: before) (spelled rest) =
        'i' :: '\u0307' :: lowerFrom ('İ' :: before') rest
      rw [ih hbefore]
    · have hbefore : startsCased (c :: before) = startsCased (c :: before') := by
        rw [startsCased, startsCased, h]
      rw [if_neg hdotted, List.singleton_append, lowerFrom, lowerFrom, h, startsCased_spelled,
        ih hbefore]

theorem lower_spelled (s : String) : lower (String.ofList (spelled s.toList)) = lower s := by
  rw [lower, lower, String.toList_ofList, lowerFrom_spelled s.toList rfl]

end DatasetSearch.Text
