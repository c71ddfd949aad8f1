import DatasetSearch.Text.Lowercase

/-! Lower-casing a part of a text.

A character becomes the same in a text and in a part of it, but for the capital sigma, whose lower
case hangs on what stands around it. So a part becomes what it becomes alone just when its capital
sigmas are at the end of a word in both or in neither (`lowerIn_eq_iff`). It is found again in lower
case in every text that contains it, or in every text that it begins, just when it settles by itself
which of them are at the end of a word (`settled_iff`, `endSettled_iff`). -/
namespace DatasetSearch.Text

/-! ### Words -/

/-- Case ignores every character. -/
def Ignored (cs : List Char) : Prop := cs.all (inRanges caseIgnorable) = true

instance (cs : List Char) : Decidable (Ignored cs) := inferInstanceAs (Decidable (_ = true))

/-- Whether a capital sigma is at the end of a word, where `before` holds what stands before it, the
last character first. -/
def isFinal (before after : List Char) : Bool := startsCased before && !startsCased after

theorem startsCased_append (xs ys : List Char) :
    startsCased (xs ++ ys) = if Ignored xs then startsCased ys else startsCased xs := by
  induction xs with
  | nil => simp [Ignored]
  | cons c rest ih =>
    by_cases hc : inRanges caseIgnorable c = true
    · simpa [startsCased, Ignored, hc] using ih
    · simp [startsCased, Ignored, hc]

theorem startsCased_of_ignored {xs : List Char} (h : Ignored xs) : startsCased xs = false := by
  have happend := startsCased_append xs []
  rwa [List.append_nil, if_pos h] at happend

/-! ### Capital sigmas -/

/-- Every capital sigma of a text has a property, which looks at what stands before it, the last
character first, and at what stands after it. -/
def AtSigmas (P : List Char → List Char → Prop) (before : List Char) : List Char → Prop
  | [] => True
  | c :: rest => (c = 'Σ' → P before rest) ∧ AtSigmas P (c :: before) rest

section
variable {P Q : List Char → List Char → Prop}

instance AtSigmas.decidable [∀ before after, Decidable (P before after)] (before : List Char) :
    (cs : List Char) → Decidable (AtSigmas P before cs)
  | [] => inferInstanceAs (Decidable True)
  | c :: rest =>
    have := AtSigmas.decidable (c :: before) rest
    inferInstanceAs (Decidable (_ ∧ _))

theorem AtSigmas.imp (h : ∀ before after, P before after → Q before after) {before cs : List Char}
    (hcs : AtSigmas P before cs) : AtSigmas Q before cs := by
  induction cs generalizing before with
  | nil => trivial
  | cons c rest ih => exact ⟨fun hc => h _ _ (hcs.1 hc), ih hcs.2⟩

theorem AtSigmas.and {before cs : List Char} (hP : AtSigmas P before cs)
    (hQ : AtSigmas Q before cs) :
    AtSigmas (fun before after => P before after ∧ Q before after) before cs := by
  induction cs generalizing before with
  | nil => trivial
  | cons c rest ih => exact ⟨fun hc => ⟨hP.1 hc, hQ.1 hc⟩, ih hP.2 hQ.2⟩

end

/-- A capital sigma is at the end of a word with `left` and `right` around it just when it is there
without them. -/
def SameAround (left right before after : List Char) : Prop :=
  isFinal (before ++ left) (after ++ right) = isFinal before after

instance (left right before after : List Char) : Decidable (SameAround left right before after) :=
  inferInstanceAs (Decidable (_ = _))

/-- The characters around a capital sigma settle whether it is at the end of a word. -/
def SettledBy (before after : List Char) : Prop :=
  startsCased after = true ∨ ¬Ignored before ∧ (startsCased before = false ∨ ¬Ignored after)

instance (before after : List Char) : Decidable (SettledBy before after) :=
  inferInstanceAs (Decidable (_ ∨ _))

/-- A capital sigma with a word before it has something after it that ends the word or goes on with
it. -/
def EndSettledBy (before after : List Char) : Prop := startsCased before = true → ¬Ignored after

instance (before after : List Char) : Decidable (EndSettledBy before after) :=
  inferInstanceAs (Decidable (_ → _))

theorem SettledBy.sameAround {before after : List Char} (h : SettledBy before after)
    (left right : List Char) : SameAround left right before after := by
  simp only [SameAround, isFinal, startsCased_append]
  rcases h with hafter | ⟨hbefore, hsettled⟩
  · have hnot : ¬Ignored after := fun h => by simp [startsCased_of_ignored h] at hafter
    simp [hnot, hafter]
  · rcases hsettled with hcased | hafter
    · simp [hbefore, hcased]
    · simp [hbefore, hafter]

theorem EndSettledBy.sameAround {before after : List Char} (h : EndSettledBy before after)
    (right : List Char) : SameAround [] right before after := by
  simp only [SameAround, isFinal, startsCased_append, List.append_nil]
  cases hcased : startsCased before with
  | false => simp
  | true => simp [h hcased]

theorem endSettledBy_of_sameAround {before after : List Char} {c : Char}
    (hc : startsCased [c] = true) (h : SameAround [] [c] before after) :
    EndSettledBy before after := by
  intro hcased hafter
  simp [SameAround, isFinal, startsCased_append, hcased, hafter, hc,
    startsCased_of_ignored hafter] at h

theorem settledBy_of_sameAround {before after : List Char} {c d : Char}
    (hc : startsCased [c] = true) (hd : startsCased [d] = true)
    (hleft : SameAround [c] [] before after) (hright : SameAround [] [d] before after) :
    SettledBy before after := by
  by_cases hafter : startsCased after = true
  · exact .inl hafter
  · refine .inr ⟨fun hbefore => ?_, ?_⟩
    · simp [SameAround, isFinal, startsCased_append, hbefore, hc, hafter,
        startsCased_of_ignored hbefore] at hleft
    · have hend := endSettledBy_of_sameAround hd hright
      cases hcased : startsCased before with
      | false => exact .inl rfl
      | true => exact .inr (hend hcased)

/-! ### Parts -/

/-- What a text becomes with `after` behind it, where `before` holds what stands before it, the last
character first. -/
def lowerIn (before after : List Char) : List Char → List Char
  | [] => []
  | c :: rest =>
    (if c = 'Σ' then [if isFinal before (rest ++ after) then 'ς' else 'σ'] else lowerChar c) ++
      lowerIn (c :: before) after rest

theorem lowerFrom_append (before cs after : List Char) :
    lowerFrom before (cs ++ after) =
      lowerIn before after cs ++ lowerFrom (cs.reverse ++ before) after := by
  induction cs generalizing before with
  | nil => rfl
  | cons c rest ih =>
    rw [List.cons_append, lowerFrom, lowerIn, ih, isFinal, List.append_assoc, List.reverse_cons,
      List.append_assoc, List.singleton_append]

theorem lowerFrom_eq (before cs : List Char) : lowerFrom before cs = lowerIn before [] cs := by
  have happend := lowerFrom_append before cs []
  rwa [List.append_nil, lowerFrom, List.append_nil] at happend

theorem length_lowerIn (before before' after after' cs : List Char) :
    (lowerIn before after cs).length = (lowerIn before' after' cs).length := by
  induction cs generalizing before before' with
  | nil => rfl
  | cons c rest ih =>
    rw [lowerIn, lowerIn, List.length_append, List.length_append, ih]
    split <;> rfl

/-- A part becomes what it becomes alone just when each capital sigma is at the end of a word in
both or in neither. -/
theorem lowerIn_eq_iff (left right before cs : List Char) :
    lowerIn (before ++ left) right cs = lowerFrom before cs ↔
      AtSigmas (SameAround left right) before cs := by
  rw [lowerFrom_eq]
  induction cs generalizing before with
  | nil => exact ⟨fun _ => trivial, fun _ => rfl⟩
  | cons c rest ih =>
    rw [AtSigmas, ← ih, lowerIn, lowerIn, List.append_nil, SameAround]
    by_cases hc : c = 'Σ'
    · simp only [hc, if_true, List.cons_append, List.nil_append, List.cons.injEq, true_imp_iff]
      refine and_congr_left fun _ => ?_
      cases isFinal (before ++ left) (rest ++ right) <;> cases isFinal before rest <;> decide
    · simp only [hc, if_false, false_imp_iff, true_and, List.append_cancel_left_eq,
        List.cons_append]

/-! ### Finding a part again -/

theorem lower_infix (before after : List Char) {cs : List Char}
    (h : AtSigmas (SameAround before.reverse after) [] cs) :
    lowerFrom [] cs <:+: lowerFrom [] (before ++ (cs ++ after)) := by
  have hpart := (lowerIn_eq_iff before.reverse after [] cs).mpr h
  rw [lowerFrom_append, List.append_nil, lowerFrom_append, ← hpart, List.nil_append]
  exact List.infix_append' ..

/-- A letter that is not a given one. It is a cased one, and its own lower case. -/
theorem exists_letter (x : Option Char) :
    ∃ c, x ≠ some c ∧ startsCased [c] = true ∧
      ∀ before after, lowerFrom before (c :: after) = c :: lowerFrom (c :: before) after := by
  have hlower {c : Char} (hsigma : c ≠ 'Σ') (hc : lowerChar c = [c]) (before after : List Char) :
      lowerFrom before (c :: after) = c :: lowerFrom (c :: before) after := by
    rw [lowerFrom, if_neg hsigma, hc, List.singleton_append]
  by_cases hx : x = some 'a'
  · exact ⟨'b', by rw [hx]; decide, by decide +kernel, hlower (by decide) (by decide)⟩
  · exact ⟨'a', hx, by decide +kernel, hlower (by decide) (by decide)⟩

/-- Behind a character that it does not begin with, a text of the same length is found only as it
stands. -/
theorem eq_of_infix_cons {xs ys : List Char} {c : Char} (hlength : xs.length = ys.length)
    (hc : xs.head? ≠ some c) (h : xs <:+: c :: ys) : xs = ys := by
  rcases List.infix_cons_iff.mp h with hprefix | hinfix
  · rcases List.prefix_cons_iff.mp hprefix with rfl | ⟨rest, rfl, -⟩
    · exact (List.length_eq_zero_iff.mp hlength.symm).symm
    · exact absurd rfl hc
  · exact hinfix.eq_of_length hlength

theorem eq_of_infix_concat {xs ys : List Char} {c : Char} (hlength : xs.length = ys.length)
    (hc : xs.getLast? ≠ some c) (h : xs <:+: ys ++ [c]) : xs = ys := by
  have hreverse : xs.reverse <:+: c :: ys.reverse := by simpa using List.reverse_infix.mpr h
  exact List.reverse_inj.mp (eq_of_infix_cons (by simpa using hlength) (by simpa using hc) hreverse)

theorem length_lowerFrom (left right cs : List Char) :
    (lowerFrom [] cs).length = (lowerIn left right cs).length := by
  rw [lowerFrom_eq]
  exact length_lowerIn ..

theorem sameAround_of_infix_cons {c : Char} {cs : List Char}
    (hc : (lowerFrom [] cs).head? ≠ some c)
    (hlower : lowerFrom [] (c :: cs) = c :: lowerFrom [c] cs)
    (h : lowerFrom [] cs <:+: lowerFrom [] (c :: cs)) : AtSigmas (SameAround [c] []) [] cs := by
  rw [hlower, lowerFrom_eq [c]] at h
  exact (lowerIn_eq_iff [c] [] [] cs).mp (eq_of_infix_cons (length_lowerFrom ..) hc h).symm

theorem sameAround_of_infix_concat {c : Char} {cs : List Char}
    (hc : (lowerFrom [] cs).getLast? ≠ some c) (hlower : lowerFrom cs.reverse [c] = [c])
    (h : lowerFrom [] cs <:+: lowerFrom [] (cs ++ [c])) : AtSigmas (SameAround [] [c]) [] cs := by
  rw [lowerFrom_append, List.append_nil, hlower] at h
  exact (lowerIn_eq_iff [] [c] [] cs).mp (eq_of_infix_concat (length_lowerFrom ..) hc h).symm

/-- A text settles which of its capital sigmas are at the end of a word. -/
def Settled (cs : List Char) : Prop := AtSigmas SettledBy [] cs

/-- A text settles which of its capital sigmas are at the end of a word, whatever stands after
it. -/
def EndSettled (cs : List Char) : Prop := AtSigmas EndSettledBy [] cs

instance (cs : List Char) : Decidable (Settled cs) := inferInstanceAs (Decidable (AtSigmas ..))

instance (cs : List Char) : Decidable (EndSettled cs) := inferInstanceAs (Decidable (AtSigmas ..))

/-- A text is found again, in lower case, in every longer text that begins with it just when it
settles its capital sigmas, whatever stands after it. -/
theorem endSettled_iff (cs : List Char) :
    (∀ whole, cs <+: whole → whole ≠ cs → lowerFrom [] cs <:+: lowerFrom [] whole) ↔
      EndSettled cs := by
  constructor
  · intro h
    obtain ⟨c, hne, hcased, hlower⟩ := exists_letter (lowerFrom [] cs).getLast?
    have hsame := sameAround_of_infix_concat hne (hlower _ [])
      (h (cs ++ [c]) (List.prefix_append ..) (by simp))
    exact hsame.imp fun _ _ => endSettledBy_of_sameAround hcased
  · rintro h whole ⟨after, rfl⟩ -
    exact lower_infix [] after (h.imp fun _ _ hs => hs.sameAround after)

/-- A text is found again, in lower case, in every longer text that contains it just when it settles
its capital sigmas. -/
theorem settled_iff (cs : List Char) :
    (∀ whole, cs <:+: whole → whole ≠ cs → lowerFrom [] cs <:+: lowerFrom [] whole) ↔
      Settled cs := by
  constructor
  · intro h
    -- a cased letter on one side is enough to move the end of a word
    obtain ⟨c, hne, hcased, hlower⟩ := exists_letter (lowerFrom [] cs).head?
    obtain ⟨d, hne', hcased', hlower'⟩ := exists_letter (lowerFrom [] cs).getLast?
    have hleft := sameAround_of_infix_cons hne (hlower [] cs)
      (h (c :: cs) (List.infix_cons (List.infix_refl cs)) (by simp))
    have hright := sameAround_of_infix_concat hne' (hlower' _ [])
      (h (cs ++ [d]) (List.prefix_append ..).isInfix (by simp))
    exact (hleft.and hright).imp fun _ _ hs => settledBy_of_sameAround hcased hcased' hs.1 hs.2
  · rintro h whole ⟨before, after, rfl⟩ -
    rw [List.append_assoc]
    exact lower_infix before after (h.imp fun _ _ hs => hs.sameAround before.reverse after)

end DatasetSearch.Text
