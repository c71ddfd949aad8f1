import DatasetSearch.Search.View
import Mathlib.Algebra.Ring.Parity
import Mathlib.Data.List.Induction
import Mathlib.Data.List.Nodup

/-! The open panels of the results page as an ordered set.

Toggling takes a panel out, and puts it at the end if it was not there
(`openPanels_togglePanel`). So distinct panels stay distinct, and how often a panel was toggled
decides whether it is open (`mem_run_iff`). What was open from the start and was never toggled stays
in front; behind it stands what was opened since, each at its last opening (`arranged_run`). Sorting
and narrowing touch no panel. -/
namespace DatasetSearch.Search.View

/-- An edit changes the page that is there and does not set another. -/
def Edit.InPlace : Edit → Prop
  | .set _ => False
  | _ => True

section
variable {v : View} {es : List Edit} {e : Edit} {i j k : Nat}

/-! ### One edit -/

/-- Toggling takes a panel out, and puts it at the end if it was not there. -/
theorem openPanels_togglePanel (distinct : v.openPanels.Nodup) (i : Nat) :
    (v.togglePanel i).openPanels =
      v.openPanels.filter (· ≠ i) ++ if i ∈ v.openPanels then [] else [i] := by
  show (if i ∈ v.openPanels then v.openPanels.erase i else v.openPanels ++ [i]) = _
  split
  · rw [distinct.erase_eq_filter, List.append_nil]
    exact List.filter_congr fun j _ => by rw [bne, beq_eq_decide, decide_not]
  · next hi =>
    have hne : ∀ j ∈ v.openPanels, decide (j ≠ i) = true := fun j hj =>
      decide_eq_true fun hji => hi (hji ▸ hj)
    rw [List.filter_eq_self.mpr hne]

/-- Toggling turns one panel over and leaves all others. -/
theorem mem_togglePanel (distinct : v.openPanels.Nodup) :
    j ∈ (v.togglePanel i).openPanels ↔ if j = i then j ∉ v.openPanels else j ∈ v.openPanels := by
  rw [openPanels_togglePanel distinct, List.mem_append, List.mem_filter, decide_eq_true_iff]
  by_cases hji : j = i
  · subst hji
    by_cases hj : j ∈ v.openPanels <;> simp [hj]
  · have hnot : j ∉ (if i ∈ v.openPanels then [] else [i]) := by
      split <;> simp [hji]
    simp [hji, hnot]

theorem nodup_togglePanel (distinct : v.openPanels.Nodup) (i : Nat) :
    (v.togglePanel i).openPanels.Nodup := by
  rw [openPanels_togglePanel distinct]
  have hrest := distinct.filter fun j => decide (j ≠ i)
  split
  · rwa [List.append_nil]
  · refine hrest.append (List.nodup_singleton i) fun j hj hji => ?_
    exact of_decide_eq_true (List.mem_filter.mp hj).2 (List.mem_singleton.mp hji)

/-- An edit in place toggles one panel or leaves them all. -/
theorem Edit.InPlace.toggles_or_keeps (he : e.InPlace) :
    (∃ i, e = .togglePanel i) ∨
      (∀ i, e ≠ .togglePanel i) ∧ ∀ v : View, (v.edit e).openPanels = v.openPanels := by
  cases e with
  | togglePanel i => exact .inl ⟨i, rfl⟩
  | sort key direction => exact .inr ⟨nofun, fun _ => rfl⟩
  | setRange r b => exact .inr ⟨nofun, fun _ => by cases r <;> rfl⟩
  | set w => exact he.elim

theorem nodup_edit (distinct : v.openPanels.Nodup) (he : e.InPlace) :
    (v.edit e).openPanels.Nodup := by
  rcases he.toggles_or_keeps with ⟨i, rfl⟩ | ⟨-, hkeeps⟩
  · exact nodup_togglePanel distinct i
  · rwa [hkeeps]

/-! ### What is open -/

theorem nodup_run (distinct : v.openPanels.Nodup) (hes : ∀ e ∈ es, e.InPlace) :
    (v.run es).openPanels.Nodup := by
  induction es generalizing v with
  | nil => exact distinct
  | cons e rest ih =>
    obtain ⟨he, hrest⟩ := List.forall_mem_cons.mp hes
    exact ih (nodup_edit distinct he) hrest

/-- A panel is open just when it was and was toggled an even number of times, or was not and was
toggled an odd number of times. -/
theorem mem_run_iff (distinct : v.openPanels.Nodup) (hes : ∀ e ∈ es, e.InPlace) :
    i ∈ (v.run es).openPanels ↔
      i ∈ v.openPanels ∧ Even (es.count (.togglePanel i)) ∨
        i ∉ v.openPanels ∧ Odd (es.count (.togglePanel i)) := by
  induction es generalizing v with
  | nil => simp [run]
  | cons e rest ih =>
    obtain ⟨he, hrest⟩ := List.forall_mem_cons.mp hes
    rw [run, ih (nodup_edit distinct he) hrest]
    rcases he.toggles_or_keeps with ⟨j, rfl⟩ | ⟨hne, hkeeps⟩
    · rw [edit, mem_togglePanel distinct]
      by_cases hij : i = j
      · -- the first toggle turns both the panel and the parity over
        subst hij
        rw [if_pos rfl, List.count_cons_self, Nat.even_add_one, Nat.odd_add_one,
          Nat.not_even_iff_odd, Nat.not_odd_iff_even, not_not]
        exact or_comm
      · have hother : Edit.togglePanel j ≠ .togglePanel i := fun h =>
          hij (Edit.togglePanel.inj h).symm
        rw [if_neg hij, List.count_cons_of_ne hother]
    · rw [hkeeps, List.count_cons_of_ne (hne i)]

/-! ### Openings -/

/-- The edit at a place opens a panel: it is closed before it and open after it. -/
def Opens (v : View) (es : List Edit) (i k : Nat) : Prop :=
  i ∉ (v.run (es.take k)).openPanels ∧ i ∈ (v.run (es.take (k + 1))).openPanels

/-- The edit at a place is the last to open a panel. -/
def LastOpens (v : View) (es : List Edit) (i k : Nat) : Prop :=
  Opens v es i k ∧ ∀ l, Opens v es i l → l ≤ k

/-- A panel was last opened before another was. -/
def OpenedBefore (v : View) (es : List Edit) (i j : Nat) : Prop :=
  ∃ k l, LastOpens v es i k ∧ LastOpens v es j l ∧ k < l

theorem run_append (v : View) (es es' : List Edit) : v.run (es ++ es') = (v.run es).run es' := by
  induction es generalizing v with
  | nil => rfl
  | cons e rest ih => exact ih _

theorem Opens.lt_length (h : Opens v es i k) : k < es.length := by
  refine Nat.lt_of_not_le fun hk => ?_
  obtain ⟨hclosed, hopen⟩ := h
  rw [List.take_of_length_le hk] at hclosed
  rw [List.take_of_length_le (Nat.le_succ_of_le hk)] at hopen
  exact hclosed hopen

theorem opens_snoc : Opens v (es ++ [e]) i k ↔ Opens v es i k ∨
    k = es.length ∧ i ∉ (v.run es).openPanels ∧ i ∈ ((v.run es).edit e).openPanels := by
  rcases Nat.lt_trichotomy k es.length with hk | rfl | hk
  · rw [Opens, List.take_append_of_le_length (by omega), List.take_append_of_le_length (by omega)]
    exact ⟨.inl, fun h => h.resolve_right fun hlast => by omega⟩
  · have hnot : ¬Opens v es i es.length := fun h => Nat.lt_irrefl _ h.lt_length
    have hrun : v.run (es ++ [e]) = (v.run es).edit e := run_append v es [e]
    rw [Opens, List.take_left, List.take_of_length_le (by simp), hrun, or_iff_right hnot]
    exact (and_iff_right rfl).symm
  · have hpast : (es ++ [e]).length ≤ k := by
      rw [List.length_append, List.length_singleton]
      exact hk
    refine iff_of_false (fun h => Nat.not_lt.mpr hpast h.lt_length) ?_
    rintro (h | ⟨rfl, -⟩)
    · exact Nat.lt_asymm hk h.lt_length
    · exact Nat.lt_irrefl _ hk

/-- An edit that does not open a panel leaves its last opening. -/
theorem LastOpens.snoc (h : LastOpens v es i k)
    (hnot : i ∉ (v.run es).openPanels → i ∉ ((v.run es).edit e).openPanels) :
    LastOpens v (es ++ [e]) i k := by
  refine ⟨opens_snoc.mpr (.inl h.1), fun l hl => ?_⟩
  rcases opens_snoc.mp hl with hl | ⟨-, hclosed, hopen⟩
  · exact h.2 l hl
  · exact absurd hopen (hnot hclosed)

/-- An edit that opens a panel is the last to do so. -/
theorem lastOpens_snoc (hclosed : i ∉ (v.run es).openPanels)
    (hopen : i ∈ ((v.run es).edit e).openPanels) : LastOpens v (es ++ [e]) i es.length := by
  refine ⟨opens_snoc.mpr (.inr ⟨rfl, hclosed, hopen⟩), fun l hl => ?_⟩
  rcases opens_snoc.mp hl with hl | ⟨rfl, -⟩
  · exact Nat.le_of_lt hl.lt_length
  · exact Nat.le_refl _

/-! ### The order of the panels -/

/-- Panels were opened, and stand in the order of their last openings. -/
structure OpenedInTurn (v : View) (es : List Edit) (panels : List Nat) : Prop where
  opened : ∀ i ∈ panels, ∃ k, LastOpens v es i k
  ordered : panels.Pairwise (OpenedBefore v es)

section
variable {panels rest : List Nat}

/-- What is left of panels that an edit does not open stays in its order. -/
theorem OpenedInTurn.keeps (h : OpenedInTurn v es panels) (hsub : rest.Sublist panels)
    (hnot : ∀ i ∈ rest, i ∉ (v.run es).openPanels → i ∉ ((v.run es).edit e).openPanels) :
    OpenedInTurn v (es ++ [e]) rest where
  opened i hi :=
    let ⟨k, hk⟩ := h.opened i (hsub.subset hi)
    ⟨k, hk.snoc (hnot i hi)⟩
  ordered := (h.ordered.sublist hsub).imp_of_mem fun hi hj ⟨k, l, hk, hl, hlt⟩ =>
    ⟨k, l, hk.snoc (hnot _ hi), hl.snoc (hnot _ hj), hlt⟩

/-- A panel that an edit opens is the last in the order. -/
theorem OpenedInTurn.opens (h : OpenedInTurn v es panels) (hsub : rest.Sublist panels)
    (hnot : ∀ i ∈ rest, i ∉ (v.run es).openPanels → i ∉ ((v.run es).edit e).openPanels)
    (hclosed : i ∉ (v.run es).openPanels) (hopen : i ∈ ((v.run es).edit e).openPanels) :
    OpenedInTurn v (es ++ [e]) (rest ++ [i]) := by
  have hrest : OpenedInTurn v (es ++ [e]) rest := h.keeps hsub hnot
  have hlast : LastOpens v (es ++ [e]) i es.length := lastOpens_snoc hclosed hopen
  constructor
  · intro j hj
    rcases List.mem_append.mp hj with hj | hj
    · exact hrest.opened j hj
    · obtain rfl := List.mem_singleton.mp hj
      exact ⟨es.length, hlast⟩
  · refine List.pairwise_append.mpr ⟨hrest.ordered, List.pairwise_singleton .., fun j hj l hl => ?_⟩
    obtain rfl := List.mem_singleton.mp hl
    obtain ⟨k, hk⟩ := h.opened j (hsub.subset hj)
    exact ⟨k, es.length, hk.snoc (hnot j hj), hlast, hk.1.lt_length⟩

/-- Toggling a panel takes it out of the order, and puts it at the end if that opens it. -/
theorem OpenedInTurn.toggle (h : OpenedInTurn v es panels)
    (distinct : (v.run es).openPanels.Nodup) (i : Nat) :
    OpenedInTurn v (es ++ [.togglePanel i])
      (panels.filter (· ≠ i) ++ if i ∈ (v.run es).openPanels then [] else [i]) := by
  have hnot : ∀ j ∈ panels.filter (· ≠ i), j ∉ (v.run es).openPanels →
      j ∉ ((v.run es).edit (.togglePanel i)).openPanels := by
    intro j hj hclosed
    have hji : j ≠ i := of_decide_eq_true (List.mem_filter.mp hj).2
    rwa [View.edit, mem_togglePanel distinct, if_neg hji]
  split
  · rw [List.append_nil]
    exact h.keeps List.filter_sublist hnot
  · next hclosed =>
    have hopen : i ∈ ((v.run es).edit (.togglePanel i)).openPanels := by
      rwa [View.edit, mem_togglePanel distinct, if_pos rfl]
    exact h.opens List.filter_sublist hnot hclosed hopen

end

/-- The panels that were open from the start and were never toggled. -/
def untouched (v : View) (es : List Edit) : List Nat :=
  v.openPanels.filter fun i => .togglePanel i ∉ es

theorem untouched_snoc_of_ne (hne : ∀ i, e ≠ .togglePanel i) :
    v.untouched (es ++ [e]) = v.untouched es := by
  refine List.filter_congr fun i _ => ?_
  simp [(hne i).symm]

theorem untouched_snoc_toggle :
    v.untouched (es ++ [.togglePanel i]) = (v.untouched es).filter (· ≠ i) := by
  rw [untouched, untouched, List.filter_filter]
  refine List.filter_congr fun j _ => ?_
  simp [Bool.and_comm]

/-- The panels stand as edits left them: first what was never toggled, and then what was opened. -/
def Arranged (v : View) (es : List Edit) (panels : List Nat) : Prop :=
  ∃ later, panels = v.untouched es ++ later ∧ OpenedInTurn v es later

theorem Arranged.edit (h : Arranged v es (v.run es).openPanels)
    (distinct : (v.run es).openPanels.Nodup) (he : e.InPlace) :
    Arranged v (es ++ [e]) ((v.run es).edit e).openPanels := by
  obtain ⟨later, hsplit, hturn⟩ := h
  rcases he.toggles_or_keeps with ⟨i, rfl⟩ | ⟨hne, hkeeps⟩
  · refine ⟨_, ?_, hturn.toggle distinct i⟩
    rw [View.edit, openPanels_togglePanel distinct, untouched_snoc_toggle, ← List.append_assoc,
      ← List.filter_append, ← hsplit]
  · refine ⟨later, ?_, hturn.keeps (List.Sublist.refl _) fun i _ hclosed => ?_⟩
    · rw [hkeeps, untouched_snoc_of_ne hne, hsplit]
    · rwa [hkeeps]

theorem arranged_run (distinct : v.openPanels.Nodup) (hes : ∀ e ∈ es, e.InPlace) :
    Arranged v es (v.run es).openPanels := by
  -- from the last edit on: what comes later moves no place of an opening
  induction es using List.reverseRecOn with
  | nil =>
    have hall : v.untouched [] = v.openPanels := List.filter_eq_self.mpr fun i _ => by simp
    refine ⟨[], ?_, nofun, .nil⟩
    rw [hall, List.append_nil]
    rfl
  | append_singleton es e ih =>
    obtain ⟨hes, he⟩ := List.forall_mem_append.mp hes
    rw [run_append]
    exact (ih hes).edit (nodup_run distinct hes) (he e (List.mem_singleton.mpr rfl))

/-- Distinct open panels stay distinct, whatever is toggled, sorted or narrowed. A panel is open
just when it was and was toggled an even number of times, or was not and was toggled an odd number
of times. First stand those that were open from the start and were never toggled, as they stood;
then all others, in the order of their last openings. -/
theorem panels_are_ordered_set (v : View) (es : List Edit) (distinct : v.openPanels.Nodup)
    (hes : ∀ e ∈ es, e.InPlace) :
    let panels := (v.run es).openPanels
    panels.Nodup ∧
      (∀ i, i ∈ panels ↔ i ∈ v.openPanels ∧ Even (es.count (.togglePanel i)) ∨
        i ∉ v.openPanels ∧ Odd (es.count (.togglePanel i))) ∧
      ∃ later, panels = v.openPanels.filter (fun i => .togglePanel i ∉ es) ++ later ∧
        (∀ i ∈ later, ∃ k, LastOpens v es i k) ∧ later.Pairwise (OpenedBefore v es) := by
  intro panels
  obtain ⟨later, hsplit, hturn⟩ := arranged_run distinct hes
  exact ⟨nodup_run distinct hes, fun i => mem_run_iff distinct hes,
    later, hsplit, hturn.opened, hturn.ordered⟩

/-- A panel that is closed and opened again stands behind those that stayed, and before one that was
opened later. -/
theorem reopened_panel_stands_behind :
    let v : View := { View.initial 2025 with openPanels := [7, 3, 5] }
    let es : List Edit := [.togglePanel 3, .sort .name .descending, .togglePanel 9, .togglePanel 3,
      .setRange .publicationYear ⟨1990, 2000⟩, .togglePanel 5, .togglePanel 9, .togglePanel 9]
    v.openPanels.Nodup ∧ (∀ e ∈ es, e.InPlace) ∧ (v.run es).openPanels = [7, 3, 9] ∧
      (5 ∈ (v.run es).openPanels ↔ 5 ∈ v.openPanels ∧ Even (es.count (.togglePanel 5)) ∨
        5 ∉ v.openPanels ∧ Odd (es.count (.togglePanel 5))) ∧
      OpenedBefore v es 3 9 := by
  intro v es
  have distinct : v.openPanels.Nodup := by decide
  have hes : ∀ e ∈ es, e.InPlace := by simp [es, Edit.InPlace]
  obtain ⟨-, hmem, later, hsplit, -, hordered⟩ := panels_are_ordered_set v es distinct hes
  have hlater : later = [3, 9] := (List.cons.inj hsplit).2.symm
  rw [hlater] at hordered
  exact ⟨distinct, hes, by decide, hmem 5,
    List.rel_of_pairwise_cons hordered (List.mem_singleton.mpr rfl)⟩

end
end DatasetSearch.Search.View
