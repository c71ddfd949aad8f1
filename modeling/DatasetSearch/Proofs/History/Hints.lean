import DatasetSearch.Proofs.Dictionaries
import DatasetSearch.Proofs.Text.Lowercase
import DatasetSearch.History

/-! Hints for a part of a remembered text.

An entry is a hint when it is longer than the input and contains it in lower case (`mem_hints_iff`).
That an entry contains the input as it was typed is not enough: a capital sigma at the end of a word
of the input may stand in the middle of a word of the entry, and becomes another letter there.
Whatever is remembered, the entries that contain an input are its hints just when the input settles
which of its capital sigmas are at the end of a word (`hints_contain_iff`). -/
namespace DatasetSearch.History
open Text

theorem mem_hints_iff {h : History} {text : String} (htext : text ≠ "") {kind : HistoryKind}
    {e : HistoryEntry} :
    e ∈ h.hints text kind ↔ e ∈ h.items ∧ e.kind = kind ∧ text.length < e.key.length ∧
      lowerFrom [] text.toList <:+: lowerFrom [] e.key.toList := by
  rw [hints, if_neg (by simpa using htext)]
  simp [ofKind, suggests, lower, containsChars_iff, and_comm (b := e.kind = kind)]

/-- What is remembered can be any text, so all that is asked of hints is asked of lower-casing. -/
theorem hints_iff_lower {text : String} (htext : text ≠ "") {R : List Char → List Char → Prop}
    (hR : ∀ {cs whole}, R cs whole → cs <:+: whole) :
    (∀ (h : History) (kind : HistoryKind), ∀ e ∈ h.items, e.kind = kind →
        R text.toList e.key.toList → e.key ≠ text → e ∈ h.hints text kind) ↔
      ∀ whole, R text.toList whole → whole ≠ text.toList →
        lowerFrom [] text.toList <:+: lowerFrom [] whole := by
  constructor
  · intro h whole hwhole hne
    -- a history may hold the text alone
    let e : HistoryEntry := ⟨String.ofList whole, 0, .term⟩
    have hkey : e.key.toList = whole := String.toList_ofList
    have hmem : e ∈ (Keyed.empty.put e : History).items := List.mem_cons_self ..
    have hhint := h (Keyed.empty.put e) .term e hmem rfl (hkey.symm ▸ hwhole)
      fun heq => hne (heq ▸ hkey.symm)
    exact hkey ▸ ((mem_hints_iff htext).mp hhint).2.2.2
  · intro h hist kind e he hkind hwhole hne
    have hchars : e.key.toList ≠ text.toList := fun heq => hne (String.toList_inj.mp heq)
    have hlt : text.toList.length < e.key.toList.length :=
      Nat.lt_of_le_of_ne (hR hwhole).length_le fun heq =>
        hchars ((hR hwhole).eq_of_length heq).symm
    exact (mem_hints_iff htext).mpr ⟨he, hkind, hlt, h _ hwhole hchars⟩

/-- Every entry of a kind that contains an input that is not empty, and is not it, is a hint just
when the input settles its capital sigmas; every entry that the input begins is one just when it
settles them, whatever stands after it. Where it does not, an entry is a hint in which each of them
is at the end of a word just when it is so in the input. -/
theorem hints_contain_iff {text : String} (htext : text ≠ "") :
    ((∀ (h : History) (kind : HistoryKind), ∀ e ∈ h.items, e.kind = kind →
        text.toList <:+: e.key.toList → e.key ≠ text → e ∈ h.hints text kind) ↔
      Settled text.toList) ∧
    ((∀ (h : History) (kind : HistoryKind), ∀ e ∈ h.items, e.kind = kind →
        text.toList <+: e.key.toList → e.key ≠ text → e ∈ h.hints text kind) ↔
      EndSettled text.toList) ∧
    ∀ (h : History) (kind : HistoryKind), ∀ e ∈ h.items, e.kind = kind →
      ∀ before after, e.key.toList = before ++ (text.toList ++ after) → e.key ≠ text →
        AtSigmas (SameAround before.reverse after) [] text.toList → e ∈ h.hints text kind := by
  refine ⟨?_, ?_, ?_⟩
  · exact (hints_iff_lower htext id).trans (settled_iff text.toList)
  · exact (hints_iff_lower htext List.IsPrefix.isInfix).trans (endSettled_iff text.toList)
  · intro h kind e he hkind before after hkey hne hsame
    let R (cs whole : List Char) : Prop := cs <:+: whole ∧ whole = before ++ (text.toList ++ after)
    have hpart : text.toList <:+: e.key.toList := hkey ▸ List.infix_append' ..
    refine (hints_iff_lower htext (R := R) And.left).mpr ?_ h kind e he hkind ⟨hpart, hkey⟩ hne
    rintro whole ⟨-, rfl⟩ -
    exact lower_infix before after hsame

/-- An input whose capital sigma is followed by the next word finds a longer text with both. -/
theorem hints_contain_street :
    let e : HistoryEntry := ⟨"ΝΕΑ ΟΔΟΣ ΑΘΗΝΑ", 1, .term⟩
    let h := History.log .empty e.key e.kind e.date
    "ΟΔΟΣ Α" ≠ "" ∧ "ΟΔΟΣ Α".toList <:+: e.key.toList ∧ e ∈ h.hints "ΟΔΟΣ Α" .term := by
  intro e h
  have hmem : e ∈ h.items := List.mem_cons_self ..
  have hpart : "ΟΔΟΣ Α".toList <:+: e.key.toList := by decide +kernel
  have hsettled : Settled "ΟΔΟΣ Α".toList := by decide +kernel
  exact ⟨by decide, hpart,
    (hints_contain_iff (by decide)).1.mpr hsettled h .term e hmem rfl hpart (by decide)⟩

/-- A remembered text is no hint for its first letters, as their capital sigma is at the end of a
word there. -/
theorem sigma_hides_hint :
    let h := History.log .empty "ΑΣΑ" .term 1
    h.keys = ["ΑΣΑ"] ∧ "ΑΣ".toList <+: "ΑΣΑ".toList ∧ "ΑΣΑ" ≠ "ΑΣ" ∧ h.hints "ΑΣ" .term = [] := by
  decide +kernel

end DatasetSearch.History
