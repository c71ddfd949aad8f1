import DatasetSearch.Text.Percent

/-! Joining and percent-encoding can be undone.

Cutting a text undoes joining it, where no piece holds the separator. Whatever ASCII characters but
`%` a percent-encoding keeps, decoding gives the bytes of the text back, and these are read as the
text itself. -/
namespace DatasetSearch.Text

/-! ### Cutting -/

section
variable {sep : Char} {cs : List Char}

theorem splitAll_ne_nil (sep : Char) (cs : List Char) : splitAll sep cs ≠ [] := by
  cases cs with
  | nil => simp [splitAll]
  | cons c rest =>
    simp only [splitAll]
    split
    · split <;> simp
    · simp

theorem splitAll_eq_splitOn (sep : Char) (cs : List Char) : splitAll sep cs = cs.splitOn sep := by
  induction cs with
  | nil => rfl
  | cons c rest ih =>
    rw [List.splitOn_cons_eq_if_modifyHead, ← ih]
    cases h : splitAll sep rest with
    | nil => exact absurd h (splitAll_ne_nil sep rest)
    | cons piece pieces => by_cases hc : c = sep <;> simp [splitAll, h, hc]

theorem splitAll_intercalate {pieces : List (List Char)} (h : ∀ p ∈ pieces, sep ∉ p)
    (hne : pieces ≠ []) : splitAll sep ([sep].intercalate pieces) = pieces := by
  rw [splitAll_eq_splitOn, List.splitOn_intercalate sep h hne]

theorem splitFirst_append (h : sep ∉ cs) (rest : List Char) :
    splitFirst sep (cs ++ sep :: rest) = (cs, rest) := by
  induction cs with
  | nil => simp [splitFirst]
  | cons c cs ih =>
    obtain ⟨hc, hcs⟩ := not_or.mp (mt List.mem_cons.mpr h)
    simp [splitFirst, ih hcs, Ne.symm hc]

end

namespace Percent
variable {keep : UInt8 → Bool}

/-! ### Bytes -/

/-- The bytes that stand as they are are ASCII characters, and not the one that begins an escape. -/
def Readable (keep : UInt8 → Bool) : Prop := ∀ b, keep b = true → b.toNat < 0x80 ∧ b.toNat ≠ 0x25

theorem of_all_bytes {p : UInt8 → Prop} (h : ∀ n : Fin 256, p (.ofNat n)) (b : UInt8) : p b := by
  have := h ⟨b.toNat, b.toNat_lt⟩
  rwa [UInt8.ofNat_toNat] at this

theorem readable_unreserved : Readable unreserved := of_all_bytes (by decide +kernel)

theorem utf8EncodeChar_ofNat {b : UInt8} (h : b.toNat < 0x80) :
    String.utf8EncodeChar (Char.ofNat b.toNat) = [b] := by
  have all : ∀ n : Fin 0x80, String.utf8EncodeChar (Char.ofNat n.val) = [UInt8.ofNat n.val] := by
    decide
  simpa using all ⟨b.toNat, h⟩

theorem decode_cons {c : Char} (h : c ≠ '%') (rest : List Char) :
    decode (c :: rest) = String.utf8EncodeChar c ++ decode rest := by
  rw [decode]
  exact fun a b rest' he => absurd he h

theorem decode_escape {a b : Nat} (ha : a < 16) (hb : b < 16) (rest : List Char) :
    decode ('%' :: upperHex a :: upperHex b :: rest) = .ofNat (16 * a + b) :: decode rest := by
  simp only [decode, hexValue?_upperHex ha, hexValue?_upperHex hb]

/-- Decoding reads one byte back at a time. -/
theorem decode_encodeByte_append (hk : Readable keep) (b : UInt8) (rest : List Char) :
    decode (encodeByte keep b ++ rest) = b :: decode rest := by
  by_cases hb : keep b = true
  · obtain ⟨hascii, hpercent⟩ := hk b hb
    have hne : Char.ofNat b.toNat ≠ '%' := by
      have all : ∀ n : Fin 0x80, Char.ofNat n.val = '%' → n.val = 0x25 := by decide
      exact fun he => hpercent (all ⟨b.toNat, hascii⟩ he)
    rw [encodeByte, if_pos hb, List.singleton_append, decode_cons hne, utf8EncodeChar_ofNat hascii]
    rfl
  · have hlt := b.toNat_lt
    rw [encodeByte, if_neg hb]
    simp only [List.cons_append, List.nil_append]
    rw [decode_escape (by omega) (by omega), Nat.div_add_mod, UInt8.ofNat_toNat]

/-! ### Texts -/

theorem decode_encodeWith (hk : Readable keep) (cs : List Char) :
    decode (encodeWith keep cs) = bytesOf cs := by
  rw [encodeWith]
  induction bytesOf cs with
  | nil => rfl
  | cons b bytes ih => rw [List.flatMap_cons, decode_encodeByte_append hk, ih]

theorem toByteArray_eq (s : String) : s.toByteArray = ⟨(bytesOf s.toList).toArray⟩ := by
  rw [← String.utf8Encode_toList]
  exact ByteArray.ext (Array.ext' List.toList_data_toByteArray)

theorem fromUTF8?_toByteArray (s : String) : String.fromUTF8? s.toByteArray = some s := by
  rw [String.fromUTF8?, dif_pos s.isValidUTF8]
  rfl

theorem decodeText_encodeWith (hk : Readable keep) (s : String) :
    decodeText (encodeWith keep s.toList) = some s := by
  rw [decodeText, decode_encodeWith hk, ← toByteArray_eq, fromUTF8?_toByteArray]

@[simp] theorem toList_encode (s : String) : (encode s).toList = encodeWith unreserved s.toList :=
  String.toList_ofList

theorem decodeText_encode (s : String) : decodeText (encode s).toList = some s := by
  rw [toList_encode, decodeText_encodeWith readable_unreserved]

/-! ### What an encoded text holds -/

/-- No separator of a query string is left in an encoded text. -/
theorem not_mem_encode {c : Char} (hc : c = '&' ∨ c = '=') (s : String) : c ∉ (encode s).toList := by
  have all : ∀ b, '&' ∉ encodeByte unreserved b ∧ '=' ∉ encodeByte unreserved b :=
    of_all_bytes (by decide +kernel)
  intro hmem
  rw [toList_encode, encodeWith] at hmem
  obtain ⟨b, _, hb⟩ := List.mem_flatMap.mp hmem
  rcases hc with rfl | rfl
  · exact (all b).1 hb
  · exact (all b).2 hb

/-- A byte in a query string: an ASCII letter, a digit or one of `-`, `.`, `_`, `~` as it is, any
other as `%` and two upper-case hexadecimal digits. -/
def written (b : UInt8) : List Char :=
  let c := Char.ofNat b.toNat
  let digit (n : Nat) := (Nat.digitChar n).toUpper
  if c.isAlphanum ∨ c ∈ ['-', '.', '_', '~'] then [c]
  else ['%', digit (b.toNat / 16), digit (b.toNat % 16)]

theorem encodeByte_unreserved : ∀ b, encodeByte unreserved b = written b :=
  of_all_bytes (by decide +kernel)

theorem toList_encode_eq (s : String) :
    (encode s).toList = s.toUTF8.data.toList.flatMap written := by
  rw [toList_encode, encodeWith, String.toUTF8_eq_toByteArray, toByteArray_eq]
  exact congrArg (fun f => List.flatMap f (bytesOf s.toList)) (funext encodeByte_unreserved)

end Percent
end DatasetSearch.Text
