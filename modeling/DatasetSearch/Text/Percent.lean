import DatasetSearch.Text.Basic

/-! Percent-encoding.

A text is encoded byte by byte of its UTF-8 form: the bytes that `keep` holds of stand as they
are and every other byte is written as `%` and two upper-case hexadecimal digits. `decode` reads
both forms back into bytes, and `decodeText` reads those as UTF-8. -/
namespace DatasetSearch.Text.Percent

/-! ### Bytes of a text -/

def bytesOf (cs : List Char) : List UInt8 := cs.flatMap String.utf8EncodeChar

/-! ### Encoding -/

def encodeByte (keep : UInt8 → Bool) (b : UInt8) : List Char :=
  if keep b then [Char.ofNat b.toNat]
  else ['%', upperHex (b.toNat / 16), upperHex (b.toNat % 16)]

def encodeWith (keep : UInt8 → Bool) (cs : List Char) : List Char :=
  (bytesOf cs).flatMap (encodeByte keep)

/-- Letters, digits and `-`, `.`, `_`, `~` stand as they are in a query. -/
def unreserved (b : UInt8) : Bool :=
  (0x41 ≤ b && b ≤ 0x5A) || (0x61 ≤ b && b ≤ 0x7A) || (0x30 ≤ b && b ≤ 0x39) ||
    b == 0x2D || b == 0x2E || b == 0x5F || b == 0x7E

/-- The separators that a cookie value does not hold as they are. -/
def cookieSeparators : List Char := "\"<>`#?\x7b\x7d/:;=@[\\]^|%(),".toList

/-- What a cookie value keeps: no control, space, separator or byte beyond ASCII. -/
def cookieSafe (b : UInt8) : Bool :=
  0x20 < b && b < 0x7F && !cookieSeparators.any (·.toNat == b.toNat)

def encode (s : String) : String := String.ofList (encodeWith unreserved s.toList)

def encodeCookie (s : String) : String := String.ofList (encodeWith cookieSafe s.toList)

/-! ### Decoding -/

/-- The bytes that an encoded text stands for; a `%` without two digits stands for itself. -/
def decode : List Char → List UInt8
  | [] => []
  | '%' :: a :: b :: rest =>
    match hexValue? a, hexValue? b with
    | some x, some y => UInt8.ofNat (16 * x + y) :: decode rest
    | _, _ => 0x25 :: decode (a :: b :: rest)
  | c :: rest => String.utf8EncodeChar c ++ decode rest

/-- The text whose encoding is given, if its bytes are UTF-8. -/
def decodeText (cs : List Char) : Option String := String.fromUTF8? ⟨(decode cs).toArray⟩

end DatasetSearch.Text.Percent
