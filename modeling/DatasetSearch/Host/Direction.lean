import DatasetSearch.Host.CharacterTable
import DatasetSearch.Text.Basic

/-! Names with letters that are written from right to left.

Every label of a name with such letters has one direction, that of its first letter. Marks aside,
it ends in a letter of its direction or a number, and it holds no letter of the other direction. A
label from right to left has numbers of one kind only, one from left to right no Arabic numbers. -/
namespace DatasetSearch.Host
open Text

/-- How a character behaves in a line with both directions of writing. -/
inductive Direction where
  | left
  | right
  | europeanNumber
  | arabicNumber
  | neutral
  /-- A mark goes with the character before it. -/
  | mark
deriving DecidableEq, Repr

namespace Direction

/-- Marks that count as letters from left to right. -/
def leftMarks : List Nat :=
  [0xCBF, 0xCC6, 0x11A07, 0x11A08, 0x11C3F]

/-- Digits beyond ASCII that are written as European ones. -/
def europeanNumbers : List (Nat × Nat) :=
  [(0x6F0, 0x6F9), (0x102E1, 0x102FB)]

/-- Arabic digits, with what stands between them. -/
def arabicNumbers : List (Nat × Nat) :=
  [(0x660, 0x669), (0x66B, 0x66C), (0x10D30, 0x10D49), (0x10E60, 0x10E7E)]

/-- Punctuation and symbols beyond ASCII; characters that no name holds may lie between them. -/
def neutrals : List (Nat × Nat) :=
  [(0xA1, 0xD7), (0xF7, 0xF7), (0x2B9, 0x2BA), (0x2C2, 0x2CF), (0x2D2, 0x2ED), (0x2EF, 0x2FF),
   (0x375, 0x375), (0x3F6, 0x3F6), (0x58A, 0x58F), (0x606, 0x607), (0x609, 0x60A), (0x60C, 0x60C),
   (0x60E, 0x60F), (0x66A, 0x66A), (0x6DE, 0x6DE), (0x6E9, 0x6E9), (0x7F6, 0x7F9), (0x9F2, 0x9F3),
   (0x9FB, 0x9FB), (0xAF1, 0xAF1), (0xBF3, 0xBFA), (0xC78, 0xC7E), (0xE3F, 0xE3F), (0xF3A, 0xF3D),
   (0x1390, 0x1399), (0x1400, 0x1400), (0x169B, 0x169C), (0x17DB, 0x17DB), (0x17F0, 0x180A),
   (0x1940, 0x1945), (0x19DE, 0x19FF), (0x200C, 0x214D), (0x218A, 0x2335), (0x237B, 0x2394),
   (0x2396, 0x26AB), (0x26AD, 0x27FF), (0x2900, 0x2BFF), (0x2CE5, 0x2CEA), (0x2CF9, 0x2CFF),
   (0x2E00, 0x3004), (0x3008, 0x3020), (0x3030, 0x3030), (0x3037, 0x3037), (0x303D, 0x303F),
   (0x30A0, 0x30A0), (0x30FB, 0x30FB), (0x31C0, 0x31E5), (0x4DC0, 0x4DFF), (0xA490, 0xA4C6),
   (0xA60D, 0xA60F), (0xA673, 0xA67F), (0xA700, 0xA721), (0xA788, 0xA788), (0xA828, 0xA82B),
   (0xA838, 0xA839), (0xA874, 0xA877), (0xAB6A, 0xAB6B), (0xFBC3, 0xFE46), (0x10101, 0x10101),
   (0x10140, 0x1018C), (0x10190, 0x101A0), (0x1091F, 0x1091F), (0x10B39, 0x10B3F),
   (0x10D6E, 0x10D6E), (0x10ED0, 0x10ED8), (0x11052, 0x11065), (0x11660, 0x1166C),
   (0x11FD5, 0x11FF1), (0x16FE2, 0x16FE2), (0x1CC00, 0x1CEFD), (0x1D1E9, 0x1D27F),
   (0x1D300, 0x1D356), (0x1DB00, 0x1DB1C), (0x1E2FF, 0x1E2FF), (0x1EEF0, 0x1F12F),
   (0x1F16D, 0x1F16F), (0x1F1AD, 0x1F1AE), (0x1F260, 0x1FBFA)]

/-- The blocks of the scripts that are written from right to left. -/
def rightBlocks : List (Nat × Nat) :=
  [(0x5BE, 0x8FF), (0xFB1D, 0xFEFF), (0x10800, 0x10FFF), (0x1E800, 0x1EEEF)]

/-- The direction of a character that a name may hold. -/
def of (c : Char) : Direction :=
  if c.toNat < 0x80 then
    if c.isAlpha then .left else if c.isDigit then .europeanNumber else .neutral
  else if inRanges nonspacing c then if leftMarks.contains c.toNat then .left else .mark
  else if inRanges europeanNumbers c then .europeanNumber
  else if inRanges arabicNumbers c then .arabicNumber
  else if inRanges neutrals c then .neutral
  else if inRanges rightBlocks c then .right
  else .left

end Direction

/-- Whether the rule on directions applies to a name. -/
def needsDirections (name : List Char) : Bool :=
  name.any fun c => 0x590 ≤ c.toNat &&
    (Direction.of c == .right || Direction.of c == .arabicNumber)

/-- Whether a label of a name with letters from right to left has one direction. -/
def hasOneDirection (label : List Char) : Bool :=
  let directions := label.map Direction.of
  let body := (directions.reverse.dropWhile (· == .mark)).reverse
  match directions.head? with
  | none => true
  | some .right =>
    !directions.contains .left &&
      !(directions.contains .europeanNumber && directions.contains .arabicNumber) &&
      [Direction.right, .europeanNumber, .arabicNumber].any (body.getLast? == some ·)
  | some .left =>
    !directions.contains .right && !directions.contains .arabicNumber &&
      [Direction.left, .europeanNumber].any (body.getLast? == some ·)
  | some _ => false

end DatasetSearch.Host
