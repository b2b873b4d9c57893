import ApiCall.Text.Canonical
import ApiCall.Text.Invisible
import ApiCall.Url.Domain.Forms
import ApiCall.Url.Domain.Ideographs
import ApiCall.Url.Domain.Letters
import ApiCall.Url.Domain.Symbols

/-!
Characters that stand for others in a domain. A domain is read without regard to case, width and
style, and characters that cannot be seen are nothing.
-/

namespace ApiCall

namespace Domain

/-- Characters that are nothing in a domain. -/
private def ignored : CodePoints := [
  (0xAD, 0xAD), (0x34F, 0x34F), (0x115F, 0x1160), (0x17B4, 0x17B5), (0x180B, 0x180F),
  (0x200B, 0x200B), (0x2060, 0x2064), (0x206A, 0x206F), (0x3164, 0x3164), (0xFE00, 0xFE0F),
  (0xFEFF, 0xFEFF), (0xFFA0, 0xFFA0), (0x1BCA0, 0x1BCA3), (0x1D173, 0x1D17A), (0xE0100, 0xE01EF)]

/-- Visible characters that a domain may not hold: most of them would stand for blanks or full stops
beside other characters. Characters that stand for others may lie between them. -/
private def unfit : CodePoints := [
  (0xA8, 0xA8), (0xAF, 0xAF), (0xB4, 0xB4), (0xB8, 0xB8), (0x2D8, 0x2DD), (0x37A, 0x37A),
  (0x384, 0x385), (0x1FBD, 0x1FC1), (0x1FCD, 0x1FCF), (0x1FDD, 0x1FDF), (0x1FED, 0x1FEE),
  (0x1FFD, 0x1FFE), (0x2017, 0x2017), (0x2024, 0x2026), (0x203E, 0x203E), (0x2488, 0x249B),
  (0x2FF0, 0x2FFF), (0x309B, 0x309C), (0x31EF, 0x31EF), (0x33C2, 0x33D8), (0xFC5E, 0xFC63),
  (0xFDFA, 0xFDFB), (0xFE12, 0xFE19), (0xFE30, 0xFE30), (0xFE49, 0xFE72), (0xFE74, 0xFFFD),
  (0x1F100, 0x1F100)]

/-- The word of a character in a table of words that are divided by blanks. The words of a row are
those of consecutive code points, and rows are in ascending order. -/
def word? (rows : List (Nat × String)) (n : Nat) : Option (List Char) :=
  match (rows.takeWhile (·.1 ≤ n)).getLast? with
  | some (first, words) => (Split.pieces ' ' words.toList)[n - first]?
  | none => none

/-- What a character stands for. -/
def image (c : Char) : List Char :=
  let n := c.toNat
  if n < 128 then [c.toLower]
  else if ignored.covers n then []
  else
    let tables := [Letters.runs, Symbols.runs, Ideographs.runs, Forms.runs]
    (tables.findSome? (word? · n)).getD [c]

/-- The characters that a text stands for, in their canonical form. -/
def mapped (cs : List Char) : List Char :=
  Canonical.text (cs.flatMap image)

theorem image_of_ascii {c : Char} (h : c.toNat < 128) : image c = [c.toLower] := by
  unfold image
  exact if_pos h

/-- The character joins or divides letters that would do otherwise, and is seen by that alone. -/
def isJoiner (c : Char) : Bool :=
  c.toNat == 0x200C || c.toNat == 0x200D

/-- Characters that may stand in a mapped domain, as far as they are not ASCII ones: joiners, and
visible characters with their marks. -/
def isFit (c : Char) : Bool :=
  let n := c.toNat
  decide (n < 128) || isJoiner c || Mark.isMark n || !(Invisible.contains n || unfit.covers n)

end Domain

end ApiCall
