import ApiCall.Url.Domain.Direction
import ApiCall.Url.Domain.Joining
import ApiCall.Url.Domain.Mapping
import ApiCall.Url.Punycode

/-!
Labels, the parts of a domain between its full stops. A label with other characters than ASCII ones
has a form in ASCII that starts with `xn--`.
-/

namespace ApiCall

namespace Domain

/-- The first letter from a joiner on, over those that joins pass over, is of a kind. -/
def meets (kind : Char → Bool) (cs : List Char) : Bool :=
  match cs.dropWhile fun c => !kind c && Joining.isTransparent c with
  | c :: _ => kind c
  | [] => false

/-- Each joiner changes how the characters around it are written: it follows the sign that takes a
vowel away, or it divides letters that would join. What stands before the text is reversed. -/
def joinersFit (before : List Char) : List Char → Bool
  | [] => true
  | c :: after =>
    (!isJoiner c || before.head?.any (Mark.classOf · == 9) ||
      (c.toNat == 0x200C && meets Joining.joinsNext before && meets Joining.joinsPrevious after)) &&
    joinersFit (c :: before) after

/-- Mapped characters are a label if no mark is the first of them, and joiners stand where they
show. -/
def isLabel (label : List Char) : Bool :=
  label.all isFit && !label.head?.any (Mark.isMark ·.toNat) && joinersFit [] label

/-- The last character that is not a mark. -/
def lastDirection (directions : List Direction) : Option Direction :=
  (directions.filter (· ≠ .mark)).getLast?

/-- A label in a domain with characters from right to left is shown in one piece: it starts with a
letter, ends with a letter of the same direction or a digit, marks apart, and has no letters of the
other one. Digits of two kinds do not meet in a label from right to left. -/
def directionsFit (directions : List Direction) : Bool :=
  match directions.head? with
  | none => true
  | some .leftToRight =>
    directions.all (fun d => d ≠ .rightToLeft ∧ d ≠ .arabicDigit) &&
      (lastDirection directions).any fun d => d = .leftToRight ∨ d = .europeanDigit
  | some .rightToLeft =>
    directions.all (· ≠ .leftToRight) &&
      !(directions.contains .europeanDigit && directions.contains .arabicDigit) &&
      (lastDirection directions).any fun d =>
        d = .rightToLeft ∨ d = .europeanDigit ∨ d = .arabicDigit
  | some _ => false

/-- Some character is written from right to left. -/
def isRightToLeft (label : List Char) : Bool :=
  label.any fun c => Direction.ofChar c = .rightToLeft ∨ Direction.ofChar c = .arabicDigit

private def mark : List Char := "xn--".toList

/-- The characters of a label that is written with mapped ones. The form in ASCII is read only where
it is the form of other characters, which are mapped too. -/
def read? (label : List Char) : Option (List Char) := do
  let label ←
    match Split.after? mark label with
    | none => some label
    | some form => do
      if form.any (128 ≤ ·.toNat) then none
      let label ← Punycode.decode? form
      if label.all (·.toNat < 128) ∨ mapped label ≠ label then none
      some label
  if isLabel label then some label else none

/-- The form of a label in ASCII. -/
def form (label : List Char) : List Char :=
  if label.all (·.toNat < 128) then label else mark ++ Punycode.encode label

end Domain

end ApiCall
