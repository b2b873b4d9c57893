import ApiCall.Text.Utf8

/-!
Percent-encoding: characters of a keep set stand as they are and every other byte of the UTF-8 text
is written as a triplet. The sets hold ASCII characters only, so a kept character is one byte.
-/

namespace ApiCall

namespace Percent

/-- The upper-case hexadecimal digit of a number below sixteen. -/
def digit (n : Nat) : Char :=
  if n < 10 then Char.ofNat (48 + n) else Char.ofNat (55 + n)

/-- The value of a hexadecimal digit of either case. -/
def digitValue? (n : Nat) : Option Nat :=
  if 48 ≤ n ∧ n ≤ 57 then some (n - 48)
  else if 65 ≤ n ∧ n ≤ 70 then some (n - 55)
  else if 97 ≤ n ∧ n ≤ 102 then some (n - 87)
  else none

/-- The triplet `%XX` of one byte. -/
def triplet (b : UInt8) : List Char :=
  ['%', digit (b.toNat / 16), digit (b.toNat % 16)]

/-- One character: kept, or the triplets of its bytes. -/
def encodeChar (keep : Char → Bool) (c : Char) : List Char :=
  if keep c then [c] else (Utf8.encodeChar c).flatMap triplet

/-- Writes triplets for every character outside the keep set. -/
def encode (keep : Char → Bool) (cs : List Char) : List Char :=
  cs.flatMap (encodeChar keep)

/-- Replaces each triplet by its byte; a `%` that starts no triplet stands for itself. -/
def decode : Bytes → Bytes
  | [] => []
  | [a] => [a]
  | [a, b] => [a, b]
  | a :: b :: c :: rest =>
    if a = 37 then
      match digitValue? b.toNat, digitValue? c.toNat with
      | some high, some low => UInt8.ofNat (high * 16 + low) :: decode rest
      | _, _ => a :: decode (b :: c :: rest)
    else
      a :: decode (b :: c :: rest)

/-- Characters that are never escaped in a component: letters, digits and four marks. -/
def isUnreserved (c : Char) : Bool :=
  c.isAlphanum || c == '-' || c == '.' || c == '_' || c == '~'

/-- Delimiters that have a meaning of their own in a URL. -/
def isReserved (c : Char) : Bool :=
  ":/?#[]@!$&'()*+,;=".toList.contains c

/-- A character from space to tilde. -/
def isVisibleAscii (c : Char) : Bool :=
  decide (0x20 ≤ c.toNat) && decide (c.toNat < 0x7F)

/-- Visible ASCII except the characters of `drop`. -/
def visibleExcept (drop : List Char) (c : Char) : Bool :=
  isVisibleAscii c && !drop.contains c

end Percent

end ApiCall
