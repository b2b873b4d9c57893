/-!
UTF-8 as lists of bytes: one character is written in one to four bytes, and bytes are read back
character by character. A sequence that breaks off is told apart from a character, so the same step
serves the strict reader (`decode?`) and the one that replaces what it cannot read (`decodeLossy`).
-/

namespace ApiCall

/-- A string of bytes. -/
abbrev Bytes := List UInt8

namespace Utf8

/-- The bytes of one character. -/
def encodeChar (c : Char) : Bytes :=
  let n := c.toNat
  if n < 0x80 then
    [UInt8.ofNat n]
  else if n < 0x800 then
    [UInt8.ofNat (0xC0 + n / 64), UInt8.ofNat (0x80 + n % 64)]
  else if n < 0x10000 then
    [UInt8.ofNat (0xE0 + n / 4096), UInt8.ofNat (0x80 + n / 64 % 64), UInt8.ofNat (0x80 + n % 64)]
  else
    [UInt8.ofNat (0xF0 + n / 262144), UInt8.ofNat (0x80 + n / 4096 % 64),
      UInt8.ofNat (0x80 + n / 64 % 64), UInt8.ofNat (0x80 + n % 64)]

/-- The bytes of a text. -/
def encode (cs : List Char) : Bytes :=
  cs.flatMap encodeChar

/-- What a first byte announces: how many bytes follow it, its own bits of the code point, and the
range of the byte after it. Overlong forms, surrogates and code points past the last one are ruled
out by that range. -/
structure Lead where
  count : Nat
  bits : Nat
  low : Nat
  high : Nat

/-- The announcement of a first byte, if a character can start with it. -/
def lead? (b : UInt8) : Option Lead :=
  let n := b.toNat
  if n < 0x80 then some ⟨0, n, 0x80, 0xBF⟩
  else if n < 0xC2 then none
  else if n < 0xE0 then some ⟨1, n - 0xC0, 0x80, 0xBF⟩
  else if n = 0xE0 then some ⟨2, 0, 0xA0, 0xBF⟩
  else if n = 0xED then some ⟨2, 13, 0x80, 0x9F⟩
  else if n < 0xF0 then some ⟨2, n - 0xE0, 0x80, 0xBF⟩
  else if n = 0xF0 then some ⟨3, 0, 0x90, 0xBF⟩
  else if n < 0xF4 then some ⟨3, n - 0xF0, 0x80, 0xBF⟩
  else if n = 0xF4 then some ⟨3, 4, 0x80, 0x8F⟩
  else none

/-- Collects the bytes that follow a first byte; `none` beside the rest when one is missing or out
of range. -/
def tail : Nat → Nat → Nat → Nat → Bytes → Option Nat × Bytes
  | 0, bits, _, _, rest => (some bits, rest)
  | _ + 1, _, _, _, [] => (none, [])
  | count + 1, bits, low, high, b :: rest =>
    if low ≤ b.toNat ∧ b.toNat ≤ high then
      tail count (bits * 64 + (b.toNat - 0x80)) 0x80 0xBF rest
    else
      (none, b :: rest)

/-- The first character of `b :: rest` and what follows it; `none` for a sequence that breaks off,
beside what follows its readable part. -/
def next (b : UInt8) (rest : Bytes) : Option Char × Bytes :=
  match lead? b with
  | none => (none, rest)
  | some l =>
    match tail l.count l.bits l.low l.high rest with
    | (some n, rest) => (some (Char.ofNat n), rest)
    | (none, rest) => (none, rest)

theorem length_tail_le (count bits low high : Nat) (s : Bytes) :
    (tail count bits low high s).2.length ≤ s.length := by
  induction s generalizing count bits low high with
  | nil => cases count <;> simp [tail]
  | cons b rest ih =>
    cases count with
    | zero => simp [tail]
    | succ count =>
      unfold tail
      split
      · have := ih count (bits * 64 + (b.toNat - 0x80)) 0x80 0xBF
        simp only [List.length_cons]
        omega
      · simp

theorem length_next_le (b : UInt8) (rest : Bytes) : (next b rest).2.length ≤ rest.length := by
  unfold next
  split
  · simp
  · rename_i l _
    have h := length_tail_le l.count l.bits l.low l.high rest
    split <;> rename_i heq <;> rw [heq] at h <;> exact h

/-- The characters of a text, each `none` a sequence that is not UTF-8. -/
def decodeSteps : Bytes → List (Option Char)
  | [] => []
  | b :: rest => (next b rest).1 :: decodeSteps (next b rest).2
termination_by s => s.length
decreasing_by
  have := length_next_le b rest
  simp only [List.length_cons]
  omega

/-- The text of the bytes, if they are UTF-8. -/
def decode? (s : Bytes) : Option (List Char) :=
  (decodeSteps s).mapM id

/-- The text of the bytes, with U+FFFD for each sequence that is not UTF-8. -/
def decodeLossy (s : Bytes) : List Char :=
  (decodeSteps s).map (·.getD (Char.ofNat 0xFFFD))

end Utf8

/-- The UTF-8 bytes of a string. -/
def bytesOf (s : String) : Bytes :=
  Utf8.encode s.toList

/-- The string that the bytes spell in UTF-8. -/
def stringOf? (s : Bytes) : Option String :=
  (Utf8.decode? s).map String.ofList

end ApiCall
