import ApiCall.Text.Utf8

/-!
Padded base64 with the standard alphabet. The reader accepts exactly one spelling of each byte
string: padding is required, and the unused bits of the last symbol are zero.
-/

namespace ApiCall

namespace Base64

/-- Why a text is not base64. -/
inductive Fault where
  /-- A byte that cannot stand at its position. -/
  | symbol (byte : UInt8) (offset : Nat)
  /-- One symbol is left over after the last group of four. -/
  | length (count : Nat)
  /-- The last symbol carries bits of no byte. -/
  | lastSymbol (byte : UInt8) (offset : Nat)
  /-- The last group is short and not filled up with `=`. -/
  | padding
  deriving DecidableEq, Repr

def Fault.message : Fault → String
  | .symbol byte offset => s!"Invalid symbol {byte.toNat}, offset {offset}."
  | .length count => s!"Invalid input length: {count}"
  | .lastSymbol byte offset => s!"Invalid last symbol {byte.toNat}, offset {offset}."
  | .padding => "Invalid padding"

/-- The symbol of a number below 64. -/
def symbol (n : Nat) : Char :=
  if n < 26 then Char.ofNat (65 + n)
  else if n < 52 then Char.ofNat (71 + n)
  else if n < 62 then Char.ofNat (n - 4)
  else if n = 62 then '+'
  else '/'

/-- The number of a symbol. -/
def value? (b : UInt8) : Option Nat :=
  let n := b.toNat
  if 65 ≤ n ∧ n ≤ 90 then some (n - 65)
  else if 97 ≤ n ∧ n ≤ 122 then some (n - 71)
  else if 48 ≤ n ∧ n ≤ 57 then some (n + 4)
  else if n = 43 then some 62
  else if n = 47 then some 63
  else none

/-- Four symbols for each three bytes; a shorter last group is filled up with `=`. -/
def encode : Bytes → List Char
  | [] => []
  | [a] =>
    let n := a.toNat * 16
    [symbol (n / 64), symbol (n % 64), '=', '=']
  | [a, b] =>
    let n := (a.toNat * 256 + b.toNat) * 4
    [symbol (n / 4096), symbol (n / 64 % 64), symbol (n % 64), '=']
  | a :: b :: c :: rest =>
    let n := (a.toNat * 256 + b.toNat) * 256 + c.toNat
    symbol (n / 262144) :: symbol (n / 4096 % 64) :: symbol (n / 64 % 64) :: symbol (n % 64) ::
      encode rest

private def pad : UInt8 := 61

/-- The number of the symbol at an offset. -/
def valueAt (offset : Nat) (b : UInt8) : Except Fault Nat :=
  match value? b with
  | some n => .ok n
  | none => .error (.symbol b offset)

/-- The symbols of the last group up to its padding, the numbers read so far being given in order.
Padding may start only after two symbols, and nothing but padding follows it. -/
def lastSymbols (offset : Nat) : List Nat → Bytes → Except Fault (List Nat × Nat)
  | read, [] => .ok (read, 0)
  | read, b :: rest =>
    if b = pad then
      if read.length < 2 then .error (.symbol b (offset + read.length))
      else if rest.all (· == pad) then .ok (read, rest.length + 1)
      else .error (.symbol b (offset + read.length))
    else do
      let n ← valueAt (offset + read.length) b
      lastSymbols offset (read ++ [n]) rest

/-- The bytes of the last group, which starts at `offset` and has at most four symbols. -/
def decodeLast (offset : Nat) (group : Bytes) : Except Fault Bytes := do
  let (numbers, padding) ← lastSymbols offset [] group
  let count := numbers.length
  if count < 2 then throw (.length (offset + count))
  if (count + padding) % 4 ≠ 0 then throw .padding
  let last := group.getD (count - 1) 0
  match numbers with
  | [a, b] =>
    if b % 16 ≠ 0 then throw (.lastSymbol last (offset + 1))
    return [UInt8.ofNat (a * 4 + b / 16)]
  | [a, b, c] =>
    if c % 4 ≠ 0 then throw (.lastSymbol last (offset + 2))
    return [UInt8.ofNat (a * 4 + b / 16), UInt8.ofNat (b * 16 + c / 4)]
  | [a, b, c, d] =>
    return [UInt8.ofNat (a * 4 + b / 16), UInt8.ofNat (b * 16 + c / 4), UInt8.ofNat (c * 64 + d)]
  | _ => throw .padding

/-- The groups from `offset` on: all but the last must be four symbols. -/
def decodeFrom (offset : Nat) : Bytes → Except Fault Bytes
  | a :: b :: c :: d :: e :: rest => do
    let a ← valueAt offset a
    let b ← valueAt (offset + 1) b
    let c ← valueAt (offset + 2) c
    let d ← valueAt (offset + 3) d
    let tail ← decodeFrom (offset + 4) (e :: rest)
    return UInt8.ofNat (a * 4 + b / 16) :: UInt8.ofNat (b * 16 + c / 4) ::
      UInt8.ofNat (c * 64 + d) :: tail
  | group => decodeLast offset group

/-- The bytes of a base64 text. A stray byte after whole groups is reported before all else. -/
def decode (s : Bytes) : Except Fault Bytes := do
  if s.length % 4 = 1 then
    let last := s.getLastD pad
    if last ≠ pad then let _ ← valueAt (s.length - 1) last
  if s.isEmpty then return []
  decodeFrom 0 s

end Base64

end ApiCall
