/-!
Integers in decimal: `ofNat` writes a number without leading zeros, `value?` reads any string of
digits.
-/

namespace ApiCall

namespace Decimal

/-- The character of a digit. -/
def digitChar (n : Nat) : Char :=
  Char.ofNat (48 + n)

/-- The value of an ASCII digit. -/
def digit? (c : Char) : Option Nat :=
  if 48 ≤ c.toNat ∧ c.toNat ≤ 57 then some (c.toNat - 48) else none

def isDigit (c : Char) : Bool :=
  (digit? c).isSome

/-- The decimal digits of a number, the first one not zero unless it is the only one. -/
def ofNat (n : Nat) : List Char :=
  if n < 10 then [digitChar n] else ofNat (n / 10) ++ [digitChar (n % 10)]
termination_by n
decreasing_by omega

/-- The decimal spelling of an integer. -/
def ofInt : Int → List Char
  | .ofNat n => ofNat n
  | .negSucc n => '-' :: ofNat (n + 1)

/-- The number that digits spell after `start` has been read. -/
def valueFrom? (start : Nat) : List Char → Option Nat
  | [] => some start
  | c :: rest => do
    let d ← digit? c
    valueFrom? (start * 10 + d) rest

/-- The number spelled by one or more digits. -/
def value? : List Char → Option Nat
  | [] => none
  | cs => valueFrom? 0 cs

/-- Splits off a sign; a plus counts as none. -/
def splitSign : List Char → Bool × List Char
  | '-' :: rest => (true, rest)
  | '+' :: rest => (false, rest)
  | cs => (false, cs)

/-- The 64-bit signed integer that a text spells: an optional sign and digits. -/
def int64? (cs : List Char) : Option Int := do
  let (negative, digits) := splitSign cs
  let n ← value? digits
  let i : Int := if negative then -(n : Int) else n
  if -0x8000_0000_0000_0000 ≤ i ∧ i < 0x8000_0000_0000_0000 then some i else none

end Decimal

end ApiCall
