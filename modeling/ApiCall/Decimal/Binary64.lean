/-!
Double-precision numbers as exact values: a finite number is its sign and
`significand · 2^exponent`. Every operation computes the exact result as a ratio and rounds it once,
to the nearest number with ties to the even significand.
-/

namespace ApiCall

/-- A double-precision number. Finite ones keep the exponent at least -1074, and the significand
below `2^53` and at least `2^52` unless the exponent is the least one. -/
inductive Binary64 where
  | finite (negative : Bool) (significand : Nat) (exponent : Int)
  | infinite (negative : Bool)
  | notNumber
  deriving DecidableEq, Repr

namespace Binary64

def zero (negative : Bool) : Binary64 :=
  .finite negative 0 (-1074)

/-- The number of a 64-bit pattern. -/
def ofBits (bits : Nat) : Binary64 :=
  let negative := decide (bits / 0x8000_0000_0000_0000 % 2 = 1)
  let power : Nat := bits / 0x10_0000_0000_0000 % 2048
  let fraction := bits % 0x10_0000_0000_0000
  if power = 2047 then
    if fraction = 0 then .infinite negative else .notNumber
  else if power = 0 then
    .finite negative fraction (-1074)
  else
    .finite negative (fraction + 0x10_0000_0000_0000) ((power : Int) - 1075)

/-- The ratio `num / den` rounded to the nearest natural number, a half to the even one. -/
def nearestEven (num den : Nat) : Nat :=
  let q := num / den
  let r := num % den
  if 2 * r < den then q
  else if den < 2 * r then q + 1
  else if q % 2 = 0 then q
  else q + 1

/-- The ratio `num / den` divided by `2^exponent`, as a ratio. -/
def scale (num den : Nat) (exponent : Int) : Nat × Nat :=
  if 0 ≤ exponent then (num, den * Nat.pow 2 exponent.toNat)
  else (num * Nat.pow 2 (-exponent).toNat, den)

/-- The exponent at which `num / den` has a significand of 53 bits, or the least exponent. -/
def exponentFor (num den : Nat) : Int :=
  let e := max ((Nat.log2 num : Int) - (Nat.log2 den : Int) - 53) (-1074)
  let (n, d) := scale num den e
  if 0x20_0000_0000_0000 * d ≤ n then e + 1 else e

/-- The number nearest to `num / den`. -/
def ofRatio (negative : Bool) (num den : Nat) : Binary64 :=
  if num = 0 then zero negative
  else
    let e := exponentFor num den
    let (n, d) := scale num den e
    let m := nearestEven n d
    let (m, e) := if m = 0x20_0000_0000_0000 then (0x10_0000_0000_0000, e + 1) else (m, e)
    if 971 < e then .infinite negative else .finite negative m e

/-- The number nearest to an integer. -/
def ofInt (i : Int) : Binary64 :=
  ofRatio (decide (i < 0)) i.natAbs 1

def isFinite : Binary64 → Bool
  | .finite .. => true
  | _ => false

def negate : Binary64 → Binary64
  | .finite negative m e => .finite (!negative) m e
  | .infinite negative => .infinite (!negative)
  | .notNumber => .notNumber

/-- The magnitude of a finite number as a ratio. -/
def ratio (significand : Nat) (exponent : Int) : Nat × Nat :=
  if 0 ≤ exponent then (significand * Nat.pow 2 exponent.toNat, 1)
  else (significand, Nat.pow 2 (-exponent).toNat)

/-- The product of two positive finite numbers. -/
def multiply (a b : Nat × Int) : Binary64 :=
  let (n, d) := ratio a.1 a.2
  let (n', d') := ratio b.1 b.2
  ofRatio false (n * n') (d * d')

/-- The quotient of two positive finite numbers. -/
def divide (a b : Nat × Int) : Binary64 :=
  let (n, d) := ratio a.1 a.2
  let (n', d') := ratio b.1 b.2
  ofRatio false (n * d') (d * n')

end Binary64

end ApiCall
