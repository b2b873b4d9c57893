import ApiCall.Decimal.Binary64
import ApiCall.Decimal.Integer

/-!
Reading decimal fractions as double-precision numbers. `float?` rounds the exact value of the whole
text once.
-/

namespace ApiCall

namespace Decimal

/-- The exact value `significand · 10^exponent`, rounded once. The exponent is checked against the
range of the numbers first, so that no huge power is formed. -/
def nearest (negative : Bool) (significand : Nat) (exponent : Int) : Binary64 :=
  let size := (ofNat significand).length
  if significand = 0 then .zero negative
  else if 310 < exponent + size then .infinite negative
  else if exponent + size < -330 then .zero negative
  else if 0 ≤ exponent then .ofRatio negative (significand * Nat.pow 10 exponent.toNat) 1
  else .ofRatio negative significand (Nat.pow 10 (-exponent).toNat)

/-- The exponent part after the digits of a number: nothing, or `e`, an optional sign and digits. -/
def exponentPart? : List Char → Option Int
  | [] => some 0
  | c :: rest =>
    if c == 'e' || c == 'E' then do
      let (negative, digits) := splitSign rest
      let n ← value? digits
      return if negative then -(n : Int) else n
    else none

/-- The double-precision number nearest to what a text spells: an optional sign, digits with an
optional point among or around them, and an optional exponent. -/
def float? (cs : List Char) : Option Binary64 := do
  let (negative, cs) := splitSign cs
  let whole := cs.takeWhile isDigit
  let cs := cs.dropWhile isDigit
  let (fraction, cs) := match cs with
    | '.' :: cs => (cs.takeWhile isDigit, cs.dropWhile isDigit)
    | cs => ([], cs)
  let significand ← value? (whole ++ fraction)
  let exponent ← exponentPart? cs
  return nearest negative significand (exponent - fraction.length)

/-- The powers of ten up to `10^308`, each rounded. -/
def powerOfTen (n : Nat) : Binary64 :=
  .ofRatio false (Nat.pow 10 n) 1

/-- The value `significand · 10^exponent` with a rounding at each step: the significand is rounded
first and then multiplied or divided by a rounded power of ten. Far below the range the division is
done in steps of `10^308`. `none` means that the result is too large. -/
def stepwise (significand : Nat) (exponent : Int) : Option Binary64 :=
  go 8 (.ofRatio false significand 1) exponent
where
  go : Nat → Binary64 → Int → Option Binary64
    | 0, x, _ => some x
    | fuel + 1, x, exponent =>
      match x with
      | .finite _ m e =>
        if exponent.natAbs ≤ 308 then
          match powerOfTen exponent.natAbs with
          | .finite _ p q =>
            if 0 ≤ exponent then
              match Binary64.multiply (m, e) (p, q) with
              | .finite s m e => some (.finite s m e)
              | _ => none
            else some (Binary64.divide (m, e) (p, q))
          | _ => none
        else if m = 0 then some x
        else if 0 ≤ exponent then none
        else
          match powerOfTen 308 with
          | .finite _ p q => go fuel (Binary64.divide (m, e) (p, q)) (exponent + 308)
          | _ => none
      | _ => none

end Decimal

end ApiCall
