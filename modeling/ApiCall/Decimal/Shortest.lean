import ApiCall.Decimal.Binary64
import ApiCall.Decimal.Integer

/-!
The shortest decimal that reads back as a given double-precision number, and the two layouts in
which it is written: always positional, or with an exponent outside a middle range.

The decimals that read back form an interval around the number. The search goes from the coarsest
decimal grid to finer ones and stops at the first grid on which one of the number's two neighbours
lies in the interval; if both do, the nearer one is taken.
-/

namespace ApiCall

namespace Decimal

/-- A positive decimal `digits · 10^exponent`. -/
structure Shortest where
  digits : Nat
  exponent : Int
  deriving DecidableEq, Repr

/-- Which neighbour is taken when a number lies halfway between them. -/
inductive Tie where
  | up
  | even
  deriving DecidableEq, Repr

/-- The neighbour of `significand · 2^exponent` on the grid of multiples of `10^grid` that reads
back as this number. All quantities are counted in quarters of the last place. -/
def neighbour? (tie : Tie) (significand : Nat) (exponent grid : Int) : Option Nat :=
  let unit := Nat.pow 2 (exponent - 2).toNat * Nat.pow 10 (-grid).toNat
  let step := Nat.pow 2 (2 - exponent).toNat * Nat.pow 10 grid.toNat
  let value := 4 * significand * unit
  let gap := if significand = 0x10_0000_0000_0000 ∧ exponent ≠ -1074 then 1 else 2
  let low := (4 * significand - gap) * unit
  let high := (4 * significand + 2) * unit
  let readsBack (d : Nat) : Bool :=
    if significand % 2 = 0 then decide (low ≤ d * step ∧ d * step ≤ high)
    else decide (low < d * step ∧ d * step < high)
  let below := value / step
  if readsBack below then
    if readsBack (below + 1) then
      let middle := (2 * below + 1) * step
      if 2 * value < middle then some below
      else if middle < 2 * value then some (below + 1)
      else
        match tie with
        | .up => some (below + 1)
        | .even => some (if below % 2 = 0 then below else below + 1)
    else some below
  else if readsBack (below + 1) then some (below + 1)
  else none

/-- Searches `count` grids from `grid` downwards. -/
def shortestFrom (tie : Tie) (significand : Nat) (exponent : Int) : Nat → Int → Shortest
  | 0, grid => ⟨0, grid⟩
  | count + 1, grid =>
    match neighbour? tie significand exponent grid with
    | some digits => ⟨digits, grid⟩
    | none => shortestFrom tie significand exponent count (grid - 1)

/-- The shortest decimal of a positive number. No such number reaches `10^309`, and below the grid
of `10^-342` every one of them has more than seventeen digits, which always suffice. -/
def shortest (tie : Tie) (significand : Nat) (exponent : Int) : Shortest :=
  shortestFrom tie significand exponent 652 309

/-- A run of `count` zeros. -/
def zeros (count : Nat) : List Char :=
  List.replicate count '0'

/-- The digits of a decimal with the point in its place, written without an exponent. -/
def Shortest.positional (s : Shortest) : List Char :=
  let ds := ofNat s.digits
  if 0 ≤ s.exponent then ds ++ zeros s.exponent.toNat
  else
    let places := (-s.exponent).toNat
    if places < ds.length then
      ds.take (ds.length - places) ++ '.' :: ds.drop (ds.length - places)
    else
      '0' :: '.' :: zeros (places - ds.length) ++ ds

/-- One digit before the point and a signed exponent of ten. -/
def Shortest.scientific (s : Shortest) : List Char :=
  let ds := ofNat s.digits
  let power := s.exponent + (ds.length - 1 : Nat)
  let mantissa := match ds with
    | [] => []
    | [d] => [d]
    | d :: more => d :: '.' :: more
  mantissa ++ 'e' :: (if 0 ≤ power then ['+'] else []) ++ ofInt power

/-- The decimal exponent of the first digit. -/
def Shortest.magnitude (s : Shortest) : Int :=
  s.exponent + ((ofNat s.digits).length - 1 : Nat)

private def sign (negative : Bool) : List Char :=
  if negative then ['-'] else []

/-- The shortest decimal that reads back, never with an exponent; an integral value has no point. -/
def plainText : Binary64 → List Char
  | .notNumber => "NaN".toList
  | .infinite negative => sign negative ++ "inf".toList
  | .finite negative m e =>
    sign negative ++ (if m = 0 then ['0'] else (shortest .up m e).positional)

/-- The shortest decimal that reads back, as a JSON number: an integral value keeps `.0`, and an
exponent is written when the first digit stands below `10^-5` or at least at `10^16`. -/
def jsonText : Binary64 → List Char
  | .notNumber => "null".toList
  | .infinite _ => "null".toList
  | .finite negative m e =>
    sign negative ++
      (if m = 0 then "0.0".toList
       else
        let s := shortest .even m e
        if s.magnitude < -5 ∨ 16 ≤ s.magnitude then s.scientific
        else if 0 ≤ s.exponent then s.positional ++ ".0".toList
        else s.positional)

end Decimal

end ApiCall
