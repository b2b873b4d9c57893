import ApiCall.Decimal.Binary64

/-!
Lengths of time in nanoseconds. Their range is that of 64-bit seconds with a nanosecond part.
-/

namespace ApiCall

structure Duration where
  nanoseconds : Nat
  deriving DecidableEq, Repr, Inhabited

namespace Duration

def zero : Duration := ⟨0⟩

def ofSeconds (s : Nat) : Duration :=
  ⟨s * 1_000_000_000⟩

def ofParts (seconds nanoseconds : Nat) : Duration :=
  ⟨seconds * 1_000_000_000 + nanoseconds⟩

def isZero (d : Duration) : Bool :=
  d.nanoseconds == 0

/-- Whole seconds. -/
def seconds (d : Duration) : Nat :=
  d.nanoseconds / 1_000_000_000

/-- Nanoseconds beyond the whole seconds. -/
def subsecond (d : Duration) : Nat :=
  d.nanoseconds % 1_000_000_000

/-- Whole milliseconds, at most the greatest 64-bit number. -/
def milliseconds (d : Duration) : Nat :=
  min (d.nanoseconds / 1_000_000) 0xFFFF_FFFF_FFFF_FFFF

/-- A number of seconds rounded to whole nanoseconds, a half to the even one; `none` when it is
negative or out of range. -/
def ofFloat? : Binary64 → Option Duration
  | .finite negative m e =>
    if negative ∧ m ≠ 0 then none
    else
      let (num, den) := Binary64.ratio m e
      let n := Binary64.nearestEven (num * 1_000_000_000) den
      if n < 0x1_0000_0000_0000_0000 * 1_000_000_000 then some ⟨n⟩ else none
  | _ => none

/-- A number of seconds that sets a duration: positive and in range. -/
def positive? (x : Binary64) : Option Duration :=
  (ofFloat? x).filter fun d => !d.isZero

end Duration

end ApiCall
