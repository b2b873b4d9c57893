import ApiCall.Text.Split

/-!
Punycode: labels of any characters in ASCII letters, digits and hyphens. The ASCII characters come
first. The others follow in the order of their code points, each as its distance from the place of
the one before, counted through all code points and all positions.
-/

namespace ApiCall

namespace Punycode

/-- The digit of a number below 36. -/
def digit (n : Nat) : Char :=
  if n < 26 then Char.ofNat (97 + n) else Char.ofNat (22 + n)

/-- The number of a digit in lower case. -/
def value? (c : Char) : Option Nat :=
  if 'a' ≤ c ∧ c ≤ 'z' then some (c.toNat - 97)
  else if '0' ≤ c ∧ c ≤ '9' then some (c.toNat - 22)
  else none

/-- The least digit that is followed by another one, for the digit at place `k`, counted in steps of
36. -/
def threshold (bias k : Nat) : Nat :=
  max 1 (min 26 (k - bias))

theorem threshold_pos (bias k : Nat) : 1 ≤ threshold bias k := by
  unfold threshold
  omega

/-- How often a distance is divided by 35 until it is below 456, in steps of 36, and the result. -/
def scale (delta : Nat) : Nat × Nat :=
  if _h : 455 < delta then
    let (k, rest) := scale (delta / 35)
    (k + 36, rest)
  else (0, delta)
termination_by delta
decreasing_by omega

/-- The bias after a distance, which was the first one or not, with `count` characters placed. -/
def adapt (delta count : Nat) (first : Bool) : Nat :=
  let delta := if first then delta / 700 else delta / 2
  let (k, rest) := scale (delta + delta / count)
  k + 36 * rest / (rest + 38)

/-- The digits of a distance from place `k` on. -/
def distanceDigits (bias k delta : Nat) : List Char :=
  let t := threshold bias k
  if _h : delta < t then [digit delta]
  else
    digit (t + (delta - t) % (36 - t)) :: distanceDigits bias (k + 36) ((delta - t) / (36 - t))
termination_by delta
decreasing_by
  have ht := threshold_pos bias k
  have := Nat.div_le_self (delta - threshold bias k) (36 - threshold bias k)
  omega

/-- Where a walk through code points and positions stands. -/
structure Place where
  /-- Distance since the last character placed. -/
  delta : Nat := 0
  bias : Nat := 72
  /-- How many characters are placed. -/
  count : Nat
  /-- No character but ASCII ones is placed yet. -/
  first : Bool := true
  deriving Repr

/-- Walks over one character on the round of a code point. -/
def walk (point : Nat) (state : Place × List Char) (c : Char) : Place × List Char :=
  let (p, digits) := state
  if c.toNat < point then ({ p with delta := p.delta + 1 }, digits)
  else if c.toNat = point then
    (⟨0, adapt p.delta (p.count + 1) p.first, p.count + 1, false⟩,
      digits ++ distanceDigits p.bias 36 p.delta)
  else (p, digits)

/-- The rounds of code points in increasing order, of which `next` is the first not walked yet. -/
def rounds (label : List Char) (next : Nat) (p : Place) : List Nat → List Char
  | [] => []
  | point :: points =>
    let start := { p with delta := p.delta + (point - next) * (p.count + 1) }
    let (p, digits) := label.foldl (walk point) (start, [])
    digits ++ rounds label (point + 1) { p with delta := p.delta + 1 } points

/-- The code points beyond ASCII in increasing order. -/
def points (label : List Char) : List Nat :=
  ((label.map Char.toNat).filter (128 ≤ ·)).eraseDups.mergeSort (· ≤ ·)

/-- The ASCII form of a label, without the mark that tells such forms apart. -/
def encode (label : List Char) : List Char :=
  let ascii := label.filter (·.toNat < 128)
  let digits := rounds label 128 { count := ascii.length } (points label)
  if ascii.isEmpty then digits else ascii ++ '-' :: digits

/-- The distance at the start of the digits, and the digits after it. -/
def distance? (bias k weight delta : Nat) : List Char → Option (Nat × List Char)
  | [] => none
  | c :: cs => do
    let d ← value? c
    let delta := delta + d * weight
    let t := threshold bias k
    if d < t then some (delta, cs) else distance? bias (k + 36) (weight * (36 - t)) delta cs

theorem length_distance?_lt {bias k weight delta : Nat} {cs : List Char} {r : Nat × List Char}
    (h : distance? bias k weight delta cs = some r) : r.2.length < cs.length := by
  induction cs generalizing k weight delta with
  | nil => simp [distance?] at h
  | cons c cs ih =>
    simp only [distance?, bind, Option.bind] at h
    split at h
    · cases h
    · dsimp only at h
      split at h
      · cases h
        simp
      · have := ih h
        simp only [List.length_cons]
        omega

/-- Places the characters that the digits describe into a label. -/
def place? (label : List Char) (point position bias : Nat) (first : Bool) (digits : List Char) :
    Option (List Char) :=
  match digits with
  | [] => some label
  | c :: cs =>
    match _h : distance? bias 36 1 0 (c :: cs) with
    | none => none
    | some (delta, rest) =>
      let count := label.length + 1
      let point := point + (position + delta) / count
      let position := (position + delta) % count
      if _hp : point.isValidChar then
        place? (label.take position ++ Char.ofNat point :: label.drop position) point (position + 1)
          (adapt delta count first) false rest
      else none
termination_by digits.length
decreasing_by
  have := length_distance?_lt _h
  simpa using this

/-- The label of an ASCII form: what precedes its last hyphen is ASCII text. -/
def decode? (text : List Char) : Option (List Char) :=
  match Split.once '-' text.reverse with
  | some (digits, ascii) => place? ascii.reverse 128 0 72 true digits.reverse
  | none => place? [] 128 0 72 true text

end Punycode

end ApiCall
