import ApiCall.Text.Percent
import ApiCall.Url.Ipv4

/-!
IPv6 addresses of hosts: eight groups of sixteen bits. One run of zero groups may be left out, and
the last two groups may be written as four bytes in decimal.
-/

namespace ApiCall

namespace Ipv6

/-- What has been read of an address. A gap stands after some of the groups and is at least one
group long. -/
structure Groups where
  /-- The groups before the gap, or all of them while there is none. -/
  before : List Nat := []
  /-- The groups after the gap, once there is one. -/
  after : Option (List Nat) := none
  deriving DecidableEq, Repr

namespace Groups

/-- How many groups are known, with one for the gap. -/
def count (g : Groups) : Nat :=
  match g.after with
  | none => g.before.length
  | some after => g.before.length + 1 + after.length

def push (g : Groups) (group : Nat) : Groups :=
  match g.after with
  | none => { g with before := g.before ++ [group] }
  | some after => { g with after := some (after ++ [group]) }

/-- All eight groups, if the groups and the gap make up an address. -/
def complete? (g : Groups) : Option (List Nat) :=
  match g.after with
  | none => if g.before.length = 8 then some g.before else none
  | some after => some (g.before ++ List.replicate (8 - g.before.length - after.length) 0 ++ after)

end Groups

/-- The value of a byte in decimal, without leading zeros. -/
def byte? (cs : List Char) : Option Nat :=
  match cs with
  | [] => none
  | '0' :: _ :: _ => none
  | cs => (Ipv4.digits? 10 cs).filter (· ≤ 255)

/-- The two groups of four bytes in decimal. -/
def decimalGroups? (cs : List Char) : Option (Nat × Nat) := do
  match ← (Split.pieces '.' cs).mapM byte? with
  | [a, b, c, d] => some (a * 256 + b, c * 256 + d)
  | _ => none

/-- At most `n` hexadecimal digits at the start of a text, and the rest. -/
def hexDigits : Nat → List Char → List Nat × List Char
  | 0, cs => ([], cs)
  | _ + 1, [] => ([], [])
  | n + 1, c :: cs =>
    match Percent.digitValue? c.toNat with
    | some d => let (ds, rest) := hexDigits n cs; (d :: ds, rest)
    | none => ([], c :: cs)

theorem length_hexDigits (n : Nat) (cs : List Char) :
    (hexDigits n cs).1.length + (hexDigits n cs).2.length = cs.length := by
  induction n generalizing cs with
  | zero => simp [hexDigits]
  | succ n ih =>
    cases cs with
    | nil => simp [hexDigits]
    | cons c cs =>
      simp only [hexDigits]
      split
      · have := ih cs
        simp only [List.length_cons]
        omega
      · simp

/-- The number that the hexadecimal digits of a group spell. -/
def groupValue (digits : List Nat) : Nat :=
  digits.foldl (fun n d => n * 16 + d) 0

/-- Reads the groups from the start of one of them to the end of the address. -/
def readGroups (g : Groups) (cs : List Char) : Option Groups :=
  match cs with
  | [] => some g
  | c :: cs =>
    if 8 ≤ g.count then none
    else if c = ':' then
      if g.after.isSome then none else readGroups { g with after := some [] } cs
    else
      match _h : hexDigits 4 (c :: cs) with
      | ([], _) => none
      | (d :: ds, []) => some (g.push (groupValue (d :: ds)))
      | (_, [':']) => none
      | (d :: ds, ':' :: rest) => readGroups (g.push (groupValue (d :: ds))) rest
      | (_, '.' :: _) =>
        if 6 < g.count then none
        else do
          let (high, low) ← decimalGroups? (c :: cs)
          return (g.push high).push low
      | _ => none
termination_by cs.length
decreasing_by
  · simp
  · have := length_hexDigits 4 (c :: cs)
    simp only [_h, List.length_cons] at this ⊢
    omega

/-- The groups of the address between the brackets. -/
def parse? (cs : List Char) : Option (List Nat) :=
  match cs with
  | [] => none
  | [_] => none
  | ':' :: ':' :: rest => do (← readGroups { after := some [] } rest).complete?
  | ':' :: _ => none
  | cs => do (← readGroups {} cs).complete?

/-- The length of the run of zeros at the start. -/
def zeros (groups : List Nat) : Nat :=
  (groups.takeWhile (· == 0)).length

/-- Where the first of the longest runs of zeros starts, and its length; `i` is the place of the
first group. -/
def longestRun (i : Nat) : List Nat → Nat × Nat
  | [] => (i, 0)
  | g :: rest =>
    let (start, length) := longestRun (i + 1) rest
    let here := zeros (g :: rest)
    if length ≤ here then (i, here) else (start, length)

/-- A group in lower-case hexadecimal. -/
def groupText (group : Nat) : List Char :=
  Nat.toDigits 16 group

private def join (groups : List Nat) : List Char :=
  [':'].intercalate (groups.map groupText)

/-- The address between brackets. The longest run of zeros, if it has two or more, is left out. -/
def text (groups : List Nat) : List Char :=
  let (start, length) := longestRun 0 groups
  let inner :=
    if length < 2 then join groups
    else join (groups.take start) ++ "::".toList ++ join (groups.drop (start + length))
  '[' :: inner ++ [']']

end Ipv6

end ApiCall
