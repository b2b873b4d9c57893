import ApiCall.Decimal.Integer
import ApiCall.Text.Percent
import ApiCall.Text.Split

/-!
IPv4 addresses of hosts: up to four numbers, decimal, octal after `0` or hexadecimal after `0x`. The
last number fills all the bytes that are left.
-/

namespace ApiCall

namespace Ipv4

/-- The value of a digit in a base up to sixteen. -/
def digit? (base : Nat) (c : Char) : Option Nat :=
  (Percent.digitValue? c.toNat).filter (· < base)

/-- The number that the digits spell; none is zero. -/
def digits? (base : Nat) (cs : List Char) : Option Nat :=
  (cs.mapM (digit? base)).map fun ds => ds.foldl (fun n d => n * base + d) 0

/-- One number of an address. -/
def number? : List Char → Option Nat
  | [] => none
  | ['0'] => some 0
  | '0' :: 'x' :: cs => digits? 16 cs
  | '0' :: 'X' :: cs => digits? 16 cs
  | '0' :: cs => digits? 8 cs
  | cs => digits? 10 cs

/-- The numbers between the dots; a dot at the end has no number after it. -/
def parts (host : List Char) : List (List Char) :=
  match (Split.pieces '.' host).reverse with
  | [] :: rest => rest.reverse
  | all => all.reverse

/-- The host is meant as an address: its last part is a number. -/
def isMeant (host : List Char) : Bool :=
  match (parts host).getLast? with
  | none => false
  | some last => (!last.isEmpty && last.all Char.isDigit) || (number? last).isSome

/-- The value of an address of the numbers before the last one and the last one. -/
def value? (before : List Nat) (last : Nat) : Option Nat :=
  if before.length ≤ 3 ∧ before.all (· ≤ 255) ∧ last < Nat.pow 256 (4 - before.length) then
    some (before.foldl (fun n b => n * 256 + b) 0 * Nat.pow 256 (4 - before.length) + last)
  else none

/-- The address that a host spells. -/
def parse? (host : List Char) : Option Nat := do
  let numbers ← (parts host).mapM number?
  let last ← numbers.getLast?
  value? numbers.dropLast last

/-- The four bytes in decimal with dots between them. -/
def text (address : Nat) : List Char :=
  let byte (i : Nat) := Decimal.ofNat (address / Nat.pow 256 i % 256)
  byte 3 ++ '.' :: byte 2 ++ '.' :: byte 1 ++ '.' :: byte 0

end Ipv4

end ApiCall
