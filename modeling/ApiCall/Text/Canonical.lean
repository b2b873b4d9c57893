import ApiCall.Text.Composite
import ApiCall.Text.Mark

/-!
The canonical form of a text: of all texts that look the same, the one with its marks in the order
of their classes and with composites wherever there are any.
-/

namespace ApiCall

namespace Canonical

/-- A character taken apart into its base and its marks, where `split?` takes one mark off. No base
is a composite more than `depth` times over. -/
def parts (split? : Char → Option (Char × Char)) (depth : Nat) (c : Char) : List Char :=
  match depth, split? c with
  | depth + 1, some (base, mark) => parts split? depth base ++ [mark]
  | _, _ => [c]

/-- Puts a character before an ordered text, after the marks of lower classes if it is a mark. -/
def insert (c : Char) : List Char → List Char
  | [] => [c]
  | d :: cs =>
    if 0 < Mark.classOf d ∧ Mark.classOf d < Mark.classOf c then d :: insert c cs else c :: d :: cs

/-- The text with the marks of each base in the order of their classes. Marks of one class keep
their order. -/
def order : List Char → List Char
  | [] => []
  | c :: cs => insert c (order cs)

/-- Composes a base with the marks that follow it. A mark stays, and is in `marks`, if there is no
composite; it keeps another mark of its class away from the base. -/
def composeFrom (base : Char) (marks : List Char) : List Char → List Char
  | [] => base :: marks.reverse
  | c :: cs =>
    let isNext := marks.head?.all fun mark => decide (Mark.classOf mark < Mark.classOf c)
    match if isNext then Composite.of? base c else none with
    | some composite => composeFrom composite marks cs
    | none =>
      if Mark.classOf c = 0 then base :: marks.reverse ++ composeFrom c [] cs
      else composeFrom base (c :: marks) cs

/-- The ordered text with its composites. -/
def compose : List Char → List Char
  | [] => []
  | c :: cs => if Mark.classOf c = 0 then composeFrom c [] cs else c :: compose cs

/-- The canonical form of a text. It is the text itself where that has no marks. -/
def text (cs : List Char) : List Char :=
  if cs.all (·.toNat < 0x300) then cs else compose (order (cs.flatMap (parts Composite.parts? 4)))

end Canonical

end ApiCall
