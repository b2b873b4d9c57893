import ApiCall.Proofs.Json.Literal
import ApiCall.Proofs.Json.Numeral
import Mathlib

/-!
The grammar of JSON. `Spells text v` says that a text, without blanks around it, is one of a value,
literal by literal and container by container; blanks may stand around every part of a container.
-/

namespace ApiCall

namespace Json

/-- A space, a line feed, a tab or a carriage return. -/
def isBlankByte (b : UInt8) : Bool :=
  b == 32 || b == 10 || b == 9 || b == 13

/-- Nothing but blanks. -/
def Blanks (s : Bytes) : Prop :=
  ∀ b ∈ s, isBlankByte b = true

instance (s : Bytes) : Decidable (Blanks s) :=
  inferInstanceAs (Decidable (∀ b ∈ s, isBlankByte b = true))

/-- One or more parts with commas between them, up to the closing byte. -/
inductive Listing {α : Type} (P : Bytes → α → Prop) (close : UInt8) : Bytes → List α → Prop where
  | last {text after : Bytes} {x : α} (hpart : P text x) (hafter : Blanks after) :
      Listing P close (text ++ (after ++ [close])) [x]
  | cons {text after before more : Bytes} {x : α} {xs : List α} (hpart : P text x)
      (hafter : Blanks after) (hbefore : Blanks before) (hmore : Listing P close more xs) :
      Listing P close (text ++ (after ++ 44 :: (before ++ more))) (x :: xs)

/-- A key, a colon and a value. -/
inductive MemberOf {α : Type} (P : Bytes → α → Prop) : Bytes → String × α → Prop where
  | mk {key text after before : Bytes} {name : String} {x : α} (hkey : Literal key name)
      (hafter : Blanks after) (hbefore : Blanks before) (hvalue : P text x) :
      MemberOf P (key ++ (after ++ 58 :: (before ++ text))) (name, x)

/-- The texts of a value, from its first byte to its last. -/
inductive Spells : Bytes → Value → Prop where
  | null : Spells [110, 117, 108, 108] .null
  | yes : Spells [116, 114, 117, 101] (.bool true)
  | no : Spells [102, 97, 108, 115, 101] (.bool false)
  | string {text : Bytes} {s : String} (hliteral : Literal text s) : Spells text (.string s)
  | number {text whole fraction : Bytes} {exponent : Option (Bool × Bytes)} {n : Number}
      (hnumeral : Numeral text whole fraction exponent)
      (hnumber : numberOf false whole fraction exponent = .ok n) : Spells text (.number n)
  | negative {text whole fraction : Bytes} {exponent : Option (Bool × Bytes)} {n : Number}
      (hnumeral : Numeral text whole fraction exponent)
      (hnumber : numberOf true whole fraction exponent = .ok n) :
      Spells (45 :: text) (.number n)
  | emptyArray {blanks : Bytes} (hblanks : Blanks blanks) :
      Spells (91 :: (blanks ++ [93])) (.array [])
  | array {blanks text : Bytes} {items : List Value} (hblanks : Blanks blanks)
      (hitems : Listing Spells 93 text items) : Spells (91 :: (blanks ++ text)) (.array items)
  | emptyObject {blanks : Bytes} (hblanks : Blanks blanks) :
      Spells (123 :: (blanks ++ [125])) (.object [])
  | object {blanks text : Bytes} {members : List (String × Value)} (hblanks : Blanks blanks)
      (hmembers : Listing (MemberOf Spells) 125 text members) :
      Spells (123 :: (blanks ++ text)) (.object members)

mutual

/-- How many containers stand around each other in a value. -/
def Value.depth : Value → Nat
  | .array items => depthOfItems items + 1
  | .object members => depthOfMembers members + 1
  | _ => 0

/-- The depth of the deepest item. -/
def depthOfItems : List Value → Nat
  | [] => 0
  | v :: rest => max v.depth (depthOfItems rest)

/-- The depth of the deepest member. -/
def depthOfMembers : List (String × Value) → Nat
  | [] => 0
  | (_, v) :: rest => max v.depth (depthOfMembers rest)

end

/-! ### Blanks -/

theorem blanks_nil : Blanks [] :=
  List.forall_mem_nil _

theorem skipBlank_append {blanks : Bytes} (h : Blanks blanks) (s : Bytes) :
    skipBlank (blanks ++ s) = skipBlank s :=
  List.dropWhile_append_of_pos h

theorem skipBlank_of_next {s : Bytes} (h : nextIs isBlankByte s = false) : skipBlank s = s := by
  have hrun := (span_run (List.forall_mem_nil _) h).2
  exact hrun

theorem nextIs_skipBlank (s : Bytes) : nextIs isBlankByte (skipBlank s) = false :=
  nextIs_dropWhile isBlankByte s

theorem skipBlank_skipBlank (s : Bytes) : skipBlank (skipBlank s) = skipBlank s :=
  skipBlank_of_next (nextIs_skipBlank s)

/-- What is skipped are blanks. -/
theorem exists_blanks (s : Bytes) : ∃ blanks, Blanks blanks ∧ s = blanks ++ skipBlank s :=
  ⟨s.takeWhile isBlankByte, fun _ hb => List.mem_takeWhile_imp hb,
    (List.takeWhile_append_dropWhile).symm⟩

/-! ### Values and their parts -/

/-- No blank and no bracket that closes starts the text of a value. -/
theorem Spells.start {text : Bytes} {v : Value} (h : Spells text v) :
    ∃ b tail, text = b :: tail ∧ isBlankByte b = false ∧ b ≠ 93 := by
  cases h with
  | string hliteral =>
      cases hliteral
      exact ⟨_, _, rfl, rfl, by decide⟩
  | number hnumeral _ =>
      obtain ⟨⟨hwhole, -⟩, -, -⟩ := hnumeral
      obtain ⟨b, more, rfl, hb⟩ := hwhole.cons
      refine ⟨b, _, rfl, Bool.eq_false_iff.mpr fun hblank => ?_, ?_⟩
      · simp only [isBlankByte, Bool.or_eq_true, beq_iff_eq] at hblank
        rcases hblank with ((rfl | rfl) | rfl) | rfl <;> cases hb
      · rintro rfl
        cases hb
  | _ => exact ⟨_, _, rfl, rfl, by decide⟩

/-- A bracket or a brace starts the texts of containers, and only these. -/
theorem Spells.isContainer_iff {b : UInt8} {text : Bytes} {v : Value} (h : Spells (b :: text) v) :
    v.isContainer = true ↔ b = 91 ∨ b = 123 := by
  generalize htext : b :: text = whole at h
  cases h with
  | string hliteral =>
      obtain ⟨_, _⟩ := hliteral
      obtain rfl := (List.cons.inj htext).1
      simp [Value.isContainer]
  | number hnumeral _ =>
      obtain ⟨⟨hwhole, -⟩, -, -⟩ := hnumeral
      obtain ⟨c, more, rfl, hdigit⟩ := hwhole.cons
      obtain rfl : b = c := (List.cons.inj htext).1
      refine iff_of_false Bool.false_ne_true ?_
      rintro (rfl | rfl) <;> cases hdigit
  | _ =>
      obtain rfl := (List.cons.inj htext).1
      simp [Value.isContainer]

/-- Of a listing whose parts have a further property the parts have it one by one. -/
theorem listing_and_iff {α : Type} {P : Bytes → α → Prop} {Q : α → Prop} {close : UInt8}
    {text : Bytes} {xs : List α} :
    Listing (fun text x => P text x ∧ Q x) close text xs ↔
      Listing P close text xs ∧ ∀ x ∈ xs, Q x := by
  constructor
  · intro h
    induction h with
    | last hpart hafter => exact ⟨.last hpart.1 hafter, List.forall_mem_singleton.mpr hpart.2⟩
    | cons hpart hafter hbefore _ ih =>
        exact ⟨.cons hpart.1 hafter hbefore ih.1, List.forall_mem_cons.mpr ⟨hpart.2, ih.2⟩⟩
  · rintro ⟨h, hall⟩
    induction h with
    | last hpart hafter => exact .last ⟨hpart, List.forall_mem_singleton.mp hall⟩ hafter
    | cons hpart hafter hbefore _ ih =>
        obtain ⟨hfirst, hrest⟩ := List.forall_mem_cons.mp hall
        exact .cons ⟨hpart, hfirst⟩ hafter hbefore (ih hrest)

/-- Each part of a listing takes a byte at least. -/
theorem length_le_of_listing {α : Type} {P : Bytes → α → Prop} {close : UInt8} {text : Bytes}
    {xs : List α} (h : Listing P close text xs) : xs.length ≤ text.length := by
  induction h with
  | last =>
      simp only [List.length_cons, List.length_append, List.length_nil]
      omega
  | cons _ _ _ _ ih =>
      simp only [List.length_cons, List.length_append]
      omega

theorem listing_ne_nil {α : Type} {P : Bytes → α → Prop} {close : UInt8} {text : Bytes}
    {xs : List α} (h : Listing P close text xs) : xs ≠ [] := by
  cases h <;> exact List.cons_ne_nil _ _

theorem depthOfItems_le_iff {items : List Value} {d : Nat} :
    depthOfItems items ≤ d ↔ ∀ v ∈ items, v.depth ≤ d := by
  induction items with
  | nil => simp [depthOfItems]
  | cons v rest ih => rw [depthOfItems, Nat.max_le, ih, List.forall_mem_cons]

theorem depthOfMembers_le_iff {members : List (String × Value)} {d : Nat} :
    depthOfMembers members ≤ d ↔ ∀ member ∈ members, member.2.depth ≤ d := by
  induction members with
  | nil => simp [depthOfMembers]
  | cons member rest ih =>
      obtain ⟨name, v⟩ := member
      rw [depthOfMembers, Nat.max_le, ih, List.forall_mem_cons]

end Json

end ApiCall
