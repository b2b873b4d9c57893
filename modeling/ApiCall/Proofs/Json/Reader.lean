import ApiCall.Proofs.Json.Grammar
import Mathlib

/-!
The reader of JSON takes exactly the texts of the grammar: those of values that are nested no deeper
than it is allowed to go, and of a number as much as belongs to it (`value_eq_ok_iff`).
-/

namespace ApiCall

namespace Json

/-- What follows the text of a number does not go on with it. -/
def EndsBefore (rest text : Bytes) (v : Value) : Prop :=
  ∀ n, v = .number n → NumberEnds text rest

/-- A value of the given depth at most. -/
def SpellsWithin (depth : Nat) (text : Bytes) (v : Value) : Prop :=
  Spells text v ∧ v.depth ≤ depth

/-- What the reader takes at a depth is the text of a value of that depth. -/
def ReadsWithin (depth : Nat) : Prop :=
  ∀ s v rest, value depth s = .ok (v, rest) ↔
    ∃ text, skipBlank s = text ++ rest ∧ SpellsWithin depth text v ∧ EndsBefore rest text v

theorem under_eq_ok {α : Type} {step : Step} {x : Except Fault α} {a : α} :
    under step x = .ok a ↔ x = .ok a := by
  cases x <;> simp [under]

theorem atHere_eq_ok {α : Type} {x : Except Reason α} {a : α} : atHere x = .ok a ↔ x = .ok a := by
  cases x <;> simp [atHere]

theorem numberEnds_cons {b : UInt8} (hdigit : isDigitByte b = false)
    (hmark : isExponentMark b = false) (hpoint : b ≠ 46) (text rest : Bytes) :
    NumberEnds text (b :: rest) := by
  refine ⟨hdigit, fun h => ?_, fun h => absurd (beq_iff_eq.mp h) hpoint⟩
  exact absurd (hmark.symm.trans h) Bool.false_ne_true

theorem numberEnds_blank {b : UInt8} (hb : isBlankByte b = true) (text rest : Bytes) :
    NumberEnds text (b :: rest) := by
  simp only [isBlankByte, Bool.or_eq_true, beq_iff_eq] at hb
  rcases hb with ((rfl | rfl) | rfl) | rfl <;> exact numberEnds_cons rfl rfl (by decide) _ _

/-- Blanks belong to no number. -/
theorem endsBefore_blanks {blanks : Bytes} (h : Blanks blanks) (text : Bytes) (v : Value) :
    EndsBefore blanks text v := by
  intro n _
  cases blanks with
  | nil => exact ⟨rfl, fun hmark => (nomatch hmark), fun hpoint => (nomatch hpoint)⟩
  | cons b blanks => exact numberEnds_blank (h b List.mem_cons_self) text blanks

/-- A comma, a bracket or a brace belongs to no number, nor do blanks before it. -/
theorem endsBefore_separator {after : Bytes} (hafter : Blanks after) {separator : UInt8}
    (hseparator : separator = 44 ∨ separator = 93 ∨ separator = 125) (rest text : Bytes)
    (v : Value) :
    EndsBefore (after ++ separator :: rest) text v := by
  intro n _
  cases after with
  | nil =>
      rcases hseparator with rfl | rfl | rfl <;> exact numberEnds_cons rfl rfl (by decide) _ _
  | cons b after => exact numberEnds_blank (hafter b List.mem_cons_self) text _

/-! ### Arrays -/

theorem items_start {depth : Nat} {text : Bytes} {items : List Value}
    (h : Listing (SpellsWithin depth) 93 text items) :
    ∃ b tail, text = b :: tail ∧ isBlankByte b = false ∧ b ≠ 93 := by
  cases h with
  | last hspells _ =>
      obtain ⟨b, tail, rfl, hb⟩ := hspells.1.start
      exact ⟨b, _, rfl, hb⟩
  | cons hspells _ _ _ =>
      obtain ⟨b, tail, rfl, hb⟩ := hspells.1.start
      exact ⟨b, _, rfl, hb⟩

theorem elementsFrom_close {α : Type} {read : Nat → Reader α} {fuel i : Nat} {s s₁ rest : Bytes}
    {x : α} (hfirst : read i s = .ok (x, s₁)) (hnext : skipBlank s₁ = 93 :: rest) :
    elementsFrom read (fuel + 1) i s = .ok ([x], rest) := by
  unfold elementsFrom
  refine bind_eq_ok.mpr ⟨_, under_eq_ok.mpr hfirst, ?_⟩
  simp only [hnext]
  rfl

theorem elementsFrom_comma {α : Type} {read : Nat → Reader α} {fuel i : Nat}
    {s s₁ tail more rest : Bytes} {x : α} {xs : List α} {b : UInt8}
    (hfirst : read i s = .ok (x, s₁)) (hnext : skipBlank s₁ = 44 :: tail)
    (htail : skipBlank tail = b :: more) (hb : b ≠ 93)
    (hmore : elementsFrom read fuel (i + 1) (b :: more) = .ok (xs, rest)) :
    elementsFrom read (fuel + 1) i s = .ok (x :: xs, rest) := by
  unfold elementsFrom
  refine bind_eq_ok.mpr ⟨_, under_eq_ok.mpr hfirst, ?_⟩
  simp only [hnext, htail]
  split
  · rename_i hnil
    cases hnil
  · rename_i hbracket
    exact absurd (List.cons.inj hbracket).1 hb
  · exact bind_eq_ok.mpr ⟨_, hmore, rfl⟩

theorem elementsFrom_eq_ok_iff {depth : Nat} (hvalue : ReadsWithin depth) {fuel i : Nat} {s : Bytes}
    {items : List Value} {rest : Bytes} :
    elementsFrom (fun _ => value depth) fuel i s = .ok (items, rest) ↔
      ∃ text, skipBlank s = text ++ rest ∧ Listing (SpellsWithin depth) 93 text items ∧
        items.length ≤ fuel := by
  induction fuel generalizing i s items with
  | zero =>
      constructor
      · intro h
        cases h
      · rintro ⟨text, -, hitems, hlength⟩
        exact absurd (List.length_eq_zero_iff.mp (Nat.le_zero.mp hlength)) (listing_ne_nil hitems)
  | succ fuel ih =>
      constructor
      · intro h
        unfold elementsFrom at h
        obtain ⟨⟨v, s₁⟩, hfirst, h⟩ := bind_eq_ok.mp h
        obtain ⟨text, hs, hspells, -⟩ := (hvalue s v s₁).mp (under_eq_ok.mp hfirst)
        obtain ⟨after, hafter, hs₁⟩ := exists_blanks s₁
        dsimp only at h
        split at h
        · cases h
        · rename_i tail hnext
          obtain ⟨rfl, rfl⟩ := Prod.mk.inj (Except.ok.inj h)
          refine ⟨_, ?_, .last hspells hafter, by simp⟩
          rw [hs, hs₁, hnext]
          simp
        · rename_i tail hnext
          obtain ⟨before, hbefore, htail⟩ := exists_blanks tail
          split at h
          · cases h
          · cases h
          · obtain ⟨⟨others, rest'⟩, hothers, hlast⟩ := bind_eq_ok.mp h
            obtain ⟨rfl, rfl⟩ := Prod.mk.inj (Except.ok.inj hlast)
            obtain ⟨more, hmore, hitems, hlength⟩ := ih.mp hothers
            rw [skipBlank_skipBlank] at hmore
            refine ⟨_, ?_, .cons hspells hafter hbefore hitems, Nat.succ_le_succ hlength⟩
            rw [hs, hs₁, hnext, htail, hmore]
            simp
        · cases h
      · rintro ⟨text, hs, hitems, hlength⟩
        cases hitems with
        | @last text after v hspells hafter =>
            rw [List.append_assoc, List.append_assoc, List.singleton_append] at hs
            have hfirst := (hvalue s v (after ++ 93 :: rest)).mpr
              ⟨text, hs, hspells, endsBefore_separator hafter (by simp) rest text v⟩
            exact elementsFrom_close hfirst
              ((skipBlank_append hafter _).trans (skipBlank_of_next rfl))
        | @cons text after before more v others hspells hafter hbefore hmore =>
            simp only [List.append_assoc, List.cons_append] at hs
            have hfirst := (hvalue s v (after ++ 44 :: (before ++ (more ++ rest)))).mpr
              ⟨text, hs, hspells, endsBefore_separator hafter (by simp) _ text v⟩
            obtain ⟨b, tail, rfl, hblank, hclose⟩ := items_start hmore
            have hothers : elementsFrom (fun _ => value depth) fuel (i + 1) (b :: tail ++ rest) =
                .ok (others, rest) :=
              ih.mpr ⟨_, skipBlank_of_next hblank, hmore, Nat.le_of_succ_le_succ hlength⟩
            exact elementsFrom_comma hfirst
              ((skipBlank_append hafter _).trans (skipBlank_of_next rfl))
              ((skipBlank_append hbefore _).trans (skipBlank_of_next hblank)) hclose hothers

theorem elements_eq_ok_iff {depth : Nat} (hvalue : ReadsWithin depth) {s : Bytes}
    {items : List Value} {rest : Bytes} :
    elements (fun _ => value depth) s = .ok (items, rest) ↔
      (skipBlank s = 93 :: rest ∧ items = []) ∨
        ∃ text, skipBlank s = text ++ rest ∧ Listing (SpellsWithin depth) 93 text items := by
  unfold elements
  constructor
  · intro h
    split at h
    · cases h
    · rename_i tail hclose
      obtain ⟨rfl, rfl⟩ := Prod.mk.inj (Except.ok.inj h)
      exact Or.inl ⟨hclose, rfl⟩
    · obtain ⟨text, htext, hitems, -⟩ := (elementsFrom_eq_ok_iff hvalue).mp h
      rw [skipBlank_skipBlank] at htext
      exact Or.inr ⟨text, htext, hitems⟩
  · rintro (⟨hclose, rfl⟩ | ⟨text, htext, hitems⟩)
    · simp only [hclose]
    · obtain ⟨b, tail, rfl, -, hclose⟩ := items_start hitems
      split
      · rename_i hnil
        rw [htext] at hnil
        cases hnil
      · rename_i hbracket
        rw [htext] at hbracket
        exact absurd (List.cons.inj hbracket).1 hclose
      · refine (elementsFrom_eq_ok_iff hvalue).mpr ⟨_, ?_, hitems, ?_⟩
        · rw [skipBlank_skipBlank, htext]
        · have hlength := length_le_of_listing hitems
          rw [htext, List.length_append]
          omega

/-! ### Objects -/

/-- What is collected of a member. -/
def memberEntry (depth : Nat) (collected : List (String × Value)) (key : String) :
    Except Reason (Reader (List (String × Value))) :=
  .ok fun s => do
    let (v, rest) ← value depth s
    return ((key, v) :: collected, rest)

theorem memberEntry_read {depth : Nat} {s rest : Bytes} {v : Value}
    (h : value depth s = .ok (v, rest)) (collected : List (String × Value)) (key : String) :
    ∃ read, memberEntry depth collected key = .ok read ∧
      read s = .ok ((key, v) :: collected, rest) :=
  ⟨_, rfl, bind_eq_ok.mpr ⟨_, h, rfl⟩⟩

theorem colon_eq_ok_iff {s rest : Bytes} : colon s = .ok rest ↔ skipBlank s = 58 :: rest := by
  unfold colon
  constructor
  · intro h
    split at h
    · cases h
    · rename_i tail hcolon
      rw [hcolon, Except.ok.inj h]
    · cases h
  · intro h
    simp only [h]

/-- The key, the colon and the value of a member are read one after the other. -/
theorem memberOf_of_read {depth : Nat} (hvalue : ReadsWithin depth) {s s₁ s₂ rest : Bytes}
    {key : String} {v : Value} (hkey : stringRest s = .ok (key, s₁)) (hcolon : colon s₁ = .ok s₂)
    (hread : value depth s₂ = .ok (v, rest)) :
    ∃ text, 34 :: s = text ++ rest ∧ MemberOf (SpellsWithin depth) text (key, v) := by
  obtain ⟨literal, hs, hliteral⟩ := stringRest_eq_ok_iff.mp hkey
  obtain ⟨after, hafter, hs₁⟩ := exists_blanks s₁
  obtain ⟨before, hbefore, hs₂⟩ := exists_blanks s₂
  obtain ⟨text, htext, hspells, -⟩ := (hvalue s₂ v rest).mp hread
  refine ⟨_, ?_, .mk hliteral hafter hbefore hspells⟩
  rw [hs, hs₁, colon_eq_ok_iff.mp hcolon, hs₂, htext]
  simp

theorem read_of_memberOf {depth : Nat} (hvalue : ReadsWithin depth) {s text rest : Bytes}
    {key : String} {v : Value} (h : MemberOf (SpellsWithin depth) text (key, v))
    (hs : 34 :: s = text ++ rest) (hends : ∀ text, EndsBefore rest text v) :
    ∃ s₁ s₂, stringRest s = .ok (key, s₁) ∧ colon s₁ = .ok s₂ ∧
      value depth s₂ = .ok (v, rest) := by
  cases h with
  | @mk literal text after before _ _ hliteral hafter hbefore hspells =>
      simp only [List.append_assoc, List.cons_append] at hs
      refine ⟨after ++ 58 :: (before ++ (text ++ rest)), before ++ (text ++ rest), ?_, ?_, ?_⟩
      · exact stringRest_eq_ok_iff.mpr ⟨literal, hs, hliteral⟩
      · rw [colon_eq_ok_iff, skipBlank_append hafter, skipBlank_of_next rfl]
      · obtain ⟨b, tail, rfl, hblank, -⟩ := hspells.1.start
        refine (hvalue _ v rest).mpr ⟨_, ?_, hspells, hends _⟩
        exact (skipBlank_append hbefore _).trans (skipBlank_of_next hblank)

theorem members_start {depth : Nat} {text : Bytes} {members : List (String × Value)}
    (h : Listing (MemberOf (SpellsWithin depth)) 125 text members) : ∃ tail, text = 34 :: tail := by
  cases h with
  | last hmember _ =>
      obtain ⟨⟨_, _⟩, _, _, _⟩ := hmember
      exact ⟨_, rfl⟩
  | cons hmember _ _ _ =>
      obtain ⟨⟨_, _⟩, _, _, _⟩ := hmember
      exact ⟨_, rfl⟩

section Members

variable {σ : Type} {entry : σ → String → Except Reason (Reader σ)} {fuel : Nat}
  {collected next : σ} {key : String} {read : Reader σ} {s s₁ s₂ s₃ tail more rest : Bytes}

theorem membersFrom_close (hkey : stringRest s = .ok (key, s₁))
    (hentry : entry collected key = .ok read) (hcolon : colon s₁ = .ok s₂)
    (hread : read s₂ = .ok (next, s₃))
    (hnext : skipBlank s₃ = 125 :: rest) :
    membersFrom entry (fuel + 1) collected s = .ok (next, rest) := by
  unfold membersFrom
  refine bind_eq_ok.mpr ⟨_, under_eq_ok.mpr (atHere_eq_ok.mpr hkey), ?_⟩
  refine bind_eq_ok.mpr ⟨_, atHere_eq_ok.mpr hentry, ?_⟩
  refine bind_eq_ok.mpr ⟨_, hcolon, bind_eq_ok.mpr ⟨_, under_eq_ok.mpr hread, ?_⟩⟩
  simp only [hnext]
  rfl

theorem membersFrom_comma (hkey : stringRest s = .ok (key, s₁))
    (hentry : entry collected key = .ok read) (hcolon : colon s₁ = .ok s₂)
    (hread : read s₂ = .ok (next, s₃))
    (hnext : skipBlank s₃ = 44 :: tail) (htail : skipBlank tail = 34 :: more) :
    membersFrom entry (fuel + 1) collected s = membersFrom entry fuel next more := by
  rw [membersFrom, atHere_eq_ok.mpr hkey, under_eq_ok.mpr rfl]
  change (atHere (entry collected key) >>= _) = _
  rw [atHere_eq_ok.mpr hentry]
  change (colon s₁ >>= _) = _
  rw [hcolon]
  change (under (.key key) (read s₂) >>= _) = _
  rw [under_eq_ok.mpr hread]
  dsimp only [Bind.bind, Except.bind]
  simp only [hnext, htail]

end Members

theorem membersFrom_eq_ok_iff {depth : Nat} (hvalue : ReadsWithin depth) {fuel : Nat}
    {s rest : Bytes} {collected found : List (String × Value)} :
    membersFrom (memberEntry depth) fuel collected s = .ok (found, rest) ↔
      ∃ text members, 34 :: s = text ++ rest ∧
        Listing (MemberOf (SpellsWithin depth)) 125 text members ∧
        found = members.reverse ++ collected ∧ members.length ≤ fuel := by
  induction fuel generalizing s collected with
  | zero =>
      constructor
      · intro h
        cases h
      · rintro ⟨text, members, -, hmembers, -, hlength⟩
        exact absurd (List.length_eq_zero_iff.mp (Nat.le_zero.mp hlength)) (listing_ne_nil hmembers)
  | succ fuel ih =>
      constructor
      · intro h
        unfold membersFrom at h
        obtain ⟨⟨key, s₁⟩, hkey, h⟩ := bind_eq_ok.mp h
        obtain ⟨read, hentry, h⟩ := bind_eq_ok.mp h
        obtain ⟨s₂, hcolon, h⟩ := bind_eq_ok.mp h
        obtain ⟨⟨collected', s₃⟩, hmember, h⟩ := bind_eq_ok.mp h
        obtain rfl := Except.ok.inj (atHere_eq_ok.mp hentry)
        obtain ⟨⟨v, s₄⟩, hread, hlast⟩ := bind_eq_ok.mp (under_eq_ok.mp hmember)
        obtain ⟨rfl, rfl⟩ := Prod.mk.inj (Except.ok.inj hlast)
        obtain ⟨text, hs, hmember⟩ :=
          memberOf_of_read hvalue (atHere_eq_ok.mp (under_eq_ok.mp hkey)) hcolon hread
        obtain ⟨after, hafter, hs₄⟩ := exists_blanks s₄
        dsimp only at h
        split at h
        · cases h
        · rename_i tail hnext
          obtain ⟨rfl, rfl⟩ := Prod.mk.inj (Except.ok.inj h)
          refine ⟨_, _, ?_, .last hmember hafter, by simp, by simp⟩
          rw [hs, hs₄, hnext]
          simp
        · rename_i tail hnext
          obtain ⟨before, hbefore, htail⟩ := exists_blanks tail
          split at h
          · cases h
          · rename_i following hquote
            obtain ⟨more, members, hmore, hmembers, rfl, hlength⟩ := ih.mp h
            refine ⟨_, _, ?_, .cons hmember hafter hbefore hmembers, by simp,
              Nat.succ_le_succ hlength⟩
            rw [hs, hs₄, hnext, htail, hquote, hmore]
            simp
          · cases h
          · cases h
        · cases h
      · rintro ⟨text, members, hs, hmembers, rfl, hlength⟩
        cases hmembers with
        | @last text after member hmember hafter =>
            obtain ⟨key, v⟩ := member
            rw [List.append_assoc, List.append_assoc, List.singleton_append] at hs
            obtain ⟨s₁, s₂, hkey, hcolon, hread⟩ := read_of_memberOf hvalue hmember hs
              fun text => endsBefore_separator hafter (by simp) rest text v
            obtain ⟨read, hentry, hread⟩ := memberEntry_read hread collected key
            exact membersFrom_close hkey hentry hcolon hread
              ((skipBlank_append hafter _).trans (skipBlank_of_next rfl))
        | @cons text after before more member others hmember hafter hbefore hmore =>
            obtain ⟨key, v⟩ := member
            simp only [List.append_assoc, List.cons_append] at hs
            obtain ⟨s₁, s₂, hkey, hcolon, hread⟩ := read_of_memberOf hvalue hmember hs
              fun text => endsBefore_separator hafter (by simp) (before ++ (more ++ rest)) text v
            obtain ⟨read, hentry, hread⟩ := memberEntry_read hread collected key
            obtain ⟨tail, rfl⟩ := members_start hmore
            rw [membersFrom_comma hkey hentry hcolon hread
              ((skipBlank_append hafter _).trans (skipBlank_of_next rfl))
              ((skipBlank_append hbefore _).trans (skipBlank_of_next rfl))]
            exact ih.mpr ⟨_, others, rfl, hmore, by simp, Nat.le_of_succ_le_succ hlength⟩

theorem members_eq_ok_iff {depth : Nat} (hvalue : ReadsWithin depth) {s rest : Bytes}
    {found : List (String × Value)} :
    members (memberEntry depth) [] s = .ok (found, rest) ↔
      (skipBlank s = 125 :: rest ∧ found = []) ∨
        ∃ text members, skipBlank s = text ++ rest ∧
          Listing (MemberOf (SpellsWithin depth)) 125 text members ∧ found = members.reverse := by
  unfold members
  constructor
  · intro h
    split at h
    · cases h
    · rename_i tail hclose
      obtain ⟨rfl, rfl⟩ := Prod.mk.inj (Except.ok.inj h)
      exact Or.inl ⟨hclose, rfl⟩
    · rename_i tail hquote
      obtain ⟨text, members, htext, hmembers, rfl, -⟩ := (membersFrom_eq_ok_iff hvalue).mp h
      exact Or.inr ⟨text, members, hquote.trans htext, hmembers, List.append_nil _⟩
    · cases h
  · rintro (⟨hclose, rfl⟩ | ⟨text, members, htext, hmembers, rfl⟩)
    · simp only [hclose]
    · obtain ⟨tail, rfl⟩ := members_start hmembers
      rw [List.cons_append] at htext
      simp only [htext]
      refine (membersFrom_eq_ok_iff hvalue).mpr
        ⟨_, members, rfl, hmembers, (List.append_nil _).symm, ?_⟩
      have hlength := length_le_of_listing hmembers
      simp only [List.length_cons, List.length_append] at hlength ⊢
      omega

/-! ### Scalars -/

theorem word_eq_ok_iff {cs : List Char} {codes : Bytes}
    (hcodes : codes.map UInt8.toNat = cs.map Char.toNat) {s rest : Bytes} :
    word cs s = .ok rest ↔ s = codes ++ rest := by
  induction cs generalizing codes s with
  | nil =>
      obtain rfl := List.map_eq_nil_iff.mp hcodes
      rw [word, List.nil_append, Except.ok.injEq]
  | cons c cs ih =>
      obtain ⟨code, codes, rfl, hcode, hcodes⟩ := List.map_eq_cons_iff.mp hcodes
      cases s with
      | nil => simp [word]
      | cons b s =>
          rw [word, List.cons_append, List.cons.injEq, ← hcode]
          by_cases hb : b.toNat = code.toNat
          · rw [if_pos hb, ih hcodes, and_iff_right (UInt8.toNat_inj.mp hb)]
          · rw [if_neg hb]
            constructor
            · intro h
              cases h
            · exact fun h => absurd (congrArg UInt8.toNat h.1) hb

/-- A word that stands for a value. -/
theorem wordValue_eq_ok_iff {cs : List Char} (codes : Bytes)
    (hcodes : codes.map UInt8.toNat = cs.map Char.toNat) {tail rest : Bytes} {v w : Value} :
    (do return (v, ← word cs tail) : Except Reason (Value × Bytes)) = .ok (w, rest) ↔
      tail = codes ++ rest ∧ v = w := by
  rw [bind_eq_ok]
  constructor
  · rintro ⟨after, hword, hlast⟩
    obtain ⟨rfl, rfl⟩ := Prod.mk.inj (Except.ok.inj hlast)
    exact ⟨(word_eq_ok_iff hcodes).mp hword, rfl⟩
  · rintro ⟨htail, rfl⟩
    exact ⟨rest, (word_eq_ok_iff hcodes).mpr htail, rfl⟩

theorem numberEnds_minus {text rest : Bytes} :
    NumberEnds (45 :: text) rest ↔ NumberEnds text rest := by
  have hmark : (45 :: text).any isExponentMark = text.any isExponentMark := rfl
  have hpoint : 46 ∈ 45 :: text ↔ 46 ∈ text := by
    rw [List.mem_cons]
    exact or_iff_right (by decide)
  unfold NumberEnds
  rw [hmark, hpoint]

theorem scalarAt_eq_ok_iff {b : UInt8} (hbracket : b ≠ 91) (hbrace : b ≠ 123) {tail rest : Bytes}
    {v : Value} :
    scalarAt b tail = .ok (v, rest) ↔
      ∃ text, b :: tail = text ++ rest ∧ Spells text v ∧ EndsBefore rest text v := by
  constructor
  · intro h
    unfold scalarAt at h
    split at h
    · rename_i hb
      obtain ⟨rfl, rfl⟩ := (wordValue_eq_ok_iff [117, 108, 108] (by decide)).mp h
      exact ⟨[110, 117, 108, 108], hb ▸ rfl, .null, fun n hn => nomatch hn⟩
    split at h
    · rename_i hb
      obtain ⟨rfl, rfl⟩ := (wordValue_eq_ok_iff [114, 117, 101] (by decide)).mp h
      exact ⟨[116, 114, 117, 101], hb ▸ rfl, .yes, fun n hn => nomatch hn⟩
    split at h
    · rename_i hb
      obtain ⟨rfl, rfl⟩ := (wordValue_eq_ok_iff [97, 108, 115, 101] (by decide)).mp h
      exact ⟨[102, 97, 108, 115, 101], hb ▸ rfl, .no, fun n hn => nomatch hn⟩
    split at h
    · rename_i hb
      obtain ⟨⟨text, after⟩, hliteral, hlast⟩ := bind_eq_ok.mp h
      obtain ⟨rfl, rfl⟩ := Prod.mk.inj (Except.ok.inj hlast)
      obtain ⟨literal, htail, hliteral⟩ := stringRest_eq_ok_iff.mp hliteral
      exact ⟨literal, by rw [hb, htail], .string hliteral, fun n hn => nomatch hn⟩
    split at h
    · rename_i hb
      obtain ⟨⟨n, after⟩, hnumber, hlast⟩ := bind_eq_ok.mp h
      obtain ⟨rfl, rfl⟩ := Prod.mk.inj (Except.ok.inj hlast)
      obtain ⟨text, whole, fraction, exponent, rfl, hnumeral, hvalue, hends⟩ :=
        numberRest_eq_ok_iff.mp hnumber
      exact ⟨45 :: text, by rw [hb, List.cons_append], .negative hnumeral hvalue,
        fun _ _ => numberEnds_minus.mpr hends⟩
    split at h
    · obtain ⟨⟨n, after⟩, hnumber, hlast⟩ := bind_eq_ok.mp h
      obtain ⟨rfl, rfl⟩ := Prod.mk.inj (Except.ok.inj hlast)
      obtain ⟨text, whole, fraction, exponent, htext, hnumeral, hvalue, hends⟩ :=
        numberRest_eq_ok_iff.mp hnumber
      exact ⟨text, htext, .number hnumeral hvalue, fun _ _ => hends⟩
    · cases h
  · rintro ⟨text, htext, hspells, hends⟩
    cases hspells with
    | null =>
        obtain ⟨rfl, rfl⟩ := List.cons.inj htext
        exact (wordValue_eq_ok_iff [117, 108, 108] (by decide)).mpr ⟨rfl, rfl⟩
    | yes =>
        obtain ⟨rfl, rfl⟩ := List.cons.inj htext
        exact (wordValue_eq_ok_iff [114, 117, 101] (by decide)).mpr ⟨rfl, rfl⟩
    | no =>
        obtain ⟨rfl, rfl⟩ := List.cons.inj htext
        exact (wordValue_eq_ok_iff [97, 108, 115, 101] (by decide)).mpr ⟨rfl, rfl⟩
    | string hliteral =>
        have hb : b = 34 := by
          obtain ⟨_, _⟩ := hliteral
          exact (List.cons.inj htext).1
        subst hb
        exact bind_eq_ok.mpr ⟨_, stringRest_eq_ok_iff.mpr ⟨text, htext, hliteral⟩, rfl⟩
    | @number _ whole fraction exponent n hnumeral hvalue =>
        have hnumber : numberRest false (b :: tail) = .ok (n, rest) :=
          numberRest_eq_ok_iff.mpr
            ⟨text, whole, fraction, exponent, htext, hnumeral, hvalue, hends n rfl⟩
        have hb : isDigitByte b = true := by
          obtain ⟨⟨hwhole, -⟩, -, -⟩ := hnumeral
          obtain ⟨c, more, rfl, hc⟩ := hwhole.cons
          exact (List.cons.inj htext).1 ▸ hc
        have hne {c : UInt8} (hc : isDigitByte c = false) : b ≠ c := by
          rintro rfl
          rw [hb] at hc
          cases hc
        unfold scalarAt
        rw [if_neg (hne rfl), if_neg (hne rfl), if_neg (hne rfl), if_neg (hne rfl),
          if_neg (hne rfl), if_pos hb]
        exact bind_eq_ok.mpr ⟨_, hnumber, rfl⟩
    | @negative text whole fraction exponent n hnumeral hvalue =>
        obtain ⟨rfl, htail⟩ := List.cons.inj htext
        have hnumber : numberRest true tail = .ok (n, rest) :=
          numberRest_eq_ok_iff.mpr
            ⟨text, whole, fraction, exponent, htail, hnumeral, hvalue,
              numberEnds_minus.mp (hends n rfl)⟩
        exact bind_eq_ok.mpr ⟨_, hnumber, rfl⟩
    | emptyArray => exact absurd (List.cons.inj htext).1 hbracket
    | array => exact absurd (List.cons.inj htext).1 hbracket
    | emptyObject => exact absurd (List.cons.inj htext).1 hbrace
    | object => exact absurd (List.cons.inj htext).1 hbrace

/-! ### Values -/

/-- The text of an array, from its bracket on. -/
theorem spells_bracket_iff {text : Bytes} {v : Value} :
    Spells (91 :: text) v ↔ ∃ blanks tail items, text = blanks ++ tail ∧ Blanks blanks ∧
      v = .array items ∧ (tail = [93] ∧ items = [] ∨ Listing Spells 93 tail items) := by
  constructor
  · intro h
    have hcontainer : v.isContainer = true := h.isContainer_iff.mpr (Or.inl rfl)
    generalize htext : 91 :: text = whole at h
    cases h with
    | @emptyArray blanks hblanks =>
        exact ⟨blanks, _, [], (List.cons.inj htext).2, hblanks, rfl, Or.inl ⟨rfl, rfl⟩⟩
    | @array blanks tail items hblanks hitems =>
        exact ⟨blanks, tail, items, (List.cons.inj htext).2, hblanks, rfl, Or.inr hitems⟩
    | emptyObject => exact absurd (List.cons.inj htext).1 (by decide)
    | object => exact absurd (List.cons.inj htext).1 (by decide)
    | _ => cases hcontainer
  · rintro ⟨blanks, tail, items, rfl, hblanks, rfl, ⟨rfl, rfl⟩ | hitems⟩
    · exact .emptyArray hblanks
    · exact .array hblanks hitems

/-- The text of an object, from its brace on. -/
theorem spells_brace_iff {text : Bytes} {v : Value} :
    Spells (123 :: text) v ↔ ∃ blanks tail members, text = blanks ++ tail ∧ Blanks blanks ∧
      v = .object members ∧
        (tail = [125] ∧ members = [] ∨ Listing (MemberOf Spells) 125 tail members) := by
  constructor
  · intro h
    have hcontainer : v.isContainer = true := h.isContainer_iff.mpr (Or.inr rfl)
    generalize htext : 123 :: text = whole at h
    cases h with
    | @emptyObject blanks hblanks =>
        exact ⟨blanks, _, [], (List.cons.inj htext).2, hblanks, rfl, Or.inl ⟨rfl, rfl⟩⟩
    | @object blanks tail members hblanks hmembers =>
        exact ⟨blanks, tail, members, (List.cons.inj htext).2, hblanks, rfl, Or.inr hmembers⟩
    | emptyArray => exact absurd (List.cons.inj htext).1 (by decide)
    | array => exact absurd (List.cons.inj htext).1 (by decide)
    | _ => cases hcontainer
  · rintro ⟨blanks, tail, members, rfl, hblanks, rfl, ⟨rfl, rfl⟩ | hmembers⟩
    · exact .emptyObject hblanks
    · exact .object hblanks hmembers

theorem memberOf_spellsWithin (depth : Nat) :
    MemberOf (SpellsWithin depth) =
      fun text member => MemberOf Spells text member ∧ member.2.depth ≤ depth := by
  funext text member
  refine propext ⟨?_, ?_⟩
  · rintro ⟨hkey, hafter, hbefore, hspells, hdepth⟩
    exact ⟨.mk hkey hafter hbefore hspells, hdepth⟩
  · rintro ⟨⟨hkey, hafter, hbefore, hspells⟩, hdepth⟩
    exact .mk hkey hafter hbefore ⟨hspells, hdepth⟩

section Start

variable {depth : Nat} {b : UInt8} {s tail rest : Bytes} {v : Value}

theorem value_scalar (hs : skipBlank s = b :: tail) (hbracket : b ≠ 91) (hbrace : b ≠ 123) :
    value depth s = atHere (scalarAt b tail) := by
  unfold value
  simp only [hs]
  rw [if_neg hbracket, if_neg hbrace]

/-- Within no depth there are no containers. -/
theorem value_zero (hs : skipBlank s = b :: tail) (hcontainer : b = 91 ∨ b = 123) :
    value 0 s = .error (.here .tooDeep) := by
  unfold value
  simp only [hs]
  rcases hcontainer with rfl | rfl <;> rfl

theorem value_bracket (hs : skipBlank s = 91 :: tail) :
    value (depth + 1) s = .ok (v, rest) ↔
      ∃ items, elements (fun _ => value depth) tail = .ok (items, rest) ∧ v = .array items := by
  unfold value
  simp only [hs, if_true]
  rw [bind_eq_ok]
  constructor
  · rintro ⟨⟨items, _⟩, hitems, hlast⟩
    obtain ⟨rfl, rfl⟩ := Prod.mk.inj (Except.ok.inj hlast)
    exact ⟨items, hitems, rfl⟩
  · rintro ⟨items, hitems, rfl⟩
    exact ⟨_, hitems, rfl⟩

theorem value_brace (hs : skipBlank s = 123 :: tail) :
    value (depth + 1) s = .ok (v, rest) ↔
      ∃ found, members (memberEntry depth) [] tail = .ok (found, rest) ∧
        v = .object found.reverse := by
  unfold value
  simp only [hs]
  change (members (memberEntry depth) [] tail >>= _) = _ ↔ _
  rw [bind_eq_ok]
  constructor
  · rintro ⟨⟨found, _⟩, hfound, hlast⟩
    obtain ⟨rfl, rfl⟩ := Prod.mk.inj (Except.ok.inj hlast)
    exact ⟨found, hfound, rfl⟩
  · rintro ⟨found, hfound, rfl⟩
    exact ⟨_, hfound, rfl⟩

theorem elements_iff_spells (hvalue : ReadsWithin depth) :
    (∃ items, elements (fun _ => value depth) tail = .ok (items, rest) ∧ v = .array items) ↔
      ∃ text, tail = text ++ rest ∧ SpellsWithin (depth + 1) (91 :: text) v := by
  constructor
  · rintro ⟨items, hread, rfl⟩
    obtain ⟨blanks, hblanks, htail⟩ := exists_blanks tail
    rcases (elements_eq_ok_iff hvalue).mp hread with ⟨hclose, rfl⟩ | ⟨text, htext, hitems⟩
    · refine ⟨blanks ++ [93], ?_, .emptyArray hblanks, Nat.le_add_left 1 depth⟩
      rw [htail, hclose, List.append_assoc, List.singleton_append]
    · obtain ⟨hitems, hdepth⟩ := listing_and_iff.mp hitems
      refine ⟨blanks ++ text, ?_, .array hblanks hitems, ?_⟩
      · rw [htail, htext, List.append_assoc]
      · exact Nat.succ_le_succ (depthOfItems_le_iff.mpr hdepth)
  · rintro ⟨text, rfl, hspells, hdepth⟩
    obtain ⟨blanks, tail, items, rfl, hblanks, rfl, hitems⟩ := spells_bracket_iff.mp hspells
    refine ⟨items, (elements_eq_ok_iff hvalue).mpr ?_, rfl⟩
    rw [List.append_assoc, skipBlank_append hblanks]
    rcases hitems with ⟨rfl, rfl⟩ | hitems
    · exact Or.inl ⟨rfl, rfl⟩
    · have hdepth : depthOfItems items ≤ depth := Nat.le_of_succ_le_succ hdepth
      have hitems : Listing (SpellsWithin depth) 93 tail items :=
        listing_and_iff.mpr ⟨hitems, depthOfItems_le_iff.mp hdepth⟩
      obtain ⟨b, more, rfl, hblank, -⟩ := items_start hitems
      exact Or.inr ⟨_, skipBlank_of_next hblank, hitems⟩

theorem members_iff_spells (hvalue : ReadsWithin depth) :
    (∃ found, members (memberEntry depth) [] tail = .ok (found, rest) ∧
        v = .object found.reverse) ↔
      ∃ text, tail = text ++ rest ∧ SpellsWithin (depth + 1) (123 :: text) v := by
  constructor
  · rintro ⟨found, hread, rfl⟩
    obtain ⟨blanks, hblanks, htail⟩ := exists_blanks tail
    rcases (members_eq_ok_iff hvalue).mp hread with
      ⟨hclose, rfl⟩ | ⟨text, members, htext, hmembers, rfl⟩
    · refine ⟨blanks ++ [125], ?_, .emptyObject hblanks, Nat.le_add_left 1 depth⟩
      rw [htail, hclose, List.append_assoc, List.singleton_append]
    · rw [memberOf_spellsWithin] at hmembers
      obtain ⟨hmembers, hdepth⟩ := listing_and_iff.mp hmembers
      rw [List.reverse_reverse]
      refine ⟨blanks ++ text, ?_, .object hblanks hmembers, ?_⟩
      · rw [htail, htext, List.append_assoc]
      · exact Nat.succ_le_succ (depthOfMembers_le_iff.mpr hdepth)
  · rintro ⟨text, rfl, hspells, hdepth⟩
    obtain ⟨blanks, tail, members, rfl, hblanks, rfl, hmembers⟩ := spells_brace_iff.mp hspells
    refine ⟨members.reverse, (members_eq_ok_iff hvalue).mpr ?_, by rw [List.reverse_reverse]⟩
    rw [List.append_assoc, skipBlank_append hblanks]
    rcases hmembers with ⟨rfl, rfl⟩ | hmembers
    · exact Or.inl ⟨rfl, rfl⟩
    · have hdepth : depthOfMembers members ≤ depth := Nat.le_of_succ_le_succ hdepth
      have hmembers : Listing (MemberOf (SpellsWithin depth)) 125 tail members := by
        rw [memberOf_spellsWithin]
        exact listing_and_iff.mpr ⟨hmembers, depthOfMembers_le_iff.mp hdepth⟩
      obtain ⟨more, rfl⟩ := members_start hmembers
      exact Or.inr ⟨_, members, skipBlank_of_next rfl, hmembers, rfl⟩

end Start

/-- Only containers are deep. -/
theorem depth_eq_zero_iff {v : Value} : v.depth = 0 ↔ v.isContainer = false := by
  cases v <;> simp [Value.depth, Value.isContainer]

/-- A container whose first byte has been read is closed by its text. -/
theorem exists_container_iff {depth : Nat} {b : UInt8} {tail rest : Bytes} {v : Value}
    (hcontainer : b = 91 ∨ b = 123) :
    (∃ text, tail = text ++ rest ∧ SpellsWithin depth (b :: text) v) ↔
      ∃ text, b :: tail = text ++ rest ∧ SpellsWithin depth text v ∧ EndsBefore rest text v := by
  constructor
  · rintro ⟨text, rfl, hspells⟩
    refine ⟨b :: text, rfl, hspells, ?_⟩
    rintro n rfl
    cases hspells.1.isContainer_iff.mpr hcontainer
  · rintro ⟨text, htext, hspells, -⟩
    obtain ⟨c, more, rfl, -, -⟩ := hspells.1.start
    obtain ⟨rfl, rfl⟩ := List.cons.inj htext
    exact ⟨more, rfl, hspells⟩

/-- The reader takes the texts of values that are not nested too deeply. -/
theorem value_eq_ok_iff (depth : Nat) : ReadsWithin depth := by
  have hscalar {depth : Nat} {s tail : Bytes} {b : UInt8} (hs : skipBlank s = b :: tail)
      (hbracket : b ≠ 91) (hbrace : b ≠ 123) (v : Value) (rest : Bytes) :
      value depth s = .ok (v, rest) ↔ ∃ text, b :: tail = text ++ rest ∧
        SpellsWithin depth text v ∧ EndsBefore rest text v := by
    rw [value_scalar hs hbracket hbrace, atHere_eq_ok, scalarAt_eq_ok_iff hbracket hbrace]
    refine exists_congr fun text => and_congr_right fun htext => and_congr_left fun _ => ?_
    refine ⟨fun hspells => ⟨hspells, ?_⟩, And.left⟩
    obtain ⟨c, more, rfl, -, -⟩ := hspells.start
    obtain ⟨rfl, -⟩ := List.cons.inj htext
    have hflat : v.isContainer = false := by
      rw [Bool.eq_false_iff, ne_eq, hspells.isContainer_iff, not_or]
      exact ⟨hbracket, hbrace⟩
    rw [depth_eq_zero_iff.mpr hflat]
    exact Nat.zero_le depth
  have hempty {depth : Nat} {s : Bytes} (hs : skipBlank s = []) (v : Value) (rest : Bytes) :
      value depth s = .ok (v, rest) ↔ ∃ text, [] = text ++ rest ∧
        SpellsWithin depth text v ∧ EndsBefore rest text v := by
    constructor
    · intro h
      unfold value at h
      simp only [hs] at h
      cases h
    · rintro ⟨text, htext, ⟨hspells, -⟩, -⟩
      obtain ⟨b, tail, rfl, -, -⟩ := hspells.start
      cases htext
  induction depth with
  | zero =>
      intro s v rest
      cases hs : skipBlank s with
      | nil => exact hempty hs v rest
      | cons b tail =>
          by_cases hcontainer : b = 91 ∨ b = 123
          · rw [value_zero hs hcontainer, ← exists_container_iff hcontainer]
            constructor
            · intro h
              cases h
            · rintro ⟨text, rfl, hspells, hdepth⟩
              have hflat := depth_eq_zero_iff.mp (Nat.le_zero.mp hdepth)
              exact absurd (hspells.isContainer_iff.mpr hcontainer) (Bool.eq_false_iff.mp hflat)
          · rw [not_or] at hcontainer
            exact hscalar hs hcontainer.1 hcontainer.2 v rest
  | succ depth ih =>
      intro s v rest
      cases hs : skipBlank s with
      | nil => exact hempty hs v rest
      | cons b tail =>
          by_cases hbracket : b = 91
          · subst hbracket
            rw [value_bracket hs, elements_iff_spells ih, exists_container_iff (Or.inl rfl)]
          by_cases hbrace : b = 123
          · subst hbrace
            rw [value_brace hs, members_iff_spells ih, exists_container_iff (Or.inr rfl)]
          · exact hscalar hs hbracket hbrace v rest

end Json

end ApiCall
