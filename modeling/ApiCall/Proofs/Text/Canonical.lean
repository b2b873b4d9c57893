import ApiCall.Proofs.Text.Split
import ApiCall.Text.Canonical
import Mathlib

/-!
Controls and blanks in a canonical form. None of them is part of a composite or a mark, so they stay
when others are taken apart, put in order and composed (`Canonical.mem_text`).
-/

namespace ApiCall

/-! ### Composites -/

namespace Composite

/-- No character of the text is a control. -/
def IsPrintable (text : String) : Prop :=
  ∀ c ∈ text.toList, 32 ≤ c.toNat

/-- The characters of a text that is written down need not be read from its bytes. -/
theorem isPrintable_ofList {cs : List Char} (h : (cs.all fun c => decide (32 ≤ c.toNat)) = true) :
    IsPrintable (String.ofList cs) := by
  intro c hc
  rw [String.toList_ofList] at hc
  simpa using List.all_eq_true.mp h c hc

set_option maxRecDepth 4000 in
/-- Each row of the table is that of a mark, and its words are printable. -/
theorem forall_mem_table : ∀ row ∈ table, 0x300 ≤ row.1 ∧ IsPrintable row.2 := by
  refine List.forall_mem_append.mpr ⟨?_, ?_⟩
  all_goals
    repeat refine List.forall_mem_cons.mpr ⟨⟨by decide, isPrintable_ofList rfl⟩, ?_⟩
    exact List.forall_mem_nil _

/-- Words are divided by blanks, so neither a base nor a composite is one. -/
theorem visible_of_mem_pairs {row : Nat × String} (hrow : row ∈ table) {pair : Char × Char}
    (h : pair ∈ pairs row.2) : 32 < pair.1.toNat ∧ 32 < pair.2.toNat := by
  obtain ⟨word, hword, hpair⟩ := List.mem_filterMap.mp h
  have hvisible (c : Char) (hc : c ∈ word) : 32 < c.toNat := by
    have hprintable := (forall_mem_table row hrow).2 c (Split.mem_of_mem_pieces hword hc)
    refine lt_of_le_of_ne hprintable ?_
    intro heq
    have hblank : ' ' = c := Char.toNat_inj.mp heq
    exact Split.not_mem_of_mem_pieces hword (hblank ▸ hc)
  split at hpair
  · cases hpair
    exact ⟨hvisible _ (by simp), hvisible _ (by simp)⟩
  · cases hpair

theorem parts?_eq_none {c : Char} (h : c.toNat ≤ 32) : parts? c = none := by
  rw [parts?, List.findSome?_eq_none_iff]
  intro row hrow
  rw [Option.map_eq_none_iff, List.find?_eq_none]
  intro pair hpair heq
  have hvisible := (visible_of_mem_pairs hrow hpair).2
  rw [beq_iff_eq.mp heq] at hvisible
  omega

theorem of?_eq_none_of_base {base : Char} (h : base.toNat ≤ 32) (mark : Char) :
    of? base mark = none := by
  have hsyllable : syllable? base.toNat mark.toNat = none := by
    unfold syllable?
    rw [if_neg (by omega), if_neg (by omega)]
  rw [of?, hsyllable, Option.none_or, List.findSome?_eq_none_iff]
  intro row hrow
  dsimp only
  split
  · rw [List.lookup_eq_none_iff]
    intro pair hpair
    have hvisible := (visible_of_mem_pairs hrow hpair).1
    rw [bne_iff_ne]
    rintro rfl
    omega
  · rfl

theorem of?_eq_none_of_mark {mark : Char} (h : mark.toNat ≤ 32) (base : Char) :
    of? base mark = none := by
  have hsyllable : syllable? base.toNat mark.toNat = none := by
    unfold syllable?
    rw [if_neg (by omega), if_neg (by omega)]
  rw [of?, hsyllable, Option.none_or, List.findSome?_eq_none_iff]
  intro row hrow
  have hmark := (forall_mem_table row hrow).1
  have hne : row.1 ≠ mark.toNat := by omega
  exact if_neg hne

end Composite

/-! ### Canonical forms -/

namespace Canonical

variable {z : Char}

theorem parts_eq_self {split? : Char → Option (Char × Char)} (h : split? z = none) (depth : Nat) :
    parts split? depth z = [z] := by
  unfold parts
  rw [h]
  cases depth with
  | zero => rfl
  | succ depth => rfl

theorem mem_insert {c : Char} {cs : List Char} : z ∈ insert c cs ↔ z = c ∨ z ∈ cs := by
  induction cs with
  | nil => simp [insert]
  | cons d cs ih =>
      unfold insert
      split
      · rw [List.mem_cons, ih, List.mem_cons]
        tauto
      · rw [List.mem_cons]

theorem mem_order {cs : List Char} : z ∈ order cs ↔ z ∈ cs := by
  induction cs with
  | nil => rfl
  | cons c cs ih => rw [order, mem_insert, ih, List.mem_cons]

/-- A control or a blank stays: it is neither a base nor a mark that could be composed. -/
theorem mem_composeFrom (hz : z.toNat ≤ 32) {base : Char} {marks cs : List Char}
    (h : z = base ∨ z ∈ marks ∨ z ∈ cs) : z ∈ composeFrom base marks cs := by
  induction cs generalizing base marks with
  | nil => simpa [composeFrom] using h
  | cons c cs ih =>
      unfold composeFrom
      dsimp only
      split
      · rename_i composite hcomposite
        -- only characters other than `z` have become a composite
        have hof : Composite.of? base c = some composite := by
          split at hcomposite
          · exact hcomposite
          · cases hcomposite
        have hbase : z ≠ base := by
          rintro rfl
          rw [Composite.of?_eq_none_of_base hz] at hof
          cases hof
        have hc : z ≠ c := by
          rintro rfl
          rw [Composite.of?_eq_none_of_mark hz] at hof
          cases hof
        apply ih
        rw [List.mem_cons] at h
        tauto
      · split
        · rcases h with rfl | hmarks | hcs
          · simp
          · simp [hmarks]
          · rw [List.mem_append]
            exact Or.inr (ih ((List.mem_cons.mp hcs).imp id Or.inr))
        · apply ih
          rw [List.mem_cons] at h ⊢
          tauto

theorem mem_compose (hz : z.toNat ≤ 32) {cs : List Char} (h : z ∈ cs) : z ∈ compose cs := by
  induction cs with
  | nil => cases h
  | cons c cs ih =>
      unfold compose
      split
      · exact mem_composeFrom hz ((List.mem_cons.mp h).imp id Or.inr)
      · rw [List.mem_cons] at h ⊢
        exact h.imp id ih

/-- Controls and blanks stay in the canonical form of a text. -/
theorem mem_text (hz : z.toNat ≤ 32) {cs : List Char} (h : z ∈ cs) : z ∈ text cs := by
  unfold text
  split
  · exact h
  · apply mem_compose hz
    rw [mem_order]
    refine List.mem_flatMap.mpr ⟨z, h, ?_⟩
    rw [parts_eq_self (Composite.parts?_eq_none hz)]
    exact List.mem_singleton_self z

end Canonical

end ApiCall
