import ApiCall.Text.Split
import Mathlib.Data.List.Infix

/-!
Cutting lists. A list is cut where a separator or a sublist first occurs (`Split.once_append`,
`Split.cut?_append`), or wherever it does (`Split.pieces_intercalate`,
`Split.piecesAt_intercalate`); a sublist is replaced wherever it occurs, and nothing else changes.
-/

namespace ApiCall

namespace Split

variable {α : Type} [BEq α] [LawfulBEq α]

theorem after?_eq_some_iff {start xs rest : List α} :
    after? start xs = some rest ↔ xs = start ++ rest := by
  induction start generalizing xs with
  | nil =>
      rw [after?, Option.some.injEq, List.nil_append]
  | cons a start ih =>
      cases xs with
      | nil => simp [after?]
      | cons x xs =>
          rw [after?, List.cons_append, List.cons.injEq]
          by_cases hax : a = x
          · rw [if_pos (beq_iff_eq.mpr hax), ih]
            exact (and_iff_right hax.symm).symm
          · rw [if_neg (fun h => hax (beq_iff_eq.mp h))]
            constructor
            · intro h
              cases h
            · rintro ⟨hxa, _⟩
              exact absurd hxa.symm hax

@[simp] theorem after?_append (start rest : List α) : after? start (start ++ rest) = some rest :=
  after?_eq_some_iff.mpr rfl

theorem once_append {sep : α} {before : List α} (h : sep ∉ before) (after : List α) :
    once sep (before ++ sep :: after) = some (before, after) := by
  induction before with
  | nil => simp [once]
  | cons x before ih =>
      have hx : x ≠ sep := fun heq => h (heq ▸ List.mem_cons_self)
      have hbefore : sep ∉ before := fun hmem => h (List.mem_cons_of_mem _ hmem)
      rw [List.cons_append, once, if_neg (fun heq => hx (beq_iff_eq.mp heq)), ih hbefore]
      rfl

theorem of_once_eq_some {sep : α} {xs before after : List α}
    (h : once sep xs = some (before, after)) : xs = before ++ sep :: after ∧ sep ∉ before := by
  induction xs generalizing before with
  | nil => cases h
  | cons x xs ih =>
      rw [once] at h
      split at h
      · rename_i heq
        cases h
        exact ⟨by rw [beq_iff_eq.mp heq, List.nil_append], List.not_mem_nil⟩
      · rename_i hne
        obtain ⟨⟨first, rest⟩, hrest, heq⟩ := Option.map_eq_some_iff.mp h
        cases heq
        obtain ⟨hxs, hmem⟩ := ih hrest
        refine ⟨by rw [hxs, List.cons_append], ?_⟩
        rw [List.mem_cons, not_or]
        refine ⟨?_, hmem⟩
        rintro rfl
        exact hne (beq_self_eq_true _)

theorem once_eq_none_iff {sep : α} {xs : List α} : once sep xs = none ↔ sep ∉ xs := by
  induction xs with
  | nil => simp [once]
  | cons x xs ih =>
      rw [once, List.mem_cons, not_or]
      by_cases hx : x = sep
      · rw [if_pos (beq_iff_eq.mpr hx)]
        constructor
        · intro h
          cases h
        · rintro ⟨hne, _⟩
          exact absurd hx.symm hne
      · rw [if_neg (fun heq => hx (beq_iff_eq.mp heq)), Option.map_eq_none_iff, ih]
        exact (and_iff_right (Ne.symm hx)).symm

/-- What stands before and after the first occurrence of a sublist, if there is one. -/
def cut? (mark : List α) : List α → Option (List α × List α)
  | [] => (after? mark []).map fun rest => ([], rest)
  | x :: xs =>
    match after? mark (x :: xs) with
    | some rest => some ([], rest)
    | none => (cut? mark xs).map fun (before, rest) => (x :: before, rest)

omit [LawfulBEq α] in
theorem length_cut?_le {mark xs before rest : List α} (h : cut? mark xs = some (before, rest)) :
    rest.length + mark.length ≤ xs.length := by
  induction xs generalizing before with
  | nil =>
      obtain ⟨following, hafter, heq⟩ := Option.map_eq_some_iff.mp h
      cases heq
      exact length_after?_le hafter
  | cons x xs ih =>
      rw [cut?] at h
      split at h
      · rename_i hafter
        cases h
        exact length_after?_le hafter
      · obtain ⟨⟨before', rest'⟩, hcut, heq⟩ := Option.map_eq_some_iff.mp h
        cases heq
        exact Nat.le_succ_of_le (ih hcut)

theorem of_cut?_eq_some {mark xs before rest : List α} (h : cut? mark xs = some (before, rest)) :
    xs = before ++ (mark ++ rest) := by
  induction xs generalizing before with
  | nil =>
      obtain ⟨following, hafter, heq⟩ := Option.map_eq_some_iff.mp h
      cases heq
      rw [List.nil_append]
      exact after?_eq_some_iff.mp hafter
  | cons x xs ih =>
      rw [cut?] at h
      split at h
      · rename_i hafter
        cases h
        rw [List.nil_append]
        exact after?_eq_some_iff.mp hafter
      · obtain ⟨⟨before', rest'⟩, hcut, heq⟩ := Option.map_eq_some_iff.mp h
        cases heq
        rw [ih hcut, List.cons_append]

theorem cut?_eq_none {mark xs : List α} (h : ¬ mark <:+: xs) : cut? mark xs = none := by
  rw [Option.eq_none_iff_forall_ne_some]
  rintro ⟨before, rest⟩ hcut
  rw [of_cut?_eq_some hcut] at h
  exact h ⟨before, rest, List.append_assoc before mark rest⟩

/-- A mark whose first element does not come again in it cannot begin inside a list and end
outside of it. -/
theorem after?_eq_none {first x : α} {mark xs : List α} (hfirst : first ∉ mark)
    (h : ¬ first :: mark <:+: x :: xs) (rest : List α) :
    after? (first :: mark) (x :: xs ++ (first :: mark ++ rest)) = none := by
  rw [Option.eq_none_iff_forall_ne_some]
  intro following hsome
  have heq := after?_eq_some_iff.mp hsome
  rw [List.cons_append, List.cons_append, List.cons_append, List.cons.injEq] at heq
  obtain ⟨rfl, htail⟩ := heq
  have hmark : mark <+: xs ++ x :: (mark ++ rest) := ⟨following, htail.symm⟩
  -- the mark ends inside the list, or it goes on into the mark behind the list
  rcases List.prefix_or_prefix_of_prefix hmark (List.prefix_append xs _) with hinside | hacross
  · exact h (List.cons_prefix_cons.mpr ⟨rfl, hinside⟩).isInfix
  · obtain ⟨overlap, rfl⟩ := hacross
    cases overlap with
    | nil =>
        rw [List.append_nil] at h
        exact h List.infix_rfl
    | cons y overlap =>
        have hoverlap := List.append_cancel_left (htail.trans (List.append_assoc xs _ following))
        rw [List.cons_append, List.cons.injEq] at hoverlap
        obtain ⟨rfl, _⟩ := hoverlap
        exact hfirst (List.mem_append_right _ List.mem_cons_self)

/-- A list without the mark is what stands before the first mark that follows it. -/
theorem cut?_append {first : α} {mark xs : List α} (hfirst : first ∉ mark)
    (h : ¬ first :: mark <:+: xs) (rest : List α) :
    cut? (first :: mark) (xs ++ (first :: mark ++ rest)) = some (xs, rest) := by
  induction xs with
  | nil =>
      rw [List.nil_append, List.cons_append, cut?, ← List.cons_append, after?_append]
  | cons x xs ih =>
      have hxs : ¬ first :: mark <:+: xs := fun hmem => h (List.infix_cons hmem)
      have hhere := after?_eq_none hfirst h rest
      rw [List.cons_append] at hhere ⊢
      rw [cut?, hhere, ih hxs]
      rfl

/-- The pieces between the marks that are found from left to right. -/
def piecesAt (first : α) (mark xs : List α) : List (List α) :=
  match _h : cut? (first :: mark) xs with
  | none => [xs]
  | some (before, rest) => before :: piecesAt first mark rest
termination_by xs.length
decreasing_by
  have hlength := length_cut?_le _h
  rw [List.length_cons] at hlength
  omega

theorem piecesAt_of_not_infix {first : α} {mark xs : List α} (h : ¬ first :: mark <:+: xs) :
    piecesAt first mark xs = [xs] := by
  have hcut := cut?_eq_none h
  unfold piecesAt
  split
  · rfl
  · rename_i hsome
    rw [hcut] at hsome
    cases hsome

theorem piecesAt_append {first : α} {mark xs : List α} (hfirst : first ∉ mark)
    (h : ¬ first :: mark <:+: xs) (rest : List α) :
    piecesAt first mark (xs ++ (first :: mark ++ rest)) = xs :: piecesAt first mark rest := by
  have hcut := cut?_append hfirst h rest
  rw [piecesAt]
  split
  · rename_i hnone
    rw [hcut] at hnone
    cases hnone
  · rename_i before rest' hsome
    rw [hcut] at hsome
    cases hsome
    rfl

/-- Texts without the mark are the pieces of the text that joins them. -/
theorem piecesAt_intercalate {first : α} {mark : List α} {xss : List (List α)}
    (hfirst : first ∉ mark) (hne : xss ≠ []) (h : ∀ xs ∈ xss, ¬ first :: mark <:+: xs) :
    piecesAt first mark (List.intercalate (first :: mark) xss) = xss := by
  induction xss with
  | nil => exact absurd rfl hne
  | cons xs xss ih =>
      obtain ⟨hxs, hxss⟩ := List.forall_mem_cons.mp h
      cases xss with
      | nil => rw [List.intercalate_singleton, piecesAt_of_not_infix hxs]
      | cons ys xss =>
          rw [List.intercalate_cons_cons, List.append_assoc, piecesAt_append hfirst hxs,
            ih (List.cons_ne_nil _ _) hxss]

/-! ### Pieces between separators -/

omit [LawfulBEq α] in
theorem pieces_ne_nil (sep : α) (xs : List α) : pieces sep xs ≠ [] := by
  induction xs with
  | nil => exact List.cons_ne_nil _ _
  | cons x xs ih =>
      rw [pieces]
      split
      · exact List.cons_ne_nil _ _
      · split
        · exact List.cons_ne_nil _ _
        · exact List.cons_ne_nil _ _

theorem pieces_of_not_mem {sep : α} {xs : List α} (h : sep ∉ xs) : pieces sep xs = [xs] := by
  induction xs with
  | nil => rfl
  | cons x xs ih =>
      have hx : x ≠ sep := fun heq => h (heq ▸ List.mem_cons_self)
      have hxs := ih fun hmem => h (List.mem_cons_of_mem _ hmem)
      rw [pieces, if_neg (fun heq => hx (beq_iff_eq.mp heq)), hxs]

theorem pieces_append (sep : α) (xs ys : List α) :
    pieces sep (xs ++ sep :: ys) = pieces sep xs ++ pieces sep ys := by
  induction xs with
  | nil =>
      have hempty : pieces sep ([] : List α) = [[]] := rfl
      rw [List.nil_append, hempty, pieces, if_pos (beq_self_eq_true sep)]
      rfl
  | cons x xs ih =>
      rw [List.cons_append, pieces, pieces, ih]
      split
      · rfl
      · obtain ⟨piece, rest, hpieces⟩ := List.exists_cons_of_ne_nil (pieces_ne_nil sep xs)
        rw [hpieces]
        rfl

omit [LawfulBEq α] in
theorem mem_of_mem_pieces {sep y : α} {xs piece : List α} (h : piece ∈ pieces sep xs)
    (hy : y ∈ piece) : y ∈ xs := by
  induction xs generalizing piece with
  | nil =>
      obtain rfl := List.mem_singleton.mp h
      exact hy
  | cons x xs ih =>
      obtain ⟨first, rest, hpieces⟩ := List.exists_cons_of_ne_nil (pieces_ne_nil sep xs)
      rw [pieces, hpieces] at h
      rw [hpieces] at ih
      split at h
      · rcases List.mem_cons.mp h with rfl | hmem
        · cases hy
        · exact List.mem_cons_of_mem x (ih hmem hy)
      · rcases List.mem_cons.mp h with rfl | hmem
        · rcases List.mem_cons.mp hy with rfl | hy
          · exact List.mem_cons_self
          · exact List.mem_cons_of_mem x (ih List.mem_cons_self hy)
        · exact List.mem_cons_of_mem x (ih (List.mem_cons_of_mem first hmem) hy)

theorem not_mem_of_mem_pieces {sep : α} {xs piece : List α} (h : piece ∈ pieces sep xs) :
    sep ∉ piece := by
  induction xs generalizing piece with
  | nil =>
      obtain rfl := List.mem_singleton.mp h
      exact List.not_mem_nil
  | cons x xs ih =>
      obtain ⟨first, rest, hpieces⟩ := List.exists_cons_of_ne_nil (pieces_ne_nil sep xs)
      rw [pieces, hpieces] at h
      rw [hpieces] at ih
      split at h
      · rcases List.mem_cons.mp h with rfl | hmem
        · exact List.not_mem_nil
        · exact ih hmem
      · rename_i hx
        rcases List.mem_cons.mp h with rfl | hmem
        · intro hsep
          rcases List.mem_cons.mp hsep with rfl | hsep
          · exact hx (beq_self_eq_true _)
          · exact ih List.mem_cons_self hsep
        · exact ih (List.mem_cons_of_mem _ hmem)

omit [BEq α] [LawfulBEq α] in
theorem mem_intercalate {sep x : α} {xss : List (List α)} (h : x ∈ List.intercalate [sep] xss) :
    x = sep ∨ ∃ xs ∈ xss, x ∈ xs := by
  induction xss with
  | nil => cases h
  | cons xs xss ih =>
      cases xss with
      | nil =>
          rw [List.intercalate_singleton] at h
          exact Or.inr ⟨xs, List.mem_cons_self, h⟩
      | cons ys xss =>
          rw [List.intercalate_cons_cons, List.mem_append, List.mem_append,
            List.mem_singleton] at h
          rcases h with (hmem | heq) | hmem
          · exact Or.inr ⟨xs, List.mem_cons_self, hmem⟩
          · exact Or.inl heq
          · rcases ih hmem with heq | ⟨zs, hzs, hmem⟩
            · exact Or.inl heq
            · exact Or.inr ⟨zs, List.mem_cons_of_mem _ hzs, hmem⟩

/-- Texts without the separator are the pieces of the text that joins them. -/
theorem pieces_intercalate {sep : α} {xss : List (List α)} (hne : xss ≠ [])
    (h : ∀ xs ∈ xss, sep ∉ xs) : pieces sep (List.intercalate [sep] xss) = xss := by
  induction xss with
  | nil => exact absurd rfl hne
  | cons xs xss ih =>
      obtain ⟨hxs, hxss⟩ := List.forall_mem_cons.mp h
      cases xss with
      | nil => rw [List.intercalate_singleton, pieces_of_not_mem hxs]
      | cons ys xss =>
          rw [List.intercalate_cons_cons, List.append_assoc, List.singleton_append, pieces_append,
            pieces_of_not_mem hxs, ih (List.cons_ne_nil _ _) hxss]
          rfl

omit [LawfulBEq α] in
theorem length_pieces_dropWhile_le (sep : α) (xs : List α) :
    (pieces sep (xs.dropWhile (· == sep))).length ≤ (pieces sep xs).length := by
  induction xs with
  | nil => exact Nat.le_refl _
  | cons x xs ih =>
      rw [List.dropWhile_cons]
      split
      · rename_i hx
        rw [pieces, if_pos hx, List.length_cons]
        exact Nat.le_succ_of_le ih
      · exact Nat.le_refl _

/-- Without the separators at its start a text has the same pieces, unless the first of several was
empty. -/
theorem pieces_dropWhile {sep : α} {xss : List (List α)} (hne : xss ≠ [])
    (h : ∀ xs ∈ xss, sep ∉ xs) (hfirst : xss.head? = some [] → xss.length = 1) :
    pieces sep ((List.intercalate [sep] xss).dropWhile (· == sep)) = xss := by
  have hpieces := pieces_intercalate hne h
  obtain ⟨first, others, rfl⟩ := List.exists_cons_of_ne_nil hne
  cases first with
  | nil =>
      obtain rfl : others = [] := by
        simpa using hfirst rfl
      rfl
  | cons x xs =>
      have hx : x ≠ sep := fun heq => h (x :: xs) List.mem_cons_self (heq ▸ List.mem_cons_self)
      have hstart : ∃ following, List.intercalate [sep] ((x :: xs) :: others) = x :: following := by
        cases others with
        | nil => exact ⟨xs, List.intercalate_singleton⟩
        | cons other others =>
            rw [List.intercalate_cons_cons]
            exact ⟨_, rfl⟩
      obtain ⟨following, hstart⟩ := hstart
      rw [hstart] at hpieces ⊢
      rw [List.dropWhile_cons, if_neg (fun heq => hx (beq_iff_eq.mp heq)), hpieces]

theorem length_pieces_dropWhile_lt {sep : α} {xss : List (List α)} (h : ∀ xs ∈ xss, sep ∉ xs)
    (hfirst : xss.head? = some []) (hmany : xss.length ≠ 1) :
    (pieces sep ((List.intercalate [sep] xss).dropWhile (· == sep))).length < xss.length := by
  obtain ⟨others, rfl⟩ := List.head?_eq_some_iff.mp hfirst
  cases others with
  | nil => exact absurd rfl hmany
  | cons other others =>
      have hothers := pieces_intercalate (List.cons_ne_nil other others)
        (List.forall_mem_cons.mp h).2
      have hlength := length_pieces_dropWhile_le sep (List.intercalate [sep] (other :: others))
      rw [List.intercalate_cons_cons, List.nil_append, List.singleton_append, List.dropWhile_cons,
        if_pos (beq_self_eq_true sep), List.length_cons]
      rw [hothers] at hlength
      exact Nat.lt_succ_of_le hlength

omit [BEq α] [LawfulBEq α] in
/-- Pieces that are read back one by one are read back together. -/
theorem mapM_map_eq_some {β γ : Type} {read : α → Option β} {write : γ → α} {found : γ → β}
    {xs : List γ} (h : ∀ x ∈ xs, read (write x) = some (found x)) :
    (xs.map write).mapM read = some (xs.map found) := by
  induction xs with
  | nil => rfl
  | cons x xs ih =>
      obtain ⟨hx, hxs⟩ := List.forall_mem_cons.mp h
      rw [List.map_cons, List.mapM_cons, hx, ih hxs]
      rfl

/-! ### Cutting where every element is replaced -/

section Replaced

variable {sep : α} {f : α → List α}

theorem pieces_append_of_not_mem {start : List α} (h : sep ∉ start) (xs : List α) :
    pieces sep (start ++ xs) = (pieces sep xs).modifyHead (start ++ ·) := by
  obtain ⟨first, rest, hpieces⟩ := List.exists_cons_of_ne_nil (pieces_ne_nil sep xs)
  rw [hpieces, List.modifyHead_cons]
  induction start with
  | nil => rw [List.nil_append, List.nil_append, hpieces]
  | cons x start ih =>
      have hx : x ≠ sep := fun heq => h (heq ▸ List.mem_cons_self)
      rw [List.cons_append, pieces, if_neg (fun heq => hx (beq_iff_eq.mp heq)),
        ih fun hmem => h (List.mem_cons_of_mem _ hmem)]
      rfl

omit [BEq α] [LawfulBEq α] in
theorem not_mem_flatMap (hother : ∀ x, x ≠ sep → sep ∉ f x) {xs : List α} (h : sep ∉ xs) :
    sep ∉ xs.flatMap f := by
  intro hmem
  obtain ⟨x, hx, hsep⟩ := List.mem_flatMap.mp hmem
  refine hother x ?_ hsep
  rintro rfl
  exact h hx

/-- A separator that stays, and that nothing else becomes, cuts the new list where it cut the old
one. -/
theorem once_flatMap (hsep : f sep = [sep]) (hother : ∀ x, x ≠ sep → sep ∉ f x) (xs : List α) :
    once sep (xs.flatMap f) =
      (once sep xs).map fun (before, after) => (before.flatMap f, after.flatMap f) := by
  cases hcut : once sep xs with
  | none => exact once_eq_none_iff.mpr (not_mem_flatMap hother (once_eq_none_iff.mp hcut))
  | some cut =>
      obtain ⟨rfl, hbefore⟩ := of_once_eq_some hcut
      rw [List.flatMap_append, List.flatMap_cons, hsep, List.singleton_append,
        once_append (not_mem_flatMap hother hbefore)]
      rfl

theorem pieces_flatMap (hsep : f sep = [sep]) (hother : ∀ x, x ≠ sep → sep ∉ f x) (xs : List α) :
    pieces sep (xs.flatMap f) = (pieces sep xs).map (·.flatMap f) := by
  induction xs with
  | nil => rfl
  | cons x xs ih =>
      rw [List.flatMap_cons]
      by_cases hx : x = sep
      · rw [hx, hsep, List.singleton_append, pieces, pieces, if_pos (beq_self_eq_true sep),
          if_pos (beq_self_eq_true sep), ih]
        rfl
      · have hnot : sep ∉ [x] := by
          rintro hmem
          exact hx (List.mem_singleton.mp hmem).symm
        rw [pieces_append_of_not_mem (hother x hx), ih, ← List.singleton_append,
          pieces_append_of_not_mem hnot]
        obtain ⟨first, rest, hpieces⟩ := List.exists_cons_of_ne_nil (pieces_ne_nil sep xs)
        rw [hpieces]
        rfl

end Replaced

/-! ### Replacing a sublist -/

/-- One list has the new text wherever the other has the mark, found from left to right: nothing
before a mark, not even together with its own beginning, holds another one. -/
inductive Replaced {α : Type} (mark new : List α) : List α → List α → Prop where
  | last {xs : List α} (h : ¬ mark <:+: xs) : Replaced mark new xs xs
  | next {before rest out : List α} (hfirst : ¬ mark <:+: (before ++ mark).dropLast)
      (hrest : Replaced mark new rest out) :
      Replaced mark new (before ++ (mark ++ rest)) (before ++ (new ++ out))

omit [BEq α] [LawfulBEq α] in
theorem Replaced.cons {mark new xs out : List α} {x : α} (h : Replaced mark new xs out)
    (hstart : ¬ mark <+: x :: xs) : Replaced mark new (x :: xs) (x :: out) := by
  cases h with
  | last hxs => exact .last fun hwithin => (List.infix_cons_iff.mp hwithin).elim hstart hxs
  | @next before rest out hfirst hrest =>
      have hne : before ++ mark ≠ [] := by
        refine List.append_ne_nil_of_right_ne_nil _ ?_
        rintro rfl
        exact hstart List.nil_prefix
      refine @Replaced.next α mark new (x :: before) rest out ?_ hrest
      rw [List.cons_append, List.dropLast_cons_of_ne_nil hne, List.infix_cons_iff]
      rintro (hfront | hwithin)
      · have hdropped : (before ++ mark).dropLast <+: before ++ (mark ++ rest) := by
          rw [← List.append_assoc]
          exact (List.dropLast_prefix _).trans (List.prefix_append _ _)
        exact hstart (hfront.trans ((List.prefix_cons_inj x).mpr hdropped))
      · exact hfirst hwithin

/-- Replacing goes through a list from left to right. -/
theorem replaced_replace (a : α) (pattern new xs : List α) :
    Replaced (a :: pattern) new xs (replace a pattern new xs) := by
  fun_induction replace a pattern new xs with
  | case1 => exact .last (by simp)
  | case2 x xs rest hafter ih =>
      rw [after?_eq_some_iff.mp hafter]
      refine @Replaced.next α (a :: pattern) new [] rest _ ?_ ih
      intro hwithin
      have hlength := hwithin.length_le
      rw [List.nil_append, List.length_dropLast, List.length_cons] at hlength
      omega
  | case3 x xs hafter ih =>
      refine ih.cons ?_
      rintro ⟨rest, hrest⟩
      rw [after?_eq_some_iff.mpr hrest.symm] at hafter
      cases hafter

omit [LawfulBEq α] in
theorem replace_cons_of_none {a x : α} {pattern xs : List α} (new : List α)
    (h : after? (a :: pattern) (x :: xs) = none) :
    replace a pattern new (x :: xs) = x :: replace a pattern new xs := by
  rw [replace]
  split
  · rename_i heq
    rw [h] at heq
    cases heq
  · rfl

theorem replace_append_of_not_mem {a : α} {xs : List α} (h : a ∉ xs)
    (pattern new rest : List α) :
    replace a pattern new (xs ++ rest) = xs ++ replace a pattern new rest := by
  induction xs with
  | nil => rfl
  | cons x xs ih =>
      have hx : a ≠ x := fun heq => h (heq ▸ List.mem_cons_self)
      have hxs := ih fun hmem => h (List.mem_cons_of_mem _ hmem)
      have hnone : after? (a :: pattern) (x :: (xs ++ rest)) = none := by
        rw [after?, if_neg (fun heq => hx (beq_iff_eq.mp heq))]
      rw [List.cons_append, replace_cons_of_none new hnone, hxs, List.cons_append]

theorem replace_append_self (a : α) (pattern new rest : List α) :
    replace a pattern new (a :: pattern ++ rest) = new ++ replace a pattern new rest := by
  rw [List.cons_append, replace]
  split
  · rename_i heq
    rw [← List.cons_append, after?_append] at heq
    cases heq
    rfl
  · rename_i heq
    rw [← List.cons_append, after?_append] at heq
    cases heq

end Split

end ApiCall
