import ApiCall.Items
import Mathlib.Algebra.GroupWithZero.Nat
import Mathlib.Data.List.Nodup
import Mathlib.Data.List.Induction

/-!
Items as groups of leaves. Adding leaves one after the other gives the same items as sorting the
whole list by key path at once (`addLeaves_eq_group`), and the items of a list of leaves hold these
leaves and no others (`leaves_group_perm`).
-/

namespace ApiCall

/-- One leaf of a value: the key path on the way to it, and its text. -/
structure Leaf where
  keys : List Key
  text : String
  deriving DecidableEq, Repr

/-- The leaf as it looks from one step further out. -/
def Leaf.under (key : Key) (leaf : Leaf) : Leaf :=
  { leaf with keys := key :: leaf.keys }

/-- The leaves that an item stands for. -/
def Item.leaves (item : Item) : List Leaf :=
  item.values.map fun text => ⟨item.keys, text⟩

/-- The item of a key path among some leaves: their texts in order. -/
def Item.ofLeaves (leaves : List Leaf) (keys : List Key) : Item :=
  ⟨keys, (leaves.filter fun leaf => leaf.keys = keys).map Leaf.text⟩

namespace Items

/-- Leaves grouped by key path. The groups stand in the order in which their paths first came. -/
def group (leaves : List Leaf) : Items :=
  (leaves.map Leaf.keys).eraseDups.map (Item.ofLeaves leaves)

/-- Adds leaves one after the other, below a key path. -/
def addLeaves (items : Items) (above : List Key) (leaves : List Leaf) : Items :=
  leaves.foldl (fun items leaf => items.add (above ++ leaf.keys) [leaf.text]) items

theorem addLeaves_append (items : Items) (above : List Key) (first second : List Leaf) :
    items.addLeaves above (first ++ second) =
      (items.addLeaves above first).addLeaves above second := by
  simp [addLeaves, List.foldl_append]

theorem addLeaves_under (items : Items) (above : List Key) (key : Key) (leaves : List Leaf) :
    items.addLeaves above (leaves.map (Leaf.under key)) =
      items.addLeaves (above ++ [key]) leaves := by
  simp [addLeaves, List.foldl_map, Leaf.under, List.append_assoc]

end Items

private theorem eraseDups_append_singleton (paths : List (List Key)) (keys : List Key) :
    (paths ++ [keys]).eraseDups =
      if keys ∈ paths then paths.eraseDups else paths.eraseDups ++ [keys] := by
  rw [List.eraseDups_append]
  by_cases h : keys ∈ paths <;> simp [List.removeAll, h, List.eraseDups_cons]

theorem nodup_eraseDups (paths : List (List Key)) : paths.eraseDups.Nodup := by
  induction paths using List.reverseRecOn with
  | nil => simp
  | append_singleton paths keys ih =>
      rw [eraseDups_append_singleton]
      split
      · exact ih
      · rename_i h
        refine List.nodup_append.mpr ⟨ih, by simp, ?_⟩
        intro p hp q hq heq
        rw [List.mem_singleton.mp hq] at heq
        exact h (heq ▸ List.mem_eraseDups.mp hp)

namespace Items

/-- Appending below a key path touches the one item of that path, or adds an item at the end. -/
private theorem append_map (paths : List (List Key)) (item : List Key → Item)
    (hkeys : ∀ p, (item p).keys = p) (hnodup : paths.Nodup) (keys : List Key)
    (values : List String) :
    append keys values (paths.map item) =
      if keys ∈ paths then
        paths.map fun p => if p = keys then ⟨p, (item p).values ++ values⟩ else item p
      else paths.map item ++ [⟨keys, values⟩] := by
  induction paths with
  | nil => simp [append]
  | cons p rest ih =>
      obtain ⟨hp, hrest⟩ := List.nodup_cons.mp hnodup
      simp only [List.map_cons, append, hkeys]
      by_cases h : p = keys
      · subst h
        have hsame : ∀ q ∈ rest, ¬ q = p := fun q hq heq => hp (heq ▸ hq)
        simp only [if_true, List.mem_cons, true_or]
        congr 1
        exact List.map_congr_left fun q hq => (if_neg (hsame q hq)).symm
      · rw [if_neg h, ih hrest]
        by_cases hmem : keys ∈ rest <;> simp [hmem, h, Ne.symm h]

/-- One more leaf at the end goes to its group. -/
theorem group_append_singleton (leaves : List Leaf) (leaf : Leaf) :
    group (leaves ++ [leaf]) = (group leaves).add leaf.keys [leaf.text] := by
  have hitem (p : List Key) : Item.ofLeaves (leaves ++ [leaf]) p =
      if p = leaf.keys then ⟨p, (Item.ofLeaves leaves p).values ++ [leaf.text]⟩
      else Item.ofLeaves leaves p := by
    by_cases h : p = leaf.keys
    · simp [Item.ofLeaves, h]
    · simp [Item.ofLeaves, h, Ne.symm h]
  simp only [group, add, List.isEmpty_cons, Bool.false_eq_true, if_false, List.map_append,
    List.map_cons, List.map_nil]
  rw [append_map _ (Item.ofLeaves leaves) (fun _ => rfl) (nodup_eraseDups _),
    eraseDups_append_singleton]
  simp only [List.mem_eraseDups]
  by_cases h : leaf.keys ∈ leaves.map Leaf.keys
  · rw [if_pos h, if_pos h]
    exact List.map_congr_left fun p _ => hitem p
  · -- a new path: the groups that are there stay, and its own has just the one leaf
    have hother : ∀ p ∈ (leaves.map Leaf.keys).eraseDups, p ≠ leaf.keys :=
      fun p hp heq => h (heq ▸ List.mem_eraseDups.mp hp)
    have hnew : leaves.filter (fun l => l.keys = leaf.keys) = [] := by
      simpa using h
    rw [if_neg h, if_neg h, List.map_append, List.map_congr_left fun p hp => by
      rw [hitem, if_neg (hother p hp)]]
    simp [Item.ofLeaves, hnew]

/-- Grouping as the leaves come is the same as grouping them all at the end. -/
theorem addLeaves_eq_group (leaves : List Leaf) : addLeaves [] [] leaves = group leaves := by
  induction leaves using List.reverseRecOn with
  | nil => rfl
  | append_singleton leaves leaf ih =>
      rw [addLeaves_append, ih, group_append_singleton]
      rfl

private theorem leaves_append_perm (keys : List Key) (values : List String) (items : Items) :
    ((append keys values items).flatMap Item.leaves).Perm
      (items.flatMap Item.leaves ++ values.map fun text => ⟨keys, text⟩) := by
  induction items with
  | nil => simp [append, Item.leaves]
  | cons item rest ih =>
      simp only [append]
      split
      · rename_i h
        simp only [List.flatMap_cons, Item.leaves, List.map_append, h, List.append_assoc]
        exact List.Perm.append_left _ List.perm_append_comm
      · simpa only [List.flatMap_cons, List.append_assoc] using ih.append_left _

/-- Grouping only moves leaves: none is lost, doubled or put under another key path. -/
theorem leaves_group_perm (leaves : List Leaf) :
    ((group leaves).flatMap Item.leaves).Perm leaves := by
  induction leaves using List.reverseRecOn with
  | nil => exact List.Perm.refl []
  | append_singleton leaves leaf ih =>
      rw [group_append_singleton]
      exact (leaves_append_perm leaf.keys [leaf.text] (group leaves)).trans (ih.append_right _)

theorem append_append {items : Items} {keys : List Key} (h : keys ∉ items.map Item.keys)
    (rest : Items) (values : List String) :
    append keys values (items ++ rest) = items ++ append keys values rest := by
  induction items with
  | nil => rfl
  | cons item items ih =>
      obtain ⟨hitem, hitems⟩ := not_or.mp (mt List.mem_cons.mpr h)
      rw [List.cons_append, append, if_neg (Ne.symm hitem), ih hitems, List.cons_append]

/-- The leaves of an item whose key path is new become that item again. -/
theorem addLeaves_leaves {items : Items} {item : Item} (hnew : item.keys ∉ items.map Item.keys)
    (hvalues : item.values ≠ []) : items.addLeaves [] item.leaves = items ++ [item] := by
  obtain ⟨keys, values⟩ := item
  induction values using List.reverseRecOn with
  | nil => exact absurd rfl hvalues
  | append_singleton values text ih =>
      have hlast (added : Items) :
          added.addLeaves [] [⟨keys, text⟩] = append keys [text] added := rfl
      have hsplit : Item.leaves ⟨keys, values ++ [text]⟩ =
          Item.leaves ⟨keys, values⟩ ++ [⟨keys, text⟩] := by
        simp [Item.leaves]
      rw [hsplit, addLeaves_append, hlast]
      cases values with
      | nil => simpa [append, addLeaves, Item.leaves] using append_append hnew [] [text]
      | cons value values =>
          rw [ih hnew (List.cons_ne_nil _ _), append_append hnew]
          simp [append]

/-- Items with different key paths are built again by adding their leaves in order. -/
theorem addLeaves_flatMap_leaves {items : Items} (hkeys : (items.map Item.keys).Nodup)
    (hvalues : ∀ item ∈ items, item.values ≠ []) :
    addLeaves [] [] (items.flatMap Item.leaves) = items := by
  induction items using List.reverseRecOn with
  | nil => rfl
  | append_singleton items item ih =>
      rw [List.map_append, List.nodup_append] at hkeys
      obtain ⟨hitems, -, hnew⟩ := hkeys
      rw [List.flatMap_append, addLeaves_append,
        ih hitems fun other hother => hvalues other (List.mem_append_left _ hother)]
      rw [List.flatMap_singleton]
      apply addLeaves_leaves
      · intro hmem
        exact hnew _ hmem _ List.mem_cons_self rfl
      · exact hvalues item (List.mem_append_right _ List.mem_cons_self)

/-- Items with different key paths are the groups of their own leaves. -/
theorem group_flatMap_leaves {items : Items} (hkeys : (items.map Item.keys).Nodup)
    (hvalues : ∀ item ∈ items, item.values ≠ []) : group (items.flatMap Item.leaves) = items := by
  rw [← addLeaves_eq_group]
  exact addLeaves_flatMap_leaves hkeys hvalues

/-- Leaves of one key path are one group. -/
theorem group_of_same_keys {leaves : List Leaf} (hne : leaves ≠ []) {keys : List Key}
    (h : ∀ leaf ∈ leaves, leaf.keys = keys) : group leaves = [⟨keys, leaves.map Leaf.text⟩] := by
  have hleaves : Item.leaves ⟨keys, leaves.map Leaf.text⟩ = leaves := by
    rw [Item.leaves, List.map_map]
    conv_rhs => rw [← List.map_id leaves]
    refine List.map_congr_left ?_
    intro leaf hleaf
    rw [Function.comp_apply, ← h leaf hleaf]
    rfl
  have hgroup : group (([⟨keys, leaves.map Leaf.text⟩] : Items).flatMap Item.leaves) = _ :=
    group_flatMap_leaves (by simp) (by simpa using hne)
  rwa [List.flatMap_singleton, hleaves] at hgroup

/-- Leaves with different key paths are groups of their own. -/
theorem group_of_nodup_keys {leaves : List Leaf} (h : (leaves.map Leaf.keys).Nodup) :
    group leaves = leaves.map fun leaf => ⟨leaf.keys, [leaf.text]⟩ := by
  have hleaves : (leaves.map fun leaf => (⟨leaf.keys, [leaf.text]⟩ : Item)).flatMap Item.leaves =
      leaves := by
    rw [List.flatMap_map]
    exact List.flatMap_singleton' leaves
  have hgroup : group ((leaves.map fun leaf => (⟨leaf.keys, [leaf.text]⟩ : Item)).flatMap
      Item.leaves) = _ :=
    group_flatMap_leaves (by simpa [Function.comp_def] using h) (by simp)
  rwa [hleaves] at hgroup

theorem keys_group_nodup (leaves : List Leaf) : ((group leaves).map Item.keys).Nodup := by
  have hkeys : (group leaves).map Item.keys = (leaves.map Leaf.keys).eraseDups := by
    simp [group, Item.ofLeaves, Function.comp_def]
  rw [hkeys]
  exact nodup_eraseDups _

/-- Each group has at least one leaf. -/
theorem exists_leaf_of_mem_group {leaves : List Leaf} {item : Item} (h : item ∈ group leaves) :
    ∃ leaf ∈ leaves, leaf.keys = item.keys ∧ leaf.text ∈ item.values := by
  obtain ⟨keys, hkeys, rfl⟩ := List.mem_map.mp h
  obtain ⟨leaf, hleaf, rfl⟩ := List.mem_map.mp (List.mem_eraseDups.mp hkeys)
  refine ⟨leaf, hleaf, rfl, ?_⟩
  apply List.mem_map_of_mem
  simpa using hleaf

/-- The values of all items are as many as the leaves. -/
theorem sum_length_values_group (leaves : List Leaf) :
    ((group leaves).map fun item => item.values.length).sum = leaves.length := by
  rw [← (leaves_group_perm leaves).length_eq, List.length_flatMap]
  simp [Item.leaves]

end Items

end ApiCall
