/-!
Maps that keep the order in which their keys first came, as lists of pairs. Look-up is
`List.lookup`; a later value for a key replaces the earlier one in its place.
-/

namespace ApiCall

namespace Assoc

variable {α β : Type} [BEq α]

/-- Sets the value of a key: in its place if the key is there, at the end if not. -/
def insert (key : α) (value : β) : List (α × β) → List (α × β)
  | [] => [(key, value)]
  | (k, v) :: rest => if k == key then (k, value) :: rest else (k, v) :: insert key value rest

/-- The map that results from setting the pairs one after the other. -/
def ofList (pairs : List (α × β)) : List (α × β) :=
  pairs.foldl (fun entries (k, v) => insert k v entries) []

/-- Which entry a key has does not depend on the order of entries with different keys. -/
theorem lookup_of_perm [LawfulBEq α] {entries others : List (α × β)}
    (hkeys : (entries.map Prod.fst).Nodup) (h : entries.Perm others) (key : α) :
    entries.lookup key = others.lookup key := by
  induction h with
  | nil => rfl
  | cons entry _ ih =>
      rw [List.map_cons, List.nodup_cons] at hkeys
      rw [List.lookup_cons, List.lookup_cons, ih hkeys.2]
  | swap entry other rest =>
      obtain ⟨first, v⟩ := entry
      obtain ⟨second, w⟩ := other
      simp only [List.map_cons, List.nodup_cons, List.mem_cons, not_or] at hkeys
      have hdistinct : second ≠ first := hkeys.1.1
      simp only [List.lookup_cons]
      by_cases hfirst : key = first
      · have hsecond : (key == second) = false := by
          rw [hfirst]
          exact beq_eq_false_iff_ne.mpr hdistinct.symm
        simp [hsecond]
      · simp [beq_eq_false_iff_ne.mpr hfirst]
  | trans h₁ _ ih₁ ih₂ =>
      rw [ih₁ hkeys, ih₂ ((h₁.map Prod.fst).nodup_iff.mp hkeys)]

/-- Where all keys are different, each entry is found by its key. -/
theorem lookup_of_mem [LawfulBEq α] {entries : List (α × β)} (hkeys : (entries.map Prod.fst).Nodup)
    {entry : α × β} (h : entry ∈ entries) : entries.lookup entry.1 = some entry.2 := by
  obtain ⟨before, after, rfl⟩ := List.append_of_mem h
  obtain ⟨key, value⟩ := entry
  rw [lookup_of_perm hkeys List.perm_middle, List.lookup_cons_self]

theorem lookup_eq_none_of_not_mem [LawfulBEq α] {entries : List (α × β)} {key : α}
    (h : key ∉ entries.map Prod.fst) : entries.lookup key = none := by
  rw [List.lookup_eq_none_iff]
  intro entry hentry
  rw [bne_iff_ne]
  rintro rfl
  exact h (List.mem_map_of_mem hentry)

theorem mem_of_lookup [LawfulBEq α] {entries : List (α × β)} {key : α} {value : β}
    (h : entries.lookup key = some value) : (key, value) ∈ entries := by
  obtain ⟨before, after, rfl, -⟩ := List.lookup_eq_some_iff.mp h
  exact List.mem_append_right before List.mem_cons_self

end Assoc

end ApiCall
