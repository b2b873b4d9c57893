import ApiCall.Rendering
import ApiCall.Proofs.Encoding.KeyPaths
import ApiCall.Proofs.Text.Split
import Mathlib

/-!
What the keys on the wire tell. Brackets set the steps of a key path apart as long as no field name
has a bracket of its own (`Key.read?_labelUnder`). Only deep objects keep the whole path. In the
other styles the array positions at its end go, and so does the parameter's name where the path
starts at a field; but the paths of one value part at two fields, and every key still shows where.
So different items have different keys, and a deep object can be put together again from its entries
(`Registry.encode_keys_identify`).
-/

namespace ApiCall

open Json

/-- A field name that can stand between brackets: it is not empty and has no bracket of its own. -/
def IsPlainName (name : String) : Prop :=
  name ≠ "" ∧ '[' ∉ name.toList ∧ ']' ∉ name.toList

namespace Key

/-- Array positions have no name, and the name of a field is plain. -/
def IsPlain : Key → Prop
  | .field name => IsPlainName name
  | .element => True

/-! ### Reading keys -/

/-- The step with this text between its brackets. -/
def ofText (text : List Char) : Key :=
  if text = [] then .element else .field (String.ofList text)

/-- The steps in pieces that end at a closing bracket each; nothing follows the last one. -/
def readPieces? : List (List Char) → Option (List Key)
  | [[]] => some []
  | ('[' :: text) :: pieces => (readPieces? pieces).map (ofText text :: ·)
  | _ => none

/-- The key path in a key that begins with the parameter's name. -/
def read? (name key : String) : Option (List Key) := do
  let steps ← Split.after? name.toList key.toList
  readPieces? (Split.pieces ']' steps)

theorem ofText_text {key : Key} (h : key.IsPlain) : ofText key.text.toList = key := by
  cases key with
  | element => rfl
  | field name =>
      have hname : name.toList ≠ [] := mt String.toList_eq_nil_iff.mp h.1
      simp [ofText, text, hname]

theorem IsPlain.not_mem_text {key : Key} (h : key.IsPlain) : ']' ∉ key.text.toList := by
  cases key with
  | element => simp [text]
  | field name => exact h.2.2

theorem toList_bracket (key : Key) : key.bracket.toList = '[' :: key.text.toList ++ [']'] := by
  simp [bracket]

theorem toList_labelUnder (name : String) (keys : List Key) :
    (labelUnder name keys).toList =
      name.toList ++ keys.flatMap fun key => key.bracket.toList := by
  rw [labelUnder, String.toList_append, String.toList_join, List.flatMap_map]

theorem readPieces?_brackets {keys : List Key} (h : ∀ key ∈ keys, key.IsPlain) :
    readPieces? (Split.pieces ']' (keys.flatMap fun key => key.bracket.toList)) = some keys := by
  induction keys with
  | nil => rfl
  | cons key keys ih =>
      obtain ⟨hkey, hkeys⟩ := List.forall_mem_cons.mp h
      have hinside : ']' ∉ '[' :: key.text.toList := by
        simpa using hkey.not_mem_text
      rw [List.flatMap_cons, toList_bracket, List.append_assoc, List.singleton_append,
        Split.pieces_append, Split.pieces_of_not_mem hinside, List.singleton_append]
      simp only [readPieces?, ih hkeys, Option.map_some, ofText_text hkey]

theorem read?_labelUnder {keys : List Key} (h : ∀ key ∈ keys, key.IsPlain) (name : String) :
    read? name (labelUnder name keys) = some keys := by
  rw [read?, toList_labelUnder, Split.after?_append]
  exact readPieces?_brackets h

example : read? "id" "id[role][][user]" = some [.field "role", .element, .field "user"] := by
  decide

/-! ### Keys that are the same -/

variable {keys others : List Key}

theorem eq_of_labelUnder_eq (h : ∀ key ∈ keys, key.IsPlain) (hother : ∀ key ∈ others, key.IsPlain)
    {name : String} (heq : labelUnder name keys = labelUnder name others) : keys = others := by
  have hread := read?_labelUnder hother name
  rw [← heq, read?_labelUnder h name] at hread
  exact Option.some.inj hread

/-- A plain name ends where the first bracket begins. -/
theorem takeWhile_labelUnder {name : String} (h : IsPlainName name) (keys : List Key) :
    (labelUnder name keys).toList.takeWhile (· != '[') = name.toList := by
  have hname : ∀ c ∈ name.toList, (c != '[') = true := by
    intro c hc
    apply bne_iff_ne.mpr
    rintro rfl
    exact h.2.1 hc
  rw [toList_labelUnder, List.takeWhile_append_of_pos hname]
  cases keys with
  | nil => simp
  | cons key keys => simp [toList_bracket]

/-- The label of a path that starts at a field says which field this is and what comes after it. -/
theorem eq_of_label_eq {name other : String} (h : ∀ key ∈ .field name :: keys, key.IsPlain)
    (hother : ∀ key ∈ .field other :: others, key.IsPlain)
    (heq : label (.field name :: keys) = label (.field other :: others)) :
    name = other ∧ keys = others := by
  obtain ⟨hname, hkeys⟩ := List.forall_mem_cons.mp h
  obtain ⟨hothername, hothers⟩ := List.forall_mem_cons.mp hother
  have hlabels : labelUnder name keys = labelUnder other others := heq
  have hstart : name.toList = other.toList := by
    rw [← takeWhile_labelUnder hname keys, hlabels, takeWhile_labelUnder hothername]
  obtain rfl := String.toList_inj.mp hstart
  exact ⟨rfl, eq_of_labelUnder_eq hkeys hothers hlabels⟩

theorem mem_of_mem_trim {key : Key} (h : key ∈ trim keys) : key ∈ keys := by
  have hmem := (List.dropWhile_suffix isElement).subset (List.mem_reverse.mp h)
  exact List.mem_reverse.mp hmem

/-- A character of a key that is no bracket comes from a name. -/
theorem not_mem_labelUnder {c : Char} (hopen : c ≠ '[') (hclose : c ≠ ']') {name : String}
    (hname : c ∉ name.toList) (hfields : ∀ field, Key.field field ∈ keys → c ∉ field.toList) :
    c ∉ (labelUnder name keys).toList := by
  have hbracket : ∀ key ∈ keys, c ∉ key.bracket.toList := by
    intro key hkey hmem
    rw [toList_bracket] at hmem
    cases key with
    | element => simp [text, hopen, hclose] at hmem
    | field field =>
        have hfield := hfields field hkey
        simp [text, hopen, hclose, hfield] at hmem
  rw [toList_labelUnder, List.mem_append, List.mem_flatMap]
  rintro (hmem | ⟨key, hkey, hmem⟩)
  · exact hname hmem
  · exact hbracket key hkey hmem

end Key

namespace Directive

variable {d : Directive} {keys others : List Key}

/-- Two paths that part have different keys, whatever the key leaves out. -/
theorem key_ne_of_fork (hfork : Key.Fork keys others) (h : ∀ key ∈ keys, key.IsPlain)
    (hother : ∀ key ∈ others, key.IsPlain) (name : String) :
    d.key name keys ≠ d.key name others := by
  intro heq
  unfold key at heq
  split at heq
  · exact hfork.ne (Key.eq_of_labelUnder_eq h hother heq)
  · replace hfork := hfork.trim
    have h : ∀ key ∈ Key.trim keys, key.IsPlain := fun key hkey => h key (Key.mem_of_mem_trim hkey)
    have hother : ∀ key ∈ Key.trim others, key.IsPlain :=
      fun key hkey => hother key (Key.mem_of_mem_trim hkey)
    -- both paths have steps left, and the first of them is of the same kind in both
    generalize Key.trim keys = keys at hfork h heq
    generalize Key.trim others = others at hfork hother heq
    cases hfork with
    | here hname => exact hname (Key.eq_of_label_eq h hother heq).1
    | @after first rest rest' hrest =>
        cases first with
        | field first => exact hrest.ne (Key.eq_of_label_eq h hother heq).2
        | element => exact hrest.after.ne (Key.eq_of_labelUnder_eq h hother heq)

theorem not_mem_key {c : Char} (hopen : c ≠ '[') (hclose : c ≠ ']') {name : String}
    (hname : c ∉ name.toList) (hfields : ∀ field, Key.field field ∈ keys → c ∉ field.toList) :
    c ∉ (d.key name keys).toList := by
  have htrim : ∀ field, Key.field field ∈ Key.trim keys → c ∉ field.toList :=
    fun field hmem => hfields field (Key.mem_of_mem_trim hmem)
  unfold key
  split
  · exact Key.not_mem_labelUnder hopen hclose hname hfields
  · split
    · rename_i first rest htrimmed
      rw [htrimmed] at htrim
      change c ∉ (Key.labelUnder first rest).toList
      apply Key.not_mem_labelUnder hopen hclose (htrim first List.mem_cons_self)
      exact fun field hmem => htrim field (List.mem_cons_of_mem _ hmem)
    · exact Key.not_mem_labelUnder hopen hclose hname htrim

/-- The key of an entry is that of an item, or the parameter's name. -/
theorem key_of_mem_entries {name : String} {items : Items} {entry : String × String}
    (h : entry ∈ d.entries name items) :
    entry.1 = name ∨ ∃ item ∈ items, entry.1 = d.key name item.keys := by
  unfold entries at h
  split at h
  · obtain ⟨item, hitem, hentry⟩ := List.mem_flatMap.mp h
    obtain ⟨value, _, rfl⟩ := List.mem_map.mp hentry
    exact Or.inr ⟨item, hitem, rfl⟩
  · split at h
    · cases h
    · rw [List.mem_singleton.mp h]
      exact Or.inl rfl

theorem entries_deepObject (hdeep : d.style = .deepObject) (name : String) (items : Items) :
    d.entries name items =
      (items.flatMap Item.leaves).map fun leaf => (Key.labelUnder name leaf.keys, leaf.text) := by
  simp [entries, hdeep, key, Item.leaves, List.map_flatMap, Function.comp_def]

end Directive

namespace Items

/-- Adds the value of an entry under the path in its key. -/
def addUnderKey? (name : String) (items : Items) (entry : String × String) : Option Items :=
  (Key.read? name entry.1).map fun keys => items.add keys [entry.2]

/-- Items from the entries of a parameter, in order. -/
def ofEntries? (name : String) (entries : List (String × String)) : Option Items :=
  entries.foldlM (addUnderKey? name) []

theorem foldlM_addUnderKey? {leaves : List Leaf}
    (h : ∀ leaf ∈ leaves, ∀ key ∈ leaf.keys, key.IsPlain) (name : String) (items : Items) :
    (leaves.map fun leaf => (Key.labelUnder name leaf.keys, leaf.text)).foldlM (addUnderKey? name)
      items = some (items.addLeaves [] leaves) := by
  induction leaves generalizing items with
  | nil => rfl
  | cons leaf leaves ih =>
      obtain ⟨hleaf, hleaves⟩ := List.forall_mem_cons.mp h
      rw [List.map_cons, List.foldlM_cons, addUnderKey?, Key.read?_labelUnder hleaf]
      exact ih hleaves (items.add leaf.keys [leaf.text])

theorem ofEntries?_entries {d : Directive} (hdeep : d.style = .deepObject) {items : Items}
    (hkeys : (items.map Item.keys).Nodup) (hvalues : ∀ item ∈ items, item.values ≠ [])
    (hplain : ∀ item ∈ items, ∀ key ∈ item.keys, key.IsPlain) (name : String) :
    ofEntries? name (d.entries name items) = some items := by
  have hleaves : ∀ leaf ∈ items.flatMap Item.leaves, ∀ key ∈ leaf.keys, key.IsPlain := by
    intro leaf hleaf
    obtain ⟨item, hitem, hleaf⟩ := List.mem_flatMap.mp hleaf
    obtain ⟨text, -, rfl⟩ := List.mem_map.mp hleaf
    exact hplain item hitem
  rw [ofEntries?, Directive.entries_deepObject hdeep, foldlM_addUnderKey? hleaves,
    addLeaves_flatMap_leaves hkeys hvalues]

end Items

/-! ### The keys of a value -/

/-- The field names of an object type are plain. -/
def Shape.HasPlainFields : Shape → Prop
  | .object fields => ∀ field ∈ fields, IsPlainName field.1
  | _ => True

namespace Registry

variable {r : Registry} {schema : Schema} {value : Option Value} {path : FieldPath} {items : Items}

/-- Every object type behind the schema has plain field names. -/
def HasPlainFields (r : Registry) (schema : Schema) : Prop :=
  r.Throughout Shape.HasPlainFields schema

theorem IsLeafPath.isPlain {keys : List Key} (h : r.IsLeafPath schema keys)
    (hp : r.HasPlainFields schema) : ∀ key ∈ keys, key.IsPlain := by
  intro key hkey
  cases key with
  | element => trivial
  | field name =>
      obtain ⟨fields, hplain, field, hfield, rfl⟩ := h.throughout_field hp hkey
      exact hplain field hfield

/-- No two items of a value have one key, and the entries of a deep object are read back as the
items they were made of. -/
theorem encode_keys_identify (d : Directive) (name : String) (hd : r.HasDistinctFields schema)
    (hp : r.HasPlainFields schema) (h : r.encode schema value path = .ok items) :
    (items.map fun item => d.key name item.keys).Nodup ∧
      (d.style = .deepObject → Items.ofEntries? name (d.entries name items) = some items) := by
  have hkeys := keys_nodup_of_encode h
  have hplain : ∀ item ∈ items, ∀ key ∈ item.keys, key.IsPlain := by
    intro item hitem
    exact (isLeafPath_of_encode h hitem).isPlain hp
  constructor
  · apply List.Nodup.map_on _ hkeys.of_map
    intro item hitem other hother heq
    rcases apart_of_encode hd h item hitem other hother with hsame | hfork
    · exact hsame
    · exact absurd heq
        (Directive.key_ne_of_fork hfork (hplain item hitem) (hplain other hother) name)
  · intro hdeep
    exact Items.ofEntries?_entries hdeep hkeys (values_of_encode h) hplain name

/-- Two lists of users at two depths of a recursive type. -/
theorem encode_keys_identify_roles :
    let role : Fields :=
      [("user", .array (.scalar .string)), ("roles", .nullable (.array (.named "Role")))]
    let r : Registry := { objects := [("Role", role)] }
    let d : Directive := { name := "id", style := .deepObject }
    let reader : Value := .object [("user", .array [.string "Cy"])]
    let admin : Value := .object
      [("user", .array [.string "Ada", .string "Bo"]), ("roles", .array [reader])]
    let items : Items :=
      [⟨[.field "user", .element], ["Ada", "Bo"]⟩,
       ⟨[.field "roles", .element, .field "user", .element], ["Cy"]⟩]
    r.HasDistinctFields (.named "Role") ∧ r.HasPlainFields (.named "Role") ∧
      r.encode (.named "Role") (some admin) { root := "id" } = .ok items ∧
      (items.map fun item => d.key "id" item.keys).Nodup ∧
      Items.ofEntries? "id" (d.entries "id" items) = some items := by
  intro role r d reader admin items
  have hclosed : ∀ P : Shape → Prop, P (.object role) → P (.array (.named "Role")) →
      P (.array (.scalar .string)) → P (.nullable (.array (.named "Role"))) →
      P (.scalar .string) → r.Throughout P (.named "Role") := by
    intro P hrole hroles husers hwrapped huser
    refine throughout_of_closed [.named "Role", .array (.scalar .string), .scalar .string,
      .nullable (.array (.named "Role")), .array (.named "Role")] ?_ ?_ ?_
    · simp [resolve, named, r, scalar?, object?, *]
    · simp [below, resolve, named, r, scalar?, object?, role]
    · simp
  have hd : r.HasDistinctFields (.named "Role") := by
    apply hclosed <;> simp [Shape.HasDistinctFields, role]
  have hp : r.HasPlainFields (.named "Role") := by
    apply hclosed <;> simp [Shape.HasPlainFields, IsPlainName, role]
  have h : r.encode (.named "Role") (some admin) { root := "id" } = .ok items := by cbv
  obtain ⟨hnodup, hread⟩ := encode_keys_identify d "id" hd hp h
  exact ⟨hd, hp, h, hnodup, hread rfl⟩

end Registry

end ApiCall
