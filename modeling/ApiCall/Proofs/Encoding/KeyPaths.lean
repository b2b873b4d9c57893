import ApiCall.Proofs.Encoding.Leaves
import ApiCall.Proofs.Encoding.Reach
import Mathlib

/-!
The key paths of a value's items. The schema decides at each position whether a field, an element or
a leaf comes next, so two paths of one value that differ do so at two fields of one object
(`Registry.IsLeafPath.eq_or_fork`). Everything else about the items follows: no path is the start of
another one, and none gets lost when array positions at the end are dropped
(`Registry.encode_wellKeyed`).
-/

namespace ApiCall

open Json

/-! ### Paths that part -/

namespace Key

/-- Two key paths lead through the same object and leave it by two of its fields. -/
inductive Fork : List Key → List Key → Prop where
  | here {name other : String} {rest others : List Key} (h : name ≠ other) :
      Fork (.field name :: rest) (.field other :: others)
  | after {key : Key} {keys others : List Key} (h : Fork keys others) :
      Fork (key :: keys) (key :: others)

theorem trim_cons (key : Key) (keys : List Key) :
    trim (key :: keys) =
      if key.isElement = true ∧ trim keys = [] then [] else key :: trim keys := by
  unfold trim
  rw [List.reverse_cons, List.dropWhile_append]
  cases hrest : keys.reverse.dropWhile isElement with
  | nil => cases key <;> simp [isElement]
  | cons last others => simp

theorem exists_element_of_head? {keys : List Key} (h : keys.head?.map isElement = some true) :
    ∃ rest, keys = .element :: rest := by
  rcases keys with _ | ⟨_ | _, rest⟩ <;> simp [isElement] at h ⊢

theorem exists_field_of_head? {keys : List Key} (h : keys.head?.map isElement = some false) :
    ∃ name rest, keys = .field name :: rest := by
  rcases keys with _ | ⟨_ | _, rest⟩ <;> simp [isElement] at h ⊢

namespace Fork

variable {keys others : List Key}

theorem symm (h : Fork keys others) : Fork others keys := by
  induction h with
  | here h => exact .here h.symm
  | after _ ih => exact .after ih

theorem ne_nil (h : Fork keys others) : keys ≠ [] := by
  cases h <;> simp

theorem not_begins (h : Fork keys others) : ¬ keys <+: others := by
  induction h with
  | here h =>
      rw [List.cons_prefix_cons]
      rintro ⟨heq, -⟩
      exact h (Key.field.inj heq)
  | after _ ih =>
      rw [List.cons_prefix_cons]
      exact fun hbegins => ih hbegins.2

theorem head?_isElement (h : Fork keys others) :
    keys.head?.map isElement = others.head?.map isElement := by
  cases h <;> rfl

/-- Array positions at the end stand after the place where the paths part. -/
theorem trim (h : Fork keys others) : Fork (trim keys) (trim others) := by
  induction h with
  | here h =>
      simp only [trim_cons, isElement, Bool.false_eq_true, false_and, if_false]
      exact .here h
  | after _ ih =>
      rw [trim_cons, trim_cons, if_neg fun hnil => ih.ne_nil hnil.2,
        if_neg fun hnil => ih.symm.ne_nil hnil.2]
      exact .after ih

theorem ne (h : Fork keys others) : keys ≠ others := by
  rintro rfl
  exact h.not_begins (List.prefix_refl keys)

end Fork

end Key

/-! ### The paths that a schema allows -/

/-- The fields of an object type are a map: no two of them have the same name. -/
def Shape.HasDistinctFields : Shape → Prop
  | .object fields => (fields.map Prod.fst).Nodup
  | _ => True

namespace Registry

/-- The key path leads from the schema to a scalar. -/
inductive IsLeafPath (r : Registry) : Schema → List Key → Prop where
  | scalar {schema : Schema} {kind : ScalarKind}
      (hs : r.resolve schema.unwrapNullable = .scalar kind) : IsLeafPath r schema []
  | element {schema items : Schema} {keys : List Key}
      (hs : r.resolve schema.unwrapNullable = .array items) (h : IsLeafPath r items keys) :
      IsLeafPath r schema (.element :: keys)
  | field {schema fieldSchema : Schema} {fields : Fields} {name : String} {keys : List Key}
      (hs : r.resolve schema.unwrapNullable = .object fields)
      (hfield : (name, fieldSchema) ∈ fields) (h : IsLeafPath r fieldSchema keys) :
      IsLeafPath r schema (.field name :: keys)

variable {r : Registry} {schema : Schema}

/-- Every object type behind the schema has fields of different names. -/
def HasDistinctFields (r : Registry) (schema : Schema) : Prop :=
  r.Throughout Shape.HasDistinctFields schema

/-- A field of a key path stands in an object type behind the schema. -/
theorem IsLeafPath.throughout_field {P : Shape → Prop} {keys : List Key}
    (h : r.IsLeafPath schema keys) (hP : r.Throughout P schema) {name : String}
    (hname : Key.field name ∈ keys) :
    ∃ fields, P (.object fields) ∧ ∃ field ∈ fields, field.1 = name := by
  induction h with
  | scalar _ => cases hname
  | element hs _ ih => exact ih (hP.items hs) (List.mem_of_ne_of_mem Key.noConfusion hname)
  | field hs hfield _ ih =>
      rcases List.mem_cons.mp hname with heq | hrest
      · cases heq
        have hshape := hP.unwrapNullable.here
        rw [hs] at hshape
        exact ⟨_, hshape, _, hfield, rfl⟩
      · exact ih (hP.field hs hfield) hrest

theorem IsLeafPath.eq_or_fork {keys others : List Key} (h : r.IsLeafPath schema keys)
    (hd : r.HasDistinctFields schema) (hother : r.IsLeafPath schema others) :
    keys = others ∨ Key.Fork keys others := by
  induction h generalizing others with
  | scalar hs =>
      cases hother with
      | scalar _ => exact Or.inl rfl
      | element hother _ => cases hs.symm.trans hother
      | field hother _ _ => cases hs.symm.trans hother
  | element hs _ ih =>
      cases hother with
      | scalar hother => cases hs.symm.trans hother
      | element hsame hrest =>
          obtain rfl := Shape.array.inj (hs.symm.trans hsame)
          rcases ih (hd.items hs) hrest with rfl | hfork
          · exact Or.inl rfl
          · exact Or.inr (.after hfork)
      | field hother _ _ => cases hs.symm.trans hother
  | @field schema fieldSchema fields name keys hs hfield _ ih =>
      cases hother with
      | scalar hother => cases hs.symm.trans hother
      | element hother _ => cases hs.symm.trans hother
      | @field _ otherSchema _ other keys' hsame hother hrest =>
          obtain rfl := Shape.object.inj (hs.symm.trans hsame)
          by_cases hname : name = other
          · subst hname
            have hnodup : (fields.map Prod.fst).Nodup := by
              have hshape := hd.unwrapNullable.here
              rwa [hs] at hshape
            have hschema := List.inj_on_of_nodup_map hnodup hfield hother rfl
            obtain rfl := (Prod.mk.inj hschema).2
            rcases ih (hd.field hs hfield) hrest with rfl | hfork
            · exact Or.inl rfl
            · exact Or.inr (.after hfork)
          · exact Or.inr (.here hname)

/-! ### The paths of leaves -/

theorem mem_elementLeaves? {elements : List Value} {leaves : List Leaf}
    (h : r.elementLeaves? schema elements = some leaves) {leaf : Leaf} (hleaf : leaf ∈ leaves) :
    ∃ element ∈ elements, ∃ own, r.leaves? schema (some element) = some own ∧
      ∃ inner ∈ own, leaf = inner.under .element := by
  induction elements generalizing leaves with
  | nil =>
      rw [elementLeaves?] at h
      cases h
      cases hleaf
  | cons element rest ih =>
      rw [elementLeaves?] at h
      obtain ⟨first, hfirst, h⟩ := Option.bind_eq_some_iff.mp h
      obtain ⟨others, hothers, h⟩ := Option.bind_eq_some_iff.mp h
      cases h
      rcases List.mem_append.mp hleaf with hmem | hmem
      · obtain ⟨inner, hinner, rfl⟩ := List.mem_map.mp hmem
        exact ⟨element, List.mem_cons_self, first, hfirst, inner, hinner, rfl⟩
      · obtain ⟨found, hfound, hrest⟩ := ih hothers hmem
        exact ⟨found, List.mem_cons_of_mem element hfound, hrest⟩

theorem mem_fieldLeaves? {fields : Fields} {members : List (String × Value)} {leaves : List Leaf}
    (h : r.fieldLeaves? fields members = some leaves) {leaf : Leaf} (hleaf : leaf ∈ leaves) :
    ∃ field ∈ fields, ∃ own, r.leaves? field.2 (members.lookup field.1) = some own ∧
      ∃ inner ∈ own, leaf = inner.under (.field field.1) := by
  induction fields generalizing leaves with
  | nil =>
      rw [fieldLeaves?] at h
      cases h
      cases hleaf
  | cons field rest ih =>
      rw [fieldLeaves?] at h
      obtain ⟨first, hfirst, h⟩ := Option.bind_eq_some_iff.mp h
      obtain ⟨others, hothers, h⟩ := Option.bind_eq_some_iff.mp h
      cases h
      rcases List.mem_append.mp hleaf with hmem | hmem
      · obtain ⟨inner, hinner, rfl⟩ := List.mem_map.mp hmem
        exact ⟨field, List.mem_cons_self, first, hfirst, inner, hinner, rfl⟩
      · obtain ⟨found, hfound, hrest⟩ := ih hothers hmem
        exact ⟨found, List.mem_cons_of_mem field hfound, hrest⟩

theorem IsLeafPath.nullable {underlying : Schema} {keys : List Key}
    (h : r.IsLeafPath underlying keys) : r.IsLeafPath (.nullable underlying) keys := by
  cases h with
  | scalar hs => exact .scalar hs
  | element hs h => exact .element hs h
  | field hs hfield h => exact .field hs hfield h

theorem isLeafPath_of_mem_leaves {value : Option Value} (hconforms : r.Conforms schema value)
    {leaves : List Leaf} (h : r.leaves? schema value = some leaves) {leaf : Leaf}
    (hleaf : leaf ∈ leaves) : r.IsLeafPath schema leaf.keys := by
  induction hconforms generalizing leaves leaf with
  | absent hv =>
      rw [leaves?_absent hv] at h
      cases h
      cases hleaf
  | @nullable underlying v _ ih =>
      cases hnull : v.isNull with
      | true =>
          rw [leaves?_absent (by simp [present, hnull])] at h
          cases h
          cases hleaf
      | false =>
          rw [leaves?_some hnull] at h
          exact (ih (by rwa [leaves?_some hnull]) hleaf).nullable
  | @scalar schema kind v hs hv ht =>
      obtain ⟨text, ht⟩ := ScalarKind.exists_text ht
      have hplain := resolve_unwrapNullable hs (by simp)
      rw [leaves?_some hv, hplain, shapeLeaves?, ht] at h
      cases h
      obtain rfl := List.mem_singleton.mp hleaf
      exact .scalar hplain
  | array hs _ ih =>
      have hplain := resolve_unwrapNullable hs (by simp)
      rw [leaves?_some rfl, hplain, shapeLeaves?] at h
      obtain ⟨element, helement, own, hown, inner, hinner, rfl⟩ := mem_elementLeaves? h hleaf
      exact .element hplain (ih element helement hown hinner)
  | object hs _ ih =>
      have hplain := resolve_unwrapNullable hs (by simp)
      rw [leaves?_some rfl, hplain, shapeLeaves?] at h
      obtain ⟨field, hfield, own, hown, inner, hinner, rfl⟩ := mem_fieldLeaves? h hleaf
      exact .field hplain hfield (ih field hfield hown hinner)

theorem group_of_encode {value : Option Value} {path : FieldPath} {items : Items}
    (h : r.encode schema value path = .ok items) :
    ∃ leaves, r.leaves? schema value = some leaves ∧ items = Items.group leaves := by
  obtain ⟨leaves, hleaves, hwalk⟩ := encodeInto_of_conforms (conforms_of_encode_eq_ok h)
  rw [encode, hwalk, Items.addLeaves_eq_group] at h
  exact ⟨leaves, hleaves, (Except.ok.inj h).symm⟩

/-- The items of a value stand for its leaves, so their paths are paths of the schema. -/
theorem isLeafPath_of_encode {value : Option Value} {path : FieldPath} {items : Items}
    (h : r.encode schema value path = .ok items) {item : Item} (hitem : item ∈ items) :
    r.IsLeafPath schema item.keys := by
  obtain ⟨leaves, hleaves, rfl⟩ := group_of_encode h
  obtain ⟨leaf, hleaf, hkeys, -⟩ := Items.exists_leaf_of_mem_group hitem
  rw [← hkeys]
  exact isLeafPath_of_mem_leaves (conforms_of_encode_eq_ok h) hleaves hleaf

end Registry

/-! ### The items of a value -/

/-- What the key paths of items tell apart. -/
structure Items.WellKeyed (items : Items) : Prop where
  values_ne_nil : ∀ item ∈ items, item.values ≠ []
  keys_nodup : (items.map Item.keys).Nodup
  prefixFree : ∀ item ∈ items, ∀ other ∈ items, item.keys <+: other.keys → item = other
  /-- All paths are empty, all begin at an element, or all begin at a field. -/
  start : (∀ item ∈ items, item.keys = []) ∨
    (∀ item ∈ items, ∃ keys, item.keys = .element :: keys) ∨
    ∀ item ∈ items, ∃ name keys, item.keys = .field name :: keys
  trimmed_nodup : (items.map Item.trimmed).Nodup
  /-- The default item is the one item whose trimmed path is empty. -/
  findDefault_iff : ∀ item, items.findDefault = some item ↔ item ∈ items ∧ item.trimmed = []
  default_alone : ∀ item, items.findDefault = some item → items = [item]

namespace Items

/-- Two items are the same one, or their paths part at two fields. -/
def Apart (items : Items) : Prop :=
  ∀ item ∈ items, ∀ other ∈ items, item = other ∨ Key.Fork item.keys other.keys

namespace Apart

variable {items : Items}

theorem prefixFree (h : items.Apart) {item other : Item} (hitem : item ∈ items)
    (hother : other ∈ items) (hbegins : item.keys <+: other.keys) : item = other := by
  rcases h item hitem other hother with heq | hfork
  · exact heq
  · exact absurd hbegins hfork.not_begins

theorem eq_of_trimmed_eq (h : items.Apart) {item other : Item} (hitem : item ∈ items)
    (hother : other ∈ items) (htrimmed : item.trimmed = other.trimmed) : item = other := by
  rcases h item hitem other hother with heq | hfork
  · exact heq
  · exact absurd htrimmed hfork.trim.ne

theorem start (h : items.Apart) : (∀ item ∈ items, item.keys = []) ∨
    (∀ item ∈ items, ∃ keys, item.keys = .element :: keys) ∨
    ∀ item ∈ items, ∃ name keys, item.keys = .field name :: keys := by
  cases items with
  | nil => simp
  | cons first rest =>
      have hsame : ∀ item ∈ first :: rest,
          item.keys.head?.map Key.isElement = first.keys.head?.map Key.isElement := by
        intro item hitem
        rcases h item hitem first List.mem_cons_self with rfl | hfork
        · rfl
        · exact hfork.head?_isElement
      rcases hfirst : first.keys.head?.map Key.isElement with _ | _ | _
      · left
        intro item hitem
        simpa [hfirst] using hsame item hitem
      · right
        right
        intro item hitem
        exact Key.exists_field_of_head? ((hsame item hitem).trans hfirst)
      · right
        left
        intro item hitem
        exact Key.exists_element_of_head? ((hsame item hitem).trans hfirst)

theorem eq_singleton (h : items.Apart) (hnodup : items.Nodup) {item : Item}
    (hitem : item ∈ items) (htrimmed : item.trimmed = []) : items = [item] := by
  have hall : ∀ other ∈ items, other = item := by
    intro other hother
    rcases h other hother item hitem with heq | hfork
    · exact heq
    · exact absurd htrimmed hfork.trim.symm.ne_nil
  obtain ⟨hlength, hone⟩ : items.length ≤ 1 ∧ items ≠ [] := by
    rw [List.eq_replicate_of_mem hall, List.nodup_replicate] at hnodup
    exact ⟨hnodup, List.ne_nil_of_mem hitem⟩
  obtain ⟨other, rfl⟩ : ∃ other, items = [other] := by
    apply List.length_eq_one_iff.mp
    have := List.length_pos_iff.mpr hone
    omega
  rw [hall other List.mem_cons_self]

theorem wellKeyed (h : items.Apart) (hvalues : ∀ item ∈ items, item.values ≠ [])
    (hkeys : (items.map Item.keys).Nodup) : items.WellKeyed := by
  have hnodup : items.Nodup := hkeys.of_map
  have hfound {item : Item} (hdefault : items.findDefault = some item) :
      item ∈ items ∧ item.trimmed = [] := by
    refine ⟨List.mem_of_find?_eq_some hdefault, ?_⟩
    simpa using List.find?_some hdefault
  refine ⟨hvalues, hkeys, ?_, h.start, ?_, ?_, ?_⟩
  · intro item hitem other hother hbegins
    exact h.prefixFree hitem hother hbegins
  · apply List.Nodup.map_on _ hnodup
    intro item hitem other hother
    exact h.eq_of_trimmed_eq hitem hother
  · intro item
    refine ⟨hfound, ?_⟩
    rintro ⟨hitem, htrimmed⟩
    rw [h.eq_singleton hnodup hitem htrimmed]
    simp [findDefault, htrimmed]
  · intro item hdefault
    obtain ⟨hitem, htrimmed⟩ := hfound hdefault
    exact h.eq_singleton hnodup hitem htrimmed

end Apart

end Items

namespace Registry

variable {r : Registry} {schema : Schema} {value : Option Value} {path : FieldPath} {items : Items}

theorem keys_nodup_of_encode (h : r.encode schema value path = .ok items) :
    (items.map Item.keys).Nodup := by
  obtain ⟨leaves, -, rfl⟩ := group_of_encode h
  exact Items.keys_group_nodup leaves

theorem values_of_encode (h : r.encode schema value path = .ok items) :
    ∀ item ∈ items, item.values ≠ [] := by
  obtain ⟨leaves, -, rfl⟩ := group_of_encode h
  intro item hitem
  obtain ⟨leaf, -, -, htext⟩ := Items.exists_leaf_of_mem_group hitem
  exact List.ne_nil_of_mem htext

theorem apart_of_encode (hd : r.HasDistinctFields schema)
    (h : r.encode schema value path = .ok items) : items.Apart := by
  intro item hitem other hother
  have hpath := isLeafPath_of_encode h hitem
  rcases hpath.eq_or_fork hd (isLeafPath_of_encode h hother) with hkeys | hfork
  · exact Or.inl (List.inj_on_of_nodup_map (keys_nodup_of_encode h) hitem hother hkeys)
  · exact Or.inr hfork

/-- The items of a value are told apart by their key paths, before and after array positions at the
end are dropped. -/
theorem encode_wellKeyed (hd : r.HasDistinctFields schema)
    (h : r.encode schema value path = .ok items) : items.WellKeyed :=
  (apart_of_encode hd h).wellKeyed (values_of_encode h) (keys_nodup_of_encode h)

/-- Lists of lists beside a plain field, and a recursive type below one of the elements. -/
theorem encode_wellKeyed_nested :
    let pet : Fields :=
      [("name", .scalar .string), ("marks", .array (.array (.scalar .integer))),
       ("young", .nullable (.array (.named "Pet")))]
    let r : Registry := { objects := [("Pet", pet)] }
    let mark (i : Int) : Value := .array [.number (.integer i)]
    let ada : Value := .object [("name", .string "Ada"), ("marks", .array [mark 3])]
    let rex : Value := .object
      [("name", .string "Rex"), ("marks", .array [mark 1, mark 2]), ("young", .array [ada])]
    let items : Items :=
      [⟨[.element, .field "name"], ["Rex"]⟩,
       ⟨[.element, .field "marks", .element, .element], ["1", "2"]⟩,
       ⟨[.element, .field "young", .element, .field "name"], ["Ada"]⟩,
       ⟨[.element, .field "young", .element, .field "marks", .element, .element], ["3"]⟩]
    r.HasDistinctFields (.array (.named "Pet")) ∧
      r.encode (.array (.named "Pet")) (some (.array [rex])) { root := "pets" } = .ok items ∧
      items.WellKeyed := by
  intro pet r mark ada rex items
  have hd : r.HasDistinctFields (.array (.named "Pet")) := by
    refine throughout_of_closed [.array (.named "Pet"), .named "Pet", .scalar .string,
      .array (.array (.scalar .integer)), .array (.scalar .integer), .scalar .integer,
      .nullable (.array (.named "Pet"))] ?_ ?_ ?_
    · simp [resolve, named, r, scalar?, object?, pet, Shape.HasDistinctFields]
    · simp [below, resolve, named, r, scalar?, object?, pet]
    · simp
  have h : r.encode (.array (.named "Pet")) (some (.array [rex])) { root := "pets" } =
      .ok items := by cbv
  exact ⟨hd, h, encode_wellKeyed hd h⟩

end Registry

end ApiCall
