import ApiCall.Rendering
import ApiCall.Proofs.Encoding.KeyPaths
import Mathlib

/-!
The table of styles. A style and the explode flag choose one of three ways to write any items: an
entry for each value under the item's own key, one under the key in brackets, or one entry that
joins all parts (`Directive.entries_eq_tableEntries`). For an array of scalars or an object with
scalar fields all three are plain to see from the texts of what is there, since a null has no leaf
(`Registry.entries_follow_table`).
-/

namespace ApiCall

open Json

/-! ### The three ways to write items -/

namespace Directive

/-- The entries that the table of styles has for a parameter, out of those it has when it is
exploded, those of a deep object, and the parts that are joined otherwise, if there are any. -/
def tableEntries (d : Directive) (name : String) (own bracketed : List (String × String))
    (parts : List String) : List (String × String) :=
  match d.style, d.explode with
  | .deepObject, _ => bracketed
  | .form, none => own
  | _, some true => own
  | .form, some false => joined ","
  | .spaceDelimited, _ => joined " "
  | .pipeDelimited, _ => joined "|"
where
  joined (separator : String) : List (String × String) :=
    if parts = [] then [] else [(name, separator.intercalate parts)]

/-- The key of an item in a style that leaves brackets out where it can. -/
def ownKey (name : String) (keys : List Key) : String :=
  match Key.trim keys with
  | .field first :: rest => Key.label (.field first :: rest)
  | keys => Key.labelUnder name keys

variable {d : Directive}

theorem key_of_deepObject (h : d.style = .deepObject) (name : String) (keys : List Key) :
    d.key name keys = Key.labelUnder name keys :=
  if_pos h

theorem key_of_other (h : d.style ≠ .deepObject) (name : String) (keys : List Key) :
    d.key name keys = ownKey name keys :=
  if_neg h

theorem entries_of_each (h : d.style = .deepObject ∨ d.exploded) (name : String) (items : Items) :
    d.entries name items =
      items.flatMap fun item => item.values.map (d.key name item.keys, ·) :=
  if_pos h

theorem entries_of_joined (h : ¬ (d.style = .deepObject ∨ d.exploded)) (name : String)
    (items : Items) : d.entries name items =
      tableEntries.joined name (items.flatMap Item.flatParts)
        (String.singleton d.style.separator) := by
  unfold entries tableEntries.joined
  rw [if_neg h]
  cases items.flatMap Item.flatParts with
  | nil => rfl
  | cons part parts => rfl

section

variable {name : String} {own bracketed : List (String × String)} {parts : List String}

theorem tableEntries_of_exploded (hstyle : d.style ≠ .deepObject) (h : d.exploded = true) :
    d.tableEntries name own bracketed parts = own := by
  rcases d with ⟨_, _, style, explode⟩
  cases style <;> rcases explode with _ | _ | _ <;> simp_all [tableEntries, exploded]

theorem tableEntries_of_joined (h : ¬ (d.style = .deepObject ∨ d.exploded)) :
    d.tableEntries name own bracketed parts =
      tableEntries.joined name parts (String.singleton d.style.separator) := by
  rcases d with ⟨_, _, style, explode⟩
  cases style <;> rcases explode with _ | _ | _ <;>
    simp_all [tableEntries, exploded, Style.separator]

end

theorem entries_eq_tableEntries (d : Directive) (name : String) (items : Items) :
    d.entries name items = d.tableEntries name
      (items.flatMap fun item => item.values.map (ownKey name item.keys, ·))
      (items.flatMap fun item => item.values.map (Key.labelUnder name item.keys, ·))
      (items.flatMap Item.flatParts) := by
  by_cases hdeep : d.style = .deepObject
  · rw [entries_of_each (Or.inl hdeep)]
    simp only [key_of_deepObject hdeep, tableEntries, hdeep]
  by_cases hflag : d.exploded = true
  · rw [entries_of_each (Or.inr hflag), tableEntries_of_exploded hdeep hflag]
    simp only [key_of_other hdeep]
  · have hjoined := not_or.mpr ⟨hdeep, hflag⟩
    rw [entries_of_joined hjoined, tableEntries_of_joined hjoined]

end Directive

/-! ### What is there of arrays and objects -/

namespace Json

/-- The elements of an array that are there. -/
def presentElements : Option Value → List Value
  | some (.array elements) => elements.filter (!·.isNull)
  | _ => []

/-- The fields of an object that are there, in schema order, with their values. -/
def presentFields (fields : Fields) : Option Value → List ((String × Schema) × Value)
  | some (.object members) =>
    fields.filterMap fun field => (present (members.lookup field.1)).map (field, ·)
  | _ => []

end Json

namespace Registry

/-- Nothing but a scalar, which may be absent. -/
def IsScalar (r : Registry) (schema : Schema) : Prop :=
  ∃ kind, r.resolve schema.unwrapNullable = .scalar kind

/-- The canonical text of a value, if the schema stands for a scalar that it is one of. -/
def scalarText? (r : Registry) (schema : Schema) (v : Value) : Option String :=
  match r.resolve schema.unwrapNullable with
  | .scalar kind => kind.text? v
  | _ => none

/-- The texts of the elements that are there. -/
def elementTexts? (r : Registry) (itemSchema : Schema) (value : Option Value) :
    Option (List String) :=
  (presentElements value).mapM (r.scalarText? itemSchema)

/-- The names of the fields that are there, with their texts. -/
def fieldTexts? (r : Registry) (fields : Fields) (value : Option Value) :
    Option (List (String × String)) :=
  (presentFields fields value).mapM fun (field, v) =>
    (r.scalarText? field.2 v).map (field.1, ·)

variable {r : Registry} {schema : Schema} {value : Option Value} {path : FieldPath} {items : Items}
variable {leaves : List Leaf}

theorem leaves?_of_present (h : r.leaves? schema value = some leaves) :
    (present value = none ∧ leaves = []) ∨
      ∃ v, present value = some v ∧
        r.shapeLeaves? (r.resolve schema.unwrapNullable) v = some leaves := by
  cases hv : present value with
  | none =>
      rw [leaves?_absent hv, Option.ite_none_right_eq_some] at h
      exact Or.inl ⟨rfl, (Option.some.inj h.2).symm⟩
  | some v =>
      obtain ⟨rfl, hnull⟩ := present_eq_some hv
      rw [leaves?_some hnull] at h
      exact Or.inr ⟨v, rfl, h⟩

/-- A scalar has one leaf, and none when it is absent. -/
theorem leaves?_of_isScalar (hs : r.IsScalar schema) (h : r.leaves? schema value = some leaves) :
    (present value = none ∧ leaves = []) ∨
      ∃ v text, present value = some v ∧ r.scalarText? schema v = some text ∧
        leaves = [⟨[], text⟩] := by
  obtain ⟨kind, hkind⟩ := hs
  rcases leaves?_of_present h with habsent | ⟨v, hv, hleaves⟩
  · exact Or.inl habsent
  · rw [hkind, shapeLeaves?, Option.map_eq_some_iff] at hleaves
    obtain ⟨text, htext, rfl⟩ := hleaves
    refine Or.inr ⟨v, text, hv, ?_, rfl⟩
    simp only [scalarText?, hkind, htext]

theorem elementLeaves?_of_isScalar {elements : List Value} (hs : r.IsScalar schema)
    (h : r.elementLeaves? schema elements = some leaves) :
    ∃ texts, r.elementTexts? schema (some (.array elements)) = some texts ∧
      leaves = texts.map fun text => ⟨[.element], text⟩ := by
  induction elements generalizing leaves with
  | nil =>
      rw [elementLeaves?] at h
      cases h
      exact ⟨[], rfl, rfl⟩
  | cons element rest ih =>
      rw [elementLeaves?] at h
      obtain ⟨first, hfirst, h⟩ := Option.bind_eq_some_iff.mp h
      obtain ⟨others, hothers, h⟩ := Option.bind_eq_some_iff.mp h
      cases h
      obtain ⟨texts, htexts, rfl⟩ := ih hothers
      rw [elementTexts?, presentElements] at htexts ⊢
      rcases leaves?_of_isScalar hs hfirst with ⟨habsent, rfl⟩ | ⟨v, text, hv, htext, rfl⟩
      · obtain rfl : element = .null := by
          simpa using present_eq_none habsent
        exact ⟨texts, htexts, rfl⟩
      · obtain ⟨rfl, hnull⟩ : element = v ∧ v.isNull = false := by
          simpa using present_eq_some hv
        refine ⟨text :: texts, ?_, rfl⟩
        rw [List.filter_cons_of_pos (by simp [hnull]), List.mapM_cons, htext, htexts]
        rfl

theorem fieldLeaves?_of_isScalar {fields : Fields} {members : List (String × Value)}
    (hs : ∀ field ∈ fields, r.IsScalar field.2)
    (h : r.fieldLeaves? fields members = some leaves) :
    ∃ entries, r.fieldTexts? fields (some (.object members)) = some entries ∧
      (entries.map Prod.fst).Sublist (fields.map Prod.fst) ∧
      leaves = entries.map fun (name, text) => ⟨[.field name], text⟩ := by
  induction fields generalizing leaves with
  | nil =>
      rw [fieldLeaves?] at h
      cases h
      exact ⟨[], rfl, List.Sublist.refl [], rfl⟩
  | cons field rest ih =>
      obtain ⟨hone, hrest⟩ := List.forall_mem_cons.mp hs
      rw [fieldLeaves?] at h
      obtain ⟨first, hfirst, h⟩ := Option.bind_eq_some_iff.mp h
      obtain ⟨others, hothers, h⟩ := Option.bind_eq_some_iff.mp h
      cases h
      obtain ⟨entries, hentries, hnames, rfl⟩ := ih hrest hothers
      rw [fieldTexts?, presentFields] at hentries ⊢
      rcases leaves?_of_isScalar hone hfirst with ⟨habsent, rfl⟩ | ⟨v, text, hv, htext, rfl⟩
      · refine ⟨entries, ?_, hnames.cons field.1, rfl⟩
        rwa [List.filterMap_cons_none (by rw [habsent, Option.map_none])]
      · refine ⟨(field.1, text) :: entries, ?_, hnames.cons_cons field.1, rfl⟩
        rw [List.filterMap_cons_some (by rw [hv, Option.map_some]), List.mapM_cons, hentries]
        simp only [htext]
        rfl

end Registry

/-! ### The table -/

namespace Directive

/-- The texts of an array are one item, whose key is the name on its own or with `[]`. -/
theorem entries_of_elements (d : Directive) (name : String) (texts : List String) :
    d.entries name (Items.group (texts.map fun text => ⟨[.element], text⟩)) =
      d.tableEntries name (texts.map (name, ·)) (texts.map (name ++ "[]", ·)) texts := by
  have hown : ownKey name [.element] = name := String.append_empty
  have hbracketed : Key.labelUnder name [.element] = name ++ "[]" := by
    simp [Key.labelUnder, Key.bracket, Key.text, String.join]
  have hparts : Item.flatParts ⟨[.element], texts⟩ = texts := rfl
  rw [entries_eq_tableEntries]
  cases texts with
  | nil => rfl
  | cons text texts =>
      have hkeys : ∀ leaf ∈ (text :: texts).map fun text => (⟨[.element], text⟩ : Leaf),
          leaf.keys = [.element] := by
        simp
      rw [Items.group_of_same_keys (by simp) hkeys]
      simp [hown, hbracketed, hparts, Function.comp_def]

/-- The texts of an object are items of their own, whose keys are their fields' names. -/
theorem entries_of_fields (d : Directive) (name : String) {texts : List (String × String)}
    (h : (texts.map Prod.fst).Nodup) :
    d.entries name (Items.group (texts.map fun (field, text) => ⟨[.field field], text⟩)) =
      d.tableEntries name texts
        (texts.map fun (field, text) => (name ++ "[" ++ field ++ "]", text))
        (texts.flatMap fun (field, text) => [field, text]) := by
  have hlabel (field : String) : Key.label [.field field] = field := String.append_empty
  have hown (field : String) : ownKey name [.field field] = field := hlabel field
  have hbracketed (field : String) :
      Key.labelUnder name [.field field] = name ++ "[" ++ field ++ "]" := by
    simp [Key.labelUnder, Key.bracket, Key.text, String.join, String.append_assoc]
  have hparts (field text : String) : Item.flatParts ⟨[.field field], [text]⟩ = [field, text] := by
    change [Key.label [.field field], text] = [field, text]
    rw [hlabel]
  have hkeys : ((texts.map fun (field, text) => (⟨[.field field], text⟩ : Leaf)).map
      Leaf.keys).Nodup := by
    have hfields : Function.Injective fun field : String => [Key.field field] := by
      intro field other heq
      simpa using heq
    simpa [Function.comp_def] using h.map hfields
  rw [entries_eq_tableEntries, Items.group_of_nodup_keys hkeys]
  simp [List.map_eq_flatMap, List.flatMap_assoc, hown, hbracketed, hparts]

end Directive

namespace Registry

variable {r : Registry} {schema : Schema} {value : Option Value} {path : FieldPath} {items : Items}

/-- The entries of an array of scalars are written out of the texts of its elements, and those of an
object with scalar fields out of the names and texts of its fields. Nulls are left out. -/
theorem entries_follow_table (d : Directive) (name : String)
    (h : r.encode schema value path = .ok items) :
    (∀ itemSchema, r.resolve schema.unwrapNullable = .array itemSchema → r.IsScalar itemSchema →
      ∃ texts, r.elementTexts? itemSchema value = some texts ∧
        d.entries name items =
          d.tableEntries name (texts.map (name, ·)) (texts.map (name ++ "[]", ·)) texts) ∧
      ∀ fields, r.resolve schema.unwrapNullable = .object fields → (fields.map Prod.fst).Nodup →
        (∀ field ∈ fields, r.IsScalar field.2) →
        ∃ texts, r.fieldTexts? fields value = some texts ∧
          d.entries name items = d.tableEntries name texts
            (texts.map fun (field, text) => (name ++ "[" ++ field ++ "]", text))
            (texts.flatMap fun (field, text) => [field, text]) := by
  obtain ⟨leaves, hleaves, rfl⟩ := group_of_encode h
  constructor
  · intro itemSchema hs hscalar
    obtain ⟨texts, htexts, rfl⟩ : ∃ texts, r.elementTexts? itemSchema value = some texts ∧
        leaves = texts.map fun text => ⟨[.element], text⟩ := by
      rcases leaves?_of_present hleaves with ⟨habsent, rfl⟩ | ⟨v, hv, hshape⟩
      · rcases present_eq_none habsent with rfl | rfl <;> exact ⟨[], rfl, rfl⟩
      · obtain ⟨rfl, -⟩ := present_eq_some hv
        rw [hs] at hshape
        cases v with
        | array elements =>
            rw [shapeLeaves?] at hshape
            exact elementLeaves?_of_isScalar hscalar hshape
        | _ => simp [shapeLeaves?] at hshape
    exact ⟨texts, htexts, d.entries_of_elements name texts⟩
  · intro fields hs hnodup hscalars
    obtain ⟨texts, htexts, hnames, rfl⟩ : ∃ texts, r.fieldTexts? fields value = some texts ∧
        (texts.map Prod.fst).Sublist (fields.map Prod.fst) ∧
        leaves = texts.map fun (field, text) => ⟨[.field field], text⟩ := by
      rcases leaves?_of_present hleaves with ⟨habsent, rfl⟩ | ⟨v, hv, hshape⟩
      · rcases present_eq_none habsent with rfl | rfl <;> exact ⟨[], rfl, by simp, rfl⟩
      · obtain ⟨rfl, -⟩ := present_eq_some hv
        rw [hs] at hshape
        cases v with
        | object members =>
            rw [shapeLeaves?] at hshape
            exact fieldLeaves?_of_isScalar hscalars hshape
        | _ => simp [shapeLeaves?] at hshape
    exact ⟨texts, htexts, d.entries_of_fields name (hnames.nodup hnodup)⟩

/-- A list and a color with a null each, the one joined by spaces and the other a deep object. -/
theorem entries_follow_table_of_nulls :
    let number (i : Int) : Value := .number (.integer i)
    let byte : Schema := .scalar .integer
    let r : Registry := {}
    let ids : Value := .array [number 3, .null, number 4]
    let idItems : Items := [⟨[.element], ["3", "4"]⟩]
    let color : Fields := [("R", byte), ("G", .nullable byte), ("B", .nullable byte)]
    let blue : Value := .object [("B", number 150), ("G", .null), ("R", number 100)]
    let blueItems : Items := [⟨[.field "R"], ["100"]⟩, ⟨[.field "B"], ["150"]⟩]
    let spaced : Directive := { name := "ids", style := .spaceDelimited }
    let deep : Directive := { name := "color", style := .deepObject }
    r.encode (.array (.nullable byte)) (some ids) { root := "ids" } = .ok idItems ∧
      spaced.entries "ids" idItems = [("ids", "3 4")] ∧
      r.encode (.object color) (some blue) { root := "color" } = .ok blueItems ∧
      deep.entries "color" blueItems = [("color[R]", "100"), ("color[B]", "150")] := by
  intro number byte r ids idItems color blue blueItems spaced deep
  have hids : r.encode (.array (.nullable byte)) (some ids) { root := "ids" } = .ok idItems := by
    cbv
  have hblue : r.encode (.object color) (some blue) { root := "color" } = .ok blueItems := by cbv
  refine ⟨hids, ?_, hblue, ?_⟩
  · obtain ⟨texts, htexts, hentries⟩ :=
      (entries_follow_table spaced "ids" hids).1 (.nullable byte) rfl ⟨.integer, rfl⟩
    have hread : r.elementTexts? (.nullable byte) (some ids) = some ["3", "4"] := by cbv
    obtain rfl := Option.some.inj (htexts.symm.trans hread)
    rw [hentries]
    cbv
  · have hscalars : ∀ field ∈ color, r.IsScalar field.2 := by
      simp only [color, List.forall_mem_cons]
      exact ⟨⟨.integer, rfl⟩, ⟨.integer, rfl⟩, ⟨.integer, rfl⟩, by simp⟩
    obtain ⟨texts, htexts, hentries⟩ :=
      (entries_follow_table deep "color" hblue).2 color rfl (by simp [color]) hscalars
    have hread : r.fieldTexts? color (some blue) = some [("R", "100"), ("B", "150")] := by cbv
    obtain rfl := Option.some.inj (htexts.symm.trans hread)
    rw [hentries]
    cbv

end Registry

end ApiCall
