import ApiCall.Proofs.Encoding.Conformance
import ApiCall.Proofs.Items.Grouping
import Mathlib

/-!
The leaves of a value, listed without an accumulator: each position gives the leaves below it, and
the key paths grow from the inside out. The walk that fills items from the outside in adds exactly
these leaves (`encodeInto_of_conforms`) and stops at the first misfit of any other value
(`encodeInto_of_firstMisfit`). So a value is encoded exactly when it conforms, and the error says
where it does not (`encode_accepts_iff_conforms`); the items are the grouping of the list
(`encode_eq_group`).
-/

namespace ApiCall

open Json

namespace Registry

mutual

/-- The leaves of an optional value from left to right, if it fits the schema. -/
def leaves? (r : Registry) (schema : Schema) (value : Option Value) : Option (List Leaf) :=
  match value with
  | none => if schema.isNullable then some [] else none
  | some .null => if schema.isNullable then some [] else none
  | some v => shapeLeaves? r (r.resolve schema.unwrapNullable) v
termination_by (sizeOf value, 2, 0)

/-- The leaves of a value that is there. -/
def shapeLeaves? (r : Registry) (shape : Shape) (value : Value) : Option (List Leaf) :=
  match shape, value with
  | .scalar kind, v => (kind.text? v).map fun text => [⟨[], text⟩]
  | .array items, .array elements => elementLeaves? r items elements
  | .object fields, .object members => fieldLeaves? r fields members
  | _, _ => none
termination_by (1 + sizeOf value, 1, 0)

/-- The leaves of array elements in index order. -/
def elementLeaves? (r : Registry) (items : Schema) (elements : List Value) :
    Option (List Leaf) :=
  match elements with
  | [] => some []
  | element :: rest => do
    let first ← leaves? r items (some element)
    let others ← elementLeaves? r items rest
    return first.map (Leaf.under .element) ++ others
termination_by (1 + sizeOf elements, 3, 0)

/-- The leaves of an object's fields in schema order. -/
def fieldLeaves? (r : Registry) (fields : Fields) (members : List (String × Value)) :
    Option (List Leaf) :=
  match fields with
  | [] => some []
  | (name, schema) :: rest => do
    let first ← leaves? r schema (members.lookup name)
    let others ← fieldLeaves? r rest members
    return first.map (Leaf.under (.field name)) ++ others
termination_by (1 + sizeOf members, 3, sizeOf fields)
decreasing_by
  all_goals simp_wf
  all_goals try have hle := sizeOf_lookup_le name members
  all_goals simp_all [Prod.lex_def]
  all_goals omega

end

theorem leaves?_absent {r : Registry} {schema : Schema} {value : Option Value}
    (hv : present value = none) :
    r.leaves? schema value = if schema.isNullable then some [] else none := by
  rcases present_eq_none hv with rfl | rfl <;> rw [leaves?]

theorem leaves?_some {r : Registry} {schema : Schema} {v : Value} (hv : v.isNull = false) :
    r.leaves? schema (some v) = r.shapeLeaves? (r.resolve schema.unwrapNullable) v := by
  cases v with
  | null => simp [Value.isNull] at hv
  | _ => rw [leaves?]; simp

end Registry

/-! ### The walk, one position at a time -/

theorem encodeInto_nullable_absent (r : Registry) (items : Items) (keys : List Key)
    (underlying : Schema) {value : Option Value} (hv : present value = none) (path : FieldPath) :
    encodeInto r items keys (.nullable underlying) value path = .ok items := by
  rcases present_eq_none hv with rfl | rfl <;> rw [encodeInto]

theorem encodeInto_nullable_some (r : Registry) (items : Items) (keys : List Key)
    (underlying : Schema) {v : Value} (hv : v.isNull = false) (path : FieldPath) :
    encodeInto r items keys (.nullable underlying) (some v) path =
      encodeInto r items keys underlying (some v) path := by
  cases v with
  | null => simp [Value.isNull] at hv
  | _ => rw [encodeInto]; simp

theorem encodeInto_absent (r : Registry) (items : Items) (keys : List Key) {schema : Schema}
    (hs : schema.isNullable = false) {value : Option Value} (hv : present value = none)
    (path : FieldPath) :
    encodeInto r items keys schema value path = .error (Misfit.missing.error path.text) := by
  cases schema with
  | nullable underlying => simp [Schema.isNullable] at hs
  | _ =>
      rcases present_eq_none hv with rfl | rfl <;> rw [encodeInto] <;>
        simp [Error.missingAt, Misfit.error]

/-- A value under no nullable wrapper is taken apart by the shape of its schema. -/
theorem encodeInto_of_resolve {r : Registry} {schema : Schema} {shape : Shape}
    (hs : r.resolve schema = shape) (hn : ∀ underlying, shape ≠ .nullable underlying) {v : Value}
    (hv : v.isNull = false) (items : Items) (keys : List Key) (path : FieldPath) :
    encodeInto r items keys schema (some v) path = encodeShape r items keys shape v path := by
  subst hs
  cases schema with
  | nullable underlying => exact absurd rfl (hn underlying)
  | _ =>
      cases v with
      | null => cases hv
      | _ => rw [encodeInto] <;> simp

/-- Nullable wrappers around a value that is there are passed over. -/
theorem encodeInto_some (r : Registry) (items : Items) (keys : List Key) (schema : Schema)
    {v : Value} (hv : v.isNull = false) (path : FieldPath) :
    encodeInto r items keys schema (some v) path =
      encodeShape r items keys (r.resolve schema.unwrapNullable) v path := by
  induction schema using Schema.unwrapNullable.induct with
  | case1 underlying ih =>
      rw [encodeInto_nullable_some r items keys underlying hv]
      exact ih
  | case2 schema hplain =>
      have hn (underlying : Schema) : r.resolve schema ≠ .nullable underlying :=
        fun h => hplain underlying (Registry.resolve_eq_nullable h)
      rw [Schema.unwrapNullable_of_isNullable (Registry.isNullable_of_resolve rfl hn)]
      exact encodeInto_of_resolve rfl hn hv items keys path

/-- A null is treated as a value that is not there. -/
theorem encodeInto_of_present_eq {value other : Option Value} (h : present value = present other)
    (r : Registry) (items : Items) (keys : List Key) (schema : Schema) (path : FieldPath) :
    encodeInto r items keys schema value path = encodeInto r items keys schema other path := by
  cases hv : present value with
  | some v =>
      obtain ⟨rfl, -⟩ := present_eq_some hv
      obtain ⟨rfl, -⟩ := present_eq_some (h.symm.trans hv)
      rfl
  | none =>
      have hother : present other = none := h.symm.trans hv
      cases hs : schema.isNullable with
      | false =>
          rw [encodeInto_absent r items keys hs hv, encodeInto_absent r items keys hs hother]
      | true =>
          cases schema with
          | nullable underlying =>
              rw [encodeInto_nullable_absent r items keys underlying hv,
                encodeInto_nullable_absent r items keys underlying hother]
          | _ => cases hs

theorem encodeElements_append (r : Registry) (items : Items) (keys : List Key) (schema : Schema)
    (before rest : List Value) (i : Nat) (path : FieldPath) :
    encodeElements r items keys schema (before ++ rest) i path =
      (encodeElements r items keys schema before i path).bind fun items =>
        encodeElements r items keys schema rest (i + before.length) path := by
  induction before generalizing items i with
  | nil => simp [encodeElements, Except.bind]
  | cons element before ih =>
      simp only [List.cons_append, encodeElements, List.length_cons]
      cases encodeInto r items keys schema (some element) (path.index i) with
      | error e => rfl
      | ok items =>
          simpa [bind, Except.bind, Nat.add_assoc, Nat.add_comm 1] using ih items (i + 1)

theorem encodeFields_append (r : Registry) (items : Items) (keys : List Key) (before rest : Fields)
    (members : List (String × Value)) (path : FieldPath) :
    encodeFields r items keys (before ++ rest) members path =
      (encodeFields r items keys before members path).bind fun items =>
        encodeFields r items keys rest members path := by
  induction before generalizing items with
  | nil => simp [encodeFields, Except.bind]
  | cons field before ih =>
      obtain ⟨name, schema⟩ := field
      simp only [List.cons_append, encodeFields]
      cases encodeInto r items (keys ++ [.field name]) schema (members.lookup name)
          (path.field name) with
      | error e => rfl
      | ok items => exact ih items

/-! ### Values that conform -/

/-- The walk adds the leaves of a value below any key path. -/
def AddsLeaves (r : Registry) (schema : Schema) (value : Option Value) (leaves : List Leaf) :
    Prop :=
  r.leaves? schema value = some leaves ∧
    ∀ items keys path, encodeInto r items keys schema value path = .ok (items.addLeaves keys leaves)

theorem encodeElements_addsLeaves {r : Registry} {schema : Schema} {elements : List Value}
    (h : ∀ element ∈ elements, ∃ leaves, AddsLeaves r schema (some element) leaves) :
    ∃ leaves, r.elementLeaves? schema elements = some leaves ∧ ∀ items keys i path,
      encodeElements r items (keys ++ [.element]) schema elements i path =
        .ok (items.addLeaves keys leaves) := by
  induction elements with
  | nil => exact ⟨[], by rw [Registry.elementLeaves?], fun _ _ _ _ => by rw [encodeElements]; rfl⟩
  | cons element rest ih =>
      obtain ⟨first, hfirst, hwalk⟩ := h element (by simp)
      obtain ⟨others, hothers, hrest⟩ := ih fun e he => h e (by simp [he])
      refine ⟨first.map (Leaf.under .element) ++ others, ?_, ?_⟩
      · rw [Registry.elementLeaves?, hfirst, hothers]
        rfl
      · intro items keys i path
        rw [encodeElements, hwalk]
        change encodeElements r _ _ _ _ _ _ = _
        rw [hrest, Items.addLeaves_append, Items.addLeaves_under]

theorem encodeFields_addsLeaves {r : Registry} {fields : Fields}
    {members : List (String × Value)}
    (h : ∀ field ∈ fields, ∃ leaves, AddsLeaves r field.2 (members.lookup field.1) leaves) :
    ∃ leaves, r.fieldLeaves? fields members = some leaves ∧ ∀ items keys path,
      encodeFields r items keys fields members path = .ok (items.addLeaves keys leaves) := by
  induction fields with
  | nil => exact ⟨[], by rw [Registry.fieldLeaves?], fun _ _ _ => by rw [encodeFields]; rfl⟩
  | cons field rest ih =>
      obtain ⟨name, schema⟩ := field
      obtain ⟨first, hfirst, hwalk⟩ := h (name, schema) (by simp)
      obtain ⟨others, hothers, hrest⟩ := ih fun f hf => h f (by simp [hf])
      refine ⟨first.map (Leaf.under (.field name)) ++ others, ?_, ?_⟩
      · rw [Registry.fieldLeaves?, hfirst, hothers]
        rfl
      · intro items keys path
        rw [encodeFields, hwalk]
        change encodeFields r _ _ _ _ _ = _
        rw [hrest, Items.addLeaves_append, Items.addLeaves_under]

theorem addsLeaves_absent (r : Registry) (underlying : Schema) {value : Option Value}
    (hv : present value = none) : AddsLeaves r (.nullable underlying) value [] := by
  constructor
  · rw [Registry.leaves?_absent hv]
    rfl
  · intro items keys path
    exact encodeInto_nullable_absent r items keys underlying hv path

theorem addsLeaves_nullable {r : Registry} {underlying : Schema} {v : Value} {leaves : List Leaf}
    (hv : v.isNull = false) (h : AddsLeaves r underlying (some v) leaves) :
    AddsLeaves r (.nullable underlying) (some v) leaves := by
  obtain ⟨hleaves, hwalk⟩ := h
  constructor
  · rw [Registry.leaves?_some hv] at hleaves ⊢
    exact hleaves
  · intro items keys path
    rw [encodeInto_nullable_some r items keys underlying hv]
    exact hwalk items keys path

theorem addsLeaves_of_resolve {r : Registry} {schema : Schema} {shape : Shape} {v : Value}
    {leaves : List Leaf} (hs : r.resolve schema = shape)
    (hn : ∀ underlying, shape ≠ .nullable underlying) (hv : v.isNull = false)
    (hleaves : r.shapeLeaves? shape v = some leaves)
    (hwalk : ∀ items keys path,
      encodeShape r items keys shape v path = .ok (items.addLeaves keys leaves)) :
    AddsLeaves r schema (some v) leaves := by
  have hplain := Schema.unwrapNullable_of_isNullable (Registry.isNullable_of_resolve hs hn)
  constructor
  · rw [Registry.leaves?_some hv, hplain, hs, hleaves]
  · intro items keys path
    rw [encodeInto_of_resolve hs hn hv]
    exact hwalk items keys path

/-- A value that conforms has leaves, and the walk adds exactly these to what it is given. -/
theorem encodeInto_of_conforms {r : Registry} {schema : Schema} {value : Option Value}
    (h : r.Conforms schema value) : ∃ leaves, AddsLeaves r schema value leaves := by
  induction h with
  | absent hv => exact ⟨[], addsLeaves_absent r _ hv⟩
  | @nullable underlying v _ ih =>
      obtain ⟨leaves, hadds⟩ := ih
      -- a null is absent for the wrapper, whatever lies below it
      cases hnull : v.isNull with
      | true => exact ⟨[], addsLeaves_absent r underlying (by simp [present, hnull])⟩
      | false => exact ⟨leaves, addsLeaves_nullable hnull hadds⟩
  | @scalar schema kind v hs hv ht =>
      obtain ⟨text, ht⟩ := ScalarKind.exists_text ht
      refine ⟨[⟨[], text⟩], addsLeaves_of_resolve hs (by simp) hv ?_ ?_⟩
      · rw [Registry.shapeLeaves?, ht]
        rfl
      · intro items keys path
        rw [encodeShape, kind.encode_eq, ht]
        simp [Items.addLeaves]
  | array hs _ ih =>
      obtain ⟨leaves, hleaves, hwalk⟩ := encodeElements_addsLeaves ih
      refine ⟨leaves, addsLeaves_of_resolve hs (by simp) rfl ?_ ?_⟩
      · rw [Registry.shapeLeaves?, hleaves]
      · intro items keys path
        rw [encodeShape, hwalk]
  | object hs _ ih =>
      obtain ⟨leaves, hleaves, hwalk⟩ := encodeFields_addsLeaves ih
      refine ⟨leaves, addsLeaves_of_resolve hs (by simp) rfl ?_ ?_⟩
      · rw [Registry.shapeLeaves?, hleaves]
      · intro items keys path
        rw [encodeShape, hwalk]

/-! ### Values that do not -/

/-- The walk stops at the first position that does not fit, whatever it has added so far. -/
theorem encodeInto_of_firstMisfit {r : Registry} {schema : Schema} {value : Option Value}
    {steps : List PathStep} {misfit : Misfit} (h : r.FirstMisfit schema value steps misfit)
    (items : Items) (keys : List Key) (path : FieldPath) :
    encodeInto r items keys schema value path =
      .error (misfit.error (path.extend steps).text) := by
  induction h generalizing items keys path with
  | missing hs hv => rw [encodeInto_absent r items keys hs hv, FieldPath.extend_nil]
  | nullable hv _ ih => rw [encodeInto_nullable_some r items keys _ hv, ih]
  | scalar hs hv ht =>
      rw [encodeInto_of_resolve hs (by simp) hv, encodeShape, ScalarKind.encode_eq,
        ScalarKind.text?_eq_none ht, FieldPath.extend_nil]
      rfl
  | @array schema items v hs hv hk =>
      rw [encodeInto_of_resolve hs (by simp) hv, FieldPath.extend_nil]
      cases v with
      | array elements => exact absurd rfl hk
      | _ => rw [encodeShape] <;> simp [Error.mismatchAt, Misfit.error]
  | @object schema fields v hs hv hk =>
      rw [encodeInto_of_resolve hs (by simp) hv, FieldPath.extend_nil]
      cases v with
      | object members => exact absurd rfl hk
      | _ => rw [encodeShape] <;> simp [Error.mismatchAt, Misfit.error]
  | element hs hb _ ih =>
      -- what comes before conforms, so the walk gets past it and adds its leaves
      obtain ⟨leaves, _, hwalk⟩ :=
        encodeElements_addsLeaves fun v hv => encodeInto_of_conforms (hb v hv)
      rw [encodeInto_of_resolve hs (by simp) rfl, encodeShape, encodeElements_append, hwalk]
      simp only [Except.bind, encodeElements, Nat.zero_add]
      rw [ih, FieldPath.extend_index]
      rfl
  | field hs hb _ ih =>
      obtain ⟨leaves, _, hwalk⟩ :=
        encodeFields_addsLeaves fun field hf => encodeInto_of_conforms (hb field hf)
      rw [encodeInto_of_resolve hs (by simp) rfl, encodeShape, encodeFields_append, hwalk]
      simp only [Except.bind, encodeFields]
      rw [ih, FieldPath.extend_field]
      rfl

namespace Registry

theorem conforms_of_encode_eq_ok {r : Registry} {schema : Schema} {value : Option Value}
    {path : FieldPath} {items : Items} (h : r.encode schema value path = .ok items) :
    r.Conforms schema value := by
  rcases r.conforms_or_firstMisfit schema value with hc | ⟨steps, misfit, hm⟩
  · exact hc
  · rw [encode, encodeInto_of_firstMisfit hm] at h
    cases h

/-- A value is encoded exactly when it conforms. When it does not, the error is that of the first
misfit, at the root followed by the field names and indices that lead there. -/
theorem encode_accepts_iff_conforms (r : Registry) (schema : Schema) (value : Option Value)
    (path : FieldPath) :
    ((∃ items, r.encode schema value path = .ok items) ↔ r.Conforms schema value) ∧
      ∀ e, r.encode schema value path = .error e ↔
        ∃ steps misfit, r.FirstMisfit schema value steps misfit ∧
          e = misfit.error
            (".".intercalate (path.root :: (path.steps ++ steps).map PathStep.text)) := by
  have herror (steps : List PathStep) (misfit : Misfit)
      (hm : r.FirstMisfit schema value steps misfit) :
      r.encode schema value path = .error (misfit.error (path.extend steps).text) :=
    encodeInto_of_firstMisfit hm [] [] path
  have haccepts : r.Conforms schema value → ∃ items, r.encode schema value path = .ok items := by
    intro hc
    obtain ⟨leaves, _, hwalk⟩ := encodeInto_of_conforms hc
    exact ⟨_, hwalk [] [] path⟩
  refine ⟨⟨fun ⟨items, h⟩ => conforms_of_encode_eq_ok h, haccepts⟩, fun e => ⟨?_, ?_⟩⟩
  · intro h
    rcases r.conforms_or_firstMisfit schema value with hc | ⟨steps, misfit, hm⟩
    · obtain ⟨items, hok⟩ := haccepts hc
      rw [hok] at h
      cases h
    · refine ⟨steps, misfit, hm, ?_⟩
      rw [herror steps misfit hm] at h
      exact (Except.error.inj h).symm
  · rintro ⟨steps, misfit, hm, rfl⟩
    exact herror steps misfit hm

/-- In a list of pets, the first one whose status is not allowed or whose age is no integer is
refused. A string that spells an age is taken. -/
theorem encode_accepts_iff_conforms_of_pets :
    let allowed := ["available", "sold"]
    let pet : Fields := [("status", .scalar (.choice allowed)),
      ("age", .nullable (.scalar .integer))]
    let r : Registry := { objects := [("Pet", pet)] }
    let path : FieldPath := { root := "pets" }
    let sold : Value := .object [("age", .string " +7 "), ("status", .string "sold")]
    let lost : Value := .object [("status", .string "lost")]
    let half : Value := .object [("status", .string "sold"),
      ("age", .number (.float (.finite false 1 (-1))))]
    (∃ items, r.encode (.array (.named "Pet")) (some (.array [sold])) path = .ok items) ∧
      r.encode (.array (.named "Pet")) (some (.array [sold, lost, half])) path =
        .error (.notAllowed "pets.1.status" "lost" allowed) ∧
      r.encode (.array (.named "Pet")) (some (.array [sold, half, lost])) path =
        .error (.wrongKind "pets.1.age" "integer" "number") := by
  intro allowed pet r path sold lost half
  have hpet : r.resolve (.named "Pet") = .object pet := rfl
  have hstatus : r.Conforms (.scalar (.choice allowed)) (some (.string "sold")) :=
    .scalar rfl rfl ⟨"sold", by decide, rfl⟩
  have hseven : ScalarKind.integer.Takes (.string " +7 ") := by
    have hblank : ∀ c ∈ [' '], Blank.isBlank c = true := List.forall_mem_singleton.mpr rfl
    have hdigits : Decimal.IsDigits ['7'] :=
      ⟨List.cons_ne_nil _ _, List.forall_mem_singleton.mpr rfl⟩
    exact ⟨['+', '7'], ⟨[' '], [' '], rfl, hblank, hblank⟩, 7, .mk .plus hdigits, by decide⟩
  have hsold : r.Conforms (.named "Pet") (some sold) := by
    refine .object hpet (List.forall_mem_cons.mpr ⟨hstatus, ?_⟩)
    exact List.forall_mem_singleton.mpr (.nullable (.scalar rfl rfl hseven))
  have hlost : r.FirstMisfit (.named "Pet") (some lost) [.field "status"]
      (.notAllowed "lost" allowed) := by
    have hrefused : ¬ (ScalarKind.choice allowed).Takes (.string "lost") := by
      rintro ⟨s, hs, heq⟩
      obtain rfl := Value.string.inj heq
      exact absurd hs (by decide)
    have hfirst : r.resolve (.named "Pet") =
        .object ([] ++ ("status", .scalar (.choice allowed)) :: pet.tail) := hpet
    exact .field hfirst (by simp) (.scalar rfl rfl hrefused)
  have hhalf : r.FirstMisfit (.named "Pet") (some half) [.field "age"]
      (.wrongKind "integer" "number") := by
    have hrefused : ¬ ScalarKind.integer.Takes (.number (.float (.finite false 1 (-1)))) := id
    have hsecond : r.resolve (.named "Pet") =
        .object ([("status", .scalar (.choice allowed))] ++
          [("age", .nullable (.scalar .integer))]) := hpet
    exact .field hsecond (List.forall_mem_singleton.mpr hstatus)
      (.nullable rfl (.scalar rfl rfl hrefused))
  have hbefore : ∀ v ∈ [sold], r.Conforms (.named "Pet") (some v) :=
    List.forall_mem_singleton.mpr hsold
  refine ⟨?_, ?_, ?_⟩
  · exact (encode_accepts_iff_conforms r _ _ path).1.mpr (.array rfl hbefore)
  · exact ((encode_accepts_iff_conforms r _ _ path).2 _).mpr
      ⟨_, _, .element rfl hbefore hlost, by cbv⟩
  · exact ((encode_accepts_iff_conforms r _ _ path).2 _).mpr
      ⟨_, _, .element rfl hbefore hhalf, by cbv⟩

/-- The items of a value are its leaves grouped by key path, with no leaf lost, doubled or moved. -/
theorem encode_eq_group {r : Registry} {schema : Schema} {value : Option Value}
    {path : FieldPath} {items : Items} (h : r.encode schema value path = .ok items) :
    ∃ leaves, r.leaves? schema value = some leaves ∧ items = Items.group leaves ∧
      (items.flatMap Item.leaves).Perm leaves ∧
      (items.map fun item => item.values.length).sum = leaves.length := by
  obtain ⟨leaves, hleaves, hwalk⟩ := encodeInto_of_conforms (conforms_of_encode_eq_ok h)
  obtain rfl : items = Items.group leaves := by
    rw [encode, hwalk, Items.addLeaves_eq_group] at h
    exact (Except.ok.inj h).symm
  exact ⟨leaves, hleaves, rfl, Items.leaves_group_perm leaves,
    Items.sum_length_values_group leaves⟩

/-- The elements of an array interleave the key paths of their fields, and a recursive type hangs
below one of them. -/
theorem encode_eq_group_interleaved :
    let pet : Fields := [("name", .scalar .string), ("young", .nullable (.array (.named "Pet")))]
    let r : Registry := { objects := [("Pet", pet)] }
    let rex : Value := .object [("young", .array [.object [("name", .string "Ada")]]),
      ("name", .string "Rex")]
    let value : Value := .array [rex, .object [("name", .string "Tom"), ("young", .null)]]
    let items : Items := [⟨[.element, .field "name"], ["Rex", "Tom"]⟩,
      ⟨[.element, .field "young", .element, .field "name"], ["Ada"]⟩]
    r.encode (.array (.named "Pet")) (some value) { root := "pets" } = .ok items ∧
      ∃ leaves, r.leaves? (.array (.named "Pet")) (some value) = some leaves ∧
        items = Items.group leaves ∧ (items.flatMap Item.leaves).Perm leaves ∧
        (items.map fun item => item.values.length).sum = leaves.length := by
  intro pet r rex value items
  have h : r.encode (.array (.named "Pet")) (some value) { root := "pets" } = .ok items := by cbv
  exact ⟨h, encode_eq_group h⟩

end Registry

end ApiCall
