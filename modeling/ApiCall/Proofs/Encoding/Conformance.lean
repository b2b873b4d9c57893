import ApiCall.Proofs.Encoding.Scalars

/-!
When a value fits its schema, and where it first does not. Both are relations of their own, which
know nothing of canonical texts, of items or of the walk that fills them: a scalar fits when its
kind takes it (`ScalarKind.Takes`). Every value conforms or has a first misfit
(`Registry.conforms_or_firstMisfit`).
-/

namespace ApiCall

open Json

/-- What is there of an optional value: null counts as nothing. -/
def Json.present (value : Option Value) : Option Value :=
  value.filter (!·.isNull)

theorem Json.present_eq_some {value : Option Value} {v : Value} (h : present value = some v) :
    value = some v ∧ v.isNull = false := by
  simpa [present] using h

theorem Json.present_eq_none {value : Option Value} (h : present value = none) :
    value = none ∨ value = some .null := by
  cases value with
  | none => exact Or.inl rfl
  | some v => cases v <;> simp_all [present, Value.isNull]

/-- The path that goes on from `p` by some more steps. -/
def FieldPath.extend (p : FieldPath) (steps : List PathStep) : FieldPath :=
  { p with steps := p.steps ++ steps }

@[simp] theorem FieldPath.extend_nil (p : FieldPath) : p.extend [] = p := by
  simp [extend]

theorem FieldPath.extend_index (p : FieldPath) (i : Nat) (steps : List PathStep) :
    (p.index i).extend steps = p.extend (.index i :: steps) := by
  simp [extend, index]

theorem FieldPath.extend_field (p : FieldPath) (name : String) (steps : List PathStep) :
    (p.field name).extend steps = p.extend (.field name :: steps) := by
  simp [extend, field]

theorem filter_of_not_isNull {α : Type} {value : α → Value} {xs : List α}
    (h : ∀ x ∈ xs, (value x).isNull = false) : xs.filter (fun x => !(value x).isNull) = xs := by
  rw [List.filter_eq_self]
  intro x hx
  rw [h x hx]
  rfl

theorem Schema.isNullable_eq_false {schema : Schema}
    (h : ∀ underlying, schema ≠ .nullable underlying) : schema.isNullable = false := by
  cases schema with
  | nullable underlying => exact absurd rfl (h underlying)
  | _ => rfl

theorem Schema.unwrapNullable_of_isNullable {schema : Schema} (h : schema.isNullable = false) :
    schema.unwrapNullable = schema := by
  cases schema with
  | nullable underlying => simp [isNullable] at h
  | _ => rfl

theorem Schema.isNullable_unwrapNullable (schema : Schema) :
    schema.unwrapNullable.isNullable = false := by
  induction schema using Schema.unwrapNullable.induct with
  | case1 underlying ih => exact ih
  | case2 schema hplain =>
      have hnot := isNullable_eq_false hplain
      rwa [unwrapNullable_of_isNullable hnot]

namespace Registry

/-- The value fits the schema, with names looked up in the registry. Members that an object schema
does not declare are never asked about. -/
inductive Conforms (r : Registry) : Schema → Option Value → Prop where
  | absent {underlying : Schema} {value : Option Value} (hv : present value = none) :
      Conforms r (.nullable underlying) value
  | nullable {underlying : Schema} {v : Value} (h : Conforms r underlying (some v)) :
      Conforms r (.nullable underlying) (some v)
  | scalar {schema : Schema} {kind : ScalarKind} {v : Value}
      (hs : r.resolve schema = .scalar kind) (hv : v.isNull = false) (ht : kind.Takes v) :
      Conforms r schema (some v)
  | array {schema items : Schema} {elements : List Value} (hs : r.resolve schema = .array items)
      (he : ∀ element ∈ elements, Conforms r items (some element)) :
      Conforms r schema (some (.array elements))
  | object {schema : Schema} {fields : Fields} {members : List (String × Value)}
      (hs : r.resolve schema = .object fields)
      (hf : ∀ field ∈ fields, Conforms r field.2 (members.lookup field.1)) :
      Conforms r schema (some (.object members))

/-- The steps to the first position that does not fit, and what is wrong there. Elements come by
index and fields in schema order: all that stand before the one on the way conform. -/
inductive FirstMisfit (r : Registry) : Schema → Option Value → List PathStep → Misfit → Prop where
  | missing {schema : Schema} {value : Option Value} (hs : schema.isNullable = false)
      (hv : present value = none) : FirstMisfit r schema value [] .missing
  | nullable {underlying : Schema} {v : Value} {steps : List PathStep} {misfit : Misfit}
      (hv : v.isNull = false) (h : FirstMisfit r underlying (some v) steps misfit) :
      FirstMisfit r (.nullable underlying) (some v) steps misfit
  | scalar {schema : Schema} {kind : ScalarKind} {v : Value}
      (hs : r.resolve schema = .scalar kind) (hv : v.isNull = false) (ht : ¬ kind.Takes v) :
      FirstMisfit r schema (some v) [] (kind.misfit v)
  | array {schema items : Schema} {v : Value} (hs : r.resolve schema = .array items)
      (hv : v.isNull = false) (hk : v.kind ≠ "array") :
      FirstMisfit r schema (some v) [] (.wrongKind "array" v.kind)
  | object {schema : Schema} {fields : Fields} {v : Value} (hs : r.resolve schema = .object fields)
      (hv : v.isNull = false) (hk : v.kind ≠ "object") :
      FirstMisfit r schema (some v) [] (.wrongKind "object" v.kind)
  | element {schema items : Schema} {before after : List Value} {element : Value}
      {steps : List PathStep} {misfit : Misfit} (hs : r.resolve schema = .array items)
      (hb : ∀ v ∈ before, Conforms r items (some v))
      (h : FirstMisfit r items (some element) steps misfit) :
      FirstMisfit r schema (some (.array (before ++ element :: after)))
        (.index before.length :: steps) misfit
  | field {schema fieldSchema : Schema} {before after : Fields} {name : String}
      {members : List (String × Value)} {steps : List PathStep} {misfit : Misfit}
      (hs : r.resolve schema = .object (before ++ (name, fieldSchema) :: after))
      (hb : ∀ field ∈ before, Conforms r field.2 (members.lookup field.1))
      (h : FirstMisfit r fieldSchema (members.lookup name) steps misfit) :
      FirstMisfit r schema (some (.object members)) (.field name :: steps) misfit

/-- A name never stands for a nullable wrapper. -/
theorem named_ne_nullable (r : Registry) (name : String) (underlying : Schema) :
    r.named name ≠ .nullable underlying := by
  unfold named
  split
  · simp
  · split <;> simp

theorem resolve_eq_nullable {r : Registry} {schema underlying : Schema}
    (h : r.resolve schema = .nullable underlying) : schema = .nullable underlying := by
  cases schema with
  | nullable u => simpa [resolve] using h
  | named name => exact absurd h (r.named_ne_nullable name underlying)
  | _ => simp [resolve] at h

theorem isNullable_of_resolve {r : Registry} {schema : Schema} {shape : Shape}
    (h : r.resolve schema = shape) (hn : ∀ underlying, shape ≠ .nullable underlying) :
    schema.isNullable = false := by
  cases schema with
  | nullable u => exact absurd h.symm (hn u)
  | _ => rfl

end Registry

/-- Of a list whose elements are good or bad each, all are good or one is the first bad one. -/
private theorem all_or_first {α : Type} {Good Bad : α → Prop} (xs : List α)
    (h : ∀ x ∈ xs, Good x ∨ Bad x) :
    (∀ x ∈ xs, Good x) ∨
      ∃ before x after, xs = before ++ x :: after ∧ (∀ b ∈ before, Good b) ∧ Bad x := by
  induction xs with
  | nil => exact Or.inl (by simp)
  | cons x rest ih =>
      rcases h x (by simp) with hgood | hbad
      · rcases ih (fun y hy => h y (by simp [hy])) with hall | ⟨before, y, after, rfl, hb, hy⟩
        · exact Or.inl (by simpa using ⟨hgood, hall⟩)
        · refine Or.inr ⟨x :: before, y, after, rfl, ?_, hy⟩
          simpa using ⟨hgood, hb⟩
      · exact Or.inr ⟨[], x, rest, rfl, by simp, hbad⟩

/-- Every value fits its schema or has a first position that does not. The value gets smaller in
elements and members, and the schema under a nullable wrapper, so cyclic names do no harm. -/
theorem Registry.conforms_or_firstMisfit (r : Registry) (schema : Schema) (value : Option Value) :
    r.Conforms schema value ∨ ∃ steps misfit, r.FirstMisfit schema value steps misfit := by
  cases hv : present value with
  | none =>
      cases hs : schema.isNullable with
      | false => exact Or.inr ⟨[], .missing, .missing hs hv⟩
      | true =>
          cases schema with
          | nullable underlying => exact Or.inl (.absent hv)
          | _ => simp [Schema.isNullable] at hs
  | some v =>
      obtain ⟨rfl, hnull⟩ := present_eq_some hv
      cases hr : r.resolve schema with
      | nullable underlying =>
          have hs := resolve_eq_nullable hr
          rcases r.conforms_or_firstMisfit underlying (some v) with h | ⟨steps, misfit, h⟩
          · exact Or.inl (hs ▸ .nullable h)
          · exact Or.inr ⟨steps, misfit, hs ▸ .nullable hnull h⟩
      | scalar kind =>
          by_cases ht : kind.Takes v
          · exact Or.inl (.scalar hr hnull ht)
          · exact Or.inr ⟨[], kind.misfit v, .scalar hr hnull ht⟩
      | array items =>
          by_cases hk : v.kind = "array"
          · obtain ⟨elements, rfl⟩ : ∃ elements, v = .array elements := by
              cases v <;> simp_all [Value.kind]
            have heach : ∀ e ∈ elements, r.Conforms items (some e) ∨
                ∃ steps misfit, r.FirstMisfit items (some e) steps misfit :=
              fun e _ => r.conforms_or_firstMisfit items (some e)
            rcases all_or_first elements heach with
              hall | ⟨before, e, after, rfl, hb, steps, misfit, h⟩
            · exact Or.inl (.array hr hall)
            · exact Or.inr ⟨_, misfit, .element hr hb h⟩
          · exact Or.inr ⟨[], _, .array hr hnull hk⟩
      | object fields =>
          by_cases hk : v.kind = "object"
          · obtain ⟨members, rfl⟩ : ∃ members, v = .object members := by
              cases v <;> simp_all [Value.kind]
            have heach : ∀ f ∈ fields, r.Conforms f.2 (members.lookup f.1) ∨
                ∃ steps misfit, r.FirstMisfit f.2 (members.lookup f.1) steps misfit :=
              fun f _ => r.conforms_or_firstMisfit f.2 (members.lookup f.1)
            rcases all_or_first fields heach with
              hall | ⟨before, ⟨name, schema⟩, after, rfl, hb, steps, misfit, h⟩
            · exact Or.inl (.object hr hall)
            · exact Or.inr ⟨_, misfit, .field hr hb h⟩
          · exact Or.inr ⟨[], _, .object hr hnull hk⟩
termination_by (sizeOf value, sizeOf schema)
decreasing_by
  · have := sizeOf_lookup_le f.1 members
    simp_all [Prod.lex_def]
    omega
  · have := List.sizeOf_lt_of_mem ‹e ∈ elements›
    simp_all [Prod.lex_def]
    omega
  · simp_all [Prod.lex_def]

end ApiCall
