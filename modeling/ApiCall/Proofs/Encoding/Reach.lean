import ApiCall.Proofs.Encoding.Conformance
import Mathlib

/-!
The schemas that a walk over a value can meet. Types refer to each other by name in any way, so what
is asked of a schema and of all types behind it is asked of every schema that can be reached from it
(`Registry.Throughout`).
-/

namespace ApiCall

namespace Registry

/-- The schemas one step below: those of an object's fields, that of an array's elements, or that
inside a nullable wrapper. -/
def below (r : Registry) (schema : Schema) : List Schema :=
  match r.resolve schema with
  | .scalar _ => []
  | .object fields => fields.map Prod.snd
  | .array items => [items]
  | .nullable underlying => [underlying]

/-- A walk that starts at the first schema can come to the second one. -/
def Reaches (r : Registry) : Schema → Schema → Prop :=
  Relation.ReflTransGen fun schema next => next ∈ r.below schema

/-- Every schema that can be reached has a shape with the property. -/
def Throughout (r : Registry) (P : Shape → Prop) (schema : Schema) : Prop :=
  ∀ target, r.Reaches schema target → P (r.resolve target)

theorem resolve_unwrapNullable_ne_nullable (r : Registry) (schema underlying : Schema) :
    r.resolve schema.unwrapNullable ≠ .nullable underlying := by
  intro h
  have hplain := schema.isNullable_unwrapNullable
  rw [resolve_eq_nullable h] at hplain
  cases hplain

theorem resolve_unwrapNullable {r : Registry} {schema : Schema} {shape : Shape}
    (hs : r.resolve schema = shape) (hn : ∀ underlying, shape ≠ .nullable underlying) :
    r.resolve schema.unwrapNullable = shape := by
  rwa [Schema.unwrapNullable_of_isNullable (isNullable_of_resolve hs hn)]

namespace Throughout

variable {r : Registry} {P : Shape → Prop} {schema : Schema}

theorem here (h : r.Throughout P schema) : P (r.resolve schema) :=
  h schema .refl

theorem below (h : r.Throughout P schema) {next : Schema} (hnext : next ∈ r.below schema) :
    r.Throughout P next := by
  intro target htarget
  exact h target (htarget.head hnext)

theorem unwrapNullable (h : r.Throughout P schema) : r.Throughout P schema.unwrapNullable := by
  induction schema using Schema.unwrapNullable.induct with
  | case1 underlying ih =>
      apply ih
      exact h.below (by simp [Registry.below, resolve])
  | case2 schema hplain =>
      rwa [Schema.unwrapNullable.eq_2 schema hplain]

theorem items (h : r.Throughout P schema) {items : Schema}
    (hs : r.resolve schema.unwrapNullable = .array items) : r.Throughout P items := by
  apply h.unwrapNullable.below
  simp [Registry.below, hs]

theorem field (h : r.Throughout P schema) {fields : Fields}
    (hs : r.resolve schema.unwrapNullable = .object fields) {field : String × Schema}
    (hfield : field ∈ fields) : r.Throughout P field.2 := by
  apply h.unwrapNullable.below
  simp only [Registry.below, hs]
  exact List.mem_map_of_mem hfield

end Throughout

/-- What holds of the schemas in a list that no step leaves holds throughout. -/
theorem throughout_of_closed {r : Registry} {P : Shape → Prop} (schemas : List Schema)
    (hshape : ∀ schema ∈ schemas, P (r.resolve schema))
    (hclosed : ∀ schema ∈ schemas, ∀ next ∈ r.below schema, next ∈ schemas) {schema : Schema}
    (h : schema ∈ schemas) : r.Throughout P schema := by
  intro target htarget
  apply hshape
  induction htarget with
  | refl => exact h
  | tail _ hnext ih => exact hclosed _ ih _ hnext

end Registry

end ApiCall
