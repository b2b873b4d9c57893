import ApiCall.Proofs.Encoding.Leaves
import ApiCall.Proofs.Encoding.Reach
import Mathlib

/-!
What of a value its encoding does not depend on. Members may change their order at any depth, those
that no schema asks for may come and go, and so may members that are null: the items stay the same,
and so does the error (`Registry.encode_ignores_member_order`). Values of any type are set aside,
since their text shows every member in its place.
-/

namespace ApiCall

open Json

/-! ### Look-up in changed members -/

/-- A member counts unless one of the same name stands before it. -/
theorem lookup_append_cons (before after : List (String × Value)) (name key : String) (v : Value) :
    (before ++ (name, v) :: after).lookup key =
      if key = name ∧ before.lookup key = none then some v else (before ++ after).lookup key := by
  rw [List.lookup_append, List.lookup_append, List.lookup_cons]
  by_cases hkey : key = name
  · cases hbefore : before.lookup key with
    | none => simp [hkey]
    | some found => simp
  · simp [hkey, beq_eq_false_iff_ne.mpr hkey]

/-! ### Values that are changed -/

/-- The members of one object, at any depth, are in another order. -/
inductive Json.Rearranged : Value → Value → Prop where
  | members {members others : List (String × Value)} (hkeys : (members.map Prod.fst).Nodup)
      (h : members.Perm others) : Rearranged (.object members) (.object others)
  | element {before after : List Value} {v w : Value} (h : Rearranged v w) :
      Rearranged (.array (before ++ v :: after)) (.array (before ++ w :: after))
  | member {before after : List (String × Value)} {name : String} {v w : Value}
      (h : Rearranged v w) :
      Rearranged (.object (before ++ (name, v) :: after)) (.object (before ++ (name, w) :: after))

namespace Registry

/-- A change at one position of a value that goes with a schema: members in another order, or one
more member that is null or that the object type at this position does not declare. -/
inductive Changes (r : Registry) : Schema → Value → Value → Prop where
  | rearranged {schema : Schema} {v w : Value} (h : Rearranged v w) : Changes r schema v w
  | undeclared {schema : Schema} {fields : Fields} (before : List (String × Value))
      {after : List (String × Value)} {name : String} {v : Value}
      (hs : r.resolve schema.unwrapNullable = .object fields)
      (hname : name ∉ fields.map Prod.fst) :
      Changes r schema (.object (before ++ after)) (.object (before ++ (name, v) :: after))
  | null {schema : Schema} {fields : Fields} (before : List (String × Value))
      {after : List (String × Value)} {name : String}
      (hs : r.resolve schema.unwrapNullable = .object fields)
      (hname : name ∉ (before ++ after).map Prod.fst) :
      Changes r schema (.object (before ++ after)) (.object (before ++ (name, .null) :: after))
  | element {schema items : Schema} (before : List Value) {after : List Value} {v w : Value}
      (hs : r.resolve schema.unwrapNullable = .array items) (h : Changes r items v w) :
      Changes r schema (.array (before ++ v :: after)) (.array (before ++ w :: after))
  | member {schema : Schema} {fields : Fields} (before : List (String × Value))
      {after : List (String × Value)} {name : String} {v w : Value}
      (hs : r.resolve schema.unwrapNullable = .object fields)
      (h : ∀ fieldSchema, (name, fieldSchema) ∈ fields → Changes r fieldSchema v w) :
      Changes r schema (.object (before ++ (name, v) :: after))
        (.object (before ++ (name, w) :: after))

/-- No value of any type can be reached: neither a JSON scalar nor a name that nobody registered. -/
def IsTyped (r : Registry) (schema : Schema) : Prop :=
  r.Throughout (· ≠ .scalar .json) schema

/-! ### Values with the same encoding -/

/-- The walk does the same with both values, whatever it has added before and wherever they are. -/
def Alike (r : Registry) (schema : Schema) (value other : Option Value) : Prop :=
  ∀ items keys path,
    encodeInto r items keys schema value path = encodeInto r items keys schema other path

variable {r : Registry} {schema : Schema}

theorem Alike.refl (value : Option Value) : r.Alike schema value value :=
  fun _ _ _ => rfl

theorem Alike.symm {value other : Option Value} (h : r.Alike schema value other) :
    r.Alike schema other value :=
  fun items keys path => (h items keys path).symm

theorem Alike.trans {first second third : Option Value} (h₁ : r.Alike schema first second)
    (h₂ : r.Alike schema second third) : r.Alike schema first third :=
  fun items keys path => (h₁ items keys path).trans (h₂ items keys path)

theorem alike_of_present_eq {value other : Option Value} (h : present value = present other) :
    r.Alike schema value other := by
  intro items keys path
  exact encodeInto_of_present_eq h r items keys schema path

theorem encodeElements_of_alike {elements others : List Value}
    (h : List.Forall₂ (fun v w => r.Alike schema (some v) (some w)) elements others)
    (items : Items) (keys : List Key) (i : Nat) (path : FieldPath) :
    encodeElements r items keys schema elements i path =
      encodeElements r items keys schema others i path := by
  induction h generalizing items i with
  | nil => rfl
  | cons hone _ ih =>
      rw [encodeElements, encodeElements, hone]
      simp only [ih]

theorem encodeFields_of_alike {fields : Fields} {members others : List (String × Value)}
    (h : ∀ field ∈ fields,
      r.Alike field.2 (members.lookup field.1) (others.lookup field.1))
    (items : Items) (keys : List Key) (path : FieldPath) :
    encodeFields r items keys fields members path =
      encodeFields r items keys fields others path := by
  induction fields generalizing items with
  | nil => rw [encodeFields, encodeFields]
  | cons field rest ih =>
      obtain ⟨hone, hrest⟩ := List.forall_mem_cons.mp h
      rw [encodeFields, encodeFields, hone]
      simp only [ih hrest]

/-- Where no value of any type is allowed, an array or object in place of a scalar is refused. -/
theorem encode_container {kind : ScalarKind} (hkind : kind ≠ .json) {v : Value}
    (hv : v.isContainer = true) (path : FieldPath) :
    kind.encode v path = .error (.wrongKind path.text kind.name v.kind) := by
  cases v with
  | array | object => cases kind <;> first | rfl | exact absurd rfl hkind
  | _ => cases hv

/-- Two arrays or two objects are alike where the shape of the schema takes them apart alike. The
error of a scalar only tells their kind. -/
theorem alike_of_shape (ht : r.IsTyped schema) {v w : Value} (hv : v.isContainer = true)
    (hw : w.isContainer = true) (hkind : v.kind = w.kind)
    (h : ∀ shape, r.resolve schema.unwrapNullable = shape → (∀ kind, shape ≠ .scalar kind) →
      ∀ items keys path,
        encodeShape r items keys shape v path = encodeShape r items keys shape w path) :
    r.Alike schema (some v) (some w) := by
  have hpresent {u : Value} (hu : u.isContainer = true) : u.isNull = false := by
    cases u with
    | null => cases hu
    | _ => rfl
  intro items keys path
  rw [encodeInto_some r items keys schema (hpresent hv),
    encodeInto_some r items keys schema (hpresent hw)]
  cases hs : r.resolve schema.unwrapNullable with
  | scalar kind =>
      have hjson : kind ≠ .json := by
        rintro rfl
        exact ht.unwrapNullable.here hs
      rw [encodeShape, encodeShape, encode_container hjson hv, encode_container hjson hw, hkind]
  | _ => exact h _ hs (by simp) items keys path

/-- Arrays are alike whose elements are alike one by one. -/
theorem alike_array (ht : r.IsTyped schema) {elements others : List Value}
    (h : ∀ items, r.resolve schema.unwrapNullable = .array items →
      List.Forall₂ (fun v w => r.Alike items (some v) (some w)) elements others) :
    r.Alike schema (some (.array elements)) (some (.array others)) := by
  refine alike_of_shape ht rfl rfl rfl ?_
  intro shape hs hscalar items keys path
  cases shape with
  | scalar kind => exact absurd rfl (hscalar kind)
  | object fields => rw [encodeShape, encodeShape] <;> simp [Error.mismatchAt, Value.kind]
  | array itemSchema =>
      rw [encodeShape, encodeShape]
      exact encodeElements_of_alike (h itemSchema hs) items _ 0 path
  | nullable underlying => exact absurd hs (r.resolve_unwrapNullable_ne_nullable schema underlying)

/-- Objects are alike whose declared members are alike one by one. -/
theorem alike_object (ht : r.IsTyped schema) {members others : List (String × Value)}
    (h : ∀ fields, r.resolve schema.unwrapNullable = .object fields → ∀ field ∈ fields,
      r.Alike field.2 (members.lookup field.1) (others.lookup field.1)) :
    r.Alike schema (some (.object members)) (some (.object others)) := by
  refine alike_of_shape ht rfl rfl rfl ?_
  intro shape hs hscalar items keys path
  cases shape with
  | scalar kind => exact absurd rfl (hscalar kind)
  | object fields =>
      rw [encodeShape, encodeShape]
      exact encodeFields_of_alike (h fields hs) items keys path
  | array itemSchema => rw [encodeShape, encodeShape] <;> simp [Error.mismatchAt, Value.kind]
  | nullable underlying => exact absurd hs (r.resolve_unwrapNullable_ne_nullable schema underlying)

/-- A change of one element goes unseen if it does in that element. -/
theorem alike_element (ht : r.IsTyped schema) {before after : List Value} {v w : Value}
    (h : ∀ items, r.resolve schema.unwrapNullable = .array items →
      r.Alike items (some v) (some w)) :
    r.Alike schema (some (.array (before ++ v :: after)))
      (some (.array (before ++ w :: after))) := by
  apply alike_array ht
  intro items hs
  have hsame (elements : List Value) :
      List.Forall₂ (fun v w => r.Alike items (some v) (some w)) elements elements :=
    List.forall₂_same.mpr fun element _ => .refl (some element)
  exact List.rel_append (hsame before) (.cons (h items hs) (hsame after))

/-- A change of one member goes unseen if it does for each schema that the member is declared by. -/
theorem alike_member (ht : r.IsTyped schema) {before after : List (String × Value)} {name : String}
    {v w : Value}
    (h : ∀ fields, r.resolve schema.unwrapNullable = .object fields →
      ∀ fieldSchema, (name, fieldSchema) ∈ fields → r.Alike fieldSchema (some v) (some w)) :
    r.Alike schema (some (.object (before ++ (name, v) :: after)))
      (some (.object (before ++ (name, w) :: after))) := by
  apply alike_object ht
  intro fields hs field hfield
  rw [lookup_append_cons, lookup_append_cons]
  split
  · rename_i hkey
    obtain ⟨key, fieldSchema⟩ := field
    obtain rfl : key = name := hkey.1
    exact h fields hs fieldSchema hfield
  · exact .refl _

theorem alike_of_rearranged {v w : Value} (h : Rearranged v w) (ht : r.IsTyped schema) :
    r.Alike schema (some v) (some w) := by
  induction h generalizing schema with
  | members hkeys hperm =>
      apply alike_object ht
      intro fields _ field _
      rw [Assoc.lookup_of_perm hkeys hperm]
      exact .refl _
  | element _ ih =>
      apply alike_element ht
      intro items hs
      exact ih (ht.items hs)
  | member _ ih =>
      apply alike_member ht
      intro fields hs fieldSchema hfield
      exact ih (ht.field hs hfield)

/-- One change goes unseen at every position. -/
theorem alike_of_changes {v w : Value} (h : r.Changes schema v w) (ht : r.IsTyped schema) :
    r.Alike schema (some v) (some w) := by
  induction h with
  | rearranged h => exact alike_of_rearranged h ht
  | undeclared _ hs hname =>
      apply alike_object ht
      intro fields hfields field hfield
      obtain rfl := Shape.object.inj (hs.symm.trans hfields)
      rw [lookup_append_cons, if_neg]
      · exact .refl _
      · rintro ⟨rfl, -⟩
        exact hname (List.mem_map_of_mem hfield)
  | @null schema fields before after name hs hname =>
      apply alike_object ht
      intro fields _ field _
      rw [lookup_append_cons]
      split
      · rename_i hkey
        -- no member of the name was there before, and a null one is as good as none
        apply alike_of_present_eq
        rw [Assoc.lookup_eq_none_of_not_mem (hkey.1 ▸ hname)]
        rfl
      · exact .refl _
  | element _ hs _ ih =>
      apply alike_element ht
      intro items hitems
      obtain rfl := Shape.array.inj (hs.symm.trans hitems)
      exact ih (ht.items hs)
  | member _ hs _ ih =>
      apply alike_member ht
      intro fields hfields fieldSchema hfield
      obtain rfl := Shape.object.inj (hs.symm.trans hfields)
      exact ih fieldSchema hfield (ht.field hs hfield)

/-- Where no value of any type can be reached, two values that differ by any number of changes have
the same items in the same order, or the same error at the same path. -/
theorem encode_ignores_member_order (ht : r.IsTyped schema) {v w : Value}
    (h : Relation.EqvGen (r.Changes schema) v w) (path : FieldPath) :
    r.encode schema (some v) path = r.encode schema (some w) path := by
  have halike : r.Alike schema (some v) (some w) := by
    induction h with
    | rel v w hchange => exact alike_of_changes hchange ht
    | refl v => exact .refl (some v)
    | symm v w _ ih => exact ih.symm
    | trans v w u _ _ ih₁ ih₂ => exact ih₁.trans ih₂
  exact halike [] [] path

/-- Members in another order, one that nobody asks for, and a null below a cyclic name. -/
theorem encode_ignores_member_order_of_pet :
    let pet : Fields :=
      [("name", .scalar .string), ("tag", .nullable (.scalar .string)),
       ("young", .nullable (.array (.named "Pet")))]
    let r : Registry := { objects := [("Pet", pet)] }
    let ada : Value := .object [("name", .string "Ada")]
    let untagged : Value := .object [("tag", .null), ("name", .string "Ada")]
    let v : Value := .object [("name", .string "Rex"), ("age", .bool true),
      ("young", .array [untagged])]
    let w : Value := .object [("young", .array [ada]), ("name", .string "Rex")]
    let items : Items :=
      [⟨[.field "name"], ["Rex"]⟩, ⟨[.field "young", .element, .field "name"], ["Ada"]⟩]
    r.IsTyped (.named "Pet") ∧ Relation.EqvGen (r.Changes (.named "Pet")) v w ∧
      r.encode (.named "Pet") (some v) { root := "pet" } = .ok items ∧
      r.encode (.named "Pet") (some w) { root := "pet" } = .ok items := by
  intro pet r ada untagged v w items
  have ht : r.IsTyped (.named "Pet") := by
    refine throughout_of_closed [.named "Pet", .scalar .string, .nullable (.scalar .string),
      .nullable (.array (.named "Pet")), .array (.named "Pet")] ?_ ?_ ?_
    · simp [resolve, named, r, scalar?, object?, pet]
    · simp [below, resolve, named, r, scalar?, object?, pet]
    · simp
  have hpet : r.resolve (Schema.named "Pet").unwrapNullable = .object pet := rfl
  have hage : r.Changes (.named "Pet")
      (.object [("name", .string "Rex"), ("young", .array [untagged])]) v :=
    .undeclared [_] hpet (by decide)
  have htag : r.Changes (.named "Pet")
      (.object [("name", .string "Rex"), ("young", .array [ada])])
      (.object [("name", .string "Rex"), ("young", .array [untagged])]) := by
    refine .member [_] hpet ?_
    intro fieldSchema hfield
    obtain rfl : fieldSchema = .nullable (.array (.named "Pet")) := by simpa [pet] using hfield
    exact .element [] rfl (.null [] hpet (by decide))
  have horder : r.Changes (.named "Pet")
      (.object [("name", .string "Rex"), ("young", .array [ada])]) w :=
    .rearranged (.members (by decide) (.swap _ _ _))
  have hchanges : Relation.EqvGen (r.Changes (.named "Pet")) v w :=
    .trans _ _ _ (.symm _ _ (.rel _ _ hage))
      (.trans _ _ _ (.symm _ _ (.rel _ _ htag)) (.rel _ _ horder))
  have hv : r.encode (.named "Pet") (some v) { root := "pet" } = .ok items := by cbv
  have heq := encode_ignores_member_order ht hchanges { root := "pet" }
  exact ⟨ht, hchanges, hv, heq.symm.trans hv⟩

end Registry

end ApiCall
