import ApiCall.Items
import ApiCall.Scalar

/-!
Taking a value apart along its schema. Fields are visited in schema order and elements by index, so
the order of a runtime object's members does not matter. The first value that does not fit its
schema ends the walk.

The walk enters the same value again only to remove a nullable wrapper, and a name stands for a
scalar or an object, so it ends for cyclic registries too.
-/

namespace ApiCall

open Json

theorem sizeOf_lookup_le (name : String) (members : List (String × Value)) :
    sizeOf (members.lookup name) ≤ sizeOf members := by
  induction members with
  | nil => simp
  | cons member members ih =>
    obtain ⟨key, v⟩ := member
    rw [List.lookup_cons]
    split
    · simp only [Option.some.sizeOf_spec, List.cons.sizeOf_spec, Prod.mk.sizeOf_spec]
      omega
    · simp only [List.cons.sizeOf_spec, Prod.mk.sizeOf_spec]
      omega

mutual

/-- Adds the leaves of a value, if there is one, below a key path. -/
def encodeInto (r : Registry) (items : Items) (keys : List Key) (schema : Schema)
    (value : Option Value) (path : FieldPath) : Except Error Items :=
  match schema, value with
  | .nullable _, none => .ok items
  | .nullable _, some .null => .ok items
  | .nullable underlying, some v => encodeInto r items keys underlying (some v) path
  | _, none => .error (.missingAt path)
  | _, some .null => .error (.missingAt path)
  | schema, some v => encodeShape r items keys (r.resolve schema) v path
termination_by (sizeOf value, 2, sizeOf schema)

/-- Adds the leaves of a value that is there. -/
def encodeShape (r : Registry) (items : Items) (keys : List Key) (shape : Shape) (value : Value)
    (path : FieldPath) : Except Error Items :=
  match shape, value with
  | .scalar kind, v => do
    let text ← kind.encode v path
    return items.add keys [text]
  | .array schema, .array elements =>
    encodeElements r items (keys ++ [.element]) schema elements 0 path
  | .array _, v => .error (.mismatchAt path "array" v)
  | .object fields, .object members => encodeFields r items keys fields members path
  | .object _, v => .error (.mismatchAt path "object" v)
  | .nullable _, _ => .ok items
termination_by (1 + sizeOf value, 1, 0)

/-- Adds the leaves of array elements, the first of which has the given index. -/
def encodeElements (r : Registry) (items : Items) (keys : List Key) (schema : Schema)
    (elements : List Value) (i : Nat) (path : FieldPath) : Except Error Items :=
  match elements with
  | [] => .ok items
  | element :: rest => do
    let items ← encodeInto r items keys schema (some element) (path.index i)
    encodeElements r items keys schema rest (i + 1) path
termination_by (1 + sizeOf elements, 3, 0)

/-- Adds the leaves of an object's fields; members that are no fields are ignored. -/
def encodeFields (r : Registry) (items : Items) (keys : List Key) (fields : Fields)
    (members : List (String × Value)) (path : FieldPath) : Except Error Items :=
  match fields with
  | [] => .ok items
  | (name, schema) :: rest => do
    let items ← encodeInto r items (keys ++ [.field name]) schema (members.lookup name)
      (path.field name)
    encodeFields r items keys rest members path
termination_by (1 + sizeOf members, 3, sizeOf fields)
decreasing_by
  all_goals simp_wf
  all_goals try have hle := sizeOf_lookup_le name members
  all_goals simp_all [Prod.lex_def]
  all_goals omega

end

/-- The items of a value, if there is one. -/
def Registry.encode (r : Registry) (schema : Schema) (value : Option Value) (path : FieldPath) :
    Except Error Items :=
  encodeInto r [] [] schema value path

end ApiCall
