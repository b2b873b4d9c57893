import ApiCall.Proofs.Body.Form
import ApiCall.Proofs.Encoding.Leaves
import ApiCall.Proofs.Text.MediaType
import Mathlib

/-!
The encodings of a body with fields, compared by their verdicts: a verdict is the error or that
there was none. JSON takes the whole value apart and the forms take it apart field by field, but all
of them fail first at the same field and with the same error (`BodySpec.encodings_agree`).
-/

namespace ApiCall

open Json

section Verdict

variable {ε α β γ : Type}

/-- What is left of a result without its value. -/
def verdict (x : Except ε α) : Except ε Unit :=
  x.map fun _ => ()

@[simp] theorem verdict_ok (a : α) : verdict (.ok a : Except ε α) = .ok () := rfl

@[simp] theorem verdict_error (e : ε) : verdict (.error e : Except ε α) = .error e := rfl

theorem verdict_eq_ok {x : Except ε α} (h : verdict x = .ok ()) : ∃ a, x = .ok a := by
  cases x with
  | ok a => exact ⟨a, rfl⟩
  | error e => cases h

theorem verdict_eq_error {x : Except ε α} {e : ε} (h : verdict x = .error e) : x = .error e := by
  cases x with
  | ok a => cases h
  | error e' =>
      obtain rfl := Except.error.inj h
      rfl

/-- What cannot fail after a computation does not change its verdict. -/
theorem verdict_bind {x : Except ε α} {f : α → Except ε β} (h : ∀ a, ∃ b, f a = .ok b) :
    verdict (x >>= f) = verdict x := by
  cases x with
  | error e => rfl
  | ok a =>
      obtain ⟨b, hb⟩ := h a
      exact congrArg verdict hb

theorem verdict_mapM {f : α → Except ε β} {g : α → Except ε γ} {xs : List α}
    (h : ∀ x ∈ xs, verdict (f x) = verdict (g x)) :
    verdict (xs.mapM f) = verdict (xs.mapM g) := by
  induction xs with
  | nil => rfl
  | cons x xs ih =>
      have hx := h x List.mem_cons_self
      have hrest := ih fun y hy => h y (List.mem_cons_of_mem _ hy)
      rw [List.mapM_cons, List.mapM_cons]
      cases hf : f x with
      | error e =>
          rw [hf] at hx
          rw [verdict_eq_error hx.symm]
          rfl
      | ok b =>
          rw [hf] at hx
          obtain ⟨c, hc⟩ := verdict_eq_ok hx.symm
          rw [hc]
          have hleft : verdict (xs.mapM f >>= fun ys => pure (b :: ys)) = verdict (xs.mapM f) :=
            verdict_bind fun ys => ⟨b :: ys, rfl⟩
          have hright : verdict (xs.mapM g >>= fun ys => pure (c :: ys)) = verdict (xs.mapM g) :=
            verdict_bind fun ys => ⟨c :: ys, rfl⟩
          exact hleft.trans (hrest.trans hright.symm)

end Verdict

/-! ### The walk -/

/-- Whether the walk fails, and how, does not depend on what it has added before. -/
theorem verdict_encodeInto (r : Registry) (items : Items) (keys : List Key) (schema : Schema)
    (value : Option Value) (path : FieldPath) :
    verdict (encodeInto r items keys schema value path) =
      verdict (r.encode schema value path) := by
  rcases r.conforms_or_firstMisfit schema value with h | ⟨steps, misfit, h⟩
  · -- a conforming value adds its leaves to any items, and a misfit is the same error for all
    obtain ⟨leaves, _, hwalk⟩ := encodeInto_of_conforms h
    rw [Registry.encode, hwalk, hwalk]
    rfl
  · rw [Registry.encode, encodeInto_of_firstMisfit h, encodeInto_of_firstMisfit h]

namespace Registry

variable {r : Registry}

/-- The items of each field on its own. -/
def encodeEach (r : Registry) (fields : Fields) (members : List (String × Value))
    (path : FieldPath) : Except Error (List Items) :=
  fields.mapM fun field => r.encode field.2 (members.lookup field.1) (path.field field.1)

theorem verdict_encodeFields (items : Items) (keys : List Key) (fields : Fields)
    (members : List (String × Value)) (path : FieldPath) :
    verdict (encodeFields r items keys fields members path) =
      verdict (r.encodeEach fields members path) := by
  induction fields generalizing items with
  | nil =>
      rw [encodeFields]
      rfl
  | cons field rest ih =>
      obtain ⟨name, schema⟩ := field
      have hfirst := verdict_encodeInto r items (keys ++ [.field name]) schema
        (members.lookup name) (path.field name)
      rw [encodeFields, encodeEach, List.mapM_cons]
      cases hone : r.encode schema (members.lookup name) (path.field name) with
      | error e =>
          rw [hone] at hfirst
          rw [verdict_eq_error hfirst]
          rfl
      | ok own =>
          rw [hone] at hfirst
          obtain ⟨added, hadded⟩ := verdict_eq_ok hfirst
          rw [hadded]
          have hrest : verdict (r.encodeEach rest members path >>= fun others =>
              pure (own :: others)) = verdict (r.encodeEach rest members path) :=
            verdict_bind fun others => ⟨own :: others, rfl⟩
          exact (ih added).trans hrest.symm

theorem encode_unwrapNullable {v : Value} (hv : v.isNull = false) (schema : Schema)
    (path : FieldPath) :
    r.encode schema (some v) path = r.encode schema.unwrapNullable (some v) path := by
  induction schema using Schema.unwrapNullable.induct with
  | case1 underlying ih =>
      rw [encode, encodeInto_nullable_some r _ _ _ hv]
      exact ih
  | case2 schema hplain =>
      rw [Schema.unwrapNullable_of_isNullable (Schema.isNullable_eq_false hplain)]

/-- A value that is not there has no items where it may be absent, and is missing elsewhere. -/
theorem encode_absent (schema : Schema) {value : Option Value} (hv : present value = none)
    (path : FieldPath) :
    r.encode schema value path =
      if schema.isNullable then .ok [] else .error (.missingAt path) := by
  cases hnull : schema.isNullable with
  | false => exact encodeInto_absent r [] [] hnull hv path
  | true =>
      cases schema with
      | nullable underlying => exact encodeInto_nullable_absent r [] [] underlying hv path
      | _ => cases hnull

/-- The verdict on a value with the fields of an object. -/
def fieldsVerdict (r : Registry) (fields : Fields) (v : Value) (path : FieldPath) :
    Except Error Unit :=
  match v with
  | .object members => verdict (r.encodeEach fields members path)
  | v => .error (.mismatchAt path "object" v)

theorem verdict_encode_object {schema : Schema} {fields : Fields} {v : Value}
    (hs : r.resolve schema.unwrapNullable = .object fields) (hv : v.isNull = false)
    (path : FieldPath) :
    verdict (r.encode schema (some v) path) = r.fieldsVerdict fields v path := by
  rw [encode_unwrapNullable hv, encode, encodeInto_of_resolve hs (by simp) hv]
  cases v with
  | object members =>
      rw [encodeShape]
      exact verdict_encodeFields [] [] fields members path
  | null => cases hv
  | _ => rw [encodeShape] <;> simp [fieldsVerdict]

/-- No value of the field is sent as a file: it is neither binary nor an array of binary items. -/
def SendsNoFile (r : Registry) (schema : Schema) : Prop :=
  r.isBinary schema = false ∧
    ∀ items, r.resolve schema.unwrapNullable = .array items → r.isBinary items = false

theorem isBinary_unwrapNullable (schema : Schema) :
    r.isBinary schema.unwrapNullable = r.isBinary schema := by
  rw [isBinary, Schema.unwrapNullable_of_isNullable (Schema.isNullable_unwrapNullable schema)]
  rfl

end Registry

/-! ### The parts of a field -/

theorem verdict_textParts (r : Registry) (name : String) (schema : Schema) (v : Value)
    (d : Directive) (path : FieldPath) :
    verdict (textParts r name schema v d path) = verdict (r.encode schema (some v) path) := by
  unfold textParts
  apply verdict_bind
  intro items
  dsimp only
  split
  · exact ⟨_, rfl⟩
  · exact ⟨_, rfl⟩

theorem fieldParts_of_sendsNoFile {r : Registry} {schema : Schema} (hfile : r.SendsNoFile schema)
    (name : String) (v : Value) (d : Directive) (path : FieldPath) :
    fieldParts r name schema v d path = textParts r name schema.unwrapNullable v d path := by
  have hbinary : ¬ r.isBinary schema.unwrapNullable = true := by
    rw [r.isBinary_unwrapNullable, hfile.1]
    exact Bool.false_ne_true
  unfold fieldParts
  rw [if_neg hbinary]
  split
  · rename_i items hshape
    rw [hfile.2 items hshape, if_neg Bool.false_ne_true]
  · rfl

theorem verdict_fieldParts {r : Registry} {schema : Schema} (hfile : r.SendsNoFile schema)
    {v : Value} (hv : v.isNull = false) (name : String) (d : Directive) (path : FieldPath) :
    verdict (fieldParts r name schema v d path) = verdict (r.encode schema (some v) path) := by
  rw [fieldParts_of_sendsNoFile hfile, r.encode_unwrapNullable hv]
  exact verdict_textParts r name schema.unwrapNullable v d path

namespace BodySpec

variable {spec : BodySpec} {r : Registry} {boundary : String} {arguments : Arguments}
  {fields : Fields}

/-- No field of a form has part headers. -/
def HasNoPartHeaders (spec : BodySpec) : Prop :=
  ∀ entry ∈ spec.encoding, entry.2.headers = []

theorem partHeaders_eq_nil (h : spec.HasNoPartHeaders) (field : String) (r : Registry)
    (arguments : Arguments) : (spec.directive field).partHeaders r arguments = .ok [] := by
  have hnone : (spec.directive field).headers = [] :=
    forall_directive (P := fun d => d.headers = []) h field rfl
  unfold Directive.partHeaders
  rw [hnone]
  rfl

/-- A field of a form fails as its value does. -/
theorem verdict_partsOf (hheaders : spec.HasNoPartHeaders) {field : String × Schema}
    (hfile : r.SendsNoFile field.2) (members : List (String × Value)) (path : FieldPath) :
    verdict (spec.partsOf r arguments members path field) =
      verdict (r.encode field.2 (members.lookup field.1) (path.field field.1)) := by
  unfold partsOf
  cases hpresent : present (members.lookup field.1) with
  | none =>
      rw [Registry.encode_absent field.2 hpresent]
      cases field.2.isNullable <;> rfl
  | some v =>
      obtain ⟨hlookup, hv⟩ := present_eq_some hpresent
      rw [hlookup]
      dsimp only
      rw [partHeaders_eq_nil hheaders]
      have hparts := verdict_fieldParts hfile hv field.1 (spec.directive field.1)
        (path.field field.1)
      rw [← hparts]
      exact verdict_bind fun parts => ⟨_, rfl⟩

theorem members_eq (hs : r.resolve spec.schema.unwrapNullable = .object fields) (v : Value)
    (path : FieldPath) :
    spec.members r v path = match v with
      | .object members => .ok (fields, members)
      | v => .error (.mismatchAt path "object" v) := by
  unfold members
  rw [hs]
  cases v <;> rfl

theorem verdict_urlencoded (hs : r.resolve spec.schema.unwrapNullable = .object fields) (v : Value)
    (path : FieldPath) :
    verdict (spec.urlencoded r v path) = r.fieldsVerdict fields v path := by
  unfold urlencoded
  rw [members_eq hs]
  cases v with
  | object members =>
      have hfields : verdict (fields.mapM fun field => do
          let items ← r.encode field.2 (members.lookup field.1) (path.field field.1)
          let d := spec.directive field.1
          return (d.entries field.1 items).map fun entry => formField d entry.1 entry.2) =
            verdict (r.encodeEach fields members path) :=
        verdict_mapM fun field _ => verdict_bind fun items => ⟨_, rfl⟩
      exact (verdict_bind fun segments => ⟨_, rfl⟩).trans hfields
  | _ => rfl

theorem verdict_form (hs : r.resolve spec.schema.unwrapNullable = .object fields)
    (hfiles : ∀ field ∈ fields, r.SendsNoFile field.2) (hheaders : spec.HasNoPartHeaders)
    (v : Value) (path : FieldPath) :
    verdict (spec.form r boundary v arguments path) = r.fieldsVerdict fields v path := by
  rw [form_eq, members_eq hs]
  cases v with
  | object members =>
      have hfields : verdict (fields.mapM (spec.partsOf r arguments members path)) =
          verdict (r.encodeEach fields members path) :=
        verdict_mapM fun field hmem => verdict_partsOf hheaders (hfiles field hmem) members path
      exact (verdict_bind fun parts => ⟨_, rfl⟩).trans hfields
  | _ => rfl

theorem payload_json (spec : BodySpec) (r : Registry) (boundary : String) (v : Value)
    (arguments : Arguments) (hmedia : MediaType.isJson spec.contentType = true) :
    spec.payload r boundary v arguments =
      (r.encode spec.schema (some v) { root := spec.argumentName } >>= fun _ =>
        pure (.raw spec.contentType v.bytes)) := by
  rw [← MediaType.isJson_ofContentType] at hmedia
  unfold payload
  dsimp only
  rw [if_pos hmedia]

theorem payload_urlencoded (spec : BodySpec) (r : Registry) (boundary : String) (v : Value)
    (arguments : Arguments)
    (hmedia : MediaType.ofContentType spec.contentType = MediaType.urlencoded) :
    spec.payload r boundary v arguments =
      (spec.urlencoded r v { root := spec.argumentName } >>= fun text =>
        pure (.raw spec.contentType (bytesOf text))) := by
  unfold payload
  dsimp only
  rw [hmedia, if_neg (by decide), if_pos rfl]

theorem payload_multipart (spec : BodySpec) (r : Registry) (boundary : String) (v : Value)
    (arguments : Arguments)
    (hmedia : MediaType.ofContentType spec.contentType = MediaType.multipart) :
    spec.payload r boundary v arguments =
      (spec.form r boundary v arguments { root := spec.argumentName } >>= fun form =>
        pure (.multipart form)) := by
  unfold payload
  dsimp only
  rw [hmedia, if_neg (by decide), if_neg (by decide), if_pos rfl]

theorem payload_octetStream (spec : BodySpec) (r : Registry) (boundary : String) (v : Value)
    (arguments : Arguments)
    (hmedia : MediaType.ofContentType spec.contentType = MediaType.octetStream) :
    spec.payload r boundary v arguments =
      (Binary.ofValue v { root := spec.argumentName } >>= fun binary =>
        pure (.raw spec.contentType binary.data)) := by
  unfold payload
  dsimp only
  rw [hmedia, if_neg (by decide), if_neg (by decide), if_neg (by decide), if_neg (by decide),
    if_pos rfl]

theorem verdict_payload_json (spec : BodySpec) (boundary : String) (arguments : Arguments)
    (hmedia : MediaType.isJson spec.contentType = true)
    (hs : r.resolve spec.schema.unwrapNullable = .object fields) {v : Value}
    (hv : v.isNull = false) :
    verdict (spec.payload r boundary v arguments) =
      r.fieldsVerdict fields v { root := spec.argumentName } := by
  rw [payload_json spec r boundary v arguments hmedia]
  exact (verdict_bind fun items => ⟨_, rfl⟩).trans (Registry.verdict_encode_object hs hv _)

theorem verdict_payload_urlencoded (spec : BodySpec) (boundary : String) (arguments : Arguments)
    (hmedia : MediaType.ofContentType spec.contentType = MediaType.urlencoded)
    (hs : r.resolve spec.schema.unwrapNullable = .object fields) (v : Value) :
    verdict (spec.payload r boundary v arguments) =
      r.fieldsVerdict fields v { root := spec.argumentName } := by
  rw [payload_urlencoded spec r boundary v arguments hmedia]
  exact (verdict_bind fun text => ⟨_, rfl⟩).trans (verdict_urlencoded hs v _)

theorem verdict_payload_multipart (spec : BodySpec) (boundary : String) (arguments : Arguments)
    (hmedia : MediaType.ofContentType spec.contentType = MediaType.multipart)
    (hs : r.resolve spec.schema.unwrapNullable = .object fields)
    (hfiles : ∀ field ∈ fields, r.SendsNoFile field.2) (hheaders : spec.HasNoPartHeaders)
    (v : Value) :
    verdict (spec.payload r boundary v arguments) =
      r.fieldsVerdict fields v { root := spec.argumentName } := by
  rw [payload_multipart spec r boundary v arguments hmedia]
  exact (verdict_bind fun form => ⟨_, rfl⟩).trans (verdict_form hs hfiles hheaders v _)

theorem build_absent (spec : BodySpec) {value : Option Value} (hv : present value = none) :
    spec.build r boundary value arguments =
      if spec.schema.isNullable then .ok none else .error (.bodyMissing spec.argumentName) := by
  unfold build
  rw [present] at hv
  rw [hv]

theorem build_present (spec : BodySpec) {value : Option Value} {v : Value}
    (hv : present value = some v) :
    spec.build r boundary value arguments =
      (spec.payload r boundary v arguments >>= fun payload => pure (some payload)) := by
  unfold build
  rw [present] at hv
  rw [hv]

theorem build_of_verdict_ok (spec : BodySpec) {value : Option Value} {v : Value}
    (hv : present value = some v)
    (h : verdict (spec.payload r boundary v arguments) = .ok ()) :
    ∃ payload, spec.build r boundary value arguments = .ok (some payload) := by
  obtain ⟨payload, hpayload⟩ := verdict_eq_ok h
  exact ⟨payload, by rw [build_present spec hv, hpayload]; rfl⟩

theorem build_of_verdict_error (spec : BodySpec) {value : Option Value} {v : Value} {e : Error}
    (hv : present value = some v)
    (h : verdict (spec.payload r boundary v arguments) = .error e) :
    spec.build r boundary value arguments = .error e := by
  rw [build_present spec hv, verdict_eq_error h]
  rfl

/-- A body with fields is accepted in all three encodings, left out in all of them, or refused in
all of them with the same error. Files and part headers, which only a multipart form checks, are set
aside. -/
theorem encodings_agree (spec : BodySpec) (r : Registry) (boundary : String) (arguments : Arguments)
    (value : Option Value) {json urlencoded multipart : String}
    (hjson : MediaType.isJson json = true)
    (hurlencoded : MediaType.ofContentType urlencoded = MediaType.urlencoded)
    (hmultipart : MediaType.ofContentType multipart = MediaType.multipart)
    (hs : r.resolve spec.schema.unwrapNullable = .object fields)
    (hfiles : ∀ field ∈ fields, r.SendsNoFile field.2) (hheaders : spec.HasNoPartHeaders) :
    let build (contentType : String) : Except Error (Option Payload) :=
      { spec with contentType }.build r boundary value arguments
    (∃ first second third, build json = .ok (some first) ∧
        build urlencoded = .ok (some second) ∧ build multipart = .ok (some third)) ∨
      (build json = .ok none ∧ build urlencoded = .ok none ∧ build multipart = .ok none) ∨
      ∃ e, build json = .error e ∧ build urlencoded = .error e ∧ build multipart = .error e := by
  intro build
  cases hv : present value with
  | none =>
      have hbuild (contentType : String) : build contentType =
          if spec.schema.isNullable then .ok none else .error (.bodyMissing spec.argumentName) :=
        build_absent { spec with contentType } hv
      rw [hbuild, hbuild, hbuild]
      cases spec.schema.isNullable with
      | true => exact Or.inr (Or.inl ⟨rfl, rfl, rfl⟩)
      | false => exact Or.inr (Or.inr ⟨_, rfl, rfl, rfl⟩)
  | some v =>
      have hnull : v.isNull = false := (present_eq_some hv).2
      have hfirst := verdict_payload_json { spec with contentType := json } boundary arguments hjson
        hs hnull
      have hsecond := verdict_payload_urlencoded { spec with contentType := urlencoded } boundary
        arguments hurlencoded hs v
      have hthird := verdict_payload_multipart { spec with contentType := multipart } boundary
        arguments hmultipart hs hfiles hheaders v
      cases hverdict : r.fieldsVerdict fields v { root := spec.argumentName } with
      | ok _ =>
          obtain ⟨first, hfirst⟩ := build_of_verdict_ok _ hv (hfirst.trans hverdict)
          obtain ⟨second, hsecond⟩ := build_of_verdict_ok _ hv (hsecond.trans hverdict)
          obtain ⟨third, hthird⟩ := build_of_verdict_ok _ hv (hthird.trans hverdict)
          exact Or.inl ⟨first, second, third, hfirst, hsecond, hthird⟩
      | error e =>
          have hfirst := build_of_verdict_error _ hv (hfirst.trans hverdict)
          have hsecond := build_of_verdict_error _ hv (hsecond.trans hverdict)
          have hthird := build_of_verdict_error _ hv (hthird.trans hverdict)
          exact Or.inr (Or.inr ⟨e, hfirst, hsecond, hthird⟩)

/-- A required field of a nested type is null: all encodings name it in the same way. -/
theorem encodings_agree_on_missing_name :
    let owner : Fields := [("name", .named "Name"), ("pets", .nullable (.array (.named "Owner")))]
    let r : Registry := { scalars := [("Name", .string)], objects := [("Owner", owner)] }
    let spec : BodySpec := { schema := .nullable (.named "Owner") }
    let value : Value :=
      .object [("pets", .array [.object [("name", .null)]]), ("name", .string "A")]
    let build (contentType : String) : Except Error (Option Payload) :=
      { spec with contentType }.build r "B" (some value) []
    let e : Error := .valueMissing "body.pets.0.name"
    build "application/json" = .error e ∧ build "application/x-www-form-urlencoded" = .error e ∧
      build "multipart/form-data" = .error e := by
  intro owner r spec value build e
  have hfiles : ∀ field ∈ owner, r.SendsNoFile field.2 := by
    intro field hfield
    simp only [owner, List.mem_cons, List.not_mem_nil, or_false] at hfield
    rcases hfield with rfl | rfl
    · refine ⟨by decide, ?_⟩
      intro items hitems
      cases hitems
    · refine ⟨by decide, ?_⟩
      intro items hitems
      cases hitems
      decide
  have hheaders : spec.HasNoPartHeaders := by
    intro entry hentry
    cases hentry
  have hjson : { spec with contentType := "application/json" }.build r "B" (some value) [] =
      .error (.valueMissing "body.pets.0.name") := by cbv
  have hagree := encodings_agree spec r "B" [] (some value)
    (show MediaType.isJson "application/json" = true by decide)
    (show MediaType.ofContentType "application/x-www-form-urlencoded" = MediaType.urlencoded by
      decide)
    (show MediaType.ofContentType "multipart/form-data" = MediaType.multipart by decide)
    rfl hfiles hheaders
  rcases hagree with ⟨first, _, _, hfirst, _⟩ | ⟨hfirst, _⟩ | ⟨e', hfirst, hsecond, hthird⟩
  · cases hjson.symm.trans hfirst
  · cases hjson.symm.trans hfirst
  · obtain rfl : e = e' := Except.error.inj (hjson.symm.trans hfirst)
    exact ⟨hjson, hsecond, hthird⟩

end BodySpec

end ApiCall
