import ApiCall.Proofs.Body.Urlencoded
import Mathlib

/-!
The two form encodings compared by what they carry. Where no field is a file or one JSON text, a
multipart form has a part for each entry of the urlencoded form, in the same order, with the
entry's key as its name and the value as its data (`BodySpec.forms_carry_same_entries`).
-/

namespace ApiCall

open Json

namespace Directive

theorem entries_nil (d : Directive) (name : String) : d.entries name [] = [] := by
  simp [entries]

/-- The entry of a lone text stands under the parameter's own name, whatever the style. -/
theorem entries_scalar (d : Directive) (name text : String) :
    d.entries name [⟨[], [text]⟩] = [(name, text)] := by
  have hkey : d.key name [] = name := by
    simp [key, Key.labelUnder, Key.trim, String.join]
  have hflat : Item.flatParts ⟨[], [text]⟩ = [text] := by
    simp [Item.flatParts, Item.trimmed, Key.trim]
  unfold entries
  split
  · simp [hkey]
  · simp [hflat]

theorem acceptsJson_eq_false_iff {d : Directive} :
    d.acceptsJson = false ↔
      ∃ types, d.contentTypes = some types ∧ ∀ type ∈ types, MediaType.isJson type = false := by
  unfold acceptsJson
  cases d.contentTypes with
  | none => simp
  | some types => simp

/-- The part that carries one entry of a form. -/
def entryPart (d : Directive) (entry : String × String) : Part where
  name := entry.1
  contentType := d.primaryContentType
  data := bytesOf entry.2

end Directive

/-- Only an array, an object or a value of any type with parts has more than one leaf: any other
value is a lone text. -/
theorem Registry.encode_of_not_structured {r : Registry} {schema : Schema} {v : Value}
    {path : FieldPath} {items : Items} (hs : schema.isNullable = false) (hv : v.isNull = false)
    (hplain : isStructured (r.resolve schema) v = false)
    (h : r.encode schema (some v) path = .ok items) : ∃ text, items = [⟨[], [text]⟩] := by
  cases hshape : r.resolve schema with
  | scalar kind =>
      rw [encode, encodeInto_of_resolve hshape (by simp) hv, encodeShape] at h
      obtain ⟨text, _, hlast⟩ := bind_eq_ok.mp h
      obtain rfl := Except.ok.inj hlast
      exact ⟨text, rfl⟩
  | nullable underlying =>
      rw [resolve_eq_nullable hshape] at hs
      cases hs
  | array items =>
      rw [hshape] at hplain
      cases hplain
  | object fields =>
      rw [hshape] at hplain
      cases hplain

/-- A value that is not written as one JSON text has a part for each of its entries. -/
theorem textParts_eq_entries {r : Registry} {schema : Schema} {v : Value} {d : Directive}
    (hs : schema.isNullable = false) (hv : v.isNull = false)
    (hentries : isStructured (r.resolve schema) v = true →
      d.style = .deepObject ∨ d.acceptsJson = false)
    (name : String) (path : FieldPath) :
    textParts r name schema v d path =
      (r.encode schema (some v) path >>= fun items =>
        pure ((d.entries name items).map d.entryPart)) := by
  unfold textParts
  cases hencode : r.encode schema (some v) path with
  | error e => rfl
  | ok items =>
      change (if _ then _ else _) = Except.ok _
      have hjson : ¬ (isStructured (r.resolve schema) v && d.style != .deepObject &&
          d.acceptsJson) = true := by
        intro h
        simp only [Bool.and_eq_true, bne_iff_ne] at h
        obtain ⟨⟨hstructured, hstyle⟩, haccepts⟩ := h
        rcases hentries hstructured with heq | heq
        · exact hstyle heq
        · rw [heq] at haccepts
          cases haccepts
      rw [if_neg hjson]
      cases hstructured : isStructured (r.resolve schema) v with
      | true => rfl
      | false =>
          obtain ⟨text, rfl⟩ := Registry.encode_of_not_structured hs hv hstructured hencode
          rw [d.entries_scalar]
          rfl

/-- A value is written entry by entry in both form encodings: its field sends no file, and if the
value has parts, the directive asks for deep-object keys or declares content types of which none is
JSON. -/
structure Directive.WritesEntries (d : Directive) (r : Registry) (schema : Schema) (v : Value) :
    Prop where
  noFile : r.SendsNoFile schema
  noJson : isStructured (r.resolve schema.unwrapNullable) v = true →
    d.style = .deepObject ∨
      ∃ types, d.contentTypes = some types ∧ ∀ type ∈ types, MediaType.isJson type = false

namespace BodySpec

variable {spec : BodySpec} {r : Registry} {boundary : String} {arguments : Arguments}

/-- The parts of a field are its entries, and it fails as its value does. -/
theorem partsOf_eq_entries (hheaders : spec.HasNoPartHeaders) {field : String × Schema}
    {members : List (String × Value)}
    (hfield : ∀ v, present (members.lookup field.1) = some v →
      (spec.directive field.1).WritesEntries r field.2 v)
    (path : FieldPath) :
    spec.partsOf r arguments members path field =
      (r.encode field.2 (members.lookup field.1) (path.field field.1) >>= fun items =>
        pure (((spec.directive field.1).entries field.1 items).map
          (spec.directive field.1).entryPart)) := by
  unfold partsOf
  cases hpresent : present (members.lookup field.1) with
  | none =>
      rw [Registry.encode_absent field.2 hpresent]
      cases field.2.isNullable with
      | false => rfl
      | true =>
          change Except.ok [] = Except.ok _
          rw [Directive.entries_nil]
          rfl
  | some v =>
      obtain ⟨hlookup, hv⟩ := present_eq_some hpresent
      obtain ⟨hfile, hjson⟩ := hfield v hpresent
      have htext := textParts_eq_entries (r := r) (Schema.isNullable_unwrapNullable field.2) hv
        (fun hstructured => (hjson hstructured).imp_right Directive.acceptsJson_eq_false_iff.mpr)
        field.1 (path.field field.1)
      rw [hlookup]
      dsimp only
      rw [partHeaders_eq_nil hheaders, fieldParts_of_sendsNoFile hfile, htext,
        ← Registry.encode_unwrapNullable hv]
      cases r.encode field.2 (some v) (path.field field.1) with
      | error e => rfl
      | ok items =>
          change Except.ok _ = Except.ok _
          exact congrArg Except.ok (List.map_id' _)

/-- Every field that has a value is written entry by entry. -/
def WritesOnlyEntries (spec : BodySpec) (r : Registry) (body : Value) : Prop :=
  ∀ fields members, spec.members r body { root := spec.argumentName } = .ok (fields, members) →
    ∀ field ∈ fields, ∀ v, present (members.lookup field.1) = some v →
      (spec.directive field.1).WritesEntries r field.2 v

/-- The parts that carry the entries of all fields, in order. -/
def entryParts (spec : BodySpec) (fields : Fields) (items : List Items) : List Part :=
  (List.zipWith (fun field items =>
    ((spec.directive field.1).entries field.1 items).map (spec.directive field.1).entryPart)
    fields items).flatten

theorem map_entryParts (spec : BodySpec) (fields : Fields) (items : List Items) :
    ((spec.entryParts fields items).map fun part => (part.name, part.data)) =
      (spec.fieldEntries fields items).map fun entry => (entry.1, bytesOf entry.2) := by
  simp only [entryParts, fieldEntries, List.map_flatten, List.map_zipWith, List.map_map]
  rfl

theorem form_eq_entries (hheaders : spec.HasNoPartHeaders) {body : Value}
    (hfields : spec.WritesOnlyEntries r body) :
    spec.form r boundary body arguments { root := spec.argumentName } =
      (spec.members r body { root := spec.argumentName } >>= fun (fields, members) =>
        r.encodeEach fields members { root := spec.argumentName } >>= fun items =>
          pure { boundary, parts := spec.entryParts fields items }) := by
  rw [form_eq]
  cases hmembers : spec.members r body { root := spec.argumentName } with
  | error e => rfl
  | ok found =>
      obtain ⟨fields, members⟩ := found
      have hparts : fields.mapM (spec.partsOf r arguments members { root := spec.argumentName }) =
          r.encodeEach fields members { root := spec.argumentName } >>= fun items =>
            pure (List.zipWith (fun field items =>
              ((spec.directive field.1).entries field.1 items).map
                (spec.directive field.1).entryPart) fields items) := by
        rw [Registry.encodeEach, ← mapM_bind_pure]
        refine mapM_congr_left ?_
        intro field hfield
        exact partsOf_eq_entries hheaders (hfields fields members hmembers field hfield) _
      change (fields.mapM (spec.partsOf r arguments members _) >>= _) =
        r.encodeEach fields members _ >>= _
      rw [hparts]
      cases r.encodeEach fields members { root := spec.argumentName } with
      | error e => rfl
      | ok items => rfl

/-- What both form encodings are made of: the fields with their items. -/
def fieldItems (spec : BodySpec) (r : Registry) (body : Value) :
    Except Error (Fields × List Items) := do
  let (fields, members) ← spec.members r body { root := spec.argumentName }
  return (fields, ← r.encodeEach fields members { root := spec.argumentName })

theorem build_multipart_eq (spec : BodySpec) {value : Option Value} {body : Value}
    (hmedia : MediaType.ofContentType spec.contentType = MediaType.multipart)
    (hheaders : spec.HasNoPartHeaders) (hv : present value = some body)
    (hfields : spec.WritesOnlyEntries r body) :
    spec.build r boundary value arguments =
      (spec.fieldItems r body).map fun (fields, items) =>
        some (.multipart { boundary, parts := spec.entryParts fields items }) := by
  rw [build_present spec hv, payload_multipart spec r boundary body arguments hmedia,
    form_eq_entries hheaders hfields, fieldItems]
  cases spec.members r body { root := spec.argumentName } with
  | error e => rfl
  | ok found =>
      obtain ⟨fields, members⟩ := found
      change (((r.encodeEach fields members _ >>= _) >>= _) >>= _) =
        Except.map _ (r.encodeEach fields members _ >>= _)
      cases r.encodeEach fields members { root := spec.argumentName } <;> rfl

theorem build_urlencoded_eq (spec : BodySpec) {value : Option Value} {body : Value}
    (hmedia : MediaType.ofContentType spec.contentType = MediaType.urlencoded)
    (hescapes : ∀ entry ∈ spec.encoding, entry.2.allowReserved = false)
    (hv : present value = some body) :
    spec.build r boundary value arguments =
      (spec.fieldItems r body).map fun (fields, items) =>
        some (.raw spec.contentType (bytesOf ("&".intercalate
          ((spec.fieldEntries fields items).map fun entry =>
            FormEncoding.field entry.1 entry.2)))) := by
  rw [build_present spec hv, payload_urlencoded spec r boundary body arguments hmedia,
    urlencoded_eq hescapes, fieldItems]
  cases spec.members r body { root := spec.argumentName } with
  | error e => rfl
  | ok found =>
      obtain ⟨fields, members⟩ := found
      change (((r.encodeEach fields members _ >>= _) >>= _) >>= _) =
        Except.map _ (r.encodeEach fields members _ >>= _)
      cases r.encodeEach fields members { root := spec.argumentName } <;> rfl

/-- Where every field is written entry by entry, the two form encodings accept the same values, fail
with the same error, and carry the same entries in the same order: the parts of the multipart form
have the keys for names and the values for data. -/
theorem forms_carry_same_entries (spec : BodySpec) (r : Registry) (boundary : String)
    (arguments : Arguments) (value : Option Value) {urlencoded multipart : String}
    (hurlencoded : MediaType.ofContentType urlencoded = MediaType.urlencoded)
    (hmultipart : MediaType.ofContentType multipart = MediaType.multipart)
    (hescapes : ∀ entry ∈ spec.encoding, entry.2.allowReserved = false)
    (hheaders : spec.HasNoPartHeaders)
    (hfields : ∀ body, present value = some body → spec.WritesOnlyEntries r body) :
    let build (contentType : String) : Except Error (Option Payload) :=
      { spec with contentType }.build r boundary value arguments
    (∃ form payload entries, build multipart = .ok (some (.multipart form)) ∧
        build urlencoded = .ok (some payload) ∧
        FormEncoding.read? payload.bytes = some entries ∧
        (form.parts.map fun part => (part.name, part.data)) =
          entries.map fun entry => (entry.1, bytesOf entry.2)) ∨
      (build multipart = .ok none ∧ build urlencoded = .ok none) ∨
      ∃ e, build multipart = .error e ∧ build urlencoded = .error e := by
  intro build
  cases hv : present value with
  | none =>
      have hbuild (contentType : String) : build contentType =
          if spec.schema.isNullable then .ok none else .error (.bodyMissing spec.argumentName) :=
        build_absent { spec with contentType } hv
      rw [hbuild, hbuild]
      cases spec.schema.isNullable with
      | true => exact Or.inr (Or.inl ⟨rfl, rfl⟩)
      | false => exact Or.inr (Or.inr ⟨_, rfl, rfl⟩)
  | some body =>
      have hform : build multipart = (spec.fieldItems r body).map fun (fields, items) =>
          some (.multipart { boundary, parts := spec.entryParts fields items }) :=
        build_multipart_eq { spec with contentType := multipart } hmultipart hheaders hv
          (hfields body hv)
      have htext : build urlencoded = (spec.fieldItems r body).map fun (fields, items) =>
          some (.raw urlencoded (bytesOf ("&".intercalate
            ((spec.fieldEntries fields items).map fun entry =>
              FormEncoding.field entry.1 entry.2)))) :=
        build_urlencoded_eq { spec with contentType := urlencoded } hurlencoded hescapes hv
      cases hitems : spec.fieldItems r body with
      | error e =>
          rw [hitems] at hform htext
          exact Or.inr (Or.inr ⟨e, hform, htext⟩)
      | ok found =>
          rw [hitems] at hform htext
          refine Or.inl ⟨_, _, spec.fieldEntries found.1 found.2, hform, htext, ?_, ?_⟩
          · exact FormEncoding.read?_fields (spec.fieldEntries found.1 found.2)
          · exact spec.map_entryParts found.1 found.2

/-- Deep-object keys, a joined list, a field without a value, a list in a field of any type and a
delimiter in a text. -/
theorem forms_carry_same_entries_styles :
    let place : Fields := [("x", .scalar .integer), ("y", .array (.scalar .string))]
    let fields : Fields :=
      [("at", .nullable (.named "Place")), ("t", .array (.scalar .string)),
       ("n", .nullable (.scalar .string)), ("a", .scalar .json), ("q", .scalar .string)]
    let r : Registry := { objects := [("Place", place)] }
    let spec : BodySpec :=
      { schema := .object fields
        encoding :=
          [("at", { name := "at", location := .formField, style := .deepObject }),
           ("t", { name := "t", location := .formField, style := .pipeDelimited,
                   contentTypes := some ["text/plain"] }),
           ("a", { name := "a", location := .formField, contentTypes := some ["text/csv"] })] }
    let value : Value := .object
      [("q", .string "&"), ("a", .array [.bool true]), ("n", .null),
       ("t", .array [.string "u", .string "v"]),
       ("at", .object [("y", .array [.string "="]), ("x", .number (.integer 7))])]
    let build (contentType : String) : Except Error (Option Payload) :=
      { spec with contentType }.build r "B" (some value) []
    let entries : List (String × String) :=
      [("at[x]", "7"), ("at[y][]", "="), ("t", "u|v"), ("a", "[true]"), ("q", "&")]
    ∃ form payload, build "multipart/form-data" = .ok (some (.multipart form)) ∧
      build "application/x-www-form-urlencoded" = .ok (some payload) ∧
      FormEncoding.read? payload.bytes = some entries ∧
      (form.parts.map fun part => (part.name, part.data)) =
        entries.map fun entry => (entry.1, bytesOf entry.2) := by
  intro place fields r spec value build entries
  have hwritten : spec.WritesOnlyEntries r value := by
    intro fields' members hmembers field hfield v hv
    cases hmembers
    simp only [fields, List.mem_cons, List.not_mem_nil, or_false] at hfield
    rcases hfield with rfl | rfl | rfl | rfl | rfl
    · refine ⟨⟨rfl, ?_⟩, fun _ => Or.inl rfl⟩
      intro items hitems
      cases hitems
    · refine ⟨⟨rfl, ?_⟩, fun _ => Or.inr ⟨["text/plain"], rfl, by decide⟩⟩
      intro items hitems
      cases hitems
      rfl
    · cases hv
    · refine ⟨⟨rfl, ?_⟩, fun _ => Or.inr ⟨["text/csv"], rfl, by decide⟩⟩
      intro items hitems
      cases hitems
    · refine ⟨⟨rfl, ?_⟩, fun hstructured => nomatch hstructured⟩
      intro items hitems
      cases hitems
  have hheaders : spec.HasNoPartHeaders := by
    intro entry hentry
    simp only [spec, List.mem_cons, List.not_mem_nil, or_false] at hentry
    rcases hentry with rfl | rfl | rfl <;> rfl
  have hagree := forms_carry_same_entries spec r "B" [] (some value)
    (show MediaType.ofContentType "application/x-www-form-urlencoded" = MediaType.urlencoded by
      decide)
    (show MediaType.ofContentType "multipart/form-data" = MediaType.multipart by decide)
    (by decide) hheaders
    (by
      intro body hbody
      cases hbody
      exact hwritten)
  let items : List Items :=
    [[⟨[.field "x"], ["7"]⟩, ⟨[.field "y", .element], ["="]⟩], [⟨[.element], ["u", "v"]⟩], [],
      [⟨[], ["[true]"]⟩], [⟨[], ["&"]⟩]]
  have hitems : spec.fieldItems r value = .ok (fields, items) := by cbv
  have hentries : spec.fieldEntries fields items = entries := by cbv
  let text := "&".intercalate (entries.map fun entry => FormEncoding.field entry.1 entry.2)
  have htext : build "application/x-www-form-urlencoded" =
      .ok (some (.raw "application/x-www-form-urlencoded" (bytesOf text))) := by
    refine (build_urlencoded_eq { spec with contentType := "application/x-www-form-urlencoded" }
      (by decide) (by decide) (show present (some value) = some value from rfl)).trans ?_
    change Except.map _ (spec.fieldItems r value) = _
    rw [hitems]
    change Except.ok (some (Payload.raw _ (bytesOf ("&".intercalate
      ((spec.fieldEntries fields items).map _))))) = _
    rw [hentries]
  have hread : FormEncoding.read? (bytesOf text) = some entries := FormEncoding.read?_fields entries
  rcases hagree with ⟨form, payload, found, hform, hpayload, hfound, hparts⟩ | ⟨_, hnone⟩ |
    ⟨e, _, herror⟩
  · obtain rfl := Option.some.inj (Except.ok.inj (htext.symm.trans hpayload))
    obtain rfl : entries = found := Option.some.inj (hread.symm.trans hfound)
    exact ⟨form, _, hform, htext, hread, hparts⟩
  · cases htext.symm.trans hnone
  · cases htext.symm.trans herror

end BodySpec

end ApiCall
