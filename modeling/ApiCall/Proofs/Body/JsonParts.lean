import ApiCall.Proofs.Body.Encodings

/-!
How the JSON parts of a form are labelled. Whether the value of a field is sent as one JSON text is
decided by all content types of its directive, and the label of the part is the first of them. So
the label is a JSON type exactly when the first content type is one
(`BodySpec.json_part_labelled_iff`).
-/

namespace ApiCall

open Json

namespace Directive

/-- The value of a field is written as one JSON text: it has parts, none of which is a file, and the
directive neither asks for deep-object keys nor leaves JSON out of its content types. -/
structure WritesJson (d : Directive) (r : Registry) (schema : Schema) (v : Value) : Prop where
  noFile : r.SendsNoFile schema
  structured : isStructured (r.resolve schema.unwrapNullable) v = true
  style : d.style ≠ .deepObject
  accepts : d.acceptsJson = true

/-- The part of a value that is written as one JSON text. -/
def jsonPart (d : Directive) (name : String) (v : Value) : Part where
  name
  contentType := some (d.primaryContentType.getD MediaType.json)
  data := v.bytes

theorem isJson_label_iff (d : Directive) :
    MediaType.isJson (d.primaryContentType.getD MediaType.json) = true ↔
      ∀ first others, d.contentTypes = some (first :: others) → MediaType.isJson first = true := by
  have hdefault : MediaType.isJson MediaType.json = true := by decide
  unfold primaryContentType
  rcases d.contentTypes with _ | ⟨_ | ⟨first, others⟩⟩
  · simpa using hdefault
  · simpa using hdefault
  · simp

end Directive

theorem Registry.sendsNoFile_of_any {r : Registry} {schema : Schema}
    (hs : r.resolve schema.unwrapNullable = .scalar .json) : r.SendsNoFile schema := by
  constructor
  · unfold isBinary
    rw [hs]
  · intro items hitems
    rw [hs] at hitems
    cases hitems

/-- A value that is written as one JSON text has one part. -/
theorem fieldParts_of_writesJson {r : Registry} {name : String} {schema : Schema} {v : Value}
    {d : Directive} {path : FieldPath} {parts : List Part} (hjson : d.WritesJson r schema v)
    (h : fieldParts r name schema v d path = .ok parts) : parts = [d.jsonPart name v] := by
  rw [fieldParts_of_sendsNoFile hjson.noFile] at h
  unfold textParts at h
  obtain ⟨items, -, hlast⟩ := bind_eq_ok.mp h
  have hwritten : (isStructured (r.resolve schema.unwrapNullable) v && d.style != .deepObject &&
      d.acceptsJson) = true := by
    simp [hjson.structured, hjson.style, hjson.accepts]
  rw [if_pos hwritten] at hlast
  exact (Except.ok.inj hlast).symm

namespace BodySpec

variable {spec : BodySpec} {r : Registry} {boundary : String} {arguments : Arguments}

/-- The one part of a field that is written as JSON, with the headers that its directive takes from
the arguments. -/
theorem partsOf_of_writesJson {members : List (String × Value)} {path : FieldPath}
    {field : String × Schema} {v : Value} {parts : List Part}
    (hv : present (members.lookup field.1) = some v)
    (hjson : (spec.directive field.1).WritesJson r field.2 v)
    (h : spec.partsOf r arguments members path field = .ok parts) :
    ∃ headers, (spec.directive field.1).partHeaders r arguments = .ok headers ∧
      parts = [((spec.directive field.1).jsonPart field.1 v).withHeaders headers] := by
  unfold partsOf at h
  rw [hv] at h
  obtain ⟨headers, hheaders, h⟩ := bind_eq_ok.mp h
  obtain ⟨built, hbuilt, h⟩ := bind_eq_ok.mp h
  obtain rfl := Except.ok.inj h
  exact ⟨headers, hheaders, by rw [fieldParts_of_writesJson hjson hbuilt]; rfl⟩

/-- In a form that is built, each field that is written as JSON has one part, which holds the JSON
text of its value. A content type among the headers of the directive labels the part; otherwise the
label is a JSON type exactly when the directive declares no content type or a JSON type first. -/
theorem json_part_labelled_iff {value : Option Value} {form : Form}
    (h : spec.build r boundary value arguments = .ok (some (.multipart form))) :
    ∃ body fields members, present value = some body ∧
      spec.members r body { root := spec.argumentName } = .ok (fields, members) ∧
      ∀ field ∈ fields, ∀ v, present (members.lookup field.1) = some v →
        (spec.directive field.1).WritesJson r field.2 v →
        ∃ headers part label, (spec.directive field.1).partHeaders r arguments = .ok headers ∧
          spec.partsOf r arguments members { root := spec.argumentName } field = .ok [part] ∧
          part ∈ form.parts ∧ part.name = field.1 ∧ part.data = v.bytes ∧
          part.contentType = some label ∧
          label = (typeHeader? headers).getD
            ((spec.directive field.1).primaryContentType.getD MediaType.json) ∧
          (typeHeader? headers = none →
            (MediaType.isJson label = true ↔ ∀ first others,
              (spec.directive field.1).contentTypes = some (first :: others) →
                MediaType.isJson first = true)) := by
  obtain ⟨body, fields, members, parts, hbody, hmembers, hparts, rfl⟩ := form_of_build h
  refine ⟨body, fields, members, hbody, hmembers, ?_⟩
  intro field hfield v hv hjson
  obtain ⟨own, hown, hpartsOf⟩ := exists_of_mem_right hparts.flip hfield
  obtain ⟨headers, hheaders, rfl⟩ := partsOf_of_writesJson hv hjson hpartsOf
  let d := spec.directive field.1
  obtain ⟨hname, hdata⟩ := Part.withHeaders_keeps headers (d.jsonPart field.1 v)
  have htype := Part.withHeaders_contentType_eq headers (d.jsonPart field.1 v)
  have hlabel : (typeHeader? headers).or (d.jsonPart field.1 v).contentType =
      some ((typeHeader? headers).getD (d.primaryContentType.getD MediaType.json)) := by
    cases typeHeader? headers <;> rfl
  refine ⟨headers, _, _, hheaders, hpartsOf, List.mem_flatten_of_mem hown List.mem_cons_self,
    hname, hdata, htype.trans hlabel, rfl, ?_⟩
  intro hnone
  rw [hnone, Option.getD_none]
  exact d.isJson_label_iff

/-- A JSON type with a suffix comes first, and a plain text after it. -/
theorem json_part_labelled_of_suffix :
    let d : Directive :=
      { name := "meta", location := .formField
        contentTypes := some ["Application/Vnd.Api+JSON; v=1", "text/plain"] }
    let spec : BodySpec :=
      { contentType := "multipart/form-data"
        schema := .object [("meta", .nullable (.named "Meta"))], encoding := [("meta", d)] }
    let v : Value := .object [("a", .array [.bool true])]
    let part : Part :=
      { name := "meta", contentType := some "Application/Vnd.Api+JSON; v=1",
        data := bytesOf "\x7b\"a\":[true]\x7d" }
    d.WritesJson {} (.nullable (.named "Meta")) v ∧
      spec.build {} "B" (some (.object [("meta", v)])) [] =
        .ok (some (.multipart { boundary := "B", parts := [part] })) ∧
      ∃ label, part.contentType = some label ∧ MediaType.isJson label = true := by
  intro d spec v part
  have hjson : d.WritesJson {} (.nullable (.named "Meta")) v :=
    ⟨Registry.sendsNoFile_of_any rfl, rfl, by decide, by decide⟩
  have hbuild : spec.build {} "B" (some (.object [("meta", v)])) [] =
      .ok (some (.multipart { boundary := "B", parts := [part] })) :=
    build_of_form (by decide) rfl (by cbv)
  obtain ⟨body, fields, members, hbody, hmembers, hparts⟩ := json_part_labelled_iff hbuild
  obtain rfl := Option.some.inj hbody
  obtain ⟨rfl, rfl⟩ := Prod.mk.inj (Except.ok.inj hmembers)
  obtain ⟨headers, built, label, hheaders, -, hmem, -, -, htype, -, hlabel⟩ :=
    hparts _ List.mem_cons_self v rfl hjson
  obtain rfl : [] = headers := Except.ok.inj hheaders
  obtain rfl := List.mem_singleton.mp hmem
  refine ⟨hjson, hbuild, label, htype, (hlabel rfl).mpr ?_⟩
  rintro first others ⟨⟩
  decide

/-- A directive that names plain text before JSON: the value is sent as JSON and labelled as
text. -/
theorem json_part_labelled_as_text :
    let d : Directive :=
      { name := "meta", location := .formField
        contentTypes := some ["text/plain", "application/json"] }
    let spec : BodySpec :=
      { contentType := "multipart/form-data", schema := .object [("meta", .scalar .json)]
        encoding := [("meta", d)] }
    let v : Value := .object [("a", .bool true)]
    let part : Part :=
      { name := "meta", contentType := some "text/plain", data := bytesOf "\x7b\"a\":true\x7d" }
    d.WritesJson {} (.scalar .json) v ∧ d.partHeaders {} [] = .ok [] ∧
      spec.build {} "B" (some (.object [("meta", v)])) [] =
        .ok (some (.multipart { boundary := "B", parts := [part] })) ∧
      part.data = v.bytes ∧ MediaType.isJson "text/plain" = false := by
  intro d spec v part
  refine ⟨?_, rfl, build_of_form (by decide) rfl (by cbv), by cbv, by decide⟩
  exact ⟨Registry.sendsNoFile_of_any rfl, rfl, by decide, by decide⟩

end BodySpec

end ApiCall
