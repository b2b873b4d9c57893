import ApiCall.Proofs.Body.Encodings
import ApiCall.Proofs.Text.FormEncoding
import Mathlib

/-!
Urlencoded bodies. The bytes of such a body are read back as the entries of its fields, in the order
of the schema, or in that of the value where the schema is open
(`BodySpec.urlencoded_reads_back`).
-/

namespace ApiCall

open Json

namespace BodySpec

variable {spec : BodySpec} {r : Registry} {path : FieldPath}

/-- The fields of a form are the declared ones, or one of any type for each member of a value whose
schema is open. -/
theorem members_eq_ok {v : Value} {fields : Fields} {members : List (String × Value)}
    (h : spec.members r v path = .ok (fields, members)) :
    v = .object members ∧
      (r.resolve spec.schema.unwrapNullable = .object fields ∨
        r.resolve spec.schema.unwrapNullable = .scalar .json ∧
          fields = members.map fun member => (member.1, .scalar .json)) := by
  unfold BodySpec.members at h
  split at h
  · rename_i hs
    cases h
    exact ⟨rfl, Or.inl hs⟩
  · rename_i hs
    cases h
    exact ⟨rfl, Or.inr ⟨hs, rfl⟩⟩
  · cases h

/-- An urlencoded body is the text of its form. -/
theorem build_urlencoded_iff {boundary : String} {value : Option Value} {arguments : Arguments}
    {payload : Payload}
    (hmedia : MediaType.ofContentType spec.contentType = MediaType.urlencoded) :
    spec.build r boundary value arguments = .ok (some payload) ↔
      ∃ v text, present value = some v ∧
        spec.urlencoded r v { root := spec.argumentName } = .ok text ∧
        payload = .raw spec.contentType (bytesOf text) := by
  have hpayload (v : Value) := payload_urlencoded spec r boundary v arguments hmedia
  unfold build
  rw [present]
  constructor
  · intro h
    split at h
    · split at h <;> cases h
    · rename_i v hv
      obtain ⟨built, hbuilt, hlast⟩ := bind_eq_ok.mp h
      rw [hpayload] at hbuilt
      obtain ⟨text, htext, hraw⟩ := bind_eq_ok.mp hbuilt
      cases hlast
      exact ⟨v, text, hv, htext, (Except.ok.inj hraw).symm⟩
  · rintro ⟨v, text, hv, htext, rfl⟩
    simp only [hv, hpayload, htext]
    rfl

/-- The entries of all fields with their items, in order. -/
def fieldEntries (spec : BodySpec) (fields : Fields) (items : List Items) :
    List (String × String) :=
  (List.zipWith (fun field items => (spec.directive field.1).entries field.1 items)
    fields items).flatten

theorem map_formField (hescapes : ∀ entry ∈ spec.encoding, entry.2.allowReserved = false)
    (field : String) (entries : List (String × String)) :
    (entries.map fun entry => formField (spec.directive field) entry.1 entry.2) =
      entries.map fun entry => FormEncoding.field entry.1 entry.2 := by
  have hplain : (spec.directive field).allowReserved = false :=
    forall_directive (P := fun d => d.allowReserved = false) hescapes field rfl
  refine List.map_congr_left ?_
  intro entry _
  rw [formField, hplain]
  rfl

/-- Without reserved characters, the text of a form is made of the encoded entries of its fields. -/
theorem urlencoded_eq (hescapes : ∀ entry ∈ spec.encoding, entry.2.allowReserved = false)
    (r : Registry) (v : Value) (path : FieldPath) :
    spec.urlencoded r v path =
      (spec.members r v path >>= fun (fields, members) =>
        r.encodeEach fields members path >>= fun items =>
          pure ("&".intercalate ((spec.fieldEntries fields items).map fun entry =>
            FormEncoding.field entry.1 entry.2))) := by
  unfold urlencoded
  cases spec.members r v path with
  | error e => rfl
  | ok found =>
      obtain ⟨fields, members⟩ := found
      have hsegments := mapM_bind_pure
        (fun field : String × Schema =>
          r.encode field.2 (members.lookup field.1) (path.field field.1))
        (fun field items => ((spec.directive field.1).entries field.1 items).map fun entry =>
          formField (spec.directive field.1) entry.1 entry.2) fields
      have hentries (items : List Items) :
          (List.zipWith (fun field items =>
            ((spec.directive field.1).entries field.1 items).map fun entry =>
              formField (spec.directive field.1) entry.1 entry.2) fields items).flatten =
            (spec.fieldEntries fields items).map fun entry =>
              FormEncoding.field entry.1 entry.2 := by
        simp only [map_formField hescapes, fieldEntries, List.map_flatten, List.map_zipWith]
      change ((fields.mapM fun field => _) >>= _) = r.encodeEach fields members path >>= _
      rw [hsegments, Registry.encodeEach]
      cases fields.mapM fun field : String × Schema =>
          r.encode field.2 (members.lookup field.1) (path.field field.1) with
      | error e => rfl
      | ok items =>
          change Except.ok _ = Except.ok _
          rw [hentries]

/-- The bytes of an urlencoded body without reserved characters are read back as the entries of its
fields in order: every field's value has its items, and nothing else is in the form. -/
theorem urlencoded_reads_back {boundary : String} {value : Option Value} {arguments : Arguments}
    {payload : Payload} (hmedia : MediaType.ofContentType spec.contentType = MediaType.urlencoded)
    (hescapes : ∀ entry ∈ spec.encoding, entry.2.allowReserved = false)
    (h : spec.build r boundary value arguments = .ok (some payload)) :
    ∃ members fields items, value = some (.object members) ∧
      (r.resolve spec.schema.unwrapNullable = .object fields ∨
        r.resolve spec.schema.unwrapNullable = .scalar .json ∧
          fields = members.map fun member => (member.1, .scalar .json)) ∧
      r.encodeEach fields members { root := spec.argumentName } = .ok items ∧
      FormEncoding.read? payload.bytes = some
        (List.zipWith (fun field items => (spec.directive field.1).entries field.1 items)
          fields items).flatten := by
  obtain ⟨v, text, hv, htext, rfl⟩ := (build_urlencoded_iff hmedia).mp h
  rw [urlencoded_eq hescapes] at htext
  obtain ⟨⟨fields, members⟩, hmembers, hrest⟩ := bind_eq_ok.mp htext
  obtain ⟨items, hitems, hlast⟩ := bind_eq_ok.mp hrest
  obtain ⟨rfl, hfields⟩ := members_eq_ok hmembers
  cases hlast
  refine ⟨members, fields, items, (present_eq_some hv).1, hfields, hitems, ?_⟩
  exact FormEncoding.read?_fields (spec.fieldEntries fields items)

/-- Delimiters, blanks and pluses in names and values, an empty value, a field without a value and
one whose parts stand in a single entry. -/
theorem urlencoded_reads_back_delimiters :
    let place : Fields := [("x", .scalar .integer), ("y&", .scalar .string)]
    let fields : Fields :=
      [("q +é", .array (.scalar .string)), ("note", .nullable (.scalar .string)),
       ("at", .object place)]
    let spec : BodySpec :=
      { contentType := "application/x-www-form-urlencoded", schema := .object fields
        encoding := [("at", { name := "at", location := .formField, style := .pipeDelimited })] }
    let members : List (String × Value) :=
      [("at", .object [("y&", .string "="), ("x", .number (.integer 1))]),
       ("q +é", .array [.string "a&b", .string "", .string "%2B+"])]
    ∃ payload, spec.build {} "B" (some (.object members)) [] = .ok (some payload) ∧
      FormEncoding.read? payload.bytes =
        some [("q +é", "a&b"), ("q +é", ""), ("q +é", "%2B+"), ("at", "x|1|y&|=")] := by
  intro place fields spec members
  have hmedia : MediaType.ofContentType spec.contentType = MediaType.urlencoded := by decide
  let text := "q+%2B%C3%A9=a%26b&q+%2B%C3%A9=&q+%2B%C3%A9=%252B%2B&at=x%7C1%7Cy%26%7C%3D"
  have htext : spec.urlencoded {} (.object members) { root := "body" } = .ok text := by cbv
  have hbuild : spec.build {} "B" (some (.object members)) [] =
      .ok (some (.raw spec.contentType (bytesOf text))) :=
    (build_urlencoded_iff hmedia).mpr ⟨.object members, text, rfl, htext, rfl⟩
  obtain ⟨_, _, items, hvalue, hfields, hitems, hread⟩ :=
    urlencoded_reads_back hmedia (by decide) hbuild
  cases hvalue
  obtain rfl : fields = _ := by
    rcases hfields with hfields | ⟨hfields, _⟩
    · exact Shape.object.inj hfields
    · cases hfields
  obtain rfl : items =
      [[⟨[.element], ["a&b", "", "%2B+"]⟩], [],
        [⟨[.field "x"], ["1"]⟩, ⟨[.field "y&"], ["="]⟩]] := by
    have hencoded : ({} : Registry).encodeEach fields members { root := "body" } = .ok
        [[⟨[.element], ["a&b", "", "%2B+"]⟩], [],
          [⟨[.field "x"], ["1"]⟩, ⟨[.field "y&"], ["="]⟩]] := by
      cbv
    exact Except.ok.inj (hitems.symm.trans hencoded)
  exact ⟨_, hbuild, hread⟩

end BodySpec

end ApiCall
