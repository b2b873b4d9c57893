import ApiCall.Body
import ApiCall.Proofs.Encoding.Conformance
import ApiCall.Proofs.Success

/-!
How a multipart form comes about: it is built only for a value that is there, and its parts are
those of the fields in schema order, each field on its own (`BodySpec.form_of_build`).
-/

namespace ApiCall

open Json

/-- Adds headers one after the other. -/
def Part.withHeaders (headers : List (String × String)) (p : Part) : Part :=
  headers.foldl (fun p (name, text) => p.withHeader name text) p

/-- The content type among headers: the one that is given last. -/
def typeHeader? (headers : List (String × String)) : Option String :=
  (headers.filter fun header => sameIgnoringCase header.1 "content-type").getLast?.map Prod.snd

theorem typeHeader?_eq_none_iff {headers : List (String × String)} :
    typeHeader? headers = none ↔
      ∀ header ∈ headers, sameIgnoringCase header.1 "content-type" = false := by
  simp [typeHeader?]

namespace Part

theorem withHeaders_keeps (headers : List (String × String)) (p : Part) :
    (p.withHeaders headers).name = p.name ∧ (p.withHeaders headers).data = p.data := by
  induction headers generalizing p with
  | nil => exact ⟨rfl, rfl⟩
  | cons header headers ih =>
      have hstep : (p.withHeader header.1 header.2).name = p.name ∧
          (p.withHeader header.1 header.2).data = p.data := by
        unfold withHeader
        split <;> exact ⟨rfl, rfl⟩
      exact ⟨(ih _).1.trans hstep.1, (ih _).2.trans hstep.2⟩

theorem withHeaders_contentType_eq (headers : List (String × String)) (p : Part) :
    (p.withHeaders headers).contentType = (typeHeader? headers).or p.contentType := by
  induction headers generalizing p with
  | nil => rfl
  | cons header headers ih =>
      refine (ih (p.withHeader header.1 header.2)).trans ?_
      unfold typeHeader? withHeader
      rw [List.filter_cons]
      split
      · rw [List.getLast?_cons]
        cases (headers.filter _).getLast? <;> rfl
      · rfl

end Part

namespace BodySpec

/-- What holds of the declared directives and of that of a form field holds of every field's. -/
theorem forall_directive {spec : BodySpec} {P : Directive → Prop}
    (hdeclared : ∀ entry ∈ spec.encoding, P entry.2) (field : String)
    (hfield : P { name := field, location := .formField }) : P (spec.directive field) := by
  unfold directive
  cases hlookup : spec.encoding.lookup field with
  | none => exact hfield
  | some d =>
      exact hdeclared (field, d) (Assoc.mem_of_lookup hlookup)

/-- The parts of one field, which are none for a field without a value. -/
def partsOf (spec : BodySpec) (r : Registry) (arguments : Arguments)
    (members : List (String × Value)) (path : FieldPath) (field : String × Schema) :
    Except Error (List Part) :=
  match present (members.lookup field.1) with
  | none => if field.2.isNullable then .ok [] else .error (.missingAt (path.field field.1))
  | some v => do
    let d := spec.directive field.1
    let headers ← d.partHeaders r arguments
    let parts ← fieldParts r field.1 field.2 v d (path.field field.1)
    return parts.map (Part.withHeaders headers)

theorem form_eq (spec : BodySpec) (r : Registry) (boundary : String) (value : Value)
    (arguments : Arguments) (path : FieldPath) :
    spec.form r boundary value arguments path =
      (spec.members r value path >>= fun (fields, members) =>
        fields.mapM (spec.partsOf r arguments members path) >>= fun parts =>
          pure { boundary, parts := parts.flatten }) := by
  rfl

/-- Only the multipart encoding gives a form. -/
theorem form_of_payload {spec : BodySpec} {r : Registry} {boundary : String} {v : Value}
    {arguments : Arguments} {form : Form}
    (h : spec.payload r boundary v arguments = .ok (.multipart form)) :
    spec.form r boundary v arguments { root := spec.argumentName } = .ok form := by
  unfold payload at h
  dsimp only at h
  split at h
  · obtain ⟨_, _, hlast⟩ := bind_eq_ok.mp h
    cases hlast
  split at h
  · obtain ⟨_, _, hlast⟩ := bind_eq_ok.mp h
    cases hlast
  split at h
  · obtain ⟨built, hbuilt, hlast⟩ := bind_eq_ok.mp h
    cases hlast
    exact hbuilt
  split at h
  · cases h
  split at h
  · obtain ⟨_, _, hlast⟩ := bind_eq_ok.mp h
    cases hlast
  · cases h

/-- A form is built from the members of a value that is there, field by field. -/
theorem form_of_build {spec : BodySpec} {r : Registry} {boundary : String} {value : Option Value}
    {arguments : Arguments} {form : Form}
    (h : spec.build r boundary value arguments = .ok (some (.multipart form))) :
    ∃ v fields members parts, present value = some v ∧
      spec.members r v { root := spec.argumentName } = .ok (fields, members) ∧
      List.Forall₂ (fun field parts =>
        spec.partsOf r arguments members { root := spec.argumentName } field = .ok parts)
        fields parts ∧
      form = { boundary, parts := parts.flatten } := by
  unfold build at h
  cases hv : present value with
  | none =>
      rw [present] at hv
      simp only [hv] at h
      split at h <;> cases h
  | some v =>
      rw [present] at hv
      simp only [hv] at h
      obtain ⟨payload, hpayload, hlast⟩ := bind_eq_ok.mp h
      cases hlast
      have hform := form_of_payload hpayload
      rw [form_eq] at hform
      obtain ⟨⟨fields, members⟩, hmembers, hform⟩ := bind_eq_ok.mp hform
      obtain ⟨parts, hparts, hform⟩ := bind_eq_ok.mp hform
      exact ⟨v, fields, members, parts, rfl, hmembers, mapM_eq_ok hparts,
        (Except.ok.inj hform).symm⟩

theorem build_of_form {spec : BodySpec} {r : Registry} {boundary : String} {value : Option Value}
    {arguments : Arguments} {v : Value} {form : Form}
    (hmedia : MediaType.ofContentType spec.contentType = MediaType.multipart)
    (hv : present value = some v)
    (h : spec.form r boundary v arguments { root := spec.argumentName } = .ok form) :
    spec.build r boundary value arguments = .ok (some (.multipart form)) := by
  have hpayload : spec.payload r boundary v arguments = .ok (.multipart form) := by
    unfold payload
    dsimp only
    rw [hmedia, if_neg (by decide), if_neg (by decide), if_pos rfl, h]
    rfl
  unfold build
  rw [present] at hv
  simp only [hv, hpayload]
  rfl

end BodySpec

end ApiCall
