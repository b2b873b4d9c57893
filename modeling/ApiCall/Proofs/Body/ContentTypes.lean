import ApiCall.Proofs.Body.Form
import ApiCall.Proofs.Multipart.HeaderLines
import Mathlib

/-!
Where the content types of form parts come from. Header values are checked and declared content
types belong to the description, but the media type of a data URI is taken as it stands. A form's
header blocks are whole exactly when no media type that becomes a content type has a line break
(`BodySpec.form_unbroken_iff`).
-/

namespace ApiCall

open Json

/-- The media type that a data URI declares, whatever its payload. -/
def Binary.declaredType? : Value → Option String
  | .string text => do
    let uri ← Split.after? "data:".toList text.toList
    let (header, _) ← Split.once ',' uri
    let media := ((Split.before? ";base64".toList header).getD header).takeWhile (· != ';')
    if media.isEmpty then none else some (String.ofList media)
  | _ => none

theorem Binary.mediaType_of_ofValue {value : Value} {path : FieldPath} {binary : Binary}
    (h : Binary.ofValue value path = .ok binary) :
    binary.mediaType = Binary.declaredType? value := by
  cases value with
  | string text =>
      simp only [ofValue] at h
      simp only [declaredType?]
      cases huri : Split.after? "data:".toList text.toList with
      | none =>
          rw [huri] at h
          obtain ⟨_, _, hlast⟩ := bind_eq_ok.mp h
          cases hlast
          rfl
      | some uri =>
          simp only [huri, ofDataUri] at h
          cases hsplit : Split.once ',' uri with
          | none =>
              rw [hsplit] at h
              cases h
          | some pair =>
              obtain ⟨header, payload⟩ := pair
              simp only [hsplit] at h
              cases hbase : Split.before? ";base64".toList header with
              | none =>
                  rw [hbase] at h
                  obtain rfl := Except.ok.inj h
                  simp only [Option.bind_eq_bind, Option.bind_some, hsplit, hbase, Option.getD_none]
              | some before =>
                  simp only [hbase] at h
                  obtain ⟨_, _, hlast⟩ := bind_eq_ok.mp h
                  obtain rfl := Except.ok.inj hlast
                  simp only [Option.bind_eq_bind, Option.bind_some, hsplit, hbase, Option.getD_some]
  | _ => cases h

/-- The elements of an array; other values have none. -/
def Json.Value.elements : Value → List Value
  | .array elements => elements
  | _ => []

/-- The values of a field that are sent as files. -/
def Registry.fileValues (r : Registry) (schema : Schema) (value : Value) : List Value :=
  if r.isBinary schema.unwrapNullable then [value]
  else
    match r.resolve schema.unwrapNullable with
    | .array items => if r.isBinary items then value.elements else []
    | _ => []

/-- The directive leaves the content type to the content: it declares no type, and none of the
headers that it takes from arguments is a content type. -/
def Directive.LeavesType (d : Directive) (r : Registry) (arguments : Arguments) : Prop :=
  d.primaryContentType = none ∧
    ∀ headers, d.partHeaders r arguments = .ok headers →
      ∀ header ∈ headers, sameIgnoringCase header.1 "content-type" = false

/-- The names and values of a directive's headers have been checked. -/
theorem Directive.unbroken_of_partHeaders {d : Directive} {r : Registry} {arguments : Arguments}
    {headers : List (String × String)} (h : d.partHeaders r arguments = .ok headers) :
    ∀ header ∈ headers, Unbroken header.1 ∧ Unbroken header.2 := by
  unfold partHeaders at h
  obtain ⟨groups, hgroups, hlast⟩ := bind_eq_ok.mp h
  cases hlast
  intro header hmem
  obtain ⟨group, hgroup, hheader⟩ := List.mem_flatten.mp hmem
  obtain ⟨declared, _, hbuilt⟩ := exists_of_mem_right (mapM_eq_ok hgroups) hgroup
  obtain ⟨items, _, hbuilt⟩ := bind_eq_ok.mp hbuilt
  split at hbuilt
  · cases hbuilt
    cases hheader
  · rename_i value _
    split at hbuilt
    · rename_i hname hvalue
      cases hbuilt
      obtain rfl := List.mem_singleton.mp hheader
      exact ⟨unbroken_of_headerName hname, unbroken_of_headerValue hvalue⟩
    · cases hbuilt
    · cases hbuilt

namespace Part

/-- Names and values of the further headers have no line break. -/
def HeadersChecked (p : Part) : Prop :=
  ∀ header ∈ p.headers, Unbroken header.1 ∧ Unbroken header.2

theorem withHeader_checked {p : Part} {name text : String} (hp : p.HeadersChecked)
    (hname : Unbroken name) (htext : Unbroken text) : (p.withHeader name text).HeadersChecked := by
  unfold withHeader
  split
  · exact hp
  · intro header hmem
    rcases List.mem_append.mp hmem with hmem | hmem
    · exact hp header hmem
    · obtain rfl := List.mem_singleton.mp hmem
      exact ⟨hname, htext⟩

theorem withHeaders_checked {headers : List (String × String)}
    (hheaders : ∀ header ∈ headers, Unbroken header.1 ∧ Unbroken header.2) {p : Part}
    (hp : p.HeadersChecked) : (p.withHeaders headers).HeadersChecked := by
  induction headers generalizing p with
  | nil => exact hp
  | cons header headers ih =>
      obtain ⟨hname, htext⟩ := hheaders header List.mem_cons_self
      exact ih (fun header hmem => hheaders header (List.mem_cons_of_mem _ hmem))
        (withHeader_checked hp hname htext)

/-- A checked header may take the place of the content type. -/
theorem withHeaders_typeUnbroken_iff {headers : List (String × String)}
    (hheaders : ∀ header ∈ headers, Unbroken header.1 ∧ Unbroken header.2) (p : Part) :
    (p.withHeaders headers).TypeUnbroken ↔
      (∃ header ∈ headers, sameIgnoringCase header.1 "content-type" = true) ∨ p.TypeUnbroken := by
  induction headers generalizing p with
  | nil => simp [withHeaders]
  | cons header headers ih =>
      have hrest := ih (fun header hmem => hheaders header (List.mem_cons_of_mem _ hmem))
        (p.withHeader header.1 header.2)
      rw [show p.withHeaders (header :: headers) =
        (p.withHeader header.1 header.2).withHeaders headers from rfl, hrest]
      by_cases hsame : sameIgnoringCase header.1 "content-type" = true
      · have htext : (p.withHeader header.1 header.2).TypeUnbroken := by
          intro type htype
          rw [withHeader, if_pos hsame] at htype
          obtain rfl := Option.some.inj htype
          exact (hheaders header List.mem_cons_self).2
        exact iff_of_true (Or.inr htext) (Or.inl ⟨header, List.mem_cons_self, hsame⟩)
      · rw [withHeader, if_neg hsame]
        simp only [List.mem_cons, exists_eq_or_imp, hsame, Bool.false_eq_true, false_or]
        rfl

end Part

/-- The parts of a file carry no further header, and their content type is whole exactly when a
media type that decides it is. -/
theorem filePart_typeUnbroken_iff {name : String} {value : Value} {d : Directive} {path : FieldPath}
    {part : Part} (hdeclared : ∀ type, d.primaryContentType = some type → Unbroken type)
    (h : filePart name value d path = .ok part) :
    part.headers = [] ∧ (part.TypeUnbroken ↔
      (d.primaryContentType = none →
        ∀ media, Binary.declaredType? value = some media → Unbroken media)) := by
  unfold filePart at h
  obtain ⟨binary, hbinary, hlast⟩ := bind_eq_ok.mp h
  obtain rfl := Except.ok.inj hlast
  rw [← Binary.mediaType_of_ofValue hbinary]
  refine ⟨rfl, ?_⟩
  unfold Part.TypeUnbroken
  cases hprimary : d.primaryContentType with
  | some type =>
      have htype := hdeclared type hprimary
      simpa [Part.withContentType] using htype
  | none =>
      cases binary.mediaType with
      | some media => simp [Part.withContentType]
      | none =>
          have hoctets : Unbroken MediaType.octetStream := by decide
          simpa [Part.withContentType] using hoctets

theorem fileParts_eq_ok {name : String} {d : Directive} {path : FieldPath} {i : Nat}
    {elements : List Value} {parts : List Part} (h : fileParts name d path i elements = .ok parts) :
    List.Forall₂ (fun element part => ∃ path, filePart name element d path = .ok part)
      elements parts := by
  induction elements generalizing i parts with
  | nil =>
      obtain rfl := Except.ok.inj h
      exact .nil
  | cons element rest ih =>
      unfold fileParts at h
      obtain ⟨part, hpart, hrest⟩ := bind_eq_ok.mp h
      obtain ⟨others, hothers, hlast⟩ := bind_eq_ok.mp hrest
      obtain rfl := Except.ok.inj hlast
      exact .cons ⟨_, hpart⟩ (ih hothers)

theorem textParts_typeUnbroken {r : Registry} {name : String} {schema : Schema} {value : Value}
    {d : Directive} {path : FieldPath} {parts : List Part}
    (hdeclared : ∀ type, d.primaryContentType = some type → Unbroken type)
    (h : textParts r name schema value d path = .ok parts) :
    ∀ part ∈ parts, part.headers = [] ∧ part.TypeUnbroken := by
  have hjson : Unbroken MediaType.json := by decide
  unfold textParts at h
  obtain ⟨items, _, hlast⟩ := bind_eq_ok.mp h
  dsimp only at hlast
  split at hlast
  · obtain rfl := Except.ok.inj hlast
    intro part hmem
    obtain rfl := List.mem_singleton.mp hmem
    refine ⟨rfl, ?_⟩
    intro type htype
    obtain rfl := Option.some.inj htype
    cases hprimary : d.primaryContentType with
    | none => exact hjson
    | some type => exact hdeclared type hprimary
  · obtain rfl := Except.ok.inj hlast
    intro part hmem
    obtain ⟨entry, _, rfl⟩ := List.mem_map.mp hmem
    exact ⟨rfl, hdeclared⟩

/-- The parts of a field are those of its files, one for each, or there are no files and the parts
are written as text. -/
theorem fieldParts_cases {r : Registry} {name : String} {schema : Schema} {value : Value}
    {d : Directive} {path : FieldPath} {parts : List Part}
    (h : fieldParts r name schema value d path = .ok parts) :
    List.Forall₂ (fun file part => ∃ path, filePart name file d path = .ok part)
        (r.fileValues schema value) parts ∨
      r.fileValues schema value = [] ∧
        textParts r name schema.unwrapNullable value d path = .ok parts := by
  unfold fieldParts at h
  unfold Registry.fileValues
  dsimp only at h ⊢
  by_cases hbinary : r.isBinary schema.unwrapNullable = true
  · rw [if_pos hbinary] at h ⊢
    obtain ⟨part, hpart, hlast⟩ := bind_eq_ok.mp h
    obtain rfl := Except.ok.inj hlast
    exact Or.inl (.cons ⟨path, hpart⟩ .nil)
  · rw [if_neg hbinary] at h ⊢
    cases hshape : r.resolve schema.unwrapNullable with
    | array items =>
        simp only [hshape] at h ⊢
        by_cases hitems : r.isBinary items = true
        · rw [if_pos hitems] at h ⊢
          cases value with
          | array elements => exact Or.inl (fileParts_eq_ok h)
          | _ => cases h
        · rw [if_neg hitems] at h ⊢
          exact Or.inr ⟨rfl, h⟩
    | _ =>
        simp only [hshape] at h
        exact Or.inr ⟨rfl, h⟩

/-- The content types of a field are whole exactly when the media types of its files are, unless the
directive declares the type. -/
theorem fieldParts_typeUnbroken_iff {r : Registry} {name : String} {schema : Schema} {value : Value}
    {d : Directive} {path : FieldPath} {parts : List Part}
    (hdeclared : ∀ type, d.primaryContentType = some type → Unbroken type)
    (h : fieldParts r name schema value d path = .ok parts) :
    (∀ part ∈ parts, part.headers = []) ∧
      ((∀ part ∈ parts, part.TypeUnbroken) ↔ ∀ file ∈ r.fileValues schema value,
        d.primaryContentType = none →
          ∀ media, Binary.declaredType? file = some media → Unbroken media) := by
  rcases fieldParts_cases h with hfiles | ⟨hnone, htext⟩
  · constructor
    · intro part hmem
      obtain ⟨file, _, path, hpart⟩ := exists_of_mem_right hfiles hmem
      exact (filePart_typeUnbroken_iff hdeclared hpart).1
    · refine (forall_mem_iff_of_forall₂ hfiles ?_).symm
      rintro file part ⟨path, hpart⟩
      exact (filePart_typeUnbroken_iff hdeclared hpart).2.symm
  · have hparts := textParts_typeUnbroken hdeclared htext
    refine ⟨fun part hmem => (hparts part hmem).1, iff_of_true ?_ ?_⟩
    · exact fun part hmem => (hparts part hmem).2
    · rw [hnone]
      exact fun file hmem => absurd hmem List.not_mem_nil

namespace BodySpec

/-- No declared content type has a line break. -/
def TypesUnbroken (spec : BodySpec) : Prop :=
  ∀ entry ∈ spec.encoding, ∀ types, entry.2.contentTypes = some types →
    ∀ type ∈ types, Unbroken type

/-- A file of the field brings its media type, and the directive leaves the content type to it. -/
def FieldTakes (spec : BodySpec) (r : Registry) (arguments : Arguments)
    (members : List (String × Value)) (field : String × Schema) (media : String) : Prop :=
  ∃ v, present (members.lookup field.1) = some v ∧
    (spec.directive field.1).LeavesType r arguments ∧
    ∃ file ∈ r.fileValues field.2 v, Binary.declaredType? file = some media

/-- Some field of the form takes the media type for a content type. -/
def TakesMediaType (spec : BodySpec) (r : Registry) (arguments : Arguments) (value : Option Value)
    (media : String) : Prop :=
  ∃ v fields members, present value = some v ∧
    spec.members r v { root := spec.argumentName } = .ok (fields, members) ∧
    ∃ field ∈ fields, spec.FieldTakes r arguments members field media

theorem primaryContentType_unbroken {spec : BodySpec} (h : spec.TypesUnbroken) (field : String) :
    ∀ type, (spec.directive field).primaryContentType = some type → Unbroken type := by
  refine forall_directive (P := fun d => ∀ type, d.primaryContentType = some type → Unbroken type)
    ?_ field ?_
  · intro entry hentry type htype
    obtain ⟨types, htypes, hhead⟩ := Option.bind_eq_some_iff.mp htype
    exact h entry hentry types htypes type (List.mem_of_head? hhead)
  · intro type htype
    cases htype

theorem partsOf_unbroken_iff {spec : BodySpec} {r : Registry} {arguments : Arguments}
    {members : List (String × Value)} {path : FieldPath} {field : String × Schema}
    {parts : List Part} (hdeclared : spec.TypesUnbroken)
    (h : spec.partsOf r arguments members path field = .ok parts) :
    (∀ part ∈ parts, part.HeadersChecked) ∧
      ((∀ part ∈ parts, part.TypeUnbroken) ↔
        ∀ media, spec.FieldTakes r arguments members field media → Unbroken media) := by
  unfold partsOf at h
  cases hv : present (members.lookup field.1) with
  | none =>
      rw [hv] at h
      dsimp only at h
      split at h
      · obtain rfl := Except.ok.inj h
        refine ⟨by simp, iff_of_true (by simp) ?_⟩
        rintro media ⟨v, hpresent, _⟩
        rw [hv] at hpresent
        cases hpresent
      · cases h
  | some v =>
      rw [hv] at h
      obtain ⟨headers, hheaders, hrest⟩ := bind_eq_ok.mp h
      obtain ⟨built, hbuilt, hlast⟩ := bind_eq_ok.mp hrest
      obtain rfl := Except.ok.inj hlast
      have hchecked := Directive.unbroken_of_partHeaders hheaders
      obtain ⟨hplain, hiff⟩ :=
        fieldParts_typeUnbroken_iff (primaryContentType_unbroken hdeclared field.1) hbuilt
      rw [List.forall_mem_map, List.forall_mem_map]
      constructor
      · intro part hmem
        refine Part.withHeaders_checked hchecked ?_
        intro header hheader
        rw [hplain part hmem] at hheader
        cases hheader
      · simp only [Part.withHeaders_typeUnbroken_iff hchecked]
        -- a content type among the headers replaces that of every part, and it has been checked
        by_cases htyped : ∃ header ∈ headers, sameIgnoringCase header.1 "content-type" = true
        · obtain ⟨header, hmem, hsame⟩ := htyped
          refine iff_of_true (fun _ _ => Or.inl ⟨header, hmem, hsame⟩) ?_
          rintro media ⟨_, _, ⟨_, hopen⟩, _⟩
          rw [hopen headers hheaders header hmem] at hsame
          cases hsame
        · simp only [htyped, false_or, hiff]
          constructor
          · rintro hfiles media ⟨w, hw, ⟨hprimary, _⟩, file, hfile, hmedia⟩
            rw [hv] at hw
            obtain rfl := Option.some.inj hw
            exact hfiles file hfile hprimary media hmedia
          · intro htakes file hfile hprimary media hmedia
            refine htakes media ⟨v, hv, ⟨hprimary, ?_⟩, file, hfile, hmedia⟩
            intro others hothers header hmem
            rw [hheaders] at hothers
            obtain rfl := Except.ok.inj hothers
            exact Bool.eq_false_iff.mpr fun hsame => htyped ⟨header, hmem, hsame⟩

/-- No content type and no header value of a form has a line break exactly when no media type of a
data URI brings one, and then every header block is read back line by line. -/
theorem form_unbroken_iff {spec : BodySpec} {r : Registry} {boundary : String}
    {value : Option Value} {arguments : Arguments} {form : Form} (hdeclared : spec.TypesUnbroken)
    (h : spec.build r boundary value arguments = .ok (some (.multipart form))) :
    ((∀ part ∈ form.parts, part.HeadersUnbroken) ↔
        ∀ media, spec.TakesMediaType r arguments value media → Unbroken media) ∧
      ((∀ media, spec.TakesMediaType r arguments value media → Unbroken media) →
        ∀ part ∈ form.parts,
          Part.readHead? part.write = some (part.headerLines.map bytesOf, part.data)) := by
  obtain ⟨v, fields, members, parts, hv, hmembers, hparts, rfl⟩ := form_of_build h
  have hfield {field : String × Schema} {built : List Part}
      (hbuilt : spec.partsOf r arguments members { root := spec.argumentName } field = .ok built) :=
    partsOf_unbroken_iff hdeclared hbuilt
  have hchecked : ∀ part ∈ parts.flatten, part.HeadersChecked := by
    intro part hmem
    obtain ⟨built, hbuilt, hpart⟩ := List.mem_flatten.mp hmem
    obtain ⟨field, _, hfieldParts⟩ := exists_of_mem_right hparts hbuilt
    exact (hfield hfieldParts).1 part hpart
  have hunbroken : (∀ part ∈ parts.flatten, part.HeadersUnbroken) ↔
      ∀ media, spec.TakesMediaType r arguments value media → Unbroken media := by
    calc
      (∀ part ∈ parts.flatten, part.HeadersUnbroken)
        ↔ ∀ part ∈ parts.flatten, part.TypeUnbroken := by
          refine forall₂_congr fun part hmem => and_iff_left ?_
          exact fun header hheader => (hchecked part hmem header hheader).2
      _ ↔ ∀ built ∈ parts, ∀ part ∈ built, part.TypeUnbroken := List.forall_mem_flatten
      _ ↔ ∀ field ∈ fields, ∀ media,
          spec.FieldTakes r arguments members field media → Unbroken media :=
        (forall_mem_iff_of_forall₂ hparts fun _ _ hbuilt => (hfield hbuilt).2.symm).symm
      _ ↔ ∀ media, spec.TakesMediaType r arguments value media → Unbroken media := by
        constructor
        · rintro hfields media ⟨w, others, found, hw, hfound, field, hmem, htakes⟩
          rw [hv] at hw
          obtain rfl := Option.some.inj hw
          rw [hmembers] at hfound
          obtain ⟨rfl, rfl⟩ := Prod.mk.inj (Except.ok.inj hfound)
          exact hfields field hmem media htakes
        · intro hmedia field hmem media htakes
          exact hmedia media ⟨v, fields, members, hv, hmembers, field, hmem, htakes⟩
  refine ⟨hunbroken, fun hmedia part hmem => Part.readHead?_write ?_⟩
  have hnames : ∀ header ∈ part.headers, Unbroken header.1 :=
    fun header hheader => (hchecked part hmem header hheader).1
  exact (Part.headerLines_unbroken_iff hnames).mpr (hunbroken.mpr hmedia part hmem)

/-- A data URI of plain text. -/
theorem form_unbroken_of_plain_text :
    let spec : BodySpec :=
      { contentType := "multipart/form-data", schema := .object [("file", .scalar .binary)] }
    let arguments : Arguments := [("body", .object [("file", .string "data:text/plain,abc")])]
    let part : Part :=
      { name := "file", filename := some "file", contentType := some "text/plain",
        data := bytesOf "abc" }
    spec.TypesUnbroken ∧
      spec.build {} "B" (arguments.lookup "body") arguments =
        .ok (some (.multipart { boundary := "B", parts := [part] })) ∧
      (∀ media, spec.TakesMediaType {} arguments (arguments.lookup "body") media →
        Unbroken media) ∧
      Part.readHead? part.write = some (part.headerLines.map bytesOf, part.data) := by
  intro spec arguments part
  have htypes : spec.TypesUnbroken := by
    intro entry hentry
    cases hentry
  have hbuild : spec.build {} "B" (arguments.lookup "body") arguments =
      .ok (some (.multipart { boundary := "B", parts := [part] })) :=
    build_of_form (by cbv) rfl (by cbv)
  obtain ⟨hiff, hread⟩ := form_unbroken_iff htypes hbuild
  have hpart : part.HeadersUnbroken := by
    constructor
    · intro type htype
      obtain rfl := Option.some.inj htype
      decide
    · intro header hheader
      cases hheader
  have hmedia := hiff.mp (List.forall_mem_singleton.mpr hpart)
  exact ⟨htypes, hbuild, hmedia, hread hmedia part List.mem_cons_self⟩

/-- A media type that ends its line brings a header of its own into the block. -/
theorem form_broken_by_media_type :
    let spec : BodySpec :=
      { contentType := "multipart/form-data", schema := .object [("file", .scalar .binary)] }
    let arguments : Arguments :=
      [("body", .object [("file", .string "data:text/plain\r\nX-Forged: yes,abc")])]
    let part : Part :=
      { name := "file", filename := some "file",
        contentType := some "text/plain\r\nX-Forged: yes", data := bytesOf "abc" }
    spec.TypesUnbroken ∧
      spec.build {} "B" (arguments.lookup "body") arguments =
        .ok (some (.multipart { boundary := "B", parts := [part] })) ∧
      ¬ part.HeadersUnbroken ∧
      Part.readHead? part.write = some
        ([bytesOf "Content-Disposition: form-data; name=\"file\"; filename=\"file\"",
          bytesOf "Content-Type: text/plain", bytesOf "X-Forged: yes"], bytesOf "abc") := by
  intro spec arguments part
  refine ⟨?_, build_of_form (by cbv) rfl (by cbv), ?_, by decide +kernel⟩
  · intro entry hentry
    cases hentry
  · intro hpart
    exact absurd (hpart.1 _ rfl) (by decide)

end BodySpec

end ApiCall
