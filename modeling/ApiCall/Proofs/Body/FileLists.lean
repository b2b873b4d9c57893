import ApiCall.Proofs.Body.BinaryContent
import ApiCall.Proofs.Query.StyleTable

/-!
Lists of files whose items may be null. The encoder of values leaves such items out, but the files
of a form are decoded one by one, and a null is no binary content. So a list is sent exactly when it
has no null (`BodySpec.file_list_sent_iff`), and then each item has a part with its bytes.
-/

namespace ApiCall

open Json

namespace Binary

/-- What a value is decoded to does not depend on where it stands, only the error does. -/
theorem ofValue_eq_ok_at {v : Value} {path : FieldPath} {content : Binary}
    (h : ofValue v path = .ok content) (other : FieldPath) : ofValue v other = .ok content := by
  cases v with
  | string text =>
      unfold ofValue at h ⊢
      cases huri : Split.after? "data:".toList text.toList with
      | none =>
          simp only [huri] at h ⊢
          obtain ⟨data, hdata, hlast⟩ := bind_eq_ok.mp h
          exact bind_eq_ok.mpr ⟨data, base64_eq_ok_iff.mpr (base64_eq_ok_iff.mp hdata), hlast⟩
      | some uri =>
          simp only [huri] at h ⊢
          unfold ofDataUri at h ⊢
          cases hsplit : Split.once ',' uri with
          | none =>
              rw [hsplit] at h
              cases h
          | some pair =>
              obtain ⟨header, payload⟩ := pair
              simp only [hsplit] at h ⊢
              cases hbase : Split.before? ";base64".toList header with
              | none =>
                  simp only [hbase] at h ⊢
                  exact h
              | some before =>
                  simp only [hbase] at h ⊢
                  obtain ⟨data, hdata, hlast⟩ := bind_eq_ok.mp h
                  exact bind_eq_ok.mpr
                    ⟨data, base64_eq_ok_iff.mpr (base64_eq_ok_iff.mp hdata), hlast⟩
  | _ => cases h

theorem exists_string_of_ofValue {v : Value} {path : FieldPath} {content : Binary}
    (h : ofValue v path = .ok content) : ∃ text, v = .string text := by
  cases v with
  | string text => exact ⟨text, rfl⟩
  | _ => cases h

end Binary

/-- The part of decoded content. -/
def Directive.fileOf (d : Directive) (name : String) (content : Binary) : Part :=
  (Part.ofFile name name content.data).withContentType
    ((d.primaryContentType.or content.mediaType).getD MediaType.octetStream)

theorem filePart_of_content {name : String} {v : Value} {d : Directive} {path : FieldPath}
    {content : Binary} (h : Binary.ofValue v path = .ok content) :
    filePart name v d path = .ok (d.fileOf name content) := by
  rw [filePart, h]
  rfl

theorem fileParts_of_contents {elements : List Value} {contents : List Binary} {place : FieldPath}
    (h : List.Forall₂ (fun element content => Binary.ofValue element place = .ok content)
      elements contents) (name : String) (d : Directive) (path : FieldPath) (i : Nat) :
    fileParts name d path i elements = .ok (contents.map (d.fileOf name)) := by
  induction h generalizing i with
  | nil => rfl
  | cons hone _ ih =>
      rw [fileParts, filePart_of_content (Binary.ofValue_eq_ok_at hone _), ih (i + 1)]
      rfl

/-- The first null ends a list of files, at its index. -/
theorem fileParts_null {before : List Value} {place : FieldPath}
    (h : ∀ element ∈ before, ∃ content, Binary.ofValue element place = .ok content)
    (after : List Value) (name : String) (d : Directive) (path : FieldPath) (i : Nat) :
    fileParts name d path i (before ++ .null :: after) =
      .error (.mismatchAt (path.index (i + before.length)) "binary" .null) := by
  induction before generalizing i with
  | nil => rfl
  | cons element rest ih =>
      obtain ⟨⟨content, hone⟩, hrest⟩ := List.forall_mem_cons.mp h
      rw [List.cons_append, fileParts, filePart_of_content (Binary.ofValue_eq_ok_at hone _),
        ih hrest (i + 1), List.length_cons, Nat.add_right_comm, Nat.add_assoc]
      rfl

namespace Registry

variable {r : Registry} {schema items : Schema}

theorem isBinary_eq_true_iff :
    r.isBinary schema = true ↔ r.resolve schema.unwrapNullable = .scalar .binary := by
  unfold isBinary
  split
  · rename_i hshape
    simp [hshape]
  · rename_i hshape
    simpa using hshape

theorem fieldParts_of_fileList (hs : r.resolve schema.unwrapNullable = .array items)
    (hitems : r.isBinary items = true) (name : String) (elements : List Value) (d : Directive)
    (path : FieldPath) :
    fieldParts r name schema (.array elements) d path = fileParts name d path 0 elements := by
  have hlist : ¬ r.isBinary schema.unwrapNullable = true := by
    rw [r.isBinary_unwrapNullable, isBinary_eq_true_iff, hs]
    exact fun h => nomatch h
  unfold fieldParts
  rw [if_neg hlist, hs]
  simp only [hitems, if_true]

theorem Conforms.of_unwrapNullable {v : Value} (h : r.Conforms schema.unwrapNullable (some v)) :
    r.Conforms schema (some v) := by
  induction schema using Schema.unwrapNullable.induct with
  | case1 underlying ih => exact .nullable (ih h)
  | case2 schema hplain =>
      rwa [Schema.unwrapNullable_of_isNullable (Schema.isNullable_eq_false hplain)] at h

/-- The encoder takes a list of strings and nulls where the items are nullable binary ones, and its
items hold the texts of the elements that are there. -/
theorem encode_fileList (hs : r.resolve schema.unwrapNullable = .array items)
    (hitems : r.isBinary items = true) (hnullable : items.isNullable = true)
    {elements : List Value}
    (h : ∀ element ∈ elements, element.isNull = false → ∃ text, element = .string text)
    (path : FieldPath) :
    ∃ texts, r.elementTexts? items (some (.array elements)) = some texts ∧
      r.encode schema (some (.array elements)) path =
        .ok (Items.group (texts.map fun text => ⟨[.element], text⟩)) := by
  have hkind := isBinary_eq_true_iff.mp hitems
  have hconforms : r.Conforms schema (some (.array elements)) := by
    refine .of_unwrapNullable (.array hs ?_)
    intro element helement
    cases hnull : element.isNull with
    | true =>
        cases items with
        | nullable underlying => exact .absent (by simp [present, hnull])
        | _ => cases hnullable
    | false =>
        obtain ⟨text, rfl⟩ := h element helement hnull
        have htaken : ScalarKind.binary.Takes (.string text) := trivial
        exact .of_unwrapNullable (.scalar hkind rfl htaken)
  obtain ⟨leaves, hleaves, hwalk⟩ := encodeInto_of_conforms hconforms
  rw [leaves?_some rfl, hs, shapeLeaves?] at hleaves
  obtain ⟨texts, htexts, rfl⟩ := elementLeaves?_of_isScalar ⟨.binary, hkind⟩ hleaves
  refine ⟨texts, htexts, ?_⟩
  rw [encode, hwalk, Items.addLeaves_eq_group]

end Registry

namespace BodySpec

variable {spec : BodySpec} {r : Registry} {arguments : Arguments}
  {members : List (String × Value)} {field : String × Schema} {items : Schema}

/-- The parts of a list of files are those of the files, with the headers of the field. -/
theorem partsOf_fileList {headers : List (String × String)} {elements : List Value}
    (hs : r.resolve field.2.unwrapNullable = .array items) (hitems : r.isBinary items = true)
    (hheaders : (spec.directive field.1).partHeaders r arguments = .ok headers)
    (hvalue : members.lookup field.1 = some (.array elements)) (path : FieldPath) :
    spec.partsOf r arguments members path field =
      (fileParts field.1 (spec.directive field.1) (path.field field.1) 0 elements).map
        (List.map (Part.withHeaders headers)) := by
  have hpresent : present (members.lookup field.1) = some (.array elements) := by
    rw [hvalue]
    rfl
  unfold partsOf
  rw [hpresent]
  dsimp only
  rw [hheaders]
  change (fieldParts r field.1 field.2 (.array elements) _ _ >>= _) = _
  rw [r.fieldParts_of_fileList hs hitems]
  cases fileParts field.1 (spec.directive field.1) (path.field field.1) 0 elements <;> rfl

/-- A list of nullable files is sent exactly when it has no null, and then there is one part for
each file, in order and with its bytes. The first null is refused, although the encoder of values
takes the same list and leaves the nulls out. -/
theorem file_list_sent_iff {headers : List (String × String)} {elements : List Value}
    {contents : List Binary} {path : FieldPath}
    (hs : r.resolve field.2.unwrapNullable = .array items) (hitems : r.isBinary items = true)
    (hnullable : items.isNullable = true)
    (hheaders : (spec.directive field.1).partHeaders r arguments = .ok headers)
    (hvalue : members.lookup field.1 = some (.array elements))
    (hcontents : List.Forall₂ (fun element content => Binary.ofValue element path = .ok content)
      (elements.filter (!·.isNull)) contents) :
    ((∃ parts, spec.partsOf r arguments members path field = .ok parts) ↔
        ∀ element ∈ elements, element.isNull = false) ∧
      ((∀ element ∈ elements, element.isNull = false) →
        spec.partsOf r arguments members path field = .ok (contents.map fun content =>
          ((spec.directive field.1).fileOf field.1 content).withHeaders headers)) ∧
      (∀ before after, elements = before ++ .null :: after →
        (∀ element ∈ before, element.isNull = false) →
        spec.partsOf r arguments members path field =
          .error (.mismatchAt ((path.field field.1).index before.length) "binary" .null)) ∧
      ∃ texts, r.elementTexts? items (some (.array elements)) = some texts ∧
        r.encode field.2 (some (.array elements)) (path.field field.1) =
          .ok (Items.group (texts.map fun text => ⟨[.element], text⟩)) := by
  have hparts : spec.partsOf r arguments members path field =
      (fileParts field.1 (spec.directive field.1) (path.field field.1) 0 elements).map
        (List.map (Part.withHeaders headers)) :=
    partsOf_fileList hs hitems hheaders hvalue path
  have hdecodes : ∀ element ∈ elements, element.isNull = false →
      ∃ content, Binary.ofValue element path = .ok content := by
    intro element helement hnull
    have hmem : element ∈ elements.filter (!·.isNull) :=
      List.mem_filter.mpr ⟨helement, by rw [hnull]; rfl⟩
    obtain ⟨content, -, hcontent⟩ := exists_of_mem_right hcontents.flip hmem
    exact ⟨content, hcontent⟩
  have hsent : (∀ element ∈ elements, element.isNull = false) →
      spec.partsOf r arguments members path field = .ok (contents.map fun content =>
        ((spec.directive field.1).fileOf field.1 content).withHeaders headers) := by
    intro hpresent
    rw [filter_of_not_isNull hpresent] at hcontents
    rw [hparts, fileParts_of_contents hcontents]
    exact congrArg Except.ok (List.map_map ..)
  refine ⟨⟨?_, fun hpresent => ⟨_, hsent hpresent⟩⟩, hsent, ?_, ?_⟩
  · rintro ⟨parts, hok⟩ element helement
    rw [hparts] at hok
    cases hfiles : fileParts field.1 (spec.directive field.1) (path.field field.1) 0 elements with
    | error e =>
        rw [hfiles] at hok
        cases hok
    | ok built =>
        obtain ⟨part, -, place, hfile⟩ := exists_of_mem_right (fileParts_eq_ok hfiles).flip helement
        obtain ⟨content, hcontent, -⟩ := bind_eq_ok.mp hfile
        obtain ⟨text, rfl⟩ := Binary.exists_string_of_ofValue hcontent
        rfl
  · rintro before after rfl hbefore
    have hdecoded : ∀ element ∈ before, ∃ content, Binary.ofValue element path = .ok content :=
      fun element helement =>
        hdecodes element (List.mem_append_left _ helement) (hbefore element helement)
    rw [hparts, fileParts_null hdecoded, Nat.zero_add]
    rfl
  · refine r.encode_fileList hs hitems hnullable ?_ (path.field field.1)
    intro element helement hnull
    obtain ⟨content, hcontent⟩ := hdecodes element helement hnull
    exact Binary.exists_string_of_ofValue hcontent

/-- A data URI and bare base64, for a named type. -/
theorem file_list_sent_of_two :
    let r : Registry := { scalars := [("File", .binary)] }
    let field : String × Schema := ("photos", .nullable (.array (.nullable (.named "File"))))
    let spec : BodySpec := { contentType := "multipart/form-data", schema := .object [field] }
    let elements : List Value := [.string "data:image/png,%41", .string "QUI="]
    let contents : List Binary := [⟨some "image/png", [65]⟩, ⟨none, [65, 66]⟩]
    let part (type : String) (data : Bytes) : Part :=
      { name := "photos", filename := some "photos", contentType := some type, data }
    List.Forall₂ (fun element content => Binary.ofValue element { root := "body" } = .ok content)
        (elements.filter (!·.isNull)) contents ∧
      spec.partsOf r [] [("photos", .array elements)] { root := "body" } field =
        .ok [part "image/png" [65], part "application/octet-stream" [65, 66]] ∧
      r.encode field.2 (some (.array elements)) { root := "photos" } =
        .ok [⟨[.element], ["data:image/png,%41", "QUI="]⟩] := by
  intro r field spec elements contents part
  have hcontents : List.Forall₂
      (fun element content => Binary.ofValue element { root := "body" } = .ok content)
      (elements.filter (!·.isNull)) contents :=
    .cons (by cbv) (.cons (by cbv) .nil)
  have hencoded : r.encode field.2 (some (.array elements)) { root := "photos" } =
      .ok [⟨[.element], ["data:image/png,%41", "QUI="]⟩] := by cbv
  have hs : r.resolve field.2.unwrapNullable = .array (.nullable (.named "File")) := rfl
  have hheaders : (spec.directive "photos").partHeaders r [] = .ok [] := rfl
  have hvalue : [("photos", Value.array elements)].lookup field.1 = some (.array elements) := rfl
  obtain ⟨-, hsent, -⟩ := file_list_sent_iff hs rfl rfl hheaders hvalue hcontents
  exact ⟨hcontents, hsent (by simp [elements, Value.isNull]), hencoded⟩

/-- A null among the files of a list whose items may be null: the body is refused at its index, and
the encoder of values takes the list. -/
theorem file_list_refused_at_null :
    let photos : Schema := .array (.nullable (.scalar .binary))
    let spec : BodySpec :=
      { contentType := "multipart/form-data", schema := .object [("photos", photos)] }
    let list : Value := .array [.string "QQ==", .null]
    spec.build {} "B" (some (.object [("photos", list)])) [] =
        .error (.wrongKind "body.photos.1" "binary" "null") ∧
      Registry.encode {} photos (some list) { root := "photos" } =
        .ok [⟨[.element], ["QQ=="]⟩] := by
  intro photos spec list
  refine ⟨?_, by cbv⟩
  have hform : spec.form {} "B" (.object [("photos", list)]) [] { root := "body" } =
      .error (.wrongKind "body.photos.1" "binary" "null") := by cbv
  rw [build_present spec (show present (some (.object [("photos", list)])) = some _ from rfl),
    payload_multipart spec {} "B" _ [] (by decide)]
  exact bind_eq_error.mpr (Or.inl (bind_eq_error.mpr (Or.inl hform)))

end BodySpec

end ApiCall
