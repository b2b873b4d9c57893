import ApiCall.Proofs.Body.ContentTypes
import ApiCall.Proofs.Body.Encodings
import ApiCall.Proofs.Failure
import ApiCall.Proofs.Text.Base64
import ApiCall.Proofs.Text.MediaType
import ApiCall.Proofs.Text.Percent
import ApiCall.Proofs.Text.Split
import ApiCall.Response
import Mathlib

/-!
Bytes in texts. What a response gives for content that is neither JSON nor text is one of the
spellings that a request takes for the same bytes, as its body or as a file of a form
(`BodySpec.binary_content_survives`). Outside of data URIs there is no other spelling
(`Binary.ofValue_bare_eq_ok_iff`).
-/

namespace ApiCall

open Json

namespace Binary

/-- The texts that stand for bytes, with the media types that they declare: base64 alone, and data
URIs of base64 or of a percent-encoding. -/
inductive Spelling (bytes : Bytes) : String → Option String → Prop where
  | bare : Spelling bytes (String.ofList (Base64.encode bytes)) none
  | base64Uri {media : String} (hcomma : ',' ∉ media.toList) (hsemicolon : ';' ∉ media.toList) :
      Spelling bytes ("data:" ++ media ++ ";base64," ++ String.ofList (Base64.encode bytes))
        (if media = "" then none else some media)
  | percentUri {media payload : String} (hcomma : ',' ∉ media.toList)
      (hsemicolon : ';' ∉ media.toList) (hpayload : Percent.Spells payload.toList bytes) :
      Spelling bytes ("data:" ++ media ++ "," ++ payload) (if media = "" then none else some media)

theorem base64_encode (path : FieldPath) (bytes : Bytes) :
    base64 path (Base64.encode bytes) = .ok bytes := by
  rw [base64, Base64.decode_encode]

theorem base64_eq_ok_iff {path : FieldPath} {text : List Char} {bytes : Bytes} :
    base64 path text = .ok bytes ↔ text = Base64.encode bytes := by
  constructor
  · intro h
    unfold base64 at h
    split at h
    · rename_i data hdecode
      obtain rfl : data = bytes := Except.ok.inj h
      have hread := congrArg Utf8.decode? (Base64.eq_encode_of_decode hdecode)
      rw [Utf8.decode?_encode, Utf8.decode?_encode] at hread
      exact Option.some.inj hread
    · cases h
  · rintro rfl
    exact base64_encode path bytes

/-- A text that is no data URI is accepted for the bytes whose base64 it is, blanks around it
apart. -/
theorem ofValue_bare_eq_ok_iff {text : String} {path : FieldPath} {binary : Binary}
    (hbare : Split.after? "data:".toList text.toList = none) :
    ofValue (.string text) path = .ok binary ↔
      binary.mediaType = none ∧ Blank.trim text.toList = Base64.encode binary.data := by
  have heq : ofValue (.string text) path =
      (base64 path (Blank.trim text.toList) >>= fun data => pure { data }) := by
    rw [ofValue, hbare]
  rw [heq]
  constructor
  · intro h
    obtain ⟨data, hdata, hlast⟩ := bind_eq_ok.mp h
    obtain rfl := Except.ok.inj hlast
    exact ⟨rfl, base64_eq_ok_iff.mp hdata⟩
  · rintro ⟨hmedia, htext⟩
    obtain ⟨media, data⟩ := binary
    obtain rfl : media = none := hmedia
    exact bind_eq_ok.mpr ⟨data, base64_eq_ok_iff.mpr htext, rfl⟩

/-- The text of bytes has neither blanks nor a colon. -/
theorem base64_plain {bytes : Bytes} {c : Char} (h : c ∈ Base64.encode bytes) :
    Blank.isBlank c = false ∧ c ≠ ':' := by
  rcases Base64.mem_encode h with halnum | rfl | rfl | rfl
  · obtain ⟨hlow, hhigh⟩ := Percent.toNat_of_isAlphanum halnum
    constructor
    · simp only [Blank.isBlank, Bool.or_eq_false_iff, decide_eq_false_iff_not, beq_eq_false_iff_ne]
      omega
    · rintro rfl
      cases halnum
  · decide
  · decide
  · decide

theorem ofValue_dataUri (path : FieldPath) (uri : List Char) (text : String)
    (htext : text.toList = "data:".toList ++ uri) :
    ofValue (.string text) path = ofDataUri uri path := by
  rw [ofValue, htext, Split.after?_append]

/-- The media type of a data URI is what stands before the first semicolon. -/
theorem declared_of_not_mem {media : String} (h : ';' ∉ media.toList) :
    (if (media.toList.takeWhile (· != ';')).isEmpty then none
      else some (String.ofList (media.toList.takeWhile (· != ';')))) =
      if media = "" then none else some media := by
  have hwhole : media.toList.takeWhile (· != ';') = media.toList := by
    rw [List.takeWhile_eq_self_iff]
    intro c hc
    exact bne_iff_ne.mpr fun heq => h (heq ▸ hc)
  rw [hwhole, String.ofList_toList]
  simp [List.isEmpty_iff]

/-- Every spelling is accepted for its bytes. -/
theorem Spelling.ofValue_eq {bytes : Bytes} {text : String} {declared : Option String}
    (h : Spelling bytes text declared) (path : FieldPath) :
    ofValue (.string text) path = .ok ⟨declared, bytes⟩ := by
  cases h with
  | bare =>
      have hbare : Split.after? "data:".toList (Base64.encode bytes) = none := by
        rw [Option.eq_none_iff_forall_ne_some]
        intro rest hsome
        have htext := Split.after?_eq_some_iff.mp hsome
        have hcolon : ':' ∈ Base64.encode bytes := by
          rw [htext]
          exact List.mem_append_left rest (by decide)
        exact (base64_plain hcolon).2 rfl
      have htrim : Blank.trim (Base64.encode bytes) = Base64.encode bytes :=
        Blank.trim_of_not_blank fun c hc => (base64_plain hc).1
      rw [← String.toList_ofList (l := Base64.encode bytes)] at hbare
      rw [ofValue_bare_eq_ok_iff hbare, String.toList_ofList]
      exact ⟨rfl, htrim⟩
  | @base64Uri media hcomma hsemicolon =>
      have hheader : ',' ∉ media.toList ++ ";base64".toList := by
        rw [List.mem_append, not_or]
        exact ⟨hcomma, by decide⟩
      have hbefore : Split.before? ";base64".toList (media.toList ++ ";base64".toList) =
          some media.toList := by
        rw [Split.before?, List.reverse_append, Split.after?_append, Option.map_some,
          List.reverse_reverse]
      rw [ofValue_dataUri path (media.toList ++ ";base64".toList ++ ',' :: Base64.encode bytes)
        _ (by simp), ofDataUri, Split.once_append hheader]
      simp only [hbefore, base64_encode]
      exact congrArg (fun declared => Except.ok (Binary.mk declared bytes))
        (declared_of_not_mem hsemicolon)
  | @percentUri media payload hcomma hsemicolon hpayload =>
      have hbefore : Split.before? ";base64".toList media.toList = none := by
        rw [Option.eq_none_iff_forall_ne_some]
        intro header hsome
        obtain ⟨reversed, hafter, -⟩ := Option.map_eq_some_iff.mp hsome
        have hmem : ';' ∈ media.toList.reverse := by
          rw [Split.after?_eq_some_iff.mp hafter]
          exact List.mem_append_left reversed (by decide)
        exact hsemicolon (List.mem_reverse.mp hmem)
      rw [ofValue_dataUri path (media.toList ++ ',' :: payload.toList) _ (by simp), ofDataUri,
        Split.once_append hcomma]
      simp only [hbefore, hpayload.decode_eq]
      exact congrArg (fun declared => Except.ok (Binary.mk declared bytes))
        (declared_of_not_mem hsemicolon)

end Binary

/-- A body that is neither JSON nor text is given as base64. -/
theorem Response.decode_binary {response : Response} {contentType : String}
    (hbody : response.body ≠ []) (htype : response.contentType? = some contentType)
    (hjson : MediaType.isJson contentType = false) (htext : MediaType.isText contentType = false) :
    response.decode = .ok (.string (String.ofList (Base64.encode response.body))) := by
  have hnot : ¬ response.body.isEmpty = true := fun hempty => hbody (List.isEmpty_iff.mp hempty)
  rw [Response.decode, if_neg hnot, htype]
  simp only [hjson, htext]
  rfl

/-! ### Files of a form -/

theorem Part.withHeaders_contentType {headers : List (String × String)}
    (h : ∀ header ∈ headers, sameIgnoringCase header.1 "content-type" = false) (p : Part) :
    (p.withHeaders headers).contentType = p.contentType := by
  rw [withHeaders_contentType_eq, typeHeader?_eq_none_iff.mpr h, Option.none_or]

theorem fileParts_fails_with_file (name : String) (d : Directive) (path : FieldPath) (i : Nat)
    (elements : List Value) :
    FailsAs (fun e => ∃ file ∈ elements, ∃ path, filePart name file d path = .error e)
      (fileParts name d path i elements) := by
  induction elements generalizing i with
  | nil => exact FailsAs.ok []
  | cons element rest ih =>
      unfold fileParts
      refine FailsAs.bind ?_ fun part _ => FailsAs.bind ?_ fun parts _ => FailsAs.ok _
      · intro e he
        exact ⟨element, List.mem_cons_self, _, he⟩
      · intro e he
        obtain ⟨file, hfile, herror⟩ := ih (i + 1) e he
        exact ⟨file, List.mem_cons_of_mem _ hfile, herror⟩

/-- A field of files fails with one of its files. -/
theorem fieldParts_fails_with_file {r : Registry} {schema : Schema} {value : Value}
    (hfiles : r.fileValues schema value ≠ []) (name : String) (d : Directive) (path : FieldPath) :
    FailsAs (fun e => ∃ file ∈ r.fileValues schema value, ∃ path,
        filePart name file d path = .error e) (fieldParts r name schema value d path) := by
  unfold Registry.fileValues at hfiles ⊢
  unfold fieldParts
  dsimp only
  by_cases hbinary : r.isBinary schema.unwrapNullable = true
  · rw [if_pos hbinary] at hfiles ⊢
    rw [if_pos hbinary]
    refine FailsAs.bind ?_ fun part _ => FailsAs.ok _
    intro e he
    exact ⟨value, List.mem_singleton_self value, path, he⟩
  · rw [if_neg hbinary] at hfiles ⊢
    rw [if_neg hbinary]
    cases hshape : r.resolve schema.unwrapNullable with
    | array items =>
        simp only [hshape] at hfiles ⊢
        by_cases hitems : r.isBinary items = true
        · rw [if_pos hitems] at hfiles ⊢
          rw [if_pos hitems]
          cases value with
          | array elements => exact fileParts_fails_with_file name d path 0 elements
          | _ => exact absurd rfl hfiles
        · rw [if_neg hitems] at hfiles
          exact absurd rfl hfiles
    | _ =>
        simp only [hshape] at hfiles
        exact absurd rfl hfiles

namespace BodySpec

/-- The field has the value among those that it sends as files. -/
def SendsFile (r : Registry) (members : List (String × Value)) (field : String × Schema)
    (file : Value) : Prop :=
  ∃ v, present (members.lookup field.1) = some v ∧ file ∈ r.fileValues field.2 v

/-- The error is that of a header of the field's parts, of another field or of another file. -/
def FailsBeside (spec : BodySpec) (r : Registry) (arguments : Arguments) (fields : Fields)
    (members : List (String × Value)) (field : String × Schema) (file : Value) (e : Error) : Prop :=
  (spec.directive field.1).partHeaders r arguments = .error e ∨
    (∃ other ∈ fields, other ≠ field ∧
      spec.partsOf r arguments members { root := spec.argumentName } other = .error e) ∨
    ∃ other, SendsFile r members field other ∧ other ≠ file ∧
      ∃ path, filePart field.1 other (spec.directive field.1) path = .error e

/-- The part of a file: its name and bytes, and the media type where that decides. -/
def IsPartOf (spec : BodySpec) (r : Registry) (arguments : Arguments) (field : String)
    (bytes : Bytes) (declared : Option String) (part : Part) : Prop :=
  part.name = field ∧ part.data = bytes ∧
    ((spec.directive field).LeavesType r arguments →
      ∀ media, declared = some media → part.contentType = some media)

variable {spec : BodySpec} {r : Registry} {arguments : Arguments}
  {members : List (String × Value)} {field : String × Schema} {bytes : Bytes} {text : String}
  {declared : Option String} {path : FieldPath}

theorem partsOf_spelling (hfile : SendsFile r members field (.string text))
    (hspelling : Binary.Spelling bytes text declared) {parts : List Part}
    (h : spec.partsOf r arguments members path field = .ok parts) :
    ∃ part ∈ parts, spec.IsPartOf r arguments field.1 bytes declared part := by
  obtain ⟨v, hv, hmem⟩ := hfile
  unfold partsOf at h
  rw [hv] at h
  obtain ⟨headers, hheaders, h⟩ := bind_eq_ok.mp h
  obtain ⟨built, hbuilt, h⟩ := bind_eq_ok.mp h
  obtain rfl := Except.ok.inj h
  rcases fieldParts_cases hbuilt with hfiles | ⟨hnone, -⟩
  · obtain ⟨part, hpart, place, hfilePart⟩ := exists_of_mem_right hfiles.flip hmem
    unfold filePart at hfilePart
    rw [hspelling.ofValue_eq] at hfilePart
    obtain rfl := Except.ok.inj hfilePart
    obtain ⟨hname, hdata⟩ := Part.withHeaders_keeps headers
      ((Part.ofFile field.1 field.1 bytes).withContentType
        (((spec.directive field.1).primaryContentType.or declared).getD MediaType.octetStream))
    refine ⟨_, List.mem_map_of_mem hpart, hname, hdata, ?_⟩
    rintro ⟨hprimary, hopen⟩ media rfl
    rw [Part.withHeaders_contentType (hopen headers hheaders), hprimary]
    rfl
  · rw [hnone] at hmem
    cases hmem

/-- No field's parts fail because of the file. -/
theorem mapM_partsOf_fails {fields : Fields} (hfile : SendsFile r members field (.string text))
    (hspelling : Binary.Spelling bytes text declared) :
    FailsAs (spec.FailsBeside r arguments fields members field (.string text))
      (fields.mapM (spec.partsOf r arguments members { root := spec.argumentName })) := by
  refine FailsAs.mapM ?_
  intro other hother e he
  by_cases hsame : other = field
  · obtain ⟨v, hv, hmem⟩ := hfile
    subst hsame
    unfold partsOf at he
    rw [hv] at he
    rcases bind_eq_error.mp he with hheaders | ⟨headers, -, he⟩
    · exact Or.inl hheaders
    · rcases bind_eq_error.mp he with hparts | ⟨parts, -, he⟩
      · obtain ⟨file, hsent, place, herror⟩ :=
          fieldParts_fails_with_file (List.ne_nil_of_mem hmem) _ _ _ e hparts
        refine Or.inr (Or.inr ⟨file, ⟨v, hv, hsent⟩, ?_, place, herror⟩)
        rintro rfl
        unfold filePart at herror
        rw [hspelling.ofValue_eq] at herror
        cases herror
      · cases he
  · exact Or.inr (Or.inl ⟨other, hother, hsame, he⟩)

theorem present_of_members {v : Value} {fields : Fields}
    (h : spec.members r v path = .ok (fields, members)) : present (some v) = some v := by
  cases v with
  | null => cases h
  | _ => rfl

/-- A form with a file either has a part for it or is not built for a reason that has nothing to do
with the file. -/
theorem build_spelling {boundary : String} {v : Value} {fields : Fields}
    (hmedia : MediaType.ofContentType spec.contentType = MediaType.multipart)
    (hmembers : spec.members r v { root := spec.argumentName } = .ok (fields, members))
    (hfield : field ∈ fields) (hfile : SendsFile r members field (.string text))
    (hspelling : Binary.Spelling bytes text declared) :
    (∃ form, spec.build r boundary (some v) arguments = .ok (some (.multipart form)) ∧
        ∃ part ∈ form.parts, spec.IsPartOf r arguments field.1 bytes declared part) ∨
      ∃ e, spec.build r boundary (some v) arguments = .error e ∧
        spec.FailsBeside r arguments fields members field (.string text) e := by
  have hbuild : spec.build r boundary (some v) arguments =
      (fields.mapM (spec.partsOf r arguments members { root := spec.argumentName })).map
        fun parts => some (.multipart { boundary, parts := parts.flatten }) := by
    rw [build_present spec (present_of_members hmembers),
      payload_multipart spec r boundary v arguments hmedia, form_eq, hmembers]
    dsimp only [Bind.bind, Except.bind]
    cases fields.mapM (spec.partsOf r arguments members { root := spec.argumentName }) <;> rfl
  cases hparts : fields.mapM (spec.partsOf r arguments members { root := spec.argumentName }) with
  | ok parts =>
      rw [hparts] at hbuild
      obtain ⟨built, hbuilt, hfieldParts⟩ := exists_of_mem_right (mapM_eq_ok hparts).flip hfield
      obtain ⟨part, hpart, hcarries⟩ := partsOf_spelling hfile hspelling hfieldParts
      exact Or.inl ⟨_, hbuild, part, List.mem_flatten_of_mem hbuilt hpart, hcarries⟩
  | error e =>
      rw [hparts] at hbuild
      exact Or.inr ⟨e, hbuild, mapM_partsOf_fails hfile hspelling e hparts⟩

theorem build_octetStream
    (hmedia : MediaType.ofContentType spec.contentType = MediaType.octetStream)
    (hspelling : Binary.Spelling bytes text declared) (boundary : String) :
    spec.build r boundary (some (.string text)) arguments =
      .ok (some (.raw spec.contentType bytes)) := by
  rw [build_present spec (show present (some (.string text)) = some (.string text) from rfl),
    payload_octetStream spec r boundary _ arguments hmedia, hspelling.ofValue_eq]
  rfl

/-- Bytes that are no text come back from a response as a text that a request takes for the same
bytes, and so it does with their data URIs: as the body itself, or as a file, whose part has the
media type that the URI declares. A text that is no data URI is taken only if it is the base64 of
what it is taken for. -/
theorem binary_content_survives {bytes : Bytes} (hne : bytes ≠ []) :
    (∀ (response : Response) (contentType : String), response.body = bytes →
        response.contentType? = some contentType → MediaType.isJson contentType = false →
        MediaType.isText contentType = false →
        response.decode = .ok (.string (String.ofList (Base64.encode bytes)))) ∧
      (∀ (text : String) (declared : Option String), Binary.Spelling bytes text declared →
        ∀ (spec : BodySpec) (r : Registry) (boundary : String) (arguments : Arguments),
          (MediaType.ofContentType spec.contentType = MediaType.octetStream →
            spec.build r boundary (some (.string text)) arguments =
              .ok (some (.raw spec.contentType bytes))) ∧
          ∀ (v : Value) (fields : Fields) (members : List (String × Value)),
            MediaType.ofContentType spec.contentType = MediaType.multipart →
            spec.members r v { root := spec.argumentName } = .ok (fields, members) →
            ∀ field ∈ fields, SendsFile r members field (.string text) →
              (∃ form, spec.build r boundary (some v) arguments = .ok (some (.multipart form)) ∧
                  ∃ part ∈ form.parts, spec.IsPartOf r arguments field.1 bytes declared part) ∨
                ∃ e, spec.build r boundary (some v) arguments = .error e ∧
                  spec.FailsBeside r arguments fields members field (.string text) e) ∧
      ∀ (text : String) (path : FieldPath) (binary : Binary),
        Split.after? "data:".toList text.toList = none →
        (Binary.ofValue (.string text) path = .ok binary ↔
          binary.mediaType = none ∧ Blank.trim text.toList = Base64.encode binary.data) := by
  refine ⟨?_, ?_, ?_⟩
  · rintro response contentType rfl htype hjson htext
    exact Response.decode_binary hne htype hjson htext
  · intro text declared hspelling spec r boundary arguments
    refine ⟨fun hmedia => build_octetStream hmedia hspelling boundary, ?_⟩
    intro v fields members hmedia hmembers field hfield hfile
    exact build_spelling hmedia hmembers hfield hfile hspelling
  · intro text path binary hbare
    exact Binary.ofValue_bare_eq_ok_iff hbare

/-- A picture that comes back, is sent as a body, and is sent once more in a list of files. -/
theorem binary_content_survives_picture :
    let bytes : Bytes := [0xFB, 0xEF, 0xFF, 0x41]
    let response : Response :=
      { status := ⟨200, by decide⟩
        headers := ⟨[("content-type", [bytesOf "image/png"])]⟩
        body := bytes }
    let body : BodySpec :=
      { contentType := "Application/Octet-Stream; v=1", schema := .scalar .json }
    let upload : BodySpec :=
      { contentType := "multipart/form-data"
        schema := .object [("photos", .nullable (.array (.scalar .binary)))] }
    let uri : String := "data:image/png,%fb%EF%FfA"
    response.decode = .ok (.string "++//QQ==") ∧
      body.build {} "B" (some (.string "++//QQ==")) [] =
        .ok (some (.raw "Application/Octet-Stream; v=1" bytes)) ∧
      (∃ form, upload.build {} "B" (some (.object [("photos", .array [.string uri])])) [] =
          .ok (some (.multipart form)) ∧
        ∃ part ∈ form.parts, part.data = bytes ∧ part.contentType = some "image/png") ∧
      Binary.ofValue (.string " ++//QQ==\n") { root := "body" } = .ok { data := bytes } := by
  intro bytes response body upload uri
  obtain ⟨hdecode, hsent, hbare⟩ := binary_content_survives (show bytes ≠ [] by decide)
  have hpicture := hdecode response "image/png" rfl (by decide) (by decide) (by decide)
  have hspelling : Binary.Spelling bytes "++//QQ==" none := .bare
  have hraw := (hsent _ _ hspelling body {} "B" []).1 (by decide)
  have hpayload : Percent.Spells "%fb%EF%FfA".toList bytes :=
    .triplet (show _ = some 15 by decide) (show _ = some 11 by decide) <|
      .triplet (show _ = some 14 by decide) (show _ = some 15 by decide) <|
        .triplet (show _ = some 15 by decide) (show _ = some 15 by decide) <|
          .plain (by decide) (by decide) .nil
  have huri : Binary.Spelling bytes uri (some "image/png") :=
    .percentUri (show ',' ∉ "image/png".toList by decide) (by decide) hpayload
  let members : List (String × Value) := [("photos", .array [.string uri])]
  have hfile : SendsFile {} members ("photos", .nullable (.array (.scalar .binary)))
      (.string uri) := ⟨_, rfl, List.mem_singleton_self _⟩
  have hform := (hsent _ _ huri upload {} "B" []).2 (.object members) _ members (by decide) rfl _
    List.mem_cons_self hfile
  refine ⟨hpicture, hraw, ?_, (hbare _ _ { data := bytes } (by decide)).mpr ⟨rfl, by decide⟩⟩
  rcases hform with ⟨form, hbuild, part, hpart, -, hdata, htype⟩ | ⟨e, -, hbeside⟩
  · refine ⟨form, hbuild, part, hpart, hdata, htype ⟨rfl, ?_⟩ _ rfl⟩
    intro headers hheaders header hmem
    obtain rfl : [] = headers := Except.ok.inj hheaders
    cases hmem
  · rcases hbeside with hheaders | ⟨other, hother, hne, -⟩ | ⟨other, ⟨v, hv, hmem⟩, hne, -⟩
    · cases hheaders
    · exact absurd (List.mem_singleton.mp hother) hne
    · obtain rfl := Option.some.inj hv
      exact absurd (List.mem_singleton.mp hmem) hne

end BodySpec

end ApiCall
