import ApiCall.Proofs.Multipart.HeaderLines
import ApiCall.Proofs.Text.Split

/-!
A form is read back from its bytes. The reader goes from one delimiter to the next, takes the lines
up to the empty one for the header block and what stands before the next delimiter for the data.
Of the parts that the constructors make it finds all, in their order and with their data, types and
headers; in names it finds percent codes where they had line breaks (`Form.write_reads_back`).
-/

namespace ApiCall

namespace Part

/-! ### Reading a header block -/

/-- Reads up to the closing quote. A backslash stands before a character that is meant as it is. -/
def unquote? : List Char → Option (List Char × List Char)
  | '"' :: rest => some ([], rest)
  | '\\' :: c :: rest => (unquote? rest).map fun (text, after) => (c :: text, after)
  | c :: rest => (unquote? rest).map fun (text, after) => (c :: text, after)
  | [] => none

/-- Reads a text between double quotes, and finds what follows it. -/
def readQuoted? : List Char → Option (String × List Char)
  | '"' :: rest => (unquote? rest).map fun (text, after) => (String.ofList text, after)
  | _ => none

/-- Reads the line with the name of a part and perhaps a file name. -/
def readDisposition? (line : String) : Option (String × Option String) := do
  let (name, rest) ← readQuoted?
    (← Split.after? "Content-Disposition: form-data; name=".toList line.toList)
  if rest.isEmpty then
    return (name, none)
  let (filename, rest) ← readQuoted? (← Split.after? "; filename=".toList rest)
  if rest.isEmpty then return (name, some filename) else none

/-- Reads a header line: its name goes up to the first colon, and one space follows. -/
def readField? (line : String) : Option (String × String) := do
  let (name, rest) ← Split.once ':' line.toList
  let value ← Split.after? [' '] rest
  return (String.ofList name, String.ofList value)

/-- The header gives the type of the content. -/
def IsType (header : String × String) : Prop :=
  sameIgnoringCase header.1 "content-type"

instance : DecidablePred IsType :=
  fun _ => inferInstanceAs (Decidable (_ = true))

/-- A part from its header lines. There may be at most one content type among them. -/
def ofLines? (lines : List Bytes) (data : Bytes) : Option Part := do
  match ← lines.mapM stringOf? with
  | [] => none
  | disposition :: fields =>
    let (name, filename) ← readDisposition? disposition
    let fields ← fields.mapM readField?
    let headers := fields.filter (¬ IsType ·)
    match fields.filter IsType with
    | [] => return { name, filename, headers, data }
    | [type] => return { name, filename, contentType := some type.2, headers, data }
    | _ => none

end Part

namespace Form

/-! ### Reading a form -/

/-- What stands between the data of a part and the line that follows. -/
def delimiter (boundary : String) : Bytes :=
  bytesOf ("\r\n--" ++ boundary)

/-- Reads one part, its data up to the next delimiter, and finds what follows it. -/
def readPart? (boundary : String) (bytes : Bytes) : Option (Part × Bytes) := do
  let (lines, body) ← Part.readHead? bytes
  let (data, rest) ← Split.cut? (delimiter boundary) body
  let part ← Part.ofLines? lines data
  return (part, rest)

theorem length_le_of_readPart? {boundary : String} {bytes rest : Bytes} {part : Part}
    (h : readPart? boundary bytes = some (part, rest)) : rest.length ≤ bytes.length := by
  obtain ⟨⟨lines, body⟩, hhead, h⟩ := Option.bind_eq_some_iff.mp h
  obtain ⟨⟨data, rest'⟩, hcut, h⟩ := Option.bind_eq_some_iff.mp h
  obtain ⟨part', _, h⟩ := Option.bind_eq_some_iff.mp h
  cases h
  exact (Nat.le_of_add_right_le (Split.length_cut?_le hcut)).trans
    (Part.length_le_of_readLines? hhead)

/-- Reads parts, each one after a line end, until two dashes close the form. -/
def readParts? (boundary : String) : Bytes → Option (List Part × Bytes)
  | 45 :: 45 :: 13 :: 10 :: rest => some ([], rest)
  | 13 :: 10 :: bytes =>
    match _h : readPart? boundary bytes with
    | none => none
    | some (part, rest) =>
      (readParts? boundary rest).map fun (parts, after) => (part :: parts, after)
  | _ => none
termination_by bytes => bytes.length
decreasing_by
  have := length_le_of_readPart? _h
  simp only [List.length_cons]
  omega

/-- Reads the parts of a form with the given boundary, and finds what follows it. -/
def read? (boundary : String) (bytes : Bytes) : Option (List Part × Bytes) :=
  (Split.after? (bytesOf ("--" ++ boundary)) bytes).bind (readParts? boundary)

end Form

namespace Part

/-! ### Names and header lines -/

/-- A character of a name as a reader finds it. -/
def shownChar (c : Char) : List Char :=
  if c = '\r' then "%0D".toList
  else if c = '\n' then "%0A".toList
  else [c]

/-- A name as a reader finds it: with percent codes for its line breaks. -/
def shownText (text : String) : String :=
  String.ofList (text.toList.flatMap shownChar)

/-- The part that a reader finds. -/
def shown (p : Part) : Part :=
  { p with name := shownText p.name, filename := p.filename.map shownText }

theorem shownText_of_unbroken {text : String} (h : Unbroken text) : shownText text = text := by
  have hchars : text.toList.flatMap shownChar = text.toList.flatMap fun c => [c] := by
    refine List.flatMap_congr ?_
    intro c hc
    have hcr : c ≠ '\r' := fun heq => h.1 (heq ▸ hc)
    have hlf : c ≠ '\n' := fun heq => h.2 (heq ▸ hc)
    rw [shownChar, if_neg hcr, if_neg hlf]
  rw [shownText, hchars, List.flatMap_singleton', String.ofList_toList]

theorem unquote?_cons {c : Char} (hquote : c ≠ '"') (hslash : c ≠ '\\')
    {rest text after : List Char} (h : unquote? rest = some (text, after)) :
    unquote? (c :: rest) = some (c :: text, after) := by
  rw [unquote?, h]
  · rfl
  · exact hquote
  · intro _ _ heq
    exact absurd heq hslash

theorem unquote?_quoteChar (c : Char) {rest text after : List Char}
    (h : unquote? rest = some (text, after)) :
    unquote? (quoteChar c ++ rest) = some (shownChar c ++ text, after) := by
  by_cases hslash : c = '\\'
  · subst hslash
    exact congrArg (Option.map _) h
  by_cases hquote : c = '"'
  · subst hquote
    exact congrArg (Option.map _) h
  by_cases hcr : c = '\r'
  · -- a line break is written as three characters, none of which is special to the reader
    subst hcr
    have hD := unquote?_cons (c := 'D') (by decide) (by decide) h
    have h0 := unquote?_cons (c := '0') (by decide) (by decide) hD
    exact unquote?_cons (by decide) (by decide) h0
  by_cases hlf : c = '\n'
  · subst hlf
    have hA := unquote?_cons (c := 'A') (by decide) (by decide) h
    have h0 := unquote?_cons (c := '0') (by decide) (by decide) hA
    exact unquote?_cons (by decide) (by decide) h0
  · rw [quoteChar, if_neg hslash, if_neg hquote, if_neg hcr, if_neg hlf, shownChar, if_neg hcr,
      if_neg hlf]
    exact unquote?_cons hquote hslash h

theorem unquote?_flatMap (cs rest : List Char) :
    unquote? (cs.flatMap quoteChar ++ '"' :: rest) = some (cs.flatMap shownChar, rest) := by
  induction cs with
  | nil => rfl
  | cons c cs ih =>
      rw [List.flatMap_cons, List.flatMap_cons, List.append_assoc]
      exact unquote?_quoteChar c ih

/-- A quoted name is read back, with percent codes for its line breaks. -/
theorem readQuoted?_quote (text : String) (rest : List Char) :
    readQuoted? ((quote text).toList ++ rest) = some (shownText text, rest) := by
  have hchars : (quote text).toList ++ rest =
      '"' :: (text.toList.flatMap quoteChar ++ '"' :: rest) := by
    rw [quote, String.toList_ofList]
    simp
  rw [hchars, readQuoted?, unquote?_flatMap]
  rfl

theorem readField?_line {name : String} (h : ':' ∉ name.toList) (value : String) :
    readField? (name ++ ": " ++ value) = some (name, value) := by
  have hchars : (name ++ ": " ++ value).toList = name.toList ++ ':' :: ([' '] ++ value.toList) := by
    rw [String.toList_append, String.toList_append, List.append_assoc]
    rfl
  simp only [readField?, hchars, Split.once_append h, Split.after?_append, Option.bind_eq_bind,
    Option.bind_some, Option.pure_def, String.ofList_toList]

theorem readDisposition?_line (name : String) (filename : Option String) :
    readDisposition? ("Content-Disposition: form-data; name=" ++ quote name ++
      (match filename with
        | some filename => "; filename=" ++ quote filename
        | none => "")) = some (shownText name, filename.map shownText) := by
  cases filename with
  | none =>
      have hname := readQuoted?_quote name "".toList
      simp only [readDisposition?, String.toList_append, List.append_assoc, Split.after?_append,
        Option.bind_eq_bind, Option.bind_some, hname]
      rfl
  | some filename =>
      have hfilename := readQuoted?_quote filename []
      rw [List.append_nil] at hfilename
      simp only [readDisposition?, String.toList_append, List.append_assoc, Split.after?_append,
        Option.bind_eq_bind, Option.bind_some, readQuoted?_quote, hfilename]
      rfl

/-- The headers after the first line, the content type before the others. -/
def fields (p : Part) : List (String × String) :=
  (p.contentType.map fun type => ("Content-Type", type)).toList ++ p.headers

theorem headerLines_eq_fields (p : Part) :
    p.headerLines = ("Content-Disposition: form-data; name=" ++ quote p.name ++
      (match p.filename with
        | some filename => "; filename=" ++ quote filename
        | none => "")) :: p.fields.map fun header => header.1 ++ ": " ++ header.2 := by
  unfold headerLines fields
  cases p.contentType with
  | none => rfl
  | some type => rfl

/-- The constructors keep the content type apart from the other headers. -/
def TypeApart (p : Part) : Prop :=
  ∀ header ∈ p.headers, ¬ IsType header

theorem isType_type (type : String) : IsType ("Content-Type", type) := by
  show sameIgnoringCase "Content-Type" "content-type" = true
  decide

theorem filter_isType_fields {p : Part} (h : p.TypeApart) :
    p.fields.filter IsType = (p.contentType.map fun type => ("Content-Type", type)).toList := by
  have hheaders : p.headers.filter IsType = [] := by
    rw [List.filter_eq_nil_iff]
    intro header hmem
    simpa using h header hmem
  rw [fields, List.filter_append, hheaders, List.append_nil]
  cases p.contentType with
  | none => rfl
  | some type => exact List.filter_cons_of_pos (decide_eq_true (isType_type type))

theorem filter_not_isType_fields {p : Part} (h : p.TypeApart) :
    p.fields.filter (¬ IsType ·) = p.headers := by
  have hheaders : p.headers.filter (¬ IsType ·) = p.headers := by
    rw [List.filter_eq_self]
    intro header hmem
    simpa using h header hmem
  rw [fields, List.filter_append, hheaders]
  cases p.contentType with
  | none => rfl
  | some type => simp [isType_type]

theorem mapM_readField?_lines {headers : List (String × String)}
    (h : ∀ header ∈ headers, ':' ∉ header.1.toList) :
    (headers.map fun header => header.1 ++ ": " ++ header.2).mapM readField? = some headers := by
  have hread : (headers.map fun header => header.1 ++ ": " ++ header.2).mapM readField? =
      some (headers.map id) :=
    Split.mapM_map_eq_some fun header hheader => readField?_line (h header hheader) header.2
  rw [hread, List.map_id]

theorem mapM_stringOf?_bytesOf (lines : List String) :
    (lines.map bytesOf).mapM stringOf? = some lines := by
  have hread : (lines.map bytesOf).mapM stringOf? = some (lines.map id) :=
    Split.mapM_map_eq_some fun line _ => stringOf?_bytesOf line
  rw [hread, List.map_id]

/-- The header lines of a part give the part back. -/
theorem ofLines?_headerLines {p : Part} (htype : p.TypeApart)
    (hnames : ∀ header ∈ p.headers, ':' ∉ header.1.toList) :
    ofLines? (p.headerLines.map bytesOf) p.data = some p.shown := by
  have hcolon : ∀ header ∈ p.fields, ':' ∉ header.1.toList := by
    rw [fields, List.forall_mem_append]
    refine ⟨?_, hnames⟩
    intro header hmem
    obtain ⟨type, _, rfl⟩ := Option.map_eq_some_iff.mp (Option.mem_toList.mp hmem)
    show ':' ∉ "Content-Type".toList
    decide
  have htypes := filter_isType_fields htype
  have hheaders := filter_not_isType_fields htype
  simp only [ofLines?, mapM_stringOf?_bytesOf, headerLines_eq_fields, Option.bind_eq_bind,
    Option.bind_some, readDisposition?_line, mapM_readField?_lines hcolon, hheaders, htypes]
  cases hcontent : p.contentType with
  | none =>
      rw [shown, hcontent]
      rfl
  | some type =>
      rw [shown, hcontent]
      rfl

/-! ### Parts as they are made -/

/-- The parts that the constructors and the modifiers make. -/
inductive Built : Part → Prop
  | new (name : String) (data : Bytes) : Built { name, data }
  | ofText (name text : String) : Built (Part.ofText name text)
  | ofJson (name : String) (data : Bytes) : Built (Part.ofJson name data)
  | ofFile (name filename : String) (data : Bytes) : Built (Part.ofFile name filename data)
  | withFilename {p : Part} (filename : String) : Built p → Built (p.withFilename filename)
  | withContentType {p : Part} (type : String) : Built p → Built (p.withContentType type)
  | withHeader {p : Part} (name value : String) : Built p → Built (p.withHeader name value)

theorem Built.typeApart {p : Part} (h : p.Built) : p.TypeApart := by
  have hnil {header : String × String} (hmem : header ∈ []) : ¬ IsType header :=
    absurd hmem List.not_mem_nil
  induction h with
  | new name data => exact fun _ => hnil
  | ofText name text => exact fun _ => hnil
  | ofJson name data => exact fun _ => hnil
  | ofFile name filename data => exact fun _ => hnil
  | withFilename filename _ ih => exact ih
  | withContentType type _ ih => exact ih
  | withHeader name value _ ih =>
      intro header hmem
      unfold Part.withHeader at hmem
      split at hmem
      · exact ih header hmem
      · rename_i hother
        rcases List.mem_append.mp hmem with hmem | hmem
        · exact ih header hmem
        · obtain rfl := List.mem_singleton.mp hmem
          exact hother

/-- No text of the part can be taken for the end of a header line, of a header name or of the data
in a form with the given boundary. -/
structure Framed (boundary : String) (p : Part) : Prop where
  unbroken : p.HeadersUnbroken
  names : ∀ header ∈ p.headers, Unbroken header.1 ∧ ':' ∉ header.1.toList
  data : ¬ Form.delimiter boundary <:+: p.data

end Part

namespace Form

/-! ### Reading what was written -/

theorem delimiter_eq (boundary : String) :
    delimiter boundary = 13 :: bytesOf ("\n--" ++ boundary) := by
  have hmark : "\r\n--" ++ boundary = "\r" ++ ("\n--" ++ boundary) := by
    rw [← String.append_assoc]
    rfl
  rw [delimiter, hmark, bytesOf_append]
  rfl

/-- A part comes back, and what follows the next delimiter is left. -/
theorem readPart?_write {boundary : String} {p : Part} (hboundary : Unbroken boundary)
    (htype : p.TypeApart) (hp : p.Framed boundary) (rest : Bytes) :
    readPart? boundary (p.write ++ (delimiter boundary ++ rest)) = some (p.shown, rest) := by
  have hlines : ∀ line ∈ p.headerLines, Unbroken line :=
    (Part.headerLines_unbroken_iff fun header hmem => (hp.names header hmem).1).mpr hp.unbroken
  have hhead := Part.readHead?_write_append hlines (delimiter boundary ++ rest)
  -- its only carriage return comes first, so a delimiter does not overlap the next one
  have hmark : (13 : UInt8) ∉ bytesOf ("\n--" ++ boundary) := by
    intro hmem
    have hcr := (Utf8.ofNat_mem_encode (c := '\r') (by decide)).mp hmem
    rw [String.toList_append] at hcr
    rcases List.mem_append.mp hcr with hstart | hcr
    · exact absurd hstart (by decide)
    · exact hboundary.1 hcr
  have hcut : Split.cut? (delimiter boundary) (p.data ++ (delimiter boundary ++ rest)) =
      some (p.data, rest) := by
    have hdata := hp.data
    rw [delimiter_eq] at hdata ⊢
    exact Split.cut?_append hmark hdata rest
  have hpart := Part.ofLines?_headerLines htype fun header hmem => (hp.names header hmem).2
  simp only [readPart?, hhead, hcut, hpart, Option.bind_eq_bind, Option.bind_some, Option.pure_def]

/-- What follows a boundary when these parts are still to come. -/
def following (boundary : String) : List Part → Bytes
  | [] => bytesOf "--\r\n"
  | p :: parts => bytesOf "\r\n" ++ (p.write ++ (delimiter boundary ++ following boundary parts))

theorem write_eq (f : Form) :
    f.write = bytesOf ("--" ++ f.boundary) ++ following f.boundary f.parts := by
  obtain ⟨boundary, parts⟩ := f
  induction parts with
  | nil =>
      simp only [write, following, List.flatMap_nil, List.nil_append, bytesOf_append]
  | cons p parts ih =>
      have hmark : bytesOf "\r\n--" = bytesOf "\r\n" ++ bytesOf "--" := by decide
      simp only [write, following, delimiter, bytesOf_append, List.flatMap_cons,
        List.append_assoc] at ih ⊢
      rw [ih, hmark, List.append_assoc]

theorem readParts?_following {boundary : String} {parts : List Part}
    (hboundary : Unbroken boundary)
    (hparts : ∀ p ∈ parts, p.TypeApart ∧ p.Framed boundary) :
    readParts? boundary (following boundary parts) = some (parts.map Part.shown, []) := by
  induction parts with
  | nil =>
      have hend : bytesOf "--\r\n" = [45, 45, 13, 10] := by decide
      rw [following, hend, readParts?]
      rfl
  | cons p parts ih =>
      obtain ⟨htype, hp⟩ := hparts p List.mem_cons_self
      have hrest := ih fun other hmem => hparts other (List.mem_cons_of_mem _ hmem)
      have hread := readPart?_write hboundary htype hp (following boundary parts)
      have hbreak : bytesOf "\r\n" = [13, 10] := by decide
      rw [following, hbreak, List.cons_append, List.cons_append, List.nil_append, readParts?]
      split
      · rename_i hnone
        rw [hread] at hnone
        cases hnone
      · rename_i part rest hsome
        rw [hread] at hsome
        cases hsome
        rw [hrest]
        rfl

/-- The parts of a form are read back from its bytes, all of them and in their order, and nothing
follows them. They are the parts that were written, except that names show their line breaks as
percent codes; a name without line breaks is the name that was written. -/
theorem write_reads_back (f : Form) (hboundary : Unbroken f.boundary)
    (hparts : ∀ p ∈ f.parts, p.Built ∧ p.Framed f.boundary) :
    read? f.boundary f.write = some (f.parts.map Part.shown, []) ∧
      ∀ p ∈ f.parts, (Unbroken p.name → p.shown.name = p.name) ∧
        ∀ filename, p.filename = some filename → Unbroken filename →
          p.shown.filename = some filename := by
  constructor
  · have hread := readParts?_following hboundary fun p hmem =>
      ⟨(hparts p hmem).1.typeApart, (hparts p hmem).2⟩
    rw [read?, write_eq, Split.after?_append, Option.bind_some, hread]
  · intro p _
    refine ⟨Part.shownText_of_unbroken, ?_⟩
    intro filename hfilename hunbroken
    rw [Part.shown, hfilename, Option.map_some, Part.shownText_of_unbroken hunbroken]

/-- A form with the marks of its own syntax in names, headers and data. -/
theorem write_reads_back_marks :
    let text := Part.ofText "a\"b\\\r\nc" ""
    let file :=
      (Part.ofFile "file" "\\\"; name=\"x" [13, 10, 45, 45, 101, 100, 13, 10, 13]).withHeader
        "X-Empty" ""
    let json := ((Part.ofJson "" [34]).withHeader "content-TYPE" "text/plain; a=\"b\"").withHeader
      "X-Note" " a: b"
    let f : Form := { boundary := "edge", parts := [text, file, json] }
    read? "edge" f.write = some ([{ text with name := "a\"b\\%0D%0Ac" }, file, json], []) := by
  intro text file json f
  have hbuilt : ∀ p ∈ f.parts, p.Built := by
    rw [List.forall_mem_cons, List.forall_mem_cons, List.forall_mem_singleton]
    refine ⟨.ofText _ _, .withHeader _ _ (.ofFile _ _ _), .withHeader _ _ (.withHeader _ _ ?_)⟩
    exact .ofJson _ _
  have htype {p : Part} {type : String} (hsome : p.contentType = some type)
      (hunbroken : Unbroken type) : p.TypeUnbroken := by
    intro other hother
    obtain rfl := Option.some.inj (hsome.symm.trans hother)
    exact hunbroken
  have hframed : ∀ p ∈ f.parts, p.Framed f.boundary := by
    rw [List.forall_mem_cons, List.forall_mem_cons, List.forall_mem_singleton]
    refine ⟨⟨⟨htype rfl ?_, ?_⟩, ?_, ?_⟩, ⟨⟨htype rfl ?_, ?_⟩, ?_, ?_⟩,
      ⟨⟨htype rfl ?_, ?_⟩, ?_, ?_⟩⟩
    all_goals decide
  have hread := (write_reads_back f (by decide) fun p hmem => ⟨hbuilt p hmem, hframed p hmem⟩).1
  have hshown : f.parts.map Part.shown = [{ text with name := "a\"b\\%0D%0Ac" }, file, json] := by
    decide
  rwa [hshown] at hread

end Form
end ApiCall
