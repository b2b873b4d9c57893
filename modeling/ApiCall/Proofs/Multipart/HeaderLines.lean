import ApiCall.Multipart
import ApiCall.Proofs.Header.Text

/-!
The header block of a form part. Names are quoted, so its lines are whole exactly when the content
type and the header values have no line break (`Part.headerLines_unbroken_iff`). A reader of lines
then finds these lines, no other ones, and the data after them (`Part.readHead?_write`).
-/

namespace ApiCall

/-- The text has no line break. -/
def Unbroken (text : String) : Prop :=
  '\r' ∉ text.toList ∧ '\n' ∉ text.toList

instance (text : String) : Decidable (Unbroken text) :=
  inferInstanceAs (Decidable (_ ∧ _))

theorem unbroken_append {first second : String} :
    Unbroken (first ++ second) ↔ Unbroken first ∧ Unbroken second := by
  simp only [Unbroken, String.toList_append, List.mem_append, not_or]
  constructor
  · rintro ⟨⟨hfirst, hsecond⟩, hfirst', hsecond'⟩
    exact ⟨⟨hfirst, hfirst'⟩, hsecond, hsecond'⟩
  · rintro ⟨⟨hfirst, hfirst'⟩, hsecond, hsecond'⟩
    exact ⟨⟨hfirst, hsecond⟩, hfirst', hsecond'⟩

theorem unbroken_of_headerName {name lowered : String} (h : headerName name = .ok lowered) :
    Unbroken name := by
  obtain ⟨⟨_, hchars, _⟩, _⟩ := headerName_eq_ok h
  constructor
  · intro hmem
    exact absurd (hchars _ hmem) (by decide)
  · intro hmem
    exact absurd (hchars _ hmem) (by decide)

theorem unbroken_of_headerValue {text : String} {value : Bytes}
    (h : headerValue (bytesOf text) = .ok value) : Unbroken text := by
  obtain ⟨hbytes, _⟩ := headerValue_eq_ok h
  have hmem {c : Char} (hc : c ∈ text.toList) {b : UInt8} (hb : b ∈ Utf8.encodeChar c) :
      32 ≤ b ∧ b ≠ 127 ∨ b = 9 :=
    hbytes b (List.mem_flatMap.mpr ⟨c, hc, hb⟩)
  constructor
  · intro hc
    exact absurd (hmem hc (show (13 : UInt8) ∈ _ by decide)) (by decide)
  · intro hc
    exact absurd (hmem hc (show (10 : UInt8) ∈ _ by decide)) (by decide)

namespace Part

def TypeUnbroken (p : Part) : Prop :=
  ∀ type, p.contentType = some type → Unbroken type

/-- Neither the content type nor a header value has a line break. -/
def HeadersUnbroken (p : Part) : Prop :=
  p.TypeUnbroken ∧ ∀ header ∈ p.headers, Unbroken header.2

theorem quote_unbroken (text : String) : Unbroken (quote text) := by
  have hchar (c x : Char) (hx : x = '\r' ∨ x = '\n') : x ∉ quoteChar c := by
    intro hmem
    unfold quoteChar at hmem
    split at hmem
    · rcases hx with rfl | rfl <;> exact absurd hmem (by decide)
    split at hmem
    · rcases hx with rfl | rfl <;> exact absurd hmem (by decide)
    split at hmem
    · rcases hx with rfl | rfl <;> exact absurd hmem (by decide)
    split at hmem
    · rcases hx with rfl | rfl <;> exact absurd hmem (by decide)
    · rename_i hcr hlf
      obtain rfl := List.mem_singleton.mp hmem
      rcases hx with rfl | rfl
      · exact hcr rfl
      · exact hlf rfl
  have hquote (x : Char) (hx : x = '\r' ∨ x = '\n') : x ∉ (quote text).toList := by
    intro hmem
    rw [quote, String.toList_ofList] at hmem
    simp only [List.cons_append, List.mem_cons, List.mem_append, List.not_mem_nil, or_false] at hmem
    rcases hmem with rfl | hmem | rfl
    · rcases hx with hx | hx <;> exact absurd hx (by decide)
    · obtain ⟨c, _, hc⟩ := List.mem_flatMap.mp hmem
      exact hchar c x hx hc
    · rcases hx with hx | hx <;> exact absurd hx (by decide)
  exact ⟨hquote _ (Or.inl rfl), hquote _ (Or.inr rfl)⟩

/-- The lines of the block: a disposition that is whole, the content type and the headers. -/
theorem headerLines_eq (p : Part) :
    ∃ disposition, Unbroken disposition ∧ disposition ≠ "" ∧
      p.headerLines = disposition :: (p.contentType.map ("Content-Type: " ++ ·)).toList ++
        p.headers.map fun header => header.1 ++ ": " ++ header.2 := by
  have hname : Unbroken ("Content-Disposition: form-data; name=" ++ quote p.name) :=
    unbroken_append.mpr ⟨by decide, quote_unbroken _⟩
  have hfilename (filename : String) : Unbroken ("; filename=" ++ quote filename) :=
    unbroken_append.mpr ⟨by decide, quote_unbroken _⟩
  have hne (rest : String) :
      "Content-Disposition: form-data; name=" ++ quote p.name ++ rest ≠ "" := by
    simp [String.append_eq_empty_iff]
  unfold headerLines
  cases p.filename with
  | none =>
      refine ⟨_, unbroken_append.mpr ⟨hname, ?_⟩, hne "", ?_⟩
      · decide
      · cases p.contentType <;> rfl
  | some filename =>
      refine ⟨_, unbroken_append.mpr ⟨hname, hfilename filename⟩, hne _, ?_⟩
      cases p.contentType <;> rfl

/-- With names as headers may have them, the lines of the block are whole exactly when the content
type and the header values are. -/
theorem headerLines_unbroken_iff {p : Part} (hnames : ∀ header ∈ p.headers, Unbroken header.1) :
    (∀ line ∈ p.headerLines, Unbroken line) ↔ p.HeadersUnbroken := by
  obtain ⟨disposition, hdisposition, _, hlines⟩ := headerLines_eq p
  have htype (type : String) : Unbroken ("Content-Type: " ++ type) ↔ Unbroken type := by
    rw [unbroken_append]
    exact and_iff_right (by decide)
  have hheader (header : String × String) (hmem : header ∈ p.headers) :
      Unbroken (header.1 ++ ": " ++ header.2) ↔ Unbroken header.2 := by
    rw [unbroken_append, unbroken_append]
    exact and_iff_right ⟨hnames header hmem, by decide⟩
  rw [hlines, List.cons_append, List.forall_mem_cons, List.forall_mem_append, List.forall_mem_map,
    and_iff_right hdisposition]
  refine and_congr ?_ (forall₂_congr hheader)
  simp only [Option.mem_toList, Option.map_eq_some_iff, TypeUnbroken]
  constructor
  · intro h type hcontent
    exact (htype type).mp (h _ ⟨type, hcontent, rfl⟩)
  · rintro h line ⟨type, hcontent, rfl⟩
    exact (htype type).mpr (h type hcontent)

/-- Reads lines up to the empty one: the lines, without their ends, and what follows. The first
argument holds the bytes of the line that is being read, the last one first. -/
def readLines? (line : Bytes) : Bytes → Option (List Bytes × Bytes)
  | 13 :: 10 :: rest =>
    if line.isEmpty then some ([], rest)
    else (readLines? [] rest).map fun (lines, data) => (line.reverse :: lines, data)
  | b :: rest => readLines? (b :: line) rest
  | [] => none

/-- What a reader of lines takes for the header block of a part, and for its data. -/
def readHead? (bytes : Bytes) : Option (List Bytes × Bytes) :=
  readLines? [] bytes

theorem readLines?_append {line read : Bytes} (h : (13 : UInt8) ∉ line) (rest : Bytes) :
    readLines? read (line ++ rest) = readLines? (line.reverse ++ read) rest := by
  induction line generalizing read with
  | nil => rfl
  | cons b line ih =>
      have hb : b ≠ 13 := fun heq => h (heq ▸ List.mem_cons_self)
      have hrest : (13 : UInt8) ∉ line := fun hmem => h (List.mem_cons_of_mem _ hmem)
      rw [List.cons_append, readLines?, ih hrest]
      · simp
      · intro _ heq
        exact absurd heq hb

theorem readLines?_lines {lines : List Bytes}
    (h : ∀ line ∈ lines, line ≠ [] ∧ (13 : UInt8) ∉ line) (data : Bytes) :
    readLines? [] (lines.flatMap (· ++ [13, 10]) ++ (13 :: 10 :: data)) = some (lines, data) := by
  induction lines with
  | nil => rfl
  | cons line lines ih =>
      obtain ⟨hne, hcr⟩ := h line List.mem_cons_self
      have hlines := ih fun line hmem => h line (List.mem_cons_of_mem _ hmem)
      rw [List.flatMap_cons, List.append_assoc, List.append_assoc, readLines?_append hcr,
        List.append_nil, List.cons_append, List.cons_append, List.nil_append, readLines?, hlines]
      simp [hne]

theorem length_le_of_readLines? {line bytes data : Bytes} {lines : List Bytes}
    (h : readLines? line bytes = some (lines, data)) : data.length ≤ bytes.length := by
  induction line, bytes using readLines?.induct generalizing lines with
  | case1 line rest hempty =>
      rw [readLines?, if_pos hempty] at h
      cases h
      simp only [List.length_cons]
      omega
  | case2 line rest hline ih =>
      rw [readLines?, if_neg hline] at h
      obtain ⟨⟨lines', data'⟩, hread, heq⟩ := Option.map_eq_some_iff.mp h
      cases heq
      have hlength := ih hread
      simp only [List.length_cons]
      omega
  | case3 line b rest hbreak ih =>
      rw [readLines?] at h
      · exact Nat.le_succ_of_le (ih h)
      · exact hbreak
  | case4 line =>
      cases h

theorem headerLines_ne_empty (p : Part) : ∀ line ∈ p.headerLines, line ≠ "" := by
  obtain ⟨disposition, _, hne, hlines⟩ := headerLines_eq p
  rw [hlines, List.cons_append, List.forall_mem_cons, List.forall_mem_append, List.forall_mem_map]
  refine ⟨hne, ?_, ?_⟩
  · intro line hline
    obtain ⟨type, _, rfl⟩ := Option.map_eq_some_iff.mp (Option.mem_toList.mp hline)
    simp [String.append_eq_empty_iff]
  · intro header _
    simp [String.append_eq_empty_iff]

/-- The lines with their ends, the empty line and the data. -/
theorem write_eq (p : Part) :
    p.write = (p.headerLines.map bytesOf).flatMap (· ++ [13, 10]) ++ (13 :: 10 :: p.data) := by
  have hend : bytesOf "\r\n" = [13, 10] := by decide
  simp only [write, bytesOf_append, hend, List.flatMap_map, List.append_assoc, List.cons_append,
    List.nil_append]

/-- Whole lines are read back: the reader finds the part's own header lines, and leaves its data
and what stands after it. -/
theorem readHead?_write_append {p : Part} (h : ∀ line ∈ p.headerLines, Unbroken line)
    (rest : Bytes) :
    readHead? (p.write ++ rest) = some (p.headerLines.map bytesOf, p.data ++ rest) := by
  rw [write_eq, List.append_assoc, List.cons_append, List.cons_append]
  refine readLines?_lines ?_ (p.data ++ rest)
  intro line hline
  obtain ⟨text, hmem, rfl⟩ := List.mem_map.mp hline
  constructor
  · exact bytesOf_ne_nil (headerLines_ne_empty p text hmem)
  · intro hcr
    exact (h text hmem).1 ((Utf8.ofNat_mem_encode (c := '\r') (by decide)).mp hcr)

theorem readHead?_write {p : Part} (h : ∀ line ∈ p.headerLines, Unbroken line) :
    readHead? p.write = some (p.headerLines.map bytesOf, p.data) := by
  have hread := readHead?_write_append h []
  rwa [List.append_nil, List.append_nil] at hread

end Part

end ApiCall
