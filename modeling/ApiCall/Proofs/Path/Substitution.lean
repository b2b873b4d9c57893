import ApiCall.Assoc
import ApiCall.Proofs.Path.Template
import Mathlib

/-!
Parameters that are substituted one after the other. Each step goes over the whole text, and so over
what earlier steps put there; but a value has no brace once it is escaped, so no step finds a place
that the template does not have. Any order therefore gives the template with all places filled at
once (`PathTemplate.substituteAll_eq_fill`).
-/

namespace ApiCall

namespace PathTemplate

/-- Substitutes parameters, each a name with its items, one after the other. -/
def substituteAll (template : String) (parameters : List (String × Items)) : Except Error String :=
  parameters.foldlM (fun path p => substitute path p.1 p.2) template

/-- The values of items, joined with commas. -/
def joined (items : Items) : String :=
  ",".intercalate (items.flatMap Item.values)

/-- The names of parameters with their joined values. -/
def joinedValues (parameters : List (String × Items)) : List (String × String) :=
  parameters.map fun p => (p.1, joined p.2)

/-! ### Places in a text -/

theorem infix_append_of_not_mem {c : Char} {mark xs ys : List Char} (h : c ∉ xs)
    (hwithin : c :: mark <:+: xs ++ ys) : c :: mark <:+: ys := by
  induction xs with
  | nil => exact hwithin
  | cons x xs ih =>
      obtain ⟨hne, hrest⟩ := not_or.mp (mt List.mem_cons.mpr h)
      rw [List.cons_append, List.infix_cons_iff, List.cons_prefix_cons] at hwithin
      rcases hwithin with ⟨heq, -⟩ | hwithin
      · exact absurd heq hne
      · exact ih hrest hwithin

/-- A place begins where another one does only if their names are the same. -/
theorem eq_of_placeholder_starts {name other : String} (hname : '\x7d' ∉ name.toList)
    (hother : '\x7d' ∉ other.toList) {rest : List Char}
    (h : (Piece.placeholder name).text <+: (Piece.placeholder other).text ++ rest) :
    name = other := by
  obtain ⟨following, heq⟩ := h
  simp only [Piece.text, List.cons_append, List.append_assoc, List.nil_append, List.cons.injEq,
    true_and] at heq
  have hcut := Split.once_append hname following
  rw [heq, Split.once_append hother, Option.some.injEq, Prod.mk.injEq] at hcut
  exact String.toList_inj.mp hcut.1.symm

/-- The text of a template has the places of its pieces and no others. -/
theorem placeholder_infix_iff {pieces : List Piece} (h : ∀ piece ∈ pieces, piece.BraceFree)
    {name : String} (hname : (Piece.placeholder name).BraceFree) :
    (Piece.placeholder name).text <:+: (text pieces).toList ↔ .placeholder name ∈ pieces := by
  rw [text, String.toList_ofList]
  constructor
  · intro hwithin
    induction pieces with
    | nil => simp [Piece.text] at hwithin
    | cons piece pieces ih =>
        obtain ⟨hpiece, hpieces⟩ := List.forall_mem_cons.mp h
        rw [List.flatMap_cons] at hwithin
        cases piece with
        | literal t =>
            have hrest := infix_append_of_not_mem hpiece.1 hwithin
            exact List.mem_cons_of_mem _ (ih hpieces hrest)
        | placeholder other =>
            -- past its own opening brace the other place has none
            have hopen : '\x7b' ∉ other.toList ++ ['\x7d'] := by
              simpa using hpiece.1
            rw [Piece.text, Piece.text, List.cons_append, List.infix_cons_iff] at hwithin
            rcases hwithin with hstart | hwithin
            · rw [eq_of_placeholder_starts hname.2 hpiece.2 hstart]
              exact List.mem_cons_self
            · have hrest := infix_append_of_not_mem hopen hwithin
              exact List.mem_cons_of_mem _ (ih hpieces hrest)
  · intro hmem
    obtain ⟨before, after, rfl⟩ := List.append_of_mem hmem
    rw [List.flatMap_append, List.flatMap_cons, ← List.append_assoc]
    exact List.infix_append _ _ _

theorem placeholder_not_mem_fill {values : List (String × String)} {name : String}
    (h : name ∈ values.map Prod.fst) (pieces : List Piece) :
    .placeholder name ∉ pieces.map (Piece.fill values) := by
  intro hmem
  obtain ⟨piece, -, heq⟩ := List.mem_map.mp hmem
  obtain ⟨value, hvalue⟩ := exists_lookup_of_mem h
  cases piece with
  | literal t => cases heq
  | placeholder other =>
      cases hother : values.lookup other with
      | none =>
          simp only [Piece.fill, hother, Piece.placeholder.injEq] at heq
          rw [heq, hvalue] at hother
          cases hother
      | some found => simp [Piece.fill, hother] at heq

/-! ### Step by step -/

theorem substitute_of_accepted {name : String} {items : Items}
    (h : ∃ template path, substitute template name items = .ok path) (template : String) :
    substitute template name items =
      .ok (replaceName template name (escapeSegment (joined items))) := by
  obtain ⟨other, path, hother⟩ := h
  obtain ⟨item, rfl, htrimmed, -⟩ := substitute_eq_ok hother
  simp [substitute, htrimmed, joined]

/-- Where each parameter is accepted, all of them are, one after the other. -/
theorem substituteAll_of_accepted {parameters : List (String × Items)}
    (h : ∀ p ∈ parameters, ∃ template path, substitute template p.1 p.2 = .ok path)
    (template : String) :
    substituteAll template parameters =
      .ok ((joinedValues parameters).foldl
        (fun path entry => replaceName path entry.1 (escapeSegment entry.2)) template) := by
  induction parameters generalizing template with
  | nil => rfl
  | cons p parameters ih =>
      obtain ⟨hp, hparameters⟩ := List.forall_mem_cons.mp h
      rw [substituteAll, List.foldlM_cons, substitute_of_accepted hp template]
      exact ih hparameters _

/-- Parameters with different names fill the places of a template as all of them at once would, in
whatever order they are substituted. No place of theirs is left, and what stands in one of them is
decoded to the joined values. -/
theorem substituteAll_eq_fill {pieces : List Piece} (hpieces : ∀ piece ∈ pieces, piece.BraceFree)
    {parameters order : List (String × Items)}
    (hnames : ∀ p ∈ parameters, (Piece.placeholder p.1).BraceFree)
    (hdistinct : (parameters.map Prod.fst).Nodup)
    (haccepted : ∀ p ∈ parameters, ∃ template path, substitute template p.1 p.2 = .ok path)
    (horder : order.Perm parameters) :
    let values := escapeValues (joinedValues parameters)
    ∃ path, substituteAll (text pieces) order = .ok path ∧
      path = text (pieces.map (Piece.fill values)) ∧
      (∀ p ∈ parameters, ¬ (Piece.placeholder p.1).text <:+: path.toList) ∧
      ∀ p ∈ parameters,
        (Piece.placeholder p.1).fill values = .literal (escapeSegment (joined p.2)) ∧
          Percent.decode (bytesOf (escapeSegment (joined p.2))) = bytesOf (joined p.2) := by
  intro values
  have hkeys (others : List (String × Items)) :
      (escapeValues (joinedValues others)).map Prod.fst = others.map Prod.fst := by
    simp [escapeValues, joinedValues, Function.comp_def]
  have hclosing : ∀ entry ∈ joinedValues order, '\x7d' ∉ entry.1.toList := by
    intro entry hentry
    obtain ⟨p, hp, rfl⟩ := List.mem_map.mp hentry
    exact (hnames p (horder.mem_iff.mp hp)).2
  have hvalues : Piece.fill (escapeValues (joinedValues order)) = Piece.fill values := by
    apply Piece.fill_congr
    apply Assoc.lookup_of_perm
    · rw [hkeys]
      exact (horder.map Prod.fst).nodup_iff.mpr hdistinct
    · exact (horder.map _).map _
  have hfilled := braceFree_map_fill hpieces (joinedValues parameters)
  refine ⟨text (pieces.map (Piece.fill values)), ?_, rfl, ?_, ?_⟩
  · have haccepted (p) (hp : p ∈ order) := haccepted p (horder.mem_iff.mp hp)
    rw [substituteAll_of_accepted haccepted, foldl_replaceName_text hpieces hclosing, hvalues]
  · intro p hp
    rw [placeholder_infix_iff hfilled (hnames p hp)]
    apply placeholder_not_mem_fill
    rw [hkeys]
    exact List.mem_map_of_mem hp
  · intro p hp
    refine ⟨?_, decode_escapeSegment (joined p.2)⟩
    have hentry : (p.1, escapeSegment (joined p.2)) ∈ values :=
      List.mem_map_of_mem (List.mem_map_of_mem hp)
    have hlookup := Assoc.lookup_of_mem (by rwa [hkeys]) hentry
    simp only at hlookup
    simp [Piece.fill, hlookup]

/-- The value of one parameter is spelled like the place of the other, and the two places stand
side by side. -/
theorem substituteAll_eq_fill_of_two :
    let pieces : List Piece :=
      [.literal "/", .placeholder "a", .placeholder "b", .literal "-", .placeholder "a",
       .literal "/", .placeholder "c"]
    let a : String × Items := ("a", [⟨[], ["\x7bb\x7d"]⟩])
    let b : String × Items := ("b", [⟨[.element], ["x/", "%"]⟩])
    let path := "/%7Bb%7Dx%2F,%25-%7Bb%7D/\x7bc\x7d"
    (∀ piece ∈ pieces, piece.BraceFree) ∧ (∀ p ∈ [a, b], (Piece.placeholder p.1).BraceFree) ∧
      substituteAll (text pieces) [a, b] = .ok path ∧
      substituteAll (text pieces) [b, a] = .ok path ∧
      ¬ (Piece.placeholder "b").text <:+: path.toList := by
  intro pieces a b path
  have hpieces : ∀ piece ∈ pieces, piece.BraceFree := by
    simp [pieces, Piece.BraceFree]
  have hnames : ∀ p ∈ [a, b], (Piece.placeholder p.1).BraceFree := by
    simp [a, b, Piece.BraceFree]
  have hdistinct : ([a, b].map Prod.fst).Nodup := by
    simp [a, b]
  have haccepted : ∀ p ∈ [a, b], ∃ template path, substitute template p.1 p.2 = .ok path := by
    simp only [List.forall_mem_cons]
    exact ⟨⟨"", _, rfl⟩, ⟨"", _, rfl⟩, by simp⟩
  have hpath : text (pieces.map (Piece.fill (escapeValues (joinedValues [a, b])))) = path := by
    decide
  obtain ⟨first, hfirst, hfirstPath, hgone, -⟩ :=
    substituteAll_eq_fill hpieces hnames hdistinct haccepted (.refl [a, b])
  obtain ⟨second, hsecond, hsecondPath, -, -⟩ :=
    substituteAll_eq_fill hpieces hnames hdistinct haccepted (.swap a b [])
  rw [hfirstPath, hpath] at hfirst hgone
  rw [hsecondPath, hpath] at hsecond
  exact ⟨hpieces, hnames, hfirst, hsecond, hgone b (by simp)⟩

end PathTemplate

end ApiCall
