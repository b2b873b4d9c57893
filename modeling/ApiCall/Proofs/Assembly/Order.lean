import ApiCall.Proofs.Assembly.Cookies
import ApiCall.Proofs.Assembly.Path
import Mathlib

/-!
The order of parameters. Each parameter goes to one place of a request (`Parameter.place?`), and a
place sees nothing of the others. So parameters may change their order as long as those of one place
keep theirs: the request stays the same (`Assembler.assemble_reordered_iff`).
-/

namespace ApiCall

/-- What a parameter adds to: the query, the cookies, one header or the places of one name in the
path. -/
inductive Place where
  | query
  | cookies
  | header (lowered : String)
  | path (name : String)
  deriving DecidableEq, Repr

/-- Where a parameter goes, if it goes to a request at all. Header names are compared without regard
to case. -/
def Parameter.place? (p : Parameter) : Option Place :=
  match p.directive.location with
  | .query => some .query
  | .cookie => some .cookies
  | .header => some (.header (lowerAscii p.directive.name))
  | .path => some (.path p.directive.name)
  | .formField => none

/-- The parameters of a place, in order. -/
def Operation.parametersOf (op : Operation) (place : Place) : List Parameter :=
  op.parameters.filter fun p => p.place? = some place

/-- Another operation is the same but for the order of the parameters, and in each place the order
is the same too. -/
structure Operation.Reorders (op other : Operation) : Prop where
  rest : other = { op with parameters := other.parameters }
  perm : op.parameters.Perm other.parameters
  order : ∀ place, op.parametersOf place = other.parametersOf place

/-- The path is made of these texts and places, which have no braces of their own, and no name of a
path parameter ends a place early. -/
structure Operation.HasTemplate (op : Operation) (pieces : List PathTemplate.Piece) : Prop where
  path_eq : op.path = PathTemplate.text pieces
  braceFree : ∀ piece ∈ pieces, piece.BraceFree
  names : ∀ p ∈ op.parameters, p.directive.location = .path → '\x7d' ∉ p.directive.name.toList

namespace Operation.Reorders

variable {op other : Operation}

theorem hasTemplate (h : op.Reorders other) {pieces : List PathTemplate.Piece}
    (htemplate : op.HasTemplate pieces) : other.HasTemplate pieces where
  path_eq := by rw [h.rest, htemplate.path_eq]
  braceFree := htemplate.braceFree
  names p hp := htemplate.names p (h.perm.mem_iff.mpr hp)

theorem symm (h : op.Reorders other) : other.Reorders op where
  rest := by rw [h.rest]
  perm := h.perm.symm
  order place := (h.order place).symm

/-- What is gathered from the parameters of one place only is gathered in the same order. -/
theorem flatMap_eq {γ : Type} (h : op.Reorders other) (place : Place) (gain : Parameter → List γ)
    (hgain : ∀ p, p.place? ≠ some place → gain p = []) :
    op.parameters.flatMap gain = other.parameters.flatMap gain := by
  have hplace (ps : List Parameter) :
      ps.flatMap gain = (ps.filter fun p => p.place? = some place).flatMap gain := by
    induction ps with
    | nil => rfl
    | cons p ps ih =>
        rw [List.flatMap_cons, List.filter_cons, ih]
        by_cases hp : p.place? = some place
        · rw [if_pos (decide_eq_true hp), List.flatMap_cons]
        · rw [if_neg (by rwa [decide_eq_true_eq]), hgain p hp, List.nil_append]
  rw [hplace, hplace other.parameters]
  exact congrArg (List.flatMap gain) (h.order place)

theorem filterMap_eq {γ : Type} (h : op.Reorders other) (place : Place)
    (gain : Parameter → Option γ) (hgain : ∀ p, p.place? ≠ some place → gain p = none) :
    op.parameters.filterMap gain = other.parameters.filterMap gain := by
  rw [List.filterMap_eq_flatMap_toList, List.filterMap_eq_flatMap_toList]
  apply h.flatMap_eq place
  intro p hp
  rw [hgain p hp, Option.toList_none]

end Operation.Reorders

/-! ### What a place gets -/

namespace Operation.Reorders

variable {op other : Operation} (h : op.Reorders other) (r : Registry) (arguments : Arguments)
include h

theorem queryEntries_eq :
    (op.parameters.flatMap fun p => p.queryEntries r arguments) =
      other.parameters.flatMap fun p => p.queryEntries r arguments := by
  apply h.flatMap_eq .query
  intro p hp
  unfold Parameter.queryEntries
  split
  · rename_i hlocation _
    exact absurd (by rw [Parameter.place?, hlocation]) hp
  · rfl

theorem cookies_eq :
    (op.parameters.flatMap fun p => p.cookies r arguments) =
      other.parameters.flatMap fun p => p.cookies r arguments := by
  apply h.flatMap_eq .cookies
  intro p hp
  unfold Parameter.cookies
  split
  · rename_i hlocation _
    exact absurd (by rw [Parameter.place?, hlocation]) hp
  · rfl

/-- The last header of a name is the last one among the parameters of that header. -/
theorem lastValue?_eq (name : String) :
    Headers.lastValue? (op.parameters.filterMap fun p => p.header? r arguments) name =
      Headers.lastValue? (other.parameters.filterMap fun p => p.header? r arguments) name := by
  have heq : (op.parameters.filterMap fun p => p.header? r arguments).filter
      (fun header => sameIgnoringCase header.1 name) =
        (other.parameters.filterMap fun p => p.header? r arguments).filter
          fun header => sameIgnoringCase header.1 name := by
    rw [List.filter_filterMap, List.filter_filterMap]
    apply h.filterMap_eq (.header (lowerAscii name))
    intro p hp
    unfold Parameter.header?
    split
    · rename_i hlocation _
      have hname : sameIgnoringCase p.directive.name name = false := by
        rw [Bool.eq_false_iff, Ne, sameIgnoringCase_iff]
        intro hsame
        exact hp (by rw [Parameter.place?, hlocation, hsame])
      rw [Option.filter_map, Option.map_eq_none_iff, Option.filter_eq_none_iff]
      intro value _
      simp [hname]
    · rfl
  rw [Headers.lastValue?, Headers.lastValue?, heq]

/-- The first text of a name is the first one among the path parameters of that name. -/
theorem lookup_pathTexts_eq (name : String) :
    (op.pathTexts r arguments).lookup name = (other.pathTexts r arguments).lookup name := by
  rw [List.lookup_eq_findSome?, List.lookup_eq_findSome?, ← List.head?_filterMap,
    ← List.head?_filterMap, Operation.pathTexts, Operation.pathTexts, List.filterMap_filterMap,
    List.filterMap_filterMap]
  apply congrArg List.head?
  apply h.filterMap_eq (.path name)
  intro p hp
  unfold Parameter.pathEntry?
  split
  · rename_i hlocation
    have hname : (name == p.directive.name) = false := by
      rw [beq_eq_false_iff_ne]
      rintro rfl
      exact hp (by rw [Parameter.place?, hlocation])
    rw [Option.bind_map, Option.bind_eq_none_iff]
    intro text _
    rw [Function.comp_apply, hname]
    rfl
  · rfl

end Operation.Reorders

/-! ### Both orders side by side -/

namespace Draft

variable {r : Registry} {arguments : Arguments} {d d₁ d₂ : Draft}

/-- Whether a parameter can be added does not depend on those before it. -/
theorem exists_withParameter_eq_ok {p : Parameter} (h : d.withParameter r arguments p = .ok d₁)
    (e : Draft) : ∃ e', e.withParameter r arguments p = .ok e' := by
  obtain ⟨items, hitems, hstep⟩ := withParameter_step h
  have hadd : ∃ e', e.withItems p items = .ok e' := by
    unfold withItems
    cases hstep with
    | path hlocation hne hpath =>
        obtain ⟨path, hpath⟩ := PathTemplate.exists_substitute_eq_ok hpath e.path
        rw [hlocation]
        dsimp only
        rw [if_neg (mt List.isEmpty_iff.mp hne)]
        exact ⟨_, bind_eq_ok.mpr ⟨path, hpath, rfl⟩⟩
    | header hlocation hvalue hheaders =>
        obtain ⟨headers, hheaders⟩ := Headers.exists_set_eq_ok hheaders e.headers
        rw [hlocation]
        dsimp only
        rw [hvalue]
        exact ⟨_, bind_eq_ok.mpr ⟨headers, hheaders, rfl⟩⟩
    | noHeader hlocation hvalue =>
        rw [hlocation]
        dsimp only
        rw [hvalue]
        exact ⟨e, rfl⟩
    | query hlocation | cookie hlocation =>
        rw [hlocation]
        exact ⟨_, rfl⟩
  obtain ⟨e', he'⟩ := hadd
  exact ⟨e', bind_eq_ok.mpr ⟨items, hitems, he'⟩⟩

variable {op other : Operation}

theorem exists_withParameters_eq_ok (h : op.Reorders other)
    (hop : op.parameters.foldlM (withParameter r arguments) d = .ok d₁) :
    ∃ d₂, other.parameters.foldlM (withParameter r arguments) d = .ok d₂ := by
  apply exists_foldlM_eq_ok fun _ _ _ hstep => exists_withParameter_eq_ok hstep
  intro p hp
  exact foldlM_steps hop p (h.perm.mem_iff.mpr hp)

/-- Adding the parameters in one order or the other leads to the same draft: what each place gets is
the same. -/
theorem withParameters_eq (h : op.Reorders other)
    (hop : op.parameters.foldlM (withParameter r arguments) d = .ok d₁)
    (hother : other.parameters.foldlM (withParameter r arguments) d = .ok d₂)
    (hmap : d.headers.IsMap) {pieces : List PathTemplate.Piece}
    (htemplate : op.HasTemplate pieces) (hpath : d.path = op.path) : d₁ = d₂ := by
  have hpaths : d₁.path = d₂.path := by
    have hother_template := h.hasTemplate htemplate
    replace hpath := hpath.trans htemplate.path_eq
    have hlookup (name : String) :
        (PathTemplate.escapeValues (op.pathTexts r arguments)).lookup name =
          (PathTemplate.escapeValues (other.pathTexts r arguments)).lookup name := by
      rw [PathTemplate.lookup_escapeValues, PathTemplate.lookup_escapeValues,
        h.lookup_pathTexts_eq]
    have hfill := PathTemplate.Piece.fill_congr hlookup
    rw [Operation.pathTexts, Operation.pathTexts] at hfill
    rw [withParameters_path hop hpath htemplate.braceFree htemplate.names,
      withParameters_path hother hpath htemplate.braceFree hother_template.names, hfill]
  have hqueries : d₁.query = d₂.query := by
    apply congrArg QueryString.mk
    rw [withParameters_query hop, withParameters_query hother, h.queryEntries_eq]
  have hheaders : d₁.headers = d₂.headers :=
    Headers.setAll_congr hmap (withParameters_headers hop) (withParameters_headers hother)
      (h.lastValue?_eq r arguments)
  have hcookies : d₁.cookies = d₂.cookies := by
    rw [withParameters_cookies hop, withParameters_cookies hother, h.cookies_eq]
  cases d₁
  cases d₂
  rw [Draft.mk.injEq]
  exact ⟨hpaths, hqueries, hheaders, hcookies⟩

end Draft

namespace Assembler

variable {a : Assembler} {op other : Operation} {arguments : Arguments} {request : Request}

theorem assemble_of_reorders (h : op.Reorders other) {pieces : List PathTemplate.Piece}
    (htemplate : op.HasTemplate pieces)
    (hrequest : a.assemble op arguments = .ok request) :
    a.assemble other arguments = .ok request := by
  obtain ⟨⟨typed, body⟩, hdraft, hfinish⟩ := bind_eq_ok.mp hrequest
  obtain ⟨start, hstart, hdraft⟩ := bind_eq_ok.mp hdraft
  obtain ⟨d, hparameters, hdraft⟩ := bind_eq_ok.mp hdraft
  have hstart_path : start.path = op.path :=
    Draft.withHeaders_keeps Draft.path Draft.path_without_headers hstart
  have hstart_map : start.headers.IsMap :=
    (Headers.setAll_eq_ok Headers.isMap_empty (Draft.withHeaders_headers hstart)).2.1
  obtain ⟨d', hothers⟩ := Draft.exists_withParameters_eq_ok h hparameters
  obtain rfl := Draft.withParameters_eq h hparameters hothers hstart_map htemplate hstart_path
  -- nothing after the parameters looks at them again
  rw [h.rest]
  exact bind_eq_ok.mpr ⟨(typed, body),
    bind_eq_ok.mpr ⟨start, hstart, bind_eq_ok.mpr ⟨d, hothers, hdraft⟩⟩, hfinish⟩

/-- Parameters in another order make the same request, or none in both orders, if the query
parameters keep their order and so do the cookies, the headers of one name in any case and the path
parameters of one name. The path is a template of texts and places without braces. -/
theorem assemble_reordered_iff (a : Assembler) (h : op.Reorders other)
    {pieces : List PathTemplate.Piece} (htemplate : op.HasTemplate pieces) (arguments : Arguments)
    (request : Request) :
    a.assemble op arguments = .ok request ↔ a.assemble other arguments = .ok request :=
  ⟨assemble_of_reorders h htemplate, assemble_of_reorders h.symm (h.hasTemplate htemplate)⟩

/-- Path and query parameters change their order, the two headers of one name do not. -/
theorem assemble_reordered_iff_of_mixed :
    let a : Assembler := { settings := { baseUrl := "http://[::1]/v1" }, boundary := "B" }
    let parameter (entry : String × Location) : Parameter :=
      { argumentName := entry.1, schema := .scalar .string
        directive := { name := entry.1, location := entry.2 } }
    let op : Operation :=
      { name := "find", method := .get, path := "/{a}/{b}"
        parameters :=
          [parameter ("a", .path), parameter ("q", .query), parameter ("I", .header),
           parameter ("b", .path), parameter ("i", .header)] }
    let other : Operation :=
      { op with
        parameters :=
          [parameter ("I", .header), parameter ("b", .path), parameter ("i", .header),
           parameter ("a", .path), parameter ("q", .query)] }
    let arguments : Arguments :=
      [("a", .string "b"), ("b", .string "é"), ("i", .string "2"), ("q", .string "3"),
       ("I", .string "4")]
    let request : Request :=
      { method := .get, url := ⟨"http", some "[::1]", "/v1/b/%C3%A9", none, none⟩
        query := ⟨[⟨"q", "3", false⟩]⟩
        headers := ⟨[("i", [bytesOf "2"])]⟩ }
    op.Reorders other ∧ a.assemble op arguments = .ok request ∧
      a.assemble other arguments = .ok request := by
  intro a parameter op other arguments request
  have hperm : [("a", Location.path), ("q", .query), ("I", .header), ("b", .path),
      ("i", .header)].Perm [("I", .header), ("b", .path), ("i", .header), ("a", .path),
      ("q", .query)] := by decide
  have hreorders : op.Reorders other := by
    refine ⟨rfl, hperm.map parameter, ?_⟩
    intro place
    cases place with
    | query => rfl
    | cookies => rfl
    | header name => rfl
    | path name =>
        by_cases hname : "a" = name
        · subst hname
          rfl
        · simp [Operation.parametersOf, Parameter.place?, List.filter_cons, op, other, parameter,
            hname]
  have h : a.assemble op arguments = .ok request := by cbv
  have htemplate : op.HasTemplate
      [.literal "/", .placeholder "a", .literal "/", .placeholder "b"] :=
    ⟨by decide, by decide, by decide⟩
  have hiff := assemble_reordered_iff a hreorders htemplate arguments request
  exact ⟨hreorders, h, hiff.mp h⟩

end Assembler

end ApiCall
