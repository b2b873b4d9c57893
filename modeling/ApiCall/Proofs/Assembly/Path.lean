import ApiCall.Proofs.Assembly.Phases
import ApiCall.Proofs.Path.Template

/-!
The path of an assembled request is the template of the operation with the escaped text of a path
parameter in each place (`Assembler.path_of_phases`). Only the parameters touch it.
-/

namespace ApiCall

/-- The text of a parameter in the path, if its value has one: its values, joined with commas. -/
def Parameter.pathText? (p : Parameter) (r : Registry) (arguments : Arguments) : Option String :=
  match r.encode p.schema (arguments.lookup p.argumentName) { root := p.argumentName } with
  | .ok [item] => if item.trimmed.isEmpty then some (",".intercalate item.values) else none
  | _ => none

/-- The name of a path parameter with its text. -/
def Parameter.pathEntry? (p : Parameter) (r : Registry) (arguments : Arguments) :
    Option (String × String) :=
  if p.directive.location = .path then
    (p.pathText? r arguments).map fun text => (p.directive.name, text)
  else none

/-- The names and the texts of the path parameters of an operation. -/
def Operation.pathTexts (op : Operation) (r : Registry) (arguments : Arguments) :
    List (String × String) :=
  op.parameters.filterMap fun p => p.pathEntry? r arguments

namespace Draft

theorem path_without_headers (d : Draft) (headers : Headers) : { d with headers }.path = d.path :=
  rfl

/-- A path parameter replaces its name by its escaped text, and no other one touches the path. -/
theorem withParameter_path {r : Registry} {arguments : Arguments} {d d' : Draft} {p : Parameter}
    (h : d.withParameter r arguments p = .ok d') :
    if p.directive.location = .path then
      ∃ text, p.pathText? r arguments = some text ∧
        d'.path = PathTemplate.replaceName d.path p.directive.name (PathTemplate.escapeSegment text)
    else d'.path = d.path := by
  obtain ⟨items, hitems, hstep⟩ := withParameter_step h
  cases hstep with
  | path hlocation _ hpath =>
      obtain ⟨item, rfl, htrimmed, rfl⟩ := PathTemplate.substitute_eq_ok hpath
      rw [if_pos hlocation]
      refine ⟨",".intercalate item.values, ?_, rfl⟩
      rw [Parameter.pathText?, hitems]
      exact if_pos htrimmed
  | query hlocation | header hlocation | noHeader hlocation | cookie hlocation =>
      rw [if_neg (by rw [hlocation]; decide)]

/-- The parameters replace their names one after the other. -/
theorem withParameters_replaceNames {r : Registry} {arguments : Arguments}
    {parameters : List Parameter} {d d' : Draft}
    (h : parameters.foldlM (withParameter r arguments) d = .ok d') :
    d'.path = (parameters.filterMap fun p => p.pathEntry? r arguments).foldl
      (fun path entry =>
        PathTemplate.replaceName path entry.1 (PathTemplate.escapeSegment entry.2)) d.path := by
  induction parameters generalizing d with
  | nil =>
      cases h
      rfl
  | cons p parameters ih =>
      rw [List.foldlM_cons] at h
      obtain ⟨next, hnext, hrest⟩ := bind_eq_ok.mp h
      have hstep := withParameter_path hnext
      by_cases hlocation : p.directive.location = .path
      · rw [if_pos hlocation] at hstep
        obtain ⟨text, htext, hreplaced⟩ := hstep
        have hentry : p.pathEntry? r arguments = some (p.directive.name, text) := by
          rw [Parameter.pathEntry?, if_pos hlocation, htext, Option.map_some]
        rw [List.filterMap_cons, hentry, List.foldl_cons, ih hrest, hreplaced]
      · rw [if_neg hlocation] at hstep
        have hentry : p.pathEntry? r arguments = none := by
          rw [Parameter.pathEntry?, if_neg hlocation]
        rw [List.filterMap_cons, hentry, ih hrest, hstep]

/-- The parameters fill the places of a template, so each place holds the text of the first
parameter of its name. -/
theorem withParameters_path {r : Registry} {arguments : Arguments} {parameters : List Parameter}
    {d d' : Draft} {pieces : List PathTemplate.Piece}
    (h : parameters.foldlM (withParameter r arguments) d = .ok d')
    (hpath : d.path = PathTemplate.text pieces) (hpieces : ∀ piece ∈ pieces, piece.BraceFree)
    (hnames : ∀ p ∈ parameters, p.directive.location = .path → '\x7d' ∉ p.directive.name.toList) :
    d'.path = PathTemplate.text (pieces.map (PathTemplate.Piece.fill
      (PathTemplate.escapeValues (parameters.filterMap fun p => p.pathEntry? r arguments)))) := by
  rw [withParameters_replaceNames h, hpath, PathTemplate.foldl_replaceName_text hpieces]
  intro entry hentry
  obtain ⟨p, hp, hsome⟩ := List.mem_filterMap.mp hentry
  unfold Parameter.pathEntry? at hsome
  split at hsome
  · rename_i hlocation
    obtain ⟨text, -, rfl⟩ := Option.map_eq_some_iff.mp hsome
    exact hnames p hp hlocation
  · cases hsome

theorem withCredential_path {d d' : Draft} {chosen : Option (String × Injection)}
    (h : d.withCredential chosen = .ok d') : d'.path = d.path := by
  rcases chosen with _ | ⟨scheme, ⟨name, value⟩ | ⟨name, value⟩ | ⟨name, value⟩⟩
  · cases h
    rfl
  · exact withHeader_keeps path path_without_headers h
  · cases h
    rfl
  · cases h
    rfl

end Draft

namespace Assembler

variable {a : Assembler} {op : Operation} {arguments : Arguments} {request : Request}

theorem path_of_phases (phases : a.Phases op arguments request)
    {pieces : List PathTemplate.Piece} (hpath : op.path = PathTemplate.text pieces)
    (hpieces : ∀ piece ∈ pieces, piece.BraceFree)
    (hnames : ∀ p ∈ op.parameters, p.directive.location = .path →
      '\x7d' ∉ p.directive.name.toList) :
    phases.final.path = PathTemplate.text (pieces.map (PathTemplate.Piece.fill
      (PathTemplate.escapeValues (op.pathTexts a.registry arguments)))) := by
  have hview := Draft.path_without_headers
  have hstart := Draft.withHeaders_keeps Draft.path hview phases.start_eq
  rw [Draft.withCookieHeader_keeps Draft.path hview phases.final_eq,
    Draft.withCredential_path phases.secured_eq,
    Draft.withPayload_keeps Draft.path hview phases.typed_eq]
  exact Draft.withParameters_path phases.parameters_eq (hstart.trans hpath) hpieces hnames

/-- Where assembling succeeds, every path parameter has a text. -/
theorem pathText_of_phases (phases : a.Phases op arguments request) {p : Parameter}
    (hp : p ∈ op.parameters) (hlocation : p.directive.location = .path) :
    ∃ text, (p.directive.name, text) ∈ op.pathTexts a.registry arguments := by
  obtain ⟨d, d', hstep⟩ := foldlM_steps phases.parameters_eq p hp
  have hpath := Draft.withParameter_path hstep
  rw [if_pos hlocation] at hpath
  obtain ⟨text, htext, _⟩ := hpath
  refine ⟨text, List.mem_filterMap.mpr ⟨p, hp, ?_⟩⟩
  rw [Parameter.pathEntry?, if_pos hlocation, htext]
  rfl

end Assembler

end ApiCall
