import ApiCall.Proofs.Assembly.Phases
import ApiCall.Proofs.Encoding.KeyPaths
import ApiCall.Proofs.Path.Template
import Mathlib

/-!
Which values can be written in a path. A path has room for one item whose key path is dropped; but
the schema decides how deep a scalar lies, so such an item holds every leaf of its value
(`Registry.items_of_havePathForm`). A value that is substituted therefore shows all its leaves, and
any other one is refused (`Registry.substitute_shows_all_leaves`).
-/

namespace ApiCall

open Json

/-! ### Leaves with a form in the path -/

/-- The leaf lies under a field of an object. -/
def Leaf.underField (leaf : Leaf) : Bool :=
  leaf.keys.any (!·.isElement)

/-- There is something to write, and nothing of it lies under a field. -/
def HavePathForm (leaves : List Leaf) : Prop :=
  leaves ≠ [] ∧ ∀ leaf ∈ leaves, leaf.underField = false

theorem Leaf.underField_eq_false_iff (leaf : Leaf) :
    leaf.underField = false ↔ ∀ key ∈ leaf.keys, key.isElement = true := by
  simp [underField]

theorem Key.trim_eq_nil_iff {keys : List Key} :
    trim keys = [] ↔ ∀ key ∈ keys, key.isElement = true := by
  simp [trim, List.dropWhile_eq_nil_iff]

namespace PathTemplate

theorem substitute_of_trimmed (template name : String) {item : Item} (h : item.trimmed = []) :
    substitute template name [item] =
      .ok (replaceName template name (escapeSegment (",".intercalate item.values))) := by
  simp [substitute, h]

/-- The one error of a substitution. -/
theorem substitute_eq_error {template name : String} {items : Items}
    (h : ∀ path, substitute template name items ≠ .ok path) :
    substitute template name items = .error (.unsupportedParameter name
      "only scalar or array values can be substituted into the path") := by
  unfold substitute at h ⊢
  split
  · split
    · rename_i htrimmed
      simp [htrimmed] at h
    · rfl
  · rfl

end PathTemplate

/-! ### Values with a form in the path -/

namespace Registry

variable {r : Registry} {schema : Schema} {value : Option Value} {path : FieldPath} {items : Items}
variable {leaves : List Leaf}

/-- Where one path meets array positions only, so does every other one, and they are as many: no
object lies on the way. -/
theorem IsLeafPath.eq_of_elements {keys others : List Key} (h : r.IsLeafPath schema keys)
    (hkeys : ∀ key ∈ keys, key.isElement = true) (hother : r.IsLeafPath schema others) :
    others = keys := by
  induction h generalizing others with
  | scalar hs =>
      cases hother with
      | scalar _ => rfl
      | element hother _ => cases hs.symm.trans hother
      | field hother _ _ => cases hs.symm.trans hother
  | element hs _ ih =>
      cases hother with
      | scalar hother => cases hs.symm.trans hother
      | element hsame hrest =>
          obtain rfl := Shape.array.inj (hs.symm.trans hsame)
          rw [ih (fun key hkey => hkeys key (List.mem_cons_of_mem _ hkey)) hrest]
      | field hother _ _ => cases hs.symm.trans hother
  | field _ _ _ _ =>
      have hfield := hkeys _ List.mem_cons_self
      cases hfield

/-- Leaves under no field are the values of one item. -/
theorem items_of_havePathForm (h : r.encode schema value path = .ok items)
    (hleaves : r.leaves? schema value = some leaves) (hform : HavePathForm leaves) :
    ∃ keys, Key.trim keys = [] ∧ items = [⟨keys, leaves.map Leaf.text⟩] := by
  obtain ⟨hne, hplain⟩ := hform
  obtain ⟨found, hfound, rfl⟩ := group_of_encode h
  obtain rfl := Option.some.inj (hfound.symm.trans hleaves)
  have hpaths {leaf : Leaf} (hleaf : leaf ∈ found) : r.IsLeafPath schema leaf.keys :=
    isLeafPath_of_mem_leaves (conforms_of_encode_eq_ok h) hleaves hleaf
  obtain ⟨first, hfirst⟩ := List.exists_mem_of_ne_nil found hne
  have helements := first.underField_eq_false_iff.mp (hplain first hfirst)
  refine ⟨first.keys, Key.trim_eq_nil_iff.mpr helements, ?_⟩
  apply Items.group_of_same_keys hne
  intro leaf hleaf
  exact (hpaths hfirst).eq_of_elements helements (hpaths hleaf)

/-- An item that fills a place of a path alone leaves no leaf out. -/
theorem havePathForm_of_items {item : Item} (h : r.encode schema value path = .ok [item])
    (htrimmed : item.trimmed = []) (hleaves : r.leaves? schema value = some leaves) :
    HavePathForm leaves := by
  obtain ⟨found, hfound, hgroup⟩ := group_of_encode h
  obtain rfl := Option.some.inj (hfound.symm.trans hleaves)
  constructor
  · rintro rfl
    simp [Items.group] at hgroup
  · intro leaf hleaf
    have hmem : leaf ∈ (Items.group found).flatMap Item.leaves :=
      (Items.leaves_group_perm found).mem_iff.mpr hleaf
    rw [← hgroup, List.flatMap_singleton] at hmem
    obtain ⟨text, -, rfl⟩ := List.mem_map.mp hmem
    exact (Leaf.underField_eq_false_iff _).mpr (Key.trim_eq_nil_iff.mp htrimmed)

/-- A value without leaves has no items, wherever it stands. -/
theorem encode_of_no_leaves (h : r.encode schema value path = .ok items)
    (hleaves : r.leaves? schema value = some []) (other : FieldPath) :
    r.encode schema value other = .ok [] := by
  obtain ⟨found, hfound, hwalk⟩ := encodeInto_of_conforms (conforms_of_encode_eq_ok h)
  obtain rfl := Option.some.inj (hfound.symm.trans hleaves)
  exact hwalk [] [] other

end Registry

/-! ### Assembling -/

namespace Assembler

/-- The draft with the headers of the server and some of an operation's parameters. -/
def draftWith (a : Assembler) (op : Operation) (arguments : Arguments)
    (parameters : List Parameter) : Except Error Draft := do
  let start : Draft := { path := op.path }
  let d ← a.settings.headers.foldlM (fun d (name, value) => d.withHeader name value) start
  parameters.foldlM (Draft.withParameter a.registry arguments) d

variable {a : Assembler} {op : Operation} {arguments : Arguments}

/-- Nothing comes after a parameter that fails. -/
theorem assemble_of_draftWith {e : Error} (h : a.draftWith op arguments op.parameters = .error e) :
    a.assemble op arguments = .error e := by
  obtain ⟨rest, hrest⟩ : ∃ rest, a.draft op arguments =
      a.draftWith op arguments op.parameters >>= rest := by
    unfold draft draftWith
    simp only [bind_assoc]
    exact ⟨_, rfl⟩
  unfold assemble
  rw [hrest, h]
  rfl

theorem draftWith_append (before after : List Parameter) :
    a.draftWith op arguments (before ++ after) =
      a.draftWith op arguments before >>=
        after.foldlM (Draft.withParameter a.registry arguments) := by
  simp [draftWith, List.foldlM_append]

/-- A path parameter without items ends assembling, unless something before it has. -/
theorem assemble_of_no_items {before after : List Parameter} {p : Parameter}
    (hparameters : op.parameters = before ++ p :: after) (hlocation : p.directive.location = .path)
    (hitems : a.registry.encode p.schema (arguments.lookup p.argumentName)
      { root := p.argumentName } = .ok []) :
    a.assemble op arguments = a.draftWith op arguments before >>= fun _ =>
      .error (.valueMissing p.argumentName) := by
  have hstep (d : Draft) : d.withParameter a.registry arguments p =
      .error (.valueMissing p.argumentName) := by
    simp [Draft.withParameter, hitems, Draft.withItems, hlocation, bind, Except.bind]
  have hall : a.draftWith op arguments op.parameters =
      a.draftWith op arguments before >>= fun _ => .error (.valueMissing p.argumentName) := by
    rw [hparameters, draftWith_append]
    congr 1
    funext d
    rw [List.foldlM_cons, hstep]
    rfl
  cases hbefore : a.draftWith op arguments before with
  | error e | ok d =>
      rw [hbefore] at hall
      exact assemble_of_draftWith hall

end Assembler

namespace Registry

variable {r : Registry} {schema : Schema} {value : Option Value} {path : FieldPath} {items : Items}

/-- A value is written in a path exactly when it has a leaf and none lies under a field, and then
its place shows all its leaves, in order and escaped. Any other value is refused, and one without
leaves is missing. -/
theorem substitute_shows_all_leaves (h : r.encode schema value path = .ok items) :
    ∃ leaves shown, r.leaves? schema value = some leaves ∧
      PathTemplate.Shows shown (",".intercalate (leaves.map Leaf.text)) ∧
      (∀ template name,
        (HavePathForm leaves → ∃ filled, PathTemplate.substitute template name items = .ok filled ∧
          Split.Replaced (PathTemplate.Piece.placeholder name).text shown.toList template.toList
            filled.toList) ∧
        (¬ HavePathForm leaves → PathTemplate.substitute template name items =
          .error (.unsupportedParameter name
            "only scalar or array values can be substituted into the path"))) ∧
      (leaves = [] → ∀ (a : Assembler) (op : Operation) (arguments : Arguments)
        (before after : List Parameter) (p : Parameter),
        a.registry = r → op.parameters = before ++ p :: after → p.directive.location = .path →
        p.schema = schema → arguments.lookup p.argumentName = value →
        a.assemble op arguments = a.draftWith op arguments before >>= fun _ =>
          .error (.valueMissing p.argumentName)) := by
  obtain ⟨leaves, hleaves, -⟩ := group_of_encode h
  refine ⟨leaves, _, hleaves, PathTemplate.shows_escapeSegment _, ?_, ?_⟩
  · intro template name
    constructor
    · intro hform
      obtain ⟨keys, htrimmed, rfl⟩ := items_of_havePathForm h hleaves hform
      exact ⟨_, PathTemplate.substitute_of_trimmed template name htrimmed,
        PathTemplate.replaced_replaceName template name _⟩
    · intro hform
      apply PathTemplate.substitute_eq_error
      intro path' hpath
      obtain ⟨item, rfl, htrimmed, -⟩ := PathTemplate.substitute_eq_ok hpath
      exact hform (havePathForm_of_items h (List.isEmpty_iff.mp htrimmed) hleaves)
  · rintro rfl a op arguments before after p rfl hparameters hlocation rfl rfl
    exact Assembler.assemble_of_no_items hparameters hlocation (encode_of_no_leaves h hleaves _)

/-- Lists of lists with a null and an empty one inside are written string by string, with a slash, a
percent sign and a letter beyond ASCII escaped. An empty list is missing. -/
theorem substitute_shows_all_leaves_of_lists :
    let schema : Schema := .array (.array (.nullable (.scalar .string)))
    let lists : Value := .array [.array [.string "a/b", .null], .array [], .array [.string "é%"]]
    let items : Items := [⟨[.element, .element], ["a/b", "é%"]⟩]
    let p : Parameter := ⟨"ids", schema, { name := "ids", location := .path }⟩
    let op : Operation :=
      { name := "pets", method := .get, path := "/pets/\x7bids\x7d", parameters := [p] }
    let a : Assembler := { boundary := "B" }
    a.registry.encode schema (some lists) { root := "ids" } = .ok items ∧
      PathTemplate.Shows "a%2Fb,%C3%A9%25" "a/b,é%" ∧
      Split.Replaced (PathTemplate.Piece.placeholder "ids").text "a%2Fb,%C3%A9%25".toList
        op.path.toList "/pets/a%2Fb,%C3%A9%25".toList ∧
      PathTemplate.substitute op.path "ids" items = .ok "/pets/a%2Fb,%C3%A9%25" ∧
      a.registry.encode schema (some (.array [])) { root := "ids" } = .ok [] ∧
      a.assemble op [("ids", .array [])] = .error (.valueMissing "ids") := by
  intro schema lists items p op a
  have hlists : a.registry.encode schema (some lists) { root := "ids" } = .ok items := by cbv
  have hempty : a.registry.encode schema (some (.array [])) { root := "ids" } = .ok [] := by cbv
  have htexts : a.registry.leaves? schema (some lists) =
      some [⟨[.element, .element], "a/b"⟩, ⟨[.element, .element], "é%"⟩] := by cbv
  have hnone : a.registry.leaves? schema (some (.array [])) = some [] := by cbv
  have hescaped : PathTemplate.escapeSegment "a/b,é%" = "a%2Fb,%C3%A9%25" := by decide
  have hjoined : ",".intercalate ["a/b", "é%"] = "a/b,é%" := by decide
  have hfilled : PathTemplate.substitute op.path "ids" items = .ok "/pets/a%2Fb,%C3%A9%25" := by
    rw [PathTemplate.substitute_of_trimmed op.path "ids" rfl, hjoined, hescaped]
    cbv
  obtain ⟨leaves, shown, hleaves, hshown, hpath, -⟩ := substitute_shows_all_leaves hlists
  obtain rfl := Option.some.inj (hleaves.symm.trans htexts)
  have hform : HavePathForm [⟨[.element, .element], "a/b"⟩, ⟨[.element, .element], "é%"⟩] := by
    simp [HavePathForm, Leaf.underField, Key.isElement]
  obtain ⟨filled, hok, hreplaced⟩ := (hpath op.path "ids").1 hform
  obtain rfl := Except.ok.inj (hok.symm.trans hfilled)
  obtain rfl : shown = "a%2Fb,%C3%A9%25" :=
    hshown.unique (hescaped ▸ hjoined ▸ PathTemplate.shows_escapeSegment _)
  refine ⟨hlists, hshown, hreplaced, hfilled, hempty, ?_⟩
  obtain ⟨leaves, shown, hleaves, -, -, hmissing⟩ := substitute_shows_all_leaves hempty
  obtain rfl := Option.some.inj (hleaves.symm.trans hnone)
  exact hmissing rfl a op [("ids", .array [])] [] [] p rfl rfl rfl rfl rfl

end Registry

end ApiCall
