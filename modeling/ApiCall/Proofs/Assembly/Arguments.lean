import ApiCall.Assembly
import ApiCall.Proofs.Body.Encodings
import Mathlib

/-!
Which arguments a request depends on. An operation names them: one for each parameter, one for the
body, and one for each header of the body's parts. Everything else in the argument map goes unseen,
and so does whether a named argument is null or not there (`Assembler.named_arguments_decide`).
-/

namespace ApiCall

open Json

/-- Both maps give a name the same value. Null is no value. -/
def SameArgument (arguments other : Arguments) (name : String) : Prop :=
  present (arguments.lookup name) = present (other.lookup name)

/-- The arguments that the part headers of a field take their values from. -/
def Directive.argumentNames (d : Directive) : List String :=
  d.headers.map fun header => header.2.argumentName

/-- The argument of the body, and those of the part headers of its fields. -/
def BodySpec.argumentNames (spec : BodySpec) : List String :=
  spec.argumentName :: spec.encoding.flatMap fun field => field.2.argumentNames

/-- The arguments that a request of the operation is made from. -/
def Operation.argumentNames (op : Operation) : List String :=
  op.parameters.map Parameter.argumentName ++ op.body.toList.flatMap BodySpec.argumentNames

section Body

variable {r : Registry} {arguments other : Arguments}

theorem Directive.partHeaders_of_sameArguments {d : Directive}
    (h : ∀ name ∈ d.argumentNames, SameArgument arguments other name) :
    d.partHeaders r arguments = d.partHeaders r other := by
  have heach : ∀ header ∈ d.headers,
      r.encode header.2.schema (arguments.lookup header.2.argumentName)
          { root := header.2.argumentName } =
        r.encode header.2.schema (other.lookup header.2.argumentName)
          { root := header.2.argumentName } := by
    intro header hheader
    apply encodeInto_of_present_eq
    exact h header.2.argumentName (List.mem_map_of_mem hheader)
  unfold partHeaders
  apply congrArg (· >>= _)
  apply mapM_congr_left
  intro header hheader
  dsimp only
  rw [heach header hheader]

namespace BodySpec

variable {spec : BodySpec}

theorem partHeaders_of_sameArguments
    (h : ∀ name ∈ spec.argumentNames, SameArgument arguments other name) (field : String) :
    (spec.directive field).partHeaders r arguments =
      (spec.directive field).partHeaders r other := by
  apply forall_directive (P := fun d => d.partHeaders r arguments = d.partHeaders r other)
  · intro declared hdeclared
    apply Directive.partHeaders_of_sameArguments
    intro name hname
    apply h
    exact List.mem_cons_of_mem _ (List.mem_flatMap.mpr ⟨declared, hdeclared, hname⟩)
  · rfl

/-- Part headers are all that a form takes from other arguments than its own. -/
theorem form_of_sameArguments
    (h : ∀ name ∈ spec.argumentNames, SameArgument arguments other name) (boundary : String)
    (v : Value) (path : FieldPath) :
    spec.form r boundary v arguments path = spec.form r boundary v other path := by
  have hparts (members : List (String × Value)) :
      spec.partsOf r arguments members path = spec.partsOf r other members path := by
    funext field
    unfold partsOf
    cases present (members.lookup field.1) with
    | none => rfl
    | some v =>
        dsimp only
        rw [partHeaders_of_sameArguments h field.1]
  simp only [form_eq, hparts]

theorem payload_of_sameArguments
    (h : ∀ name ∈ spec.argumentNames, SameArgument arguments other name) (boundary : String)
    (v : Value) :
    spec.payload r boundary v arguments = spec.payload r boundary v other := by
  simp only [payload, form_of_sameArguments h]

theorem build_of_sameArguments
    (h : ∀ name ∈ spec.argumentNames, SameArgument arguments other name) (boundary : String) :
    spec.build r boundary (arguments.lookup spec.argumentName) arguments =
      spec.build r boundary (other.lookup spec.argumentName) other := by
  have hbody : SameArgument arguments other spec.argumentName :=
    h spec.argumentName List.mem_cons_self
  cases hv : present (arguments.lookup spec.argumentName) with
  | none => rw [build_absent spec hv, build_absent spec (hbody.symm.trans hv)]
  | some v =>
      rw [build_present spec hv, build_present spec (hbody.symm.trans hv),
        payload_of_sameArguments h]

end BodySpec

end Body

theorem Draft.withParameter_of_sameArgument {r : Registry} {arguments other : Arguments}
    {p : Parameter} (h : SameArgument arguments other p.argumentName) (d : Draft) :
    d.withParameter r arguments p = d.withParameter r other p := by
  have hitems (path : FieldPath) :
      r.encode p.schema (arguments.lookup p.argumentName) path =
        r.encode p.schema (other.lookup p.argumentName) path :=
    encodeInto_of_present_eq h r [] [] p.schema path
  unfold withParameter
  rw [hitems]

namespace Assembler

variable {a : Assembler} {op : Operation} {arguments other : Arguments}

theorem draft_of_sameArguments
    (h : ∀ name ∈ op.argumentNames, SameArgument arguments other name) :
    a.draft op arguments = a.draft op other := by
  have hparameters (d : Draft) :
      op.parameters.foldlM (Draft.withParameter a.registry arguments) d =
        op.parameters.foldlM (Draft.withParameter a.registry other) d := by
    apply foldlM_congr_left
    intro p hp d
    apply Draft.withParameter_of_sameArgument
    exact h p.argumentName (List.mem_append_left _ (List.mem_map_of_mem hp))
  have hbody (spec : BodySpec) (hspec : op.body = some spec) :
      spec.build a.registry a.boundary (arguments.lookup spec.argumentName) arguments =
        spec.build a.registry a.boundary (other.lookup spec.argumentName) other := by
    apply BodySpec.build_of_sameArguments
    intro name hname
    apply h
    rw [Operation.argumentNames, hspec]
    simpa using Or.inr hname
  unfold draft
  cases hspec : op.body with
  | none => simp only [hparameters]
  | some spec => simp only [hparameters, hbody spec hspec]

/-- Two argument maps that give the same to every name the operation mentions make the same request
or fail with the same error. So neither other entries nor the order of the entries matter, and a
null is as good as no entry. -/
theorem named_arguments_decide (a : Assembler) (op : Operation)
    (h : ∀ name ∈ op.argumentNames, SameArgument arguments other name) :
    a.assemble op arguments = a.assemble op other := by
  unfold assemble
  rw [draft_of_sameArguments h]

/-- The same entries in another order, with a null for what is missing and one entry that nothing
asks for. The part header and one of the parameters have no value. -/
theorem named_arguments_decide_null :
    let a : Assembler := { settings := { baseUrl := "http://[::1]/v1" }, boundary := "B" }
    let field : Directive :=
      { name := "f", location := .formField
        headers := [("X", { argumentName := "x", schema := .nullable (.scalar .integer) })] }
    let spec : BodySpec :=
      { contentType := "multipart/form-data", schema := .object [("f", .scalar .string)]
        encoding := [("f", field)] }
    let op : Operation :=
      { name := "put", method := .put, path := "/p"
        parameters :=
          [{ argumentName := "q", schema := .scalar .string, directive := { name := "q" } },
           { argumentName := "n", schema := .nullable (.scalar .string)
             directive := { name := "n" } }]
        body := some spec }
    let body : Value := .object [("f", .string "1")]
    let arguments : Arguments := [("q", .string "2"), ("body", body), ("x", .null)]
    let other : Arguments :=
      [("n", .null), ("y", .bool true), ("body", body), ("q", .string "2")]
    let form : Form := { boundary := "B", parts := [{ name := "f", data := bytesOf "1" }] }
    let request : Request :=
      { method := .put, url := ⟨"http", some "[::1]", "/v1/p", none, none⟩
        query := ⟨[⟨"q", "2", false⟩]⟩
        headers := ⟨[("content-type", [bytesOf "multipart/form-data; boundary=B"])]⟩
        body := some (.multipart form) }
    op.argumentNames = ["q", "n", "body", "x"] ∧
      (∀ name ∈ op.argumentNames, SameArgument arguments other name) ∧
      a.assemble op arguments = .ok request ∧ a.assemble op other = .ok request := by
  intro a field spec op body arguments other form request
  have hnames : op.argumentNames = ["q", "n", "body", "x"] := by decide
  have hsame : ∀ name ∈ op.argumentNames, SameArgument arguments other name := by
    rw [hnames]
    intro name hname
    simp only [List.mem_cons, List.not_mem_nil, or_false] at hname
    rcases hname with rfl | rfl | rfl | rfl <;> rfl
  have hbuild : spec.build a.registry a.boundary (arguments.lookup "body") arguments =
      .ok (some (.multipart form)) :=
    BodySpec.build_of_form (by decide) rfl
      (show spec.form a.registry a.boundary body arguments { root := "body" } = .ok form by cbv)
  have h : a.assemble op arguments = .ok request := by
    let d : Draft := { path := "/p", query := request.query }
    have hparameters : op.parameters.foldlM (Draft.withParameter a.registry arguments)
        { path := op.path } = .ok d := by cbv
    have htype : form.contentType = "multipart/form-data; boundary=B" := by decide
    have htyped : d.withHeader "content-type" form.contentType =
        .ok { d with headers := request.headers } := by
      rw [htype]
      cbv
    have hdraft : a.draft op arguments =
        .ok ({ d with headers := request.headers }, request.body) :=
      bind_eq_ok.mpr ⟨_, rfl, bind_eq_ok.mpr ⟨d, hparameters, bind_eq_ok.mpr ⟨_, hbuild,
        bind_eq_ok.mpr ⟨_, htyped, rfl⟩⟩⟩⟩
    exact bind_eq_ok.mpr ⟨_, hdraft, by cbv⟩
  have heq := named_arguments_decide a op hsame
  exact ⟨hnames, hsame, h, heq.symm.trans h⟩

end Assembler

end ApiCall
