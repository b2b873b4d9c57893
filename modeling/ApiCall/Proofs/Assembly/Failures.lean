import ApiCall.Proofs.Assembly.Phases
import ApiCall.Proofs.Body.Form
import ApiCall.Proofs.Encoding.Leaves
import ApiCall.Proofs.Failure

/-!
What assembling a request may fail with. Every function on the way reports what is wrong with the
arguments, the operation or the settings; none of them reports a document that cannot be read or a
service that does not answer (`Assembler.assemble_fails`).
-/

namespace ApiCall

open Json

/-- The error is about what a request is made from. -/
def Error.IsAssembly : Error → Prop
  | .document .. | .http .. | .connection _ | .tls _ | .timeout => False
  | _ => True

theorem Misfit.error_isAssembly (misfit : Misfit) (path : String) :
    (misfit.error path).IsAssembly := by
  cases misfit <;> trivial

theorem Registry.encode_fails (r : Registry) (schema : Schema) (value : Option Value)
    (path : FieldPath) : FailsAs Error.IsAssembly (r.encode schema value path) := by
  rcases r.conforms_or_firstMisfit schema value with h | ⟨steps, misfit, h⟩
  · obtain ⟨leaves, _, hwalk⟩ := encodeInto_of_conforms h
    rw [encode, hwalk]
    exact .ok _
  · rw [encode, encodeInto_of_firstMisfit h]
    exact .error (misfit.error_isAssembly _)

theorem Headers.set_fails (h : Headers) (name value : String) :
    FailsAs Error.IsAssembly (h.set name value) := by
  unfold set
  split
  · exact .ok _
  · exact .error trivial
  · exact .error trivial

/-! ### Bodies -/

theorem Binary.base64_fails (path : FieldPath) (text : List Char) :
    FailsAs Error.IsAssembly (base64 path text) := by
  unfold base64
  split
  · exact .ok _
  · exact .error trivial

theorem Binary.ofDataUri_fails (uri : List Char) (path : FieldPath) :
    FailsAs Error.IsAssembly (ofDataUri uri path) := by
  unfold ofDataUri
  split
  · exact .error trivial
  · dsimp only
    split
    · exact .bind (base64_fails path _) fun _ _ => .ok _
    · exact .ok _

theorem Binary.ofValue_fails (value : Value) (path : FieldPath) :
    FailsAs Error.IsAssembly (ofValue value path) := by
  unfold ofValue
  split
  · split
    · exact ofDataUri_fails _ path
    · exact .bind (base64_fails path _) fun _ _ => .ok _
  · exact .error trivial

theorem filePart_fails (name : String) (value : Value) (d : Directive) (path : FieldPath) :
    FailsAs Error.IsAssembly (filePart name value d path) :=
  .bind (Binary.ofValue_fails value path) fun _ _ => .ok _

theorem fileParts_fails (name : String) (d : Directive) (path : FieldPath) (i : Nat)
    (elements : List Value) : FailsAs Error.IsAssembly (fileParts name d path i elements) := by
  induction elements generalizing i with
  | nil => exact .ok _
  | cons element rest ih =>
      exact .bind (filePart_fails name element d _) fun _ _ => .bind (ih (i + 1)) fun _ _ => .ok _

theorem textParts_fails (r : Registry) (name : String) (schema : Schema) (value : Value)
    (d : Directive) (path : FieldPath) :
    FailsAs Error.IsAssembly (textParts r name schema value d path) := by
  apply FailsAs.bind (r.encode_fails _ _ _)
  intro items _
  dsimp only
  split
  · exact .ok _
  · exact .ok _

theorem fieldParts_fails (r : Registry) (name : String) (schema : Schema) (value : Value)
    (d : Directive) (path : FieldPath) :
    FailsAs Error.IsAssembly (fieldParts r name schema value d path) := by
  unfold fieldParts
  dsimp only
  split
  · exact .bind (filePart_fails name value d path) fun _ _ => .ok _
  split
  · split
    · split
      · exact fileParts_fails name d path 0 _
      · exact .error trivial
    · exact textParts_fails r name _ value d path
  · exact textParts_fails r name _ value d path

theorem Directive.partHeaders_fails (d : Directive) (r : Registry) (arguments : Arguments) :
    FailsAs Error.IsAssembly (d.partHeaders r arguments) := by
  refine .bind (.mapM ?_) fun _ _ => .ok _
  intro header _
  apply FailsAs.bind (r.encode_fails _ _ _)
  intro items _
  split
  · exact .ok _
  · split
    · exact .ok _
    · exact .error trivial
    · exact .error trivial

namespace BodySpec

variable (spec : BodySpec) (r : Registry)

theorem members_fails (value : Value) (path : FieldPath) :
    FailsAs Error.IsAssembly (spec.members r value path) := by
  unfold members
  split
  · exact .ok _
  · exact .ok _
  · exact .error trivial

theorem urlencoded_fails (value : Value) (path : FieldPath) :
    FailsAs Error.IsAssembly (spec.urlencoded r value path) := by
  apply FailsAs.bind (spec.members_fails r value path)
  intro found _
  refine .bind (.mapM ?_) fun _ _ => .ok _
  intro field _
  exact .bind (r.encode_fails _ _ _) fun _ _ => .ok _

theorem partsOf_fails (arguments : Arguments) (members : List (String × Value)) (path : FieldPath)
    (field : String × Schema) :
    FailsAs Error.IsAssembly (spec.partsOf r arguments members path field) := by
  unfold partsOf
  split
  · split
    · exact .ok _
    · exact .error trivial
  · apply FailsAs.bind (Directive.partHeaders_fails _ r arguments)
    intro headers _
    exact .bind (fieldParts_fails r _ _ _ _ _) fun _ _ => .ok _

theorem form_fails (boundary : String) (value : Value) (arguments : Arguments)
    (path : FieldPath) : FailsAs Error.IsAssembly (spec.form r boundary value arguments path) := by
  rw [form_eq]
  apply FailsAs.bind (spec.members_fails r value path)
  intro found _
  exact .bind (.mapM fun field _ => spec.partsOf_fails r arguments _ path field) fun _ _ => .ok _

theorem payload_fails (boundary : String) (value : Value) (arguments : Arguments) :
    FailsAs Error.IsAssembly (spec.payload r boundary value arguments) := by
  unfold payload
  dsimp only
  split
  · exact .bind (r.encode_fails _ _ _) fun _ _ => .ok _
  split
  · exact .bind (spec.urlencoded_fails r value _) fun _ _ => .ok _
  split
  · exact .bind (spec.form_fails r boundary value arguments _) fun _ _ => .ok _
  split
  · exact .ok _
  split
  · exact .bind (Binary.ofValue_fails value _) fun _ _ => .ok _
  · exact .error trivial

theorem build_fails (boundary : String) (value : Option Value) (arguments : Arguments) :
    FailsAs Error.IsAssembly (spec.build r boundary value arguments) := by
  unfold build
  split
  · split
    · exact .ok _
    · exact .error trivial
  · exact .bind (spec.payload_fails r boundary _ arguments) fun _ _ => .ok _

end BodySpec

/-! ### Drafts and requests -/

theorem PathTemplate.substitute_fails (template name : String) (items : Items) :
    FailsAs Error.IsAssembly (substitute template name items) := by
  unfold substitute
  split
  · split
    · exact .ok _
    · exact .error trivial
  · exact .error trivial

namespace Draft

variable (d : Draft)

theorem withHeader_fails (name value : String) :
    FailsAs Error.IsAssembly (d.withHeader name value) :=
  .bind (Headers.set_fails _ name value) fun _ _ => .ok _

theorem withItems_fails (p : Parameter) (items : Items) :
    FailsAs Error.IsAssembly (d.withItems p items) := by
  unfold withItems
  dsimp only
  split
  · split
    · exact .error trivial
    · exact .bind (PathTemplate.substitute_fails _ _ _) fun _ _ => .ok _
  · exact .ok _
  · split
    · exact d.withHeader_fails _ _
    · exact .ok _
  · exact .ok _
  · exact .error trivial

theorem withParameter_fails (r : Registry) (arguments : Arguments) (p : Parameter) :
    FailsAs Error.IsAssembly (d.withParameter r arguments p) :=
  .bind (r.encode_fails _ _ _) fun items _ => d.withItems_fails p items

theorem withInjection_fails (injection : Injection) :
    FailsAs Error.IsAssembly (d.withInjection injection) := by
  cases injection with
  | header name value => exact d.withHeader_fails name value
  | query name value => exact .ok _
  | cookie name value => exact .ok _

theorem withCookieHeader_fails : FailsAs Error.IsAssembly d.withCookieHeader := by
  unfold withCookieHeader
  split
  · exact .ok _
  · exact d.withHeader_fails _ _

end Draft

theorem joinUrl_fails (base path : String) : FailsAs Error.IsAssembly (joinUrl base path) := by
  unfold joinUrl
  dsimp only
  split
  · exact .ok _
  · exact .error trivial

namespace Assembler

variable (a : Assembler) (op : Operation)

theorem draft_fails (arguments : Arguments) :
    FailsAs Error.IsAssembly (a.draft op arguments) := by
  refine .bind (.foldlM (fun header _ d => d.withHeader_fails _ _) _) ?_
  intro d _
  refine .bind (.foldlM (fun p _ d => d.withParameter_fails _ _ p) d) ?_
  intro d _
  split
  · exact .ok _
  · apply FailsAs.bind (BodySpec.build_fails _ _ _ _ arguments)
    intro body _
    split
    · exact .ok _
    · exact .bind (d.withHeader_fails _ _) fun _ _ => .ok _

theorem finish_fails (d : Draft) (body : Option Payload) :
    FailsAs Error.IsAssembly (a.finish op d body) := by
  have hrest (d : Draft) (complete : Draft → Url → Request) :
      FailsAs Error.IsAssembly (d.withCookieHeader >>= fun d =>
        joinUrl a.settings.baseUrl d.path >>= fun url => .ok (complete d url)) :=
    .bind d.withCookieHeader_fails fun d _ => .bind (joinUrl_fails _ d.path) fun url _ => .ok _
  unfold finish
  split
  · exact .bind (d.withInjection_fails _) fun d _ => hrest d _
  · exact hrest d _

/-- Whatever keeps a request from being assembled is wrong with what it is made from. -/
theorem assemble_fails (arguments : Arguments) :
    FailsAs Error.IsAssembly (a.assemble op arguments) :=
  .bind (a.draft_fails op arguments) fun found _ => a.finish_fails op found.1 found.2

end Assembler

end ApiCall
