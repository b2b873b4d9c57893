import ApiCall.Proofs.Assembly.Failures
import ApiCall.Proofs.Retry.Run

/-!
What the kind of an error tells about a call that failed. Assembling, the service and the reading of
a response fail in three different ways, so an error says whether anything was sent, unless it is
taken for an encoding error although it comes from a response (`Executor.nothing_sent_iff`).
-/

namespace ApiCall

/-- The request did not get through, or its response was no success. -/
def Error.IsTransport : Error → Prop
  | .http .. | .connection _ | .tls _ | .timeout => True
  | _ => False

/-- A document could not be read. -/
def Error.IsDocument (e : Error) : Prop :=
  ∃ path message, e = .document path message

namespace Error

theorem IsAssembly.isEncoding {e : Error} (h : e.IsAssembly) : e.isEncoding = true := by
  cases e <;> first | rfl | exact h.elim

theorem IsAssembly.not_isDocument {e : Error} (h : e.IsAssembly) : ¬ e.IsDocument := by
  rintro ⟨path, message, rfl⟩
  exact h

theorem IsTransport.isEncoding {e : Error} (h : e.IsTransport) : e.isEncoding = false := by
  cases e <;> first | rfl | exact h.elim

theorem IsDocument.isEncoding {e : Error} (h : e.IsDocument) : e.isEncoding = true := by
  obtain ⟨path, message, rfl⟩ := h
  rfl

end Error

/-- A body that cannot be decoded is a document that cannot be read. -/
theorem Response.decode_fails (response : Response) :
    FailsAs Error.IsDocument response.decode := by
  unfold decode
  split
  · exact .ok _
  split
  · exact .ok _
  · split
    · unfold read
      split
      · exact .ok _
      · exact .error ⟨_, _, rfl⟩
    split
    · exact .ok _
    · exact .ok _

theorem Reply.Becomes.fails {reply result : Reply} (h : reply.Becomes result)
    (hreply : FailsAs Error.IsTransport reply) : FailsAs Error.IsTransport result := by
  cases reply with
  | ok response =>
      unfold Becomes at h
      dsimp only at h
      split at h
      · rw [h]
        exact .ok _
      · obtain ⟨message, hhttp⟩ := h
        rw [hhttp]
        exact .error trivial
  | error e =>
      rw [show result = .error e from h]
      exact .error (hreply e rfl)

/-- Whatever the service is sent and however often, it fails in transit only. -/
def Transport.FailsInTransit {σ : Type} (t : Transport σ) (state : σ) : Prop :=
  ∀ r i, FailsAs Error.IsTransport (t.reply r state i)

theorem Transport.reply_scripted (r : Request) (replies : List Reply) (i : Nat) :
    Transport.scripted.reply r replies i =
      replies.getD i (.error (.connection "script exhausted")) := by
  induction i generalizing replies with
  | zero => cases replies <;> rfl
  | succ i ih =>
      rw [reply_succ, ih]
      cases replies with
      | nil => rfl
      | cons reply rest => rfl

theorem Transport.scripted_failsInTransit {replies : List Reply}
    (h : ∀ reply ∈ replies, FailsAs Error.IsTransport reply) :
    Transport.scripted.FailsInTransit replies := by
  intro r i
  rw [reply_scripted, List.getD_eq_getElem?_getD]
  cases hi : replies[i]? with
  | none => exact .error trivial
  | some reply => exact h reply (List.mem_of_getElem? hi)

namespace Executor

variable {σ : Type} {e : Executor σ} {op : Operation} {arguments : Arguments} {state : σ}

theorem execute_result (e : Executor σ) (op : Operation) (arguments : Arguments) (state : σ) :
    (e.execute op arguments state).result =
      ((e.executeRaw op arguments state).result >>= Response.decode) :=
  rfl

/-- Decoding sends nothing. -/
theorem execute_sent (e : Executor σ) (op : Operation) (arguments : Arguments) (state : σ) :
    (e.execute op arguments state).sent = (e.executeRaw op arguments state).sent :=
  rfl

theorem execute_of_assemble_error {error : Error}
    (h : e.assembler.assemble op arguments = .error error) (state : σ) :
    (e.execute op arguments state).result = .error error ∧
      (e.execute op arguments state).sent = [] := by
  have hraw : e.executeRaw op arguments state =
      ⟨.error error, state, (e.assembler.events op arguments).map Action.log⟩ := by
    unfold executeRaw Assembler.andThen
    rw [h]
  constructor
  · rw [execute_result, hraw]
    rfl
  · rw [execute_sent, hraw]
    simp [Outcome.sent, List.filterMap_map, Function.comp_def, Action.request?]

/-- A request that is assembled is sent, and then only the service and the response fail. -/
theorem execute_of_assemble_ok {r : Request} (h : e.assembler.assemble op arguments = .ok r)
    (hservice : e.transport.FailsInTransit state) :
    (e.execute op arguments state).sent ≠ [] ∧
      FailsAs Error.IsTransport (e.executeRaw op arguments state).result := by
  obtain ⟨k, _, hrun⟩ := e.transport.sendFrom_run .full r {} state
  change e.transport.RunOutcome r state k (e.transport.send .full r state) at hrun
  obtain ⟨hexchanges, hresult⟩ := executeRaw_eq h state
  obtain ⟨hreceived, hbecomes⟩ := e.receive_spec state r
  constructor
  · have hsent : (e.executeRaw op arguments state).sent = List.replicate (k + 1) r := by
      rw [Outcome.sent_eq, hexchanges, hreceived, ← Outcome.sent_eq, hrun.sent]
    rw [execute_sent, hsent, List.replicate_succ]
    exact List.cons_ne_nil _ _
  · rw [hrun.result] at hbecomes
    rw [hresult]
    exact hbecomes.fails (hservice r k)

/-- The three ways in which a call fails, of which only the first one sends nothing. -/
inductive FailsBy (e : Executor σ) (op : Operation) (arguments : Arguments) (state : σ)
    (error : Error) : Prop where
  | assembling (hassemble : e.assembler.assemble op arguments = .error error)
      (hkind : error.IsAssembly)
  | transport (hsent : (e.execute op arguments state).sent ≠ [])
      (hraw : (e.executeRaw op arguments state).result = .error error) (hkind : error.IsTransport)
  | decoding (hsent : (e.execute op arguments state).sent ≠ []) (response : Response)
      (hraw : (e.executeRaw op arguments state).result = .ok response)
      (hdecode : response.decode = .error error)

theorem execute_failsBy (hservice : e.transport.FailsInTransit state) {error : Error}
    (h : (e.execute op arguments state).result = .error error) :
    e.FailsBy op arguments state error := by
  cases hassemble : e.assembler.assemble op arguments with
  | error error' =>
      obtain ⟨hresult, _⟩ := execute_of_assemble_error hassemble state
      obtain rfl : error' = error := Except.error.inj (hresult.symm.trans h)
      exact .assembling hassemble (e.assembler.assemble_fails op arguments error' hassemble)
  | ok r =>
      obtain ⟨hsent, hfails⟩ := execute_of_assemble_ok hassemble hservice
      rcases bind_eq_error.mp h with hraw | ⟨response, hraw, hdecode⟩
      · exact .transport hsent hraw (hfails error hraw)
      · exact .decoding hsent response hraw hdecode

/-- The errors of a call that failed. Nothing was sent exactly for those encoding errors that are
not about a document, and then every call like it fails in the same way. The other encoding errors
come from a response that was received and could not be decoded. -/
theorem nothing_sent_iff (hservice : e.transport.FailsInTransit state) {error : Error}
    (h : (e.execute op arguments state).result = .error error) :
    let outcome := e.execute op arguments state
    let undecoded := ∃ response, (e.executeRaw op arguments state).result = .ok response ∧
      response.decode = .error error
    (outcome.sent = [] ↔ error.isEncoding = true ∧ ¬ error.IsDocument) ∧
    (undecoded ↔ error.IsDocument) ∧
    ((error.isEncoding = true ↔ outcome.sent = []) ↔ ¬ undecoded) ∧
    (outcome.sent = [] → ∀ later, (e.execute op arguments later).result = .error error ∧
      (e.execute op arguments later).sent = []) := by
  intro outcome undecoded
  have hundecoded : undecoded → error.IsDocument := by
    rintro ⟨response, _, hdecode⟩
    exact response.decode_fails error hdecode
  cases execute_failsBy hservice h with
  | assembling hassemble hkind =>
      have hcall := execute_of_assemble_error hassemble
      have hsent : outcome.sent = [] := (hcall state).2
      have hdecoded : ¬ undecoded := fun hfailed => hkind.not_isDocument (hundecoded hfailed)
      refine ⟨?_, ?_, ?_, fun _ later => hcall later⟩
      · exact iff_of_true hsent ⟨hkind.isEncoding, hkind.not_isDocument⟩
      · exact iff_of_false hdecoded hkind.not_isDocument
      · exact iff_of_true (iff_of_true hkind.isEncoding hsent) hdecoded
  | transport hsent hraw hkind =>
      have hdecoded : ¬ undecoded := by
        rintro ⟨response, hresponse, _⟩
        rw [hraw] at hresponse
        cases hresponse
      have hplain : ¬ error.isEncoding = true := by
        rw [hkind.isEncoding]
        exact Bool.false_ne_true
      have hreadable : ¬ error.IsDocument := fun hdocument => hplain hdocument.isEncoding
      refine ⟨?_, ?_, ?_, fun hnone => absurd hnone hsent⟩
      · exact iff_of_false hsent fun hboth => hplain hboth.1
      · exact iff_of_false hdecoded hreadable
      · exact iff_of_true (iff_of_false hplain hsent) hdecoded
  | decoding hsent response hraw hdecode =>
      have hdecoded : undecoded := ⟨response, hraw, hdecode⟩
      have hkind := hundecoded hdecoded
      refine ⟨?_, ?_, ?_, fun hnone => absurd hnone hsent⟩
      · exact iff_of_false hsent fun hboth => hboth.2 hkind
      · exact iff_of_true hdecoded hkind
      · exact iff_of_false (fun hiff => hsent (hiff.mp hkind.isEncoding)) (not_not.mpr hdecoded)

/-- An argument is missing, so nothing is sent. -/
theorem nothing_sent_iff_of_missing_value :
    let e : Executor (List Reply) :=
      { assembler := { settings := { baseUrl := "http://[::1]/v1" }, boundary := "B" }
        transport := .scripted }
    let op : Operation :=
      { name := "get", method := .get, path := "/pets/{id}"
        parameters :=
          [{ argumentName := "id", schema := .scalar .integer
             directive := { name := "id", location := .path } }] }
    let replies : List Reply := [.error .timeout, .ok { status := ⟨200, by decide⟩ }]
    e.transport.FailsInTransit replies ∧
      (e.execute op [] replies).result = .error (.valueMissing "id") ∧
      (e.execute op [] replies).sent = [] ∧
      (e.execute op [] []).result = .error (.valueMissing "id") := by
  intro e op replies
  have hservice : e.transport.FailsInTransit replies := by
    apply Transport.scripted_failsInTransit
    intro reply hreply
    rcases List.mem_pair.mp hreply with rfl | rfl
    · exact .error trivial
    · exact .ok _
  have hassemble : e.assembler.assemble op [] = .error (.valueMissing "id") := by cbv
  have h : (e.execute op [] replies).result = .error (.valueMissing "id") :=
    (execute_of_assemble_error hassemble replies).1
  obtain ⟨hiff, _, _, hlater⟩ := nothing_sent_iff hservice h
  have hsent : (e.execute op [] replies).sent = [] := by
    refine hiff.mpr ⟨rfl, ?_⟩
    rintro ⟨path, message, ⟨⟩⟩
  exact ⟨hservice, h, hsent, (hlater hsent []).1⟩

/-- A response that says it is JSON and is not makes an encoding error of a request that was
sent. -/
theorem encoding_error_after_sending :
    let e : Executor (List Reply) :=
      { assembler := { settings := { baseUrl := "http://[::1]/v1" }, boundary := "B" }
        transport := .scripted }
    let op : Operation := { name := "list", method := .get, path := "/pets" }
    let r : Request := { method := .get, url := ⟨"http", some "[::1]", "/v1/pets", none, none⟩ }
    let response : Response :=
      { status := ⟨200, by decide⟩
        headers := ⟨[("content-type", [bytesOf "application/json"])]⟩, body := bytesOf "<p>" }
    let error : Error := .document "." "expected value"
    e.transport.FailsInTransit [.ok response] ∧
      (e.execute op [] [.ok response]).result = .error error ∧
      (e.execute op [] [.ok response]).sent = [r] ∧ error.isEncoding = true := by
  intro e op r response error
  have hservice : e.transport.FailsInTransit [.ok response] := by
    apply Transport.scripted_failsInTransit
    intro reply hreply
    obtain rfl := List.mem_singleton.mp hreply
    exact .ok _
  have hraw : (e.executeRaw op [] [.ok response]).result = .ok response := by cbv
  have hdecode : response.decode = .error error := by rfl
  have h : (e.execute op [] [.ok response]).result = .error error := by
    rw [execute_result, hraw]
    exact hdecode
  have hsent : (e.executeRaw op [] [.ok response]).sent = [r] := by cbv
  refine ⟨hservice, h, ?_, rfl⟩
  rw [execute_sent]
  exact hsent

end Executor

end ApiCall
