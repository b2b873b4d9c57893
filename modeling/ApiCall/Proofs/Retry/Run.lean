import ApiCall.Execution
import Mathlib

/-!
Runs of attempts. One reply either ends the run or takes one attempt off the budget
(`RetryState.next_granted`, `RetryState.next_refused`), so a run repeats its request once for each
reply that calls for it, until the budget is spent (`Transport.sendFrom_run`). What a call makes of
the reply that stands is said in `Executor.send_follows_policy`.
-/

namespace ApiCall

/-- The reply calls for another attempt: its status is one of the policy, there was no connection,
or no answer came in time. -/
def RetryPolicy.Retries (p : RetryPolicy) : Reply → Prop
  | .ok response => response.status.code ∈ p.statuses
  | .error e => (∃ message, e = .connection message) ∨ e = .timeout

theorem RetryPolicy.reason?_isSome (p : RetryPolicy) (reply : Reply) :
    (p.reason? reply).isSome = true ↔ p.Retries reply := by
  cases reply with
  | ok response => simp [reason?, Retries, retriesStatus]
  | error e => cases e <;> simp [reason?, Retries, Error.isConnection, Error.isTimeout]

instance (p : RetryPolicy) : DecidablePred p.Retries :=
  fun reply => decidable_of_iff _ (p.reason?_isSome reply)

namespace RetryState

variable {s : RetryState} {p : RetryPolicy} {reply : Reply}

/-- Another attempt takes one off the budget. -/
theorem next_granted (hleft : 0 < (s.left p).toNat) (h : p.Retries reply) :
    ∃ next reason, s.next p reply = (next, some reason) ∧
      (next.left p).toNat + 1 = (s.left p).toNat := by
  obtain ⟨reason, hreason⟩ := Option.isSome_iff_exists.mp ((p.reason?_isSome reply).mpr h)
  have hne : s.left p ≠ 0 := by
    intro hzero
    rw [hzero] at hleft
    exact absurd hleft (by decide)
  refine ⟨⟨some (s.left p - 1), s.attempt + 1⟩, reason, ?_, ?_⟩
  · rw [next, if_neg hne, hreason]
  · have hone : (1 : UInt32) ≤ s.left p := by
      rw [UInt32.le_iff_toNat_le, UInt32.toNat_one]
      exact hleft
    change (s.left p - 1).toNat + 1 = (s.left p).toNat
    rw [UInt32.toNat_sub_of_le _ _ hone, UInt32.toNat_one]
    omega

theorem next_refused (h : (s.left p).toNat = 0 ∨ ¬ p.Retries reply) :
    (s.next p reply).2 = none := by
  unfold next
  split
  · rfl
  · rename_i hne
    rcases h with hzero | hreply
    · exact absurd (UInt32.toNat_inj.mp (by simpa using hzero)) hne
    · have hnone : p.reason? reply = none := by
        rw [← Option.not_isSome_iff_eq_none, p.reason?_isSome]
        exact hreply
      rw [hnone]

end RetryState

/-- What happened apart from the events that were logged. -/
def Outcome.exchanges {σ α : Type} (o : Outcome σ α) : List Action :=
  o.trace.filter fun action => action.event?.isNone

namespace Outcome

variable {σ α β : Type}

theorem sent_eq (o : Outcome σ α) : o.sent = o.exchanges.filterMap Action.request? := by
  rw [sent, exchanges, List.filterMap_filter]
  congr 1
  funext action
  cases action <;> rfl

theorem waits_eq (o : Outcome σ α) : o.waits = o.exchanges.filterMap Action.wait? := by
  rw [waits, exchanges, List.filterMap_filter]
  congr 1
  funext action
  cases action <;> rfl

theorem exchanges_after (o : Outcome σ α) (actions : List Action) :
    (o.after actions).exchanges =
      (actions.filter fun action => action.event?.isNone) ++ o.exchanges := by
  rw [exchanges, after, List.filter_append]
  rfl

end Outcome

namespace Transport

variable {σ : Type}

/-- The service after it has answered a request a number of times. -/
def stateAfter (t : Transport σ) (r : Request) (state : σ) (answers : Nat) : σ :=
  (fun state => (t.call r state).2)^[answers] state

/-- The reply of the given index to a request that is sent again and again. -/
def reply (t : Transport σ) (r : Request) (state : σ) (i : Nat) : Reply :=
  (t.call r (t.stateAfter r state i)).1

theorem reply_succ (t : Transport σ) (r : Request) (state : σ) (i : Nat) :
    t.reply r state (i + 1) = t.reply r (t.call r state).2 i := rfl

/-- The first `k` replies call for another attempt. The one after them does not, or it comes when
the budget is spent. -/
structure Repeats (t : Transport σ) (r : Request) (state : σ) (budget k : Nat) : Prop where
  le_budget : k ≤ budget
  retried : ∀ i < k, r.retry.Retries (t.reply r state i)
  stands : k < budget → ¬ r.retry.Retries (t.reply r state k)

/-- Repeating a request `k` times leaves this outcome: the request is sent each time, with one wait
between two attempts, and the last reply stands. -/
structure RunOutcome (t : Transport σ) (r : Request) (state : σ) (k : Nat)
    (o : Outcome σ Response) : Prop where
  result : o.result = t.reply r state k
  state : o.state = t.stateAfter r state (k + 1)
  exchanges : o.exchanges =
    (List.replicate k [Action.send r, .wait r.retry.delay]).flatten ++ [.send r]

theorem RunOutcome.sent {t : Transport σ} {r : Request} {state : σ} {k : Nat}
    {o : Outcome σ Response} (h : t.RunOutcome r state k o) :
    o.sent = List.replicate (k + 1) r := by
  rw [o.sent_eq, h.exchanges, List.filterMap_append, List.filterMap_flatten, List.map_replicate,
    List.replicate_succ']
  exact congrArg (· ++ [r]) List.flatten_replicate_singleton

theorem RunOutcome.waits {t : Transport σ} {r : Request} {state : σ} {k : Nat}
    {o : Outcome σ Response} (h : t.RunOutcome r state k o) :
    o.waits = List.replicate k r.retry.delay := by
  rw [o.waits_eq, h.exchanges, List.filterMap_append, List.filterMap_flatten, List.map_replicate]
  exact (List.append_nil _).trans List.flatten_replicate_singleton

theorem sendFrom_of_refused {t : Transport σ} {a : Announcement} {r : Request} {s : RetryState}
    {state : σ} (h : (s.next r.retry (t.call r state).1).2 = none) :
    t.sendFrom a r s state = ⟨(t.call r state).1, (t.call r state).2,
      [.log (a.event r), .send r, .log (replyEvent (t.call r state).1)]⟩ := by
  rw [sendFrom]
  dsimp only
  split
  · rfl
  · rename_i next reason hnext
    rw [hnext] at h
    cases h

theorem sendFrom_of_granted {t : Transport σ} {a : Announcement} {r : Request} {s next : RetryState}
    {state : σ} {reason : String}
    (h : s.next r.retry (t.call r state).1 = (next, some reason)) :
    t.sendFrom a r s state = (t.sendFrom a r next (t.call r state).2).after
      ([.log (a.event r), .send r, .log (replyEvent (t.call r state).1)] ++
        [.log (next.event r.retry reason), .wait r.retry.delay]) := by
  rw [sendFrom]
  dsimp only
  split
  · rename_i stopped hnext
    rw [h] at hnext
    cases hnext
  · rename_i next' reason' hnext
    rw [h] at hnext
    cases hnext
    rfl

/-- A run repeats its request for as long as the replies call for it and the budget lasts. The
induction is on the budget, which every repetition lowers by one. -/
theorem sendFrom_run (t : Transport σ) (a : Announcement) (r : Request) (s : RetryState)
    (state : σ) :
    ∃ k, t.Repeats r state (s.left r.retry).toNat k ∧
      t.RunOutcome r state k (t.sendFrom a r s state) := by
  generalize hbudget : (s.left r.retry).toNat = budget
  induction budget generalizing s state with
  | zero =>
      have hstop : (s.next r.retry (t.call r state).1).2 = none :=
        RetryState.next_refused (Or.inl hbudget)
      refine ⟨0, ⟨Nat.le_refl 0, ?_, ?_⟩, ?_⟩
      · intro i hi
        exact absurd hi (Nat.not_lt_zero i)
      · intro hlt
        exact absurd hlt (Nat.lt_irrefl 0)
      · rw [sendFrom_of_refused hstop]
        exact ⟨rfl, rfl, rfl⟩
  | succ budget ih =>
      by_cases hreply : r.retry.Retries (t.call r state).1
      · have hleft : 0 < (s.left r.retry).toNat := by omega
        obtain ⟨next, reason, hnext, hcount⟩ := RetryState.next_granted hleft hreply
        obtain ⟨k, hrepeats, hrun⟩ := ih next (t.call r state).2 (by omega)
        refine ⟨k + 1, ⟨Nat.succ_le_succ hrepeats.le_budget, ?_, ?_⟩, ?_⟩
        · -- the reply that was granted comes before those of the rest of the run
          intro i hi
          cases i with
          | zero => exact hreply
          | succ i => exact hrepeats.retried i (Nat.lt_of_succ_lt_succ hi)
        · intro hlt
          rw [reply_succ]
          exact hrepeats.stands (Nat.lt_of_succ_lt_succ hlt)
        · rw [sendFrom_of_granted hnext]
          refine ⟨hrun.result, hrun.state, ?_⟩
          rw [Outcome.exchanges_after, hrun.exchanges, List.replicate_succ, List.flatten_cons,
            List.append_assoc]
          rfl
      · have hstop : (s.next r.retry (t.call r state).1).2 = none :=
          RetryState.next_refused (Or.inr hreply)
        refine ⟨0, ⟨Nat.zero_le _, ?_, ?_⟩, ?_⟩
        · intro i hi
          exact absurd hi (Nat.not_lt_zero i)
        · intro _
          exact hreply
        · rw [sendFrom_of_refused hstop]
          exact ⟨rfl, rfl, rfl⟩

end Transport

/-- What a call returns for the reply that stands: a success as it is, another response as an error
with its status and its whole body, and an error as it is. -/
def Reply.Becomes (reply result : Reply) : Prop :=
  match reply with
  | .ok response =>
    if 200 ≤ response.status.code ∧ response.status.code < 300 then result = .ok response
    else ∃ message, result = .error (.http response.status.code message (some response.body))
  | .error e => result = .error e

theorem Reply.becomes_ensureSuccess (response : Response) :
    Reply.Becomes (.ok response) response.ensureSuccess := by
  unfold Becomes Response.ensureSuccess Response.isSuccess Status.isSuccess
  by_cases h : 200 ≤ response.status.code ∧ response.status.code < 300
  · simp [h]
  · simp [h]

namespace Executor

variable {σ : Type}

/-- Receiving a response adds no exchange to those of sending the request. -/
theorem receive_spec (e : Executor σ) (state : σ) (r : Request) :
    (e.receive state r).exchanges = (e.transport.send .full r state).exchanges ∧
      Reply.Becomes (e.transport.send .full r state).result (e.receive state r).result := by
  unfold receive
  generalize e.transport.send .full r state = outcome
  obtain ⟨result, after, trace⟩ := outcome
  cases result with
  | error error => exact ⟨rfl, rfl⟩
  | ok response =>
      have hbecomes := Reply.becomes_ensureSuccess response
      cases hsuccess : response.ensureSuccess with
      | ok kept =>
          rw [hsuccess] at hbecomes
          simp only [hsuccess]
          exact ⟨by simp [Outcome.exchanges, Action.event?], hbecomes⟩
      | error error =>
          rw [hsuccess] at hbecomes
          simp only [hsuccess]
          exact ⟨by simp [Outcome.exchanges, Action.event?], hbecomes⟩

theorem executeRaw_eq {e : Executor σ} {op : Operation} {arguments : Arguments} {r : Request}
    (h : e.assembler.assemble op arguments = .ok r) (state : σ) :
    (e.executeRaw op arguments state).exchanges = (e.receive state r).exchanges ∧
      (e.executeRaw op arguments state).result = (e.receive state r).result := by
  have hlogs : (((e.assembler.events op arguments).map Action.log).filter fun action =>
      action.event?.isNone) = [] := by
    simp [List.filter_map, Function.comp_def, Action.event?]
  unfold executeRaw Assembler.andThen
  rw [h]
  refine ⟨?_, rfl⟩
  rw [Outcome.exchanges_after, hlogs]
  rfl

/-- A request is repeated while the replies call for it and the policy's count lasts: the same
request each time, one wait between two attempts, and the next reply stands whatever it is. A call
of the operation returns it if it is a success, and its status and body in an error if not. -/
theorem send_follows_policy (e : Executor σ) (r : Request) (state : σ) :
    let outcome := e.transport.send .full r state
    ∃ k, e.transport.Repeats r state r.retry.times.toNat k ∧
      outcome.sent = List.replicate (k + 1) r ∧
      outcome.waits = List.replicate k r.retry.delay ∧
      outcome.exchanges =
        (List.replicate k [Action.send r, .wait r.retry.delay]).flatten ++ [.send r] ∧
      outcome.state = e.transport.stateAfter r state (k + 1) ∧
      outcome.result = e.transport.reply r state k ∧
      ∀ op arguments, e.assembler.assemble op arguments = .ok r →
        (e.executeRaw op arguments state).exchanges = outcome.exchanges ∧
          Reply.Becomes outcome.result (e.executeRaw op arguments state).result := by
  intro outcome
  obtain ⟨k, hrepeats, hrun⟩ := e.transport.sendFrom_run .full r {} state
  refine ⟨k, hrepeats, hrun.sent, hrun.waits, hrun.exchanges, hrun.state, hrun.result, ?_⟩
  intro op arguments hassemble
  obtain ⟨hexchanges, hresult⟩ := executeRaw_eq hassemble state
  obtain ⟨hreceived, hbecomes⟩ := e.receive_spec state r
  rw [hresult]
  exact ⟨hexchanges.trans hreceived, hbecomes⟩

/-- A success that the policy lists and a timeout are repeated. The third reply is not, although the
policy grants one more attempt. -/
theorem send_follows_policy_until_not_found :
    let policy : RetryPolicy := { times := 3, delay := .ofSeconds 1, statuses := [200] }
    let e : Executor (List Reply) :=
      { assembler :=
          { settings := { baseUrl := "http://[::1]/v1", retry := some policy }, boundary := "B" }
        transport := .scripted }
    let op : Operation := { name := "list", method := .get, path := "/pets" }
    let r : Request :=
      { method := .get, url := ⟨"http", some "[::1]", "/v1/pets", none, none⟩, retry := policy }
    let notFound : Response := { status := ⟨404, by decide⟩, body := bytesOf "no pets" }
    let replies : List Reply :=
      [.ok { status := ⟨200, by decide⟩ }, .error .timeout, .ok notFound, .error .timeout]
    e.assembler.assemble op [] = .ok r ∧
      (e.executeRaw op [] replies).exchanges =
        [.send r, .wait (.ofSeconds 1), .send r, .wait (.ofSeconds 1), .send r] ∧
      ∃ message, (e.executeRaw op [] replies).result =
        .error (.http 404 message (some (bytesOf "no pets"))) := by
  intro policy e op r notFound replies
  have h : e.assembler.assemble op [] = .ok r := by cbv
  obtain ⟨k, hrepeats, _, _, hexchanges, _, hresult, hcall⟩ := e.send_follows_policy r replies
  obtain ⟨hsame, hbecomes⟩ := hcall op [] h
  have hstands : ¬ r.retry.Retries (e.transport.reply r replies 2) := by decide
  have hk : k = 2 := by
    have hle : k ≤ 3 := hrepeats.le_budget
    -- fewer would stop at a reply that calls for more, and a third would repeat the refusal
    interval_cases k
    · exact absurd (by decide) (hrepeats.stands (by decide))
    · exact absurd (by decide) (hrepeats.stands (by decide))
    · rfl
    · exact absurd (hrepeats.retried 2 (by decide)) hstands
  subst hk
  rw [hresult] at hbecomes
  exact ⟨h, hsame.trans hexchanges, hbecomes⟩

end Executor

end ApiCall
