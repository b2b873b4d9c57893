import ApiCall.Calls
import ApiCall.Proofs.Retry.Run

/-!
Calls in flight do not share a retry budget. What is left to happen to a call, given the replies
that come, is `Call.finish`, and a step of the call takes its own replies off it
(`Call.finish_next?`). So a call always ends as the same demand does alone on a new executor
(`Call.Faithful`). Steps of other calls, new calls and clones keep this, since no step changes the
retry state of a service (`System.Isolated`).
-/

namespace ApiCall

namespace Outcome

variable {σ α β : Type}

/-- The same outcome with something made of its result. -/
def map (f : α → β) (o : Outcome σ α) : Outcome σ β :=
  { o with result := f <$> o.result }

theorem after_after (o : Outcome σ α) (first second : List Action) :
    (o.after second).after first = o.after (first ++ second) := by
  simp only [after, List.append_assoc]

end Outcome

theorem Executor.receive_eq {σ : Type} (e : Executor σ) (state : σ) (r : Request) :
    e.receive state r =
      let outcome := e.transport.send .full r state
      { outcome with
        result := (Reply.settle outcome.result).1
        trace := outcome.trace ++ (Reply.settle outcome.result).2.map .log } := by
  unfold receive
  generalize e.transport.send .full r state = outcome
  obtain ⟨result, after, trace⟩ := outcome
  cases result with
  | error error => simp [Reply.settle]
  | ok response =>
      cases hsuccess : response.ensureSuccess with
      | ok kept => simp [Reply.settle, hsuccess]
      | error error => simp [Reply.settle, hsuccess]

namespace Transport

variable {σ : Type}

/-- The rest of a run whose request has been sent. -/
def awaitFrom (t : Transport σ) (a : Announcement) (r : Request) (s : RetryState) (state : σ) :
    Outcome σ Response :=
  let (reply, state) := t.call r state
  match s.next r.retry reply with
  | (_, none) => ⟨reply, state, [.log (replyEvent reply)]⟩
  | (s, some reason) =>
    (t.sendFrom a r s state).after
      [.log (replyEvent reply), .log (s.event r.retry reason), .wait r.retry.delay]

theorem sendFrom_eq (t : Transport σ) (a : Announcement) (r : Request) (s : RetryState)
    (state : σ) :
    t.sendFrom a r s state =
      (t.awaitFrom a r s state).after [.log (a.event r), .send r] := by
  rcases hnext : s.next r.retry (t.call r state).1 with ⟨next, _ | reason⟩
  · rw [sendFrom_of_refused (by rw [hnext]), awaitFrom]
    simp only [hnext]
    rfl
  · rw [sendFrom_of_granted hnext, awaitFrom]
    simp only [hnext]
    rfl

end Transport

namespace Demand

variable {σ : Type}

/-- The demand as the only call of a new executor, against replies that come one by one. -/
def alone (a : Assembler) (replies : List Reply) : Demand → Outcome (List Reply) Answer
  | .send r => (Transport.scripted.send .full r replies).map .response
  | .executeRaw op arguments =>
    (Executor.executeRaw ⟨a, .scripted⟩ op arguments replies).map .response
  | .execute op arguments => (Executor.execute ⟨a, .scripted⟩ op arguments replies).map .value

/-- What becomes of a call whose request is sent with this outcome. -/
def concluded (demand : Demand) (o : Outcome σ Response) : Outcome σ Answer where
  result := (demand.conclude o.result).1
  state := o.state
  trace := o.trace ++ (demand.conclude o.result).2.map .log

theorem concluded_after (demand : Demand) (o : Outcome σ Response) (actions : List Action) :
    demand.concluded (o.after actions) = (demand.concluded o).after actions := by
  simp only [concluded, Outcome.after, List.append_assoc]

theorem alone_eq (a : Assembler) (replies : List Reply) (demand : Demand) :
    demand.alone a replies =
      let actions := (demand.events a).map .log
      match demand.request a with
      | .ok r => (demand.concluded (Transport.scripted.send .full r replies)).after actions
      | .error e => ⟨.error e, replies, actions⟩ := by
  cases demand with
  | send r => simp [alone, request, events, concluded, conclude, Outcome.map, Outcome.after]
  | executeRaw op arguments =>
      simp only [alone, request, events, Executor.executeRaw, Assembler.andThen]
      cases a.assemble op arguments with
      | error e => rfl
      | ok r => simp only [Executor.receive_eq]; rfl
  | execute op arguments =>
      simp only [alone, request, events, Executor.execute, Executor.executeRaw, Assembler.andThen]
      cases a.assemble op arguments with
      | error e => rfl
      | ok r => simp only [Executor.receive_eq]; rfl

end Demand

/-- The replies that a step brings. -/
def CallStep.replies : CallStep → List Reply
  | .reply answer => [answer]
  | _ => []

namespace Call

/-- When a call was started, and for what. -/
def origin (c : Call) : Nat × Demand :=
  (c.moment, c.demand)

/-- How a call ends if these are the replies to come. -/
def finish (c : Call) (replies : List Reply) : Outcome (List Reply) Answer :=
  match c.phase with
  | .ready r | .waiting r =>
    (c.demand.concluded (Transport.scripted.sendFrom .full r c.retry replies)).after c.trace
  | .awaiting r =>
    (c.demand.concluded (Transport.scripted.awaitFrom .full r c.retry replies)).after c.trace
  | .done result => ⟨result, replies, c.trace⟩

theorem finish_of_result? {c : Call} {result : Except Error Answer}
    (h : c.result? = some result) (replies : List Reply) :
    c.finish replies = ⟨result, replies, c.trace⟩ := by
  unfold result? at h
  split at h
  · rename_i result' hphase
    cases h
    rw [finish, hphase]
  · cases h

theorem trace_prefix_finish (c : Call) (replies : List Reply) :
    c.trace <+: (c.finish replies).trace := by
  unfold finish
  split
  · exact List.prefix_append _ _
  · exact List.prefix_append _ _
  · exact List.prefix_append _ _
  · exact List.prefix_refl _

theorem finish_start (e : Endpoint) (moment : Nat) (demand : Demand) (replies : List Reply) :
    (start e moment {} demand).finish replies = demand.alone (e.assembler moment) replies := by
  rw [Demand.alone_eq]
  unfold finish start
  cases demand.request (e.assembler moment) with
  | error error => rfl
  | ok r => rfl

/-- A step needs the call to stand where the step begins. -/
theorem next?_eq_some {c c' : Call} {step : CallStep} :
    c.next? step = some c' ↔
      match step with
      | .attempt => ∃ r, c.phase = .ready r ∧ c' = { c with
          phase := .awaiting r
          trace := c.trace ++ [.log (Announcement.full.event r), .send r] }
      | .reply reply => ∃ r, c.phase = .awaiting r ∧ c' = c.receive r reply
      | .wake => ∃ r, c.phase = .waiting r ∧ c' = { c with phase := .ready r } := by
  cases step with
  | attempt => cases hphase : c.phase <;> simp [next?, hphase, eq_comm]
  | reply reply => cases hphase : c.phase <;> simp [next?, hphase, eq_comm]
  | wake => cases hphase : c.phase <;> simp [next?, hphase, eq_comm]

theorem finish_receive {c : Call} {r : Request} (hphase : c.phase = .awaiting r) (reply : Reply)
    (replies : List Reply) : (c.receive r reply).finish replies = c.finish (reply :: replies) := by
  have hcall : Transport.scripted.call r (reply :: replies) = (reply, replies) := rfl
  unfold receive
  rcases hnext : c.retry.next r.retry reply with ⟨retry, _ | reason⟩
  · simp [finish, hphase, Transport.awaitFrom, hcall, hnext, Demand.concluded, Outcome.after]
  · simp [finish, hphase, Transport.awaitFrom, hcall, hnext, Demand.concluded, Outcome.after]

/-- A step of a call uses the replies that it brings. -/
theorem finish_next? {c c' : Call} {step : CallStep} (h : c.next? step = some c')
    (replies : List Reply) : c'.finish replies = c.finish (step.replies ++ replies) := by
  cases step with
  | attempt =>
      obtain ⟨r, hphase, rfl⟩ := next?_eq_some.mp h
      simp only [finish, hphase, CallStep.replies, List.nil_append, Transport.sendFrom_eq,
        Demand.concluded_after, Outcome.after_after]
  | reply reply =>
      obtain ⟨r, hphase, rfl⟩ := next?_eq_some.mp h
      exact finish_receive hphase reply replies
  | wake =>
      obtain ⟨r, hphase, rfl⟩ := next?_eq_some.mp h
      simp only [finish, hphase, CallStep.replies, List.nil_append]

/-- What a step leaves as it is, and how it adds to the replies. -/
theorem next?_received {c c' : Call} {step : CallStep} (h : c.next? step = some c') :
    c'.origin = c.origin ∧ c'.received = c.received ++ step.replies := by
  cases step with
  | attempt =>
      obtain ⟨r, -, rfl⟩ := next?_eq_some.mp h
      exact ⟨rfl, (List.append_nil _).symm⟩
  | reply reply =>
      obtain ⟨r, -, rfl⟩ := next?_eq_some.mp h
      unfold receive
      split
      · exact ⟨rfl, rfl⟩
      · exact ⟨rfl, rfl⟩
  | wake =>
      obtain ⟨r, -, rfl⟩ := next?_eq_some.mp h
      exact ⟨rfl, (List.append_nil _).symm⟩

/-- The replies that came and those to come lead where they lead the demand alone. -/
def Faithful (e : Endpoint) (c : Call) : Prop :=
  ∀ replies, c.demand.alone (e.assembler c.moment) (c.received ++ replies) = c.finish replies

theorem faithful_start (e : Endpoint) (moment : Nat) (demand : Demand) :
    (start e moment {} demand).Faithful e :=
  fun replies => (finish_start e moment demand replies).symm

theorem Faithful.next? {e : Endpoint} {c c' : Call} {step : CallStep} (hc : c.Faithful e)
    (h : c.next? step = some c') : c'.Faithful e := by
  intro replies
  obtain ⟨horigin, hreceived⟩ := next?_received h
  obtain ⟨hmoment, hdemand⟩ : c'.moment = c.moment ∧ c'.demand = c.demand := Prod.mk.inj horigin
  rw [hmoment, hdemand, hreceived, List.append_assoc, hc, finish_next? h]

/-- How many steps a call has before it at most. -/
def pending (c : Call) : Nat :=
  match c.phase with
  | .ready r => 3 * (c.retry.left r.retry).toNat + 2
  | .awaiting r => 3 * (c.retry.left r.retry).toNat + 1
  | .waiting r => 3 * (c.retry.left r.retry).toNat + 3
  | .done _ => 0

/-- A call that is not done can take a step towards its end, with the next of some replies. -/
theorem exists_next? {c : Call} (hpending : c.pending ≠ 0) (replies : List Reply) :
    ∃ step c' rest, c.next? step = some c' ∧ c'.pending < c.pending ∧
      c'.finish rest = c.finish replies := by
  cases hphase : c.phase with
  | ready r =>
      have hnext : c.next? .attempt = some _ := next?_eq_some.mpr ⟨r, hphase, rfl⟩
      refine ⟨_, _, replies, hnext, ?_, finish_next? hnext replies⟩
      simp [pending, hphase]
  | awaiting r =>
      obtain ⟨reply, rest, hcall⟩ : ∃ reply rest,
          Transport.scripted.call r replies = Transport.scripted.call r (reply :: rest) := by
        cases replies with
        | nil => exact ⟨.error (.connection "script exhausted"), [], rfl⟩
        | cons reply rest => exact ⟨reply, rest, rfl⟩
      refine ⟨.reply reply, _, rest, next?_eq_some.mpr ⟨r, hphase, rfl⟩, ?_, ?_⟩
      · unfold receive
        split
        · simp [pending, hphase]
        · rename_i retry reason hgranted
          have hlt := RetryState.left_next_lt hgranted
          simp only [pending, hphase]
          omega
      · rw [finish_receive hphase]
        simp only [finish, hphase, Transport.awaitFrom, hcall]
  | waiting r =>
      have hnext : c.next? .wake = some _ := next?_eq_some.mpr ⟨r, hphase, rfl⟩
      refine ⟨_, _, replies, hnext, ?_, finish_next? hnext replies⟩
      simp [pending, hphase]
  | done result =>
      simp [pending, hphase] at hpending

/-- A call can always be brought to its end. -/
theorem exists_result? (c : Call) (replies : List Reply) :
    ∃ (steps : List CallStep) (c' : Call), steps.foldlM next? c = some c' ∧
      c'.result? = some (c.finish replies).result ∧ c'.trace = (c.finish replies).trace := by
  induction hn : c.pending using Nat.strong_induction_on generalizing c replies with
  | _ n ih =>
      by_cases hpending : c.pending = 0
      · cases hphase : c.phase with
        | done result =>
            have hresult : c.result? = some result := by
              rw [result?, hphase]
            refine ⟨[], c, rfl, ?_, ?_⟩
            · rw [finish_of_result? hresult, hresult]
            · rw [finish_of_result? hresult]
        | ready r | awaiting r | waiting r => simp [pending, hphase] at hpending
      · obtain ⟨step, next, rest, hnext, hlt, hfinish⟩ := exists_next? hpending replies
        obtain ⟨steps, c', hsteps, hresult, htrace⟩ := ih _ (hn ▸ hlt) next rest rfl
        rw [hfinish] at hresult htrace
        refine ⟨step :: steps, c', ?_, hresult, htrace⟩
        rw [List.foldlM_cons, hnext]
        exact hsteps

end Call

/-- The moment and the demand of a call that a step starts. -/
def SystemStep.started? : SystemStep → Option (Nat × Demand)
  | .start _ moment demand => some (moment, demand)
  | _ => none

/-- The replies that a step brings to the call of an index. -/
def SystemStep.repliesTo (index : Nat) : SystemStep → List Reply
  | .call i step => if i = index then step.replies else []
  | _ => []

namespace System

variable {e : Endpoint}

theorem next?_eq_some {s s' : System} {step : SystemStep} :
    s.next? e step = some s' ↔
      match step with
      | .clone handle => ∃ policy, s.services[handle]? = some policy ∧
          s' = { s with services := s.services ++ [policy] }
      | .start handle moment demand => ∃ policy, s.services[handle]? = some policy ∧
          s' = { s with calls := s.calls ++ [.start e moment policy demand] }
      | .call index step => ∃ c c', s.calls[index]? = some c ∧ c.next? step = some c' ∧
          s' = { s with calls := s.calls.set index c' } := by
  cases step with
  | clone handle => cases hpolicy : s.services[handle]? <;> simp [next?, hpolicy, eq_comm]
  | start handle moment demand =>
      cases hpolicy : s.services[handle]? <;> simp [next?, hpolicy, eq_comm]
  | call index step =>
      cases hc : s.calls[index]? with
      | none => simp [next?, hc]
      | some c => cases hnext : c.next? step <;> simp [next?, hc, hnext, eq_comm]

theorem run_append (e : Endpoint) (steps more : List SystemStep) :
    run e (steps ++ more) = (run e steps).bind fun s => more.foldlM (next? e) s :=
  List.foldlM_append

/-- What holds of a system after some steps: every service still has a new retry state, the calls
are those that were started, with the replies that came for them, and each call goes its own way. -/
structure Isolated (e : Endpoint) (steps : List SystemStep) (s : System) : Prop where
  fresh : ∀ policy ∈ s.services, policy = {}
  started : steps.filterMap (·.started?) = s.calls.map Call.origin
  received : ∀ index, steps.flatMap (·.repliesTo index) = s.calls[index]?.elim [] Call.received
  faithful : ∀ c ∈ s.calls, c.Faithful e

theorem isolated_new (e : Endpoint) : Isolated e [] {} where
  fresh := by simp
  started := rfl
  received _ := rfl
  faithful := by simp

theorem Isolated.next? {steps : List SystemStep} {s s' : System} {step : SystemStep}
    (hs : Isolated e steps s) (h : s.next? e step = some s') :
    Isolated e (steps ++ [step]) s' := by
  cases step with
  | clone handle =>
      obtain ⟨policy, hpolicy, rfl⟩ := next?_eq_some.mp h
      refine ⟨?_, ?_, ?_, hs.faithful⟩
      · intro other hother
        rcases List.mem_append.mp hother with hother | hother
        · exact hs.fresh other hother
        · rw [List.mem_singleton.mp hother]
          exact hs.fresh policy (List.mem_of_getElem? hpolicy)
      · rw [List.filterMap_append, hs.started]
        exact List.append_nil _
      · intro index
        rw [List.flatMap_append, hs.received]
        exact List.append_nil _
  | start handle moment demand =>
      obtain ⟨policy, hpolicy, rfl⟩ := next?_eq_some.mp h
      obtain rfl : policy = {} := hs.fresh policy (List.mem_of_getElem? hpolicy)
      refine ⟨hs.fresh, ?_, ?_, ?_⟩
      · rw [List.filterMap_append, hs.started, List.map_append]
        rfl
      · -- the new call has the next index, for which no reply can have come
        intro index
        rw [List.flatMap_append, hs.received]
        rcases Nat.lt_trichotomy index s.calls.length with hlt | rfl | hgt
        · rw [List.getElem?_append_left hlt]
          exact List.append_nil _
        · rw [List.getElem?_append_right (Nat.le_refl _), List.getElem?_eq_none (Nat.le_refl _),
            Nat.sub_self]
          rfl
        · rw [List.getElem?_eq_none hgt.le, List.getElem?_eq_none (by simpa using hgt)]
          rfl
      · intro c hc
        rcases List.mem_append.mp hc with hc | hc
        · exact hs.faithful c hc
        · rw [List.mem_singleton.mp hc]
          exact Call.faithful_start e moment demand
  | call index step =>
      obtain ⟨c, c', hc, hnext, rfl⟩ := next?_eq_some.mp h
      obtain ⟨horigin, hreceived⟩ := Call.next?_received hnext
      obtain ⟨hlt, hget⟩ := List.getElem?_eq_some_iff.mp hc
      refine ⟨hs.fresh, ?_, ?_, ?_⟩
      · have hlen : index < (s.calls.map Call.origin).length := by simpa using hlt
        rw [List.filterMap_append, hs.started, List.map_set, horigin, ← hget,
          ← List.getElem_map Call.origin (h := hlen), List.set_getElem_self]
        exact List.append_nil _
      · intro other
        rw [List.flatMap_append, hs.received, List.flatMap_singleton, List.getElem?_set]
        by_cases hsame : index = other
        · subst hsame
          simp [hget, hlt, hreceived, SystemStep.repliesTo]
        · simp [hsame, SystemStep.repliesTo]
      · intro other hother
        rcases List.mem_or_eq_of_mem_set hother with hother | rfl
        · exact hs.faithful other hother
        · exact (hs.faithful c (List.mem_of_getElem? hc)).next? hnext

/-- Whatever the order of the steps, they leave the calls isolated. -/
theorem isolated_of_run {steps : List SystemStep} {s : System} (h : run e steps = some s) :
    Isolated e steps s := by
  induction steps using List.reverseRecOn generalizing s with
  | nil =>
      obtain rfl : {} = s := Option.some.inj h
      exact isolated_new e
  | append_singleton steps step ih =>
      rw [run_append] at h
      obtain ⟨before, hbefore, hstep⟩ := Option.bind_eq_some_iff.mp h
      exact (ih hbefore).next? (by simpa using hstep)

/-- A call can take its own steps whatever else is under way. -/
theorem exists_foldlM_call {s : System} {index : Nat} {c c' : Call} {own : List CallStep}
    (hc : s.calls[index]? = some c) (h : own.foldlM Call.next? c = some c') :
    ∃ s', (own.map (.call index)).foldlM (next? e) s = some s' ∧ s'.calls[index]? = some c' := by
  induction own generalizing s c with
  | nil =>
      obtain rfl : c = c' := Option.some.inj h
      exact ⟨s, rfl, hc⟩
  | cons step own ih =>
      rw [List.foldlM_cons] at h
      obtain ⟨next, hnext, hrest⟩ := Option.bind_eq_some_iff.mp h
      have hlt : index < s.calls.length := (List.getElem?_eq_some_iff.mp hc).1
      have hstep : s.next? e (.call index step) =
          some { s with calls := s.calls.set index next } :=
        next?_eq_some.mpr ⟨c, next, hc, hnext, rfl⟩
      obtain ⟨s', hs', hc'⟩ :=
        ih (s := { s with calls := s.calls.set index next }) (List.getElem?_set_self hlt) hrest
      refine ⟨s', ?_, hc'⟩
      rw [List.map_cons, List.foldlM_cons, hstep]
      exact hs'

/-- Calls on one executor and its clones do not share a retry budget. Whatever steps have happened
in whatever order, the call of an index did what its demand does as the only one of a new executor
at the same moment, against the replies that came for the call. A call that is done has used all of
them, left the same trace of requests, waits and events, and returned the same result. The trace of
any other call is a beginning of that trace, and the call can go on to the same end on its own. -/
theorem calls_run_alone {steps : List SystemStep} {s : System} (h : run e steps = some s)
    {index moment : Nat} {demand : Demand}
    (hstart : (steps.filterMap (·.started?))[index]? = some (moment, demand)) :
    ∃ c, s.calls[index]? = some c ∧ ∀ replies,
      let alone := demand.alone (e.assembler moment)
        (steps.flatMap (·.repliesTo index) ++ replies)
      (∀ result, c.result? = some result → alone = ⟨result, replies, c.trace⟩) ∧
        c.trace <+: alone.trace ∧
        ∃ (own : List CallStep) (s' : System) (c' : Call),
          run e (steps ++ own.map (.call index)) = some s' ∧ s'.calls[index]? = some c' ∧
            c'.result? = some alone.result ∧ c'.trace = alone.trace := by
  have hs := isolated_of_run h
  rw [hs.started, List.getElem?_map] at hstart
  obtain ⟨c, hc, horigin⟩ := Option.map_eq_some_iff.mp hstart
  obtain ⟨rfl, rfl⟩ : c.moment = moment ∧ c.demand = demand := Prod.mk.inj horigin
  refine ⟨c, hc, ?_⟩
  intro replies
  have hfaithful : c.demand.alone (e.assembler c.moment)
      (steps.flatMap (·.repliesTo index) ++ replies) = c.finish replies := by
    rw [hs.received, hc]
    exact hs.faithful c (List.mem_of_getElem? hc) replies
  intro alone
  rw [show alone = c.finish replies from hfaithful]
  refine ⟨?_, c.trace_prefix_finish replies, ?_⟩
  · intro result hresult
    exact Call.finish_of_result? hresult replies
  · obtain ⟨own, c', hown, hresult, htrace⟩ := c.exists_result? replies
    obtain ⟨s', hs', hc'⟩ := exists_foldlM_call (e := e) hc hown
    refine ⟨own, s', c', ?_, hc', hresult, htrace⟩
    rw [run_append, h]
    exact hs'

/-- A call on the executor uses up its retries while another one on a clone waits for its own. The
call that starts after that is sent again when the server is busy. -/
theorem calls_run_alone_after_spent_budget :
    let policy : RetryPolicy := { times := 1, delay := .ofSeconds 1, statuses := [503] }
    let e : Endpoint := { settings := { baseUrl := "http://[::1]/v1", retry := some policy } }
    let op : Operation := { name := "list", method := .get, path := "/pets" }
    let r : Request :=
      { method := .get, url := ⟨"http", some "[::1]", "/v1/pets", none, none⟩, retry := policy }
    let busy : Reply := .ok { status := ⟨503, by decide⟩ }
    let found : Response := { status := ⟨200, by decide⟩, body := bytesOf "[]" }
    let steps : List SystemStep :=
      [.start 0 5 (.executeRaw op []), .clone 0, .start 1 6 (.send r),
        .call 0 .attempt, .call 1 .attempt, .call 0 (.reply busy),
        .call 1 (.reply (.error .timeout)), .call 0 .wake, .call 0 .attempt, .call 0 (.reply busy),
        .start 0 9 (.send r), .call 2 .attempt, .call 1 .wake, .call 2 (.reply busy),
        .call 1 .attempt, .call 2 .wake, .call 2 .attempt, .call 1 (.reply (.ok found)),
        .call 2 (.reply (.ok found))]
    (steps.filterMap (·.started?))[2]? = some (9, .send r) ∧
      steps.flatMap (·.repliesTo 2) = [busy, .ok found] ∧
      ∃ s c, run e steps = some s ∧ s.calls[2]? = some c ∧
        c.result? = some (.ok (.response found)) ∧
        c.trace.filterMap Action.request? = [r, r] ∧
        Demand.alone (e.assembler 9) [busy, .ok found] (.send r) =
          ⟨.ok (.response found), [], c.trace⟩ := by
  intro policy e op r busy found steps
  have hstart : (steps.filterMap (·.started?))[2]? = some (9, .send r) := rfl
  have hrun : (run e steps).isSome = true := by decide +kernel
  obtain ⟨s, hs⟩ := Option.isSome_iff_exists.mp hrun
  obtain ⟨c, hc, halone⟩ := calls_run_alone hs hstart
  obtain ⟨hdone, -, -⟩ := halone []
  have hview : ((run e steps).bind (·.calls[2]?)).any (fun c =>
      c.result?.isSome && c.trace.filterMap Action.request? == [r, r]) = true := by
    decide +kernel
  rw [hs, Option.bind_some, hc, Option.any_some, Bool.and_eq_true] at hview
  obtain ⟨hreturned, hsent⟩ := hview
  obtain ⟨result, hresult⟩ := Option.isSome_iff_exists.mp hreturned
  have hsame := hdone result hresult
  have hstands :
      (Transport.scripted.send .full r [busy, .ok found]).result.toOption = some found := by
    decide +kernel
  have hanswer :
      .response <$> (Transport.scripted.send .full r [busy, .ok found]).result = result :=
    congrArg Outcome.result hsame
  obtain rfl : .ok (.response found) = result := by
    cases hreply : (Transport.scripted.send .full r [busy, .ok found]).result with
    | error e =>
        rw [hreply] at hstands
        cases hstands
    | ok response =>
        rw [hreply] at hstands hanswer
        obtain rfl := Option.some.inj hstands
        exact hanswer
  exact ⟨hstart, rfl, s, c, hs, hc, hresult, eq_of_beq hsent, hsame⟩

end System

end ApiCall
