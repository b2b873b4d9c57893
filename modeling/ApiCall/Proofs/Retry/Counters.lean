import ApiCall.Proofs.Retry.Run
import Mathlib

/-!
The two counters of a run of attempts. A reply either moves one unit from the budget to the number
of the attempt or leaves both as they are (`RetryState.next_counts`), so both follow from the policy
and from how many replies called for another attempt (`RetryState.after_counts`). Together they make
up the budget and one, with one exception: the number of the attempt has 32 bits as well, and the
largest budget, once it is spent, takes it back to zero (`RetryState.counters_exact_iff`).
-/

namespace ApiCall

namespace RetryState

variable {p : RetryPolicy}

/-- What a reply does to the counters. It moves one unit if it calls for another attempt and the
budget has one, and nothing if not. -/
inductive Counts (p : RetryPolicy) (s t : RetryState) (reply : Reply) : Option String → Prop where
  | granted (reason : String) (hreply : p.Retries reply)
      (hleft : (t.left p).toNat + 1 = (s.left p).toNat) (hattempt : t.attempt = s.attempt + 1) :
      Counts p s t reply (some reason)
  | refused (hreply : (s.left p).toNat = 0 ∨ ¬ p.Retries reply) (hleft : t.left p = s.left p)
      (hattempt : t.attempt = s.attempt) : Counts p s t reply none

theorem next_counts (s : RetryState) (p : RetryPolicy) (reply : Reply) :
    Counts p s (s.next p reply).1 reply (s.next p reply).2 := by
  by_cases hleft : s.left p = 0
  · have hnext : s.next p reply = ({ s with remaining := some 0 }, none) := if_pos hleft
    rw [hnext]
    refine .refused (Or.inl ?_) hleft.symm rfl
    rw [hleft]
    rfl
  · cases hreason : p.reason? reply with
    | none =>
        have hnext : s.next p reply = ({ s with remaining := some (s.left p) }, none) := by
          rw [next, if_neg hleft, hreason]
        rw [hnext]
        refine .refused (Or.inr ?_) rfl rfl
        rw [← p.reason?_isSome, hreason]
        exact Bool.false_ne_true
    | some reason =>
        have hnext : s.next p reply = (⟨some (s.left p - 1), s.attempt + 1⟩, some reason) := by
          rw [next, if_neg hleft, hreason]
        have hreply : p.Retries reply := by
          rw [← p.reason?_isSome, hreason]
          rfl
        have hpos : 0 < (s.left p).toNat := by
          apply Nat.pos_of_ne_zero
          exact fun hzero => hleft (UInt32.toNat_inj.mp hzero)
        obtain ⟨_, _, hgranted, hcount⟩ := next_granted hpos hreply
        obtain ⟨rfl, _⟩ := Prod.mk.inj (hnext.symm.trans hgranted)
        rw [hnext]
        exact .granted reason hreply hcount rfl

/-- The state after a list of replies to requests with one policy. -/
def after (p : RetryPolicy) (replies : List Reply) : RetryState :=
  replies.foldl (fun s reply => (s.next p reply).1) {}

theorem after_concat (p : RetryPolicy) (replies : List Reply) (reply : Reply) :
    after p (replies ++ [reply]) = ((after p replies).next p reply).1 := by
  rw [after, List.foldl_append]
  rfl

/-- How many replies call for another attempt. -/
def calls (p : RetryPolicy) (replies : List Reply) : Nat :=
  replies.countP fun reply => p.Retries reply

/-- The calls for another attempt use up the budget, and those that it grants are counted from one
on, in 32 bits. -/
theorem after_counts (p : RetryPolicy) (replies : List Reply) :
    ((after p replies).left p).toNat = p.times.toNat - calls p replies ∧
      (after p replies).attempt.toNat = (min p.times.toNat (calls p replies) + 1) % 2 ^ 32 := by
  induction replies using List.reverseRecOn with
  | nil => simp [after, calls, left]
  | append_singleton replies reply ih =>
      obtain ⟨ihleft, ihattempt⟩ := ih
      have hcalls : calls p (replies ++ [reply]) =
          calls p replies + if p.Retries reply then 1 else 0 := by
        simp [calls, List.countP_append, List.countP_singleton]
      have hstep := next_counts (after p replies) p reply
      rw [after_concat, hcalls]
      generalize hnext : (after p replies).next p reply = outcome at hstep
      obtain ⟨next, granted⟩ := outcome
      cases hstep with
      | granted _ hreply hleft hattempt =>
          rw [if_pos hreply]
          dsimp only at hleft hattempt ⊢
          refine ⟨by omega, ?_⟩
          rw [hattempt, UInt32.toNat_add, ihattempt, UInt32.toNat_one]
          omega
      | refused hreply hleft hattempt =>
          dsimp only at hleft hattempt ⊢
          rw [hleft, hattempt]
          rcases hreply with hspent | hreply
          · constructor <;> split <;> omega
          · rw [if_neg hreply]
            exact ⟨ihleft, ihattempt⟩

theorem remaining_next (s : RetryState) (p : RetryPolicy) (reply : Reply) :
    (s.next p reply).1.remaining = some ((s.next p reply).1.left p) := by
  unfold next
  split
  · rfl
  · split
    · rfl
    · rfl

/-- Something is left of the budget, or it is not the largest one that 32 bits can hold. -/
def HasRoom (s : RetryState) (p : RetryPolicy) : Prop :=
  0 < (s.left p).toNat ∨ p.times.toNat < 4294967295

/-- The sum of the counters is the budget and one, and the number of the attempt is not zero, as
long as there is room for this number. -/
theorem sum_after_iff (p : RetryPolicy) (replies : List Reply) :
    ((after p replies).attempt.toNat + ((after p replies).left p).toNat = p.times.toNat + 1 ↔
        (after p replies).HasRoom p) ∧
      ((after p replies).attempt = 0 ↔ ¬ (after p replies).HasRoom p) := by
  obtain ⟨hleft, hattempt⟩ := after_counts p replies
  have hbudget := p.times.toNat_lt
  have hzero : (after p replies).attempt = 0 ↔ (after p replies).attempt.toNat = 0 :=
    UInt32.toNat_inj.symm
  rw [hzero, HasRoom]
  constructor <;> omega

/-- One more reply after any others. It fixes the budget, and takes one off it and counts one
attempt up exactly when it is granted another attempt. What is left and the number of the attempt
then make up the budget and one, with a single exception: once the largest budget is spent, the
number of the attempt is not one more than before but zero. -/
theorem counters_exact_iff (p : RetryPolicy) (replies : List Reply) (reply : Reply) :
    let s := after p replies
    let t := after p (replies ++ [reply])
    let granted := (s.next p reply).2.isSome = true
    t.remaining = some (t.left p) ∧
      (granted ↔ p.Retries reply ∧ 0 < (s.left p).toNat) ∧
      (granted → (t.left p).toNat + 1 = (s.left p).toNat ∧
        (t.attempt.toNat = s.attempt.toNat + 1 ↔ t.HasRoom p)) ∧
      (¬ granted → t.left p = s.left p ∧ t.attempt = s.attempt) ∧
      (t.attempt.toNat + (t.left p).toNat = p.times.toNat + 1 ↔ t.HasRoom p) ∧
      (t.attempt = 0 ↔ ¬ t.HasRoom p) := by
  intro s t granted
  have hnext : t = (s.next p reply).1 := after_concat p replies reply
  have hremaining : t.remaining = some (t.left p) := hnext ▸ s.remaining_next p reply
  have hstep : Counts p s t reply (s.next p reply).2 := hnext ▸ s.next_counts p reply
  obtain ⟨hsum, hzero⟩ := sum_after_iff p (replies ++ [reply])
  have hwraps : (s.attempt + 1).toNat = (s.attempt.toNat + 1) % 2 ^ 32 := by
    rw [UInt32.toNat_add, UInt32.toNat_one]
  have hsmall := s.attempt.toNat_lt
  obtain ⟨outcome, houtcome⟩ : ∃ outcome, (s.next p reply).2 = outcome := ⟨_, rfl⟩
  have hgranted : granted ↔ outcome.isSome = true := by
    rw [← houtcome]
  rw [houtcome] at hstep
  cases hstep with
  | granted reason hreply hleft hattempt =>
      have hroom : t.HasRoom p ↔ t.attempt.toNat ≠ 0 := by
        rw [← not_iff_not, ← hzero, not_not]
        exact UInt32.toNat_inj.symm
      refine ⟨hremaining, iff_of_true (hgranted.mpr rfl) ⟨hreply, by omega⟩, fun _ => ⟨hleft, ?_⟩,
        fun h => absurd (hgranted.mpr rfl) h, hsum, hzero⟩
      rw [hroom, hattempt, hwraps]
      omega
  | refused hreply hleft hattempt =>
      have hnot : ¬ granted := fun h => Bool.false_ne_true (hgranted.mp h)
      have hstays : ¬ (p.Retries reply ∧ 0 < (s.left p).toNat) := by
        rintro ⟨hretries, hpositive⟩
        rcases hreply with hspent | hreply
        · omega
        · exact hreply hretries
      exact ⟨hremaining, iff_of_false hnot hstays, fun h => absurd h hnot,
        fun _ => ⟨hleft, hattempt⟩, hsum, hzero⟩

/-- Such a run exists: as many timeouts as the largest budget grants attempts. -/
theorem attempt_after_largest_budget :
    let p : RetryPolicy := { times := 4294967295 }
    let s := after p (List.replicate 4294967295 (.error .timeout))
    s.attempt = 0 ∧ s.left p = 0 ∧
      s.attempt.toNat + (s.left p).toNat ≠ p.times.toNat + 1 := by
  intro p s
  have htimes : p.times.toNat = 4294967295 := rfl
  have htimeout : p.Retries (.error .timeout) := Or.inr rfl
  have hcalls : calls p (List.replicate 4294967295 (.error .timeout)) = 4294967295 := by
    simp only [calls, List.countP_replicate, htimeout, decide_true, if_true]
  obtain ⟨hleft, hattempt⟩ := after_counts p (List.replicate 4294967295 (.error .timeout))
  rw [hcalls, htimes] at hleft hattempt
  have hspent : (s.left p).toNat = 0 := hleft
  have hwrapped : s.attempt.toNat = 0 := hattempt
  refine ⟨UInt32.toNat_inj.mp hwrapped, UInt32.toNat_inj.mp hspent, ?_⟩
  rw [hspent, hwrapped, htimes]
  decide

end RetryState

end ApiCall
