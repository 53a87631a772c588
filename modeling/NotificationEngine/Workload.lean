import Mathlib.Algebra.BigOperators.Group.Finset.Basic
import NotificationEngine.PublishRetry
import NotificationEngine.RetryBudget

namespace NotificationEngine

open Holders

/-- The calls that a waiting id still takes up to the outcome of its dispatch, by where it waits:
in the sorted set, in `notification.retry.result` and in `notification.retry`. -/
def queuedRank : Nat := 9

def readyRank : Nat := 13

def waitingRank : Nat := 14

/-- The calls from the commit of RETRYING to the outcome of the next dispatch. -/
def retryRank : Nat := 19

/-- The calls that a dispatch still takes, with those of the id it parks. The calls that follow the
commit of RETRYING are not among them: an attempt of the row pays for them. -/
def DispatchPc.rank : DispatchPc → Nat
  | select => 8
  | commitQueued _ => 7
  | refreshQueued => 6
  | health _ => 5
  | send _ => 4
  | commitSent _ _ _ => 2
  | refreshSent => 1
  | commitFailed _ _ _ => 3
  | refreshFailed _ _ => 2
  | commitRetrying _ _ _ _ => 1
  | refreshRetrying _ => retryRank
  | publishing _ pc => pc.rank + waitingRank
  | sendToDlq _ _ => 1

def EventPc.rank : EventPc → Nat
  | select => 12
  | enqueue _ => 11
  | ack => 1

def RetryPc.rank : RetryPc → Nat
  | select => 14
  | commitPending _ => 13
  | refreshPending => 12
  | enqueue _ => 11
  | returned _ => 1

def SavingPc.rank : SavingPc → Nat
  | refresh => 11
  | enqueue _ => 10

def Task.rank : Task → Nat
  | dispatch pc => pc.rank
  | event pc => pc.rank
  | retry pc => pc.rank
  | saving pc => pc.rank

/-- The attempts the row has left. -/
def Config.remaining (cfg : Config) : Option Notification → Nat
  | none => 0
  | some r => (cfg.retryConfigFor r.eventType).maxRetries - r.retryCount

/-- What a call leaves to be done: by its task and for the id it parked. -/
def Outcome.rank (o : Outcome) : Nat :=
  o.next.elim 0 Task.rank + queuedRank * o.enqueued.isSome.toNat +
    waitingRank * o.published.isSome.toNat + readyRank * o.redelivered.toNat

/-- A message that is redelivered is handled once more. -/
def Fault.redelivery : Fault → Task → Nat
  | .stopped _, .event _ => readyRank
  | _, _ => 0

section Calls

variable {cfg : Config} {env : Env} {id : Nat} {q : QueueService} {db : Option Notification}
  {t u : Task}

variable (id) in
/-- A task that goes on has less left than before, less what it parked. -/
theorem Task.Goes.rank_lt (h : t.Goes cfg env q db u) :
    u.rank + queuedRank * t.enqueues.isSome.toNat + waitingRank * (t.publishes env id).isSome.toNat + 1 ≤
      t.rank + retryRank * t.schedules.toNat := by
  cases h with
  | exhausted own _ => rcases own with rfl | rfl <;> exact Nat.le_of_ble_eq_true rfl
  | scheduled own _ _ => rcases own with rfl | rfl <;> exact Nat.le_of_ble_eq_true rfl
  | @connecting delay pc _ => cases pc <;> simp [Task.rank, DispatchPc.rank, PublishPc.rank, Task.enqueues,
      Task.publishes, Task.schedules, retryRank, waitingRank]
  | @publishing delay pc pc' next =>
    have less := PublishPc.step_rank next
    have unpublished : pc ≠ .publish := by
      rintro rfl
      cases next
    simp only [Task.rank, DispatchPc.rank, Task.enqueues, Task.publishes, Task.schedules, unpublished]
    simp only [if_false, Option.isSome_none, Bool.toNat_false]
    omega
  | _ => exact Nat.le_of_ble_eq_true rfl

variable (env id t) in
theorem Task.rank_of_ends : queuedRank * t.enqueues.isSome.toNat +
    waitingRank * (t.publishes env id).isSome.toNat + 1 ≤ t.rank := by
  rcases t with pc | pc | pc | pc
  · cases pc with
    | publishing delay pc =>
      cases pc <;> simp [Task.rank, DispatchPc.rank, PublishPc.rank, Task.enqueues, Task.publishes, waitingRank]
    | _ => simp [Task.rank, DispatchPc.rank, Task.enqueues, Task.publishes, retryRank]
  · cases pc <;> simp [Task.rank, EventPc.rank, Task.enqueues, Task.publishes, queuedRank]
  · cases pc <;> simp [Task.rank, RetryPc.rank, Task.enqueues, Task.publishes, queuedRank]
  · cases pc <;> simp [Task.rank, SavingPc.rank, Task.enqueues, Task.publishes, queuedRank]

/-- Only a call that is answered lets a dispatch go on to `publish_retry`. -/
theorem Task.schedules_answered {fault : Fault} (schedules : t.schedules = true)
    (next : (t.run cfg env id q db fault).next = some u) : fault.effect = true := by
  rcases t with pc | pc | pc | pc
  · cases pc with
    | commitRetrying n code count delay =>
      cases fault with
      | none => rfl
      | raised effect => cases next
      | stopped effect => cases next
    | _ => cases schedules
  · cases schedules
  · cases schedules
  · cases schedules

theorem Task.run_enqueues (cfg : Config) (env : Env) (id : Nat) (q : QueueService)
    (db : Option Notification) (fault : Fault) (t : Task) :
    (t.run cfg env id q db fault).enqueued = if fault.effect then t.enqueues else none := by
  rw [Task.run_part Outcome.enqueued fun _ _ _ _ _ => rfl, (t.act_effects cfg env id q db).enqueued]

theorem Task.run_redelivered (cfg : Config) (env : Env) (id : Nat) (q : QueueService)
    (db : Option Notification) (fault : Fault) (t : Task) :
    readyRank * (t.run cfg env id q db fault).redelivered.toNat ≤ fault.redelivery t := by
  have none (fault : Fault) (h : (t.run cfg env id q db fault).redelivered = false) :
      readyRank * (t.run cfg env id q db fault).redelivered.toNat ≤ fault.redelivery t := by
    rw [h]
    exact Nat.zero_le _
  cases fault with
  | none => exact none _ (t.act_effects cfg env id q db).redelivered
  | raised effect =>
    refine none _ ?_
    cases effect with
    | false => rfl
    | true => exact (t.act_effects cfg env id q db).redelivered
  | stopped effect =>
    cases t with
    | event pc =>
      have bit := Bool.toNat_le (Task.run cfg env id q db (.stopped effect) (.event pc)).redelivered
      exact (Nat.mul_le_mul_left readyRank bit).trans_eq (Nat.mul_one _)
    | _ => exact none _ rfl

/-- A call does one of the calls its task had left. -/
theorem Task.run_rank (cfg : Config) (env : Env) (id : Nat) (q : QueueService)
    (db : Option Notification) (fault : Fault) (t : Task) :
    (t.run cfg env id q db fault).rank + 1 ≤
      t.rank + retryRank * (t.schedules && fault.effect).toNat + fault.redelivery t := by
  have redelivered := Task.run_redelivered cfg env id q db fault t
  have parked : queuedRank * (t.run cfg env id q db fault).enqueued.isSome.toNat +
      waitingRank * (t.run cfg env id q db fault).published.isSome.toNat ≤
        queuedRank * t.enqueues.isSome.toNat + waitingRank * (t.publishes env id).isSome.toNat := by
    rw [Task.run_enqueues, Task.run_published]
    split
    next => exact le_rfl
    next => exact Nat.zero_le _
  unfold Outcome.rank
  cases next : (t.run cfg env id q db fault).next with
  | none =>
    have ends := Task.rank_of_ends env id t
    simp only [Option.elim_none]
    omega
  | some u =>
    have less := (Task.run_goes next).rank_lt id
    simp only [Option.elim_some]
    cases schedules : t.schedules with
    | false =>
      rw [schedules] at less
      simp only [Bool.false_and, Bool.toNat_false] at less ⊢
      omega
    | true =>
      rw [schedules] at less
      rw [Task.schedules_answered schedules next]
      simp only [Bool.and_self, Bool.toNat_true] at less ⊢
      omega

end Calls

end NotificationEngine
