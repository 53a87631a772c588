import NotificationEngine.RunConditions

namespace NotificationEngine

open Holders

/-- How a notification stands once `send` has reported success: the row is SENT, or a dispatch is
about to set it so. -/
def Note.Delivered (n : Note) : Prop :=
  ∃ r, n.row = some r ∧ (r.status = .sent ∨
    r.status = .queued ∧ ∃ externalId now, .dispatch (.commitSent r externalId now) ∈ n.tasks)

structure Note.Once (n : Note) : Prop where
  single : n.Single
  settled : 0 < n.deliveries → n.deliveries = 1 ∧ n.Delivered

theorem Note.Delivered.mono {n n' : Note} (h : n.Delivered) (row : n'.row = n.row)
    (tasks : ∀ t ∈ n.tasks, t.holds = true → t ∈ n'.tasks) : n'.Delivered := by
  obtain ⟨r, hr, hs⟩ := h
  refine ⟨r, row.trans hr, ?_⟩
  rcases hs with sent | ⟨queued, externalId, now, ht⟩
  · exact Or.inl sent
  · exact Or.inr ⟨queued, externalId, now, tasks _ ht rfl⟩

theorem Note.Single.sent_unheld {n : Note} {r : Notification} (single : n.Single)
    (row : n.row = some r) (sent : r.status = .sent) :
    n.queued = false ∧ n.waiting = 0 ∧ n.ready = 0 ∧ ∀ t ∈ n.tasks, t.holds = false := by
  refine single.unheld ?_
  rw [row, rowIs_some]
  exact not_not.mpr sent

theorem Note.Single.delivered_unheld {n : Note} (single : n.Single) (h : n.Delivered) :
    n.queued = false ∧ n.waiting = 0 ∧ n.ready = 0 ∧ ∀ t ∈ n.tasks, t.holds = true →
      ∃ r externalId now, t = .dispatch (.commitSent r externalId now) := by
  obtain ⟨r, hr, sent | ⟨queued, externalId, now, ht⟩⟩ := h
  · obtain ⟨hq, hw, hd, idle⟩ := single.sent_unheld hr sent
    refine ⟨hq, hw, hd, ?_⟩
    intro t ht holds
    rw [idle t ht] at holds
    cases holds
  · obtain ⟨rest, tasks⟩ := Multiset.exists_cons_of_mem ht
    obtain ⟨hq, hw, hd, idle⟩ := single.alone tasks rfl
    refine ⟨hq, hw, hd, ?_⟩
    intro t ht holds
    rw [tasks] at ht
    rcases Multiset.mem_cons.mp ht with rfl | there
    · exact ⟨r, externalId, now, rfl⟩
    · rw [idle t there] at holds
      cases holds

theorem Task.act_delivered {cfg : Config} {env : Env} {id : Nat} {q : QueueService}
    {db : Option Notification} {t : Task} (h : (t.act cfg env id q db).delivered = true) :
    ∃ n, t = .dispatch (.send n) := by
  rw [(t.act_effects cfg env id q db).delivered] at h
  rcases t with pc | pc | pc | pc
  · cases pc with
    | send n => exact ⟨n, rfl⟩
    | _ => cases h
  · cases h
  · cases h
  · cases h

theorem Note.Once.ran {cfg : Config} {j : Nat} {n : Note} {t : Task} {rest : Multiset Task}
    {fault : Fault} {env : Env} {q : QueueService} (once : n.Once) (tasks : n.tasks = t ::ₘ rest)
    (infra : (NoteLabel.ran t fault env q).InfraOk) :
    0 < (n.after rest (t.run cfg env j q n.row fault)).deliveries →
      (n.after rest (t.run cfg env j q n.row fault)).deliveries = 1 ∧
        (n.after rest (t.run cfg env j q n.row fault)).Delivered := by
  intro h
  have here := Note.mem_running tasks
  have coherent := once.single.coherent t here
  by_cases before : 0 < n.deliveries
  · obtain ⟨one, delivered⟩ := once.settled before
    obtain ⟨_, _, _, only⟩ := once.single.delivered_unheld delivered
    cases holds : t.holds with
    | true =>
      obtain ⟨r, externalId, now, rfl⟩ := only t here holds
      obtain ⟨row, _⟩ := coherent
      rcases infra with rfl | ⟨provider, _⟩
      · refine ⟨by simpa [Note.after, Task.run, Task.act, DispatchPc.act] using one, ?_⟩
        exact ⟨_, by rw [row]; exact commit_markSent r cfg externalId now, Or.inl rfl⟩
      · cases provider
    | false =>
      rcases infra with rfl | ⟨provider, _⟩
      · have inert : (t.act cfg env j q n.row).Idle n.row t := Task.act_idle holds
        refine ⟨by simp [Note.after, Task.run, inert.delivered, one], ?_⟩
        apply delivered.mono inert.unchanged
        intro t' ht' holds'
        rw [tasks] at ht'
        rcases Multiset.mem_cons.mp ht' with rfl | there
        · rw [holds] at holds'
          cases holds'
        · exact Note.mem_after.mpr (Or.inr there)
      · have carries := Task.holds_of_carries (Task.carries_of_callsProvider provider)
        rw [holds] at carries
        cases carries
  · rcases infra with rfl | ⟨provider, effect, rfl⟩
    · have now : (t.act cfg env j q n.row).delivered = true := by
        by_contra none
        rw [Bool.not_eq_true] at none
        simp [Note.after, Task.run, none] at h
        omega
      obtain ⟨r, rfl⟩ := Task.act_delivered now
      obtain ⟨row, queued⟩ := coherent
      have next : ((Task.dispatch (.send r)).act cfg env j q n.row).next =
          some (.dispatch (.commitSent r env.result.externalId env.now)) := by
        have success : env.result.success = true := now
        simp [Task.act, DispatchPc.act, afterSend, success]
      refine ⟨by simp [Note.after, Task.run, now]; omega, r, row, Or.inr ⟨queued, ?_⟩⟩
      exact ⟨env.result.externalId, env.now, Note.mem_after.mpr (Or.inl next)⟩
    · rw [Task.run_provider_raised effect provider] at h
      simp [Note.after] at h
      omega

theorem Note.Once.step {cfg : Config} {j : Nat} {n n' : Note} {e : NoteLabel} (once : n.Once)
    (infra : e.InfraOk) (alone : n.RetryAlone e) (h : Note.Step cfg j n e n') : n'.Once := by
  refine ⟨once.single.step infra alone h, ?_⟩
  have parked (before : 0 < n.deliveries) := once.single.delivered_unheld (once.settled before).2
  cases h with
  | requested =>
    intro before
    obtain ⟨one, delivered⟩ := once.settled before
    exact ⟨one, delivered.mono rfl fun t ht _ => Multiset.mem_cons_of_mem ht⟩
  | dequeued lost queued =>
    intro before
    rw [(parked before).1] at queued
    cases queued
  | expired waiting =>
    intro before
    have none := (parked before).2.1
    omega
  | delivered ready =>
    intro before
    have none := (parked before).2.2.1
    omega
  | inserted lost payload channel ctime unborn =>
    intro before
    obtain ⟨r, hr, _⟩ := (once.settled before).2
    rw [unborn] at hr
    cases hr
  | ran t fault env q tasks => exact once.ran tasks infra

theorem Note.absent_once : Note.absent.Once := ⟨Note.absent_single, by simp [Note.absent]⟩

theorem reach_once {cfg : Config} {s : Sys} (id : Nat)
    (run : Sys.Reach cfg (fun s l => (s.infraOk l && s.retryAlone l) = true) .initial s) :
    (s.note id).Once := by
  have sees (s : Sys) (l : Label) (e : NoteLabel) (ok : (s.infraOk l && s.retryAlone l) = true)
      (seen : s.Seen id l e) : e.InfraOk ∧ (s.note id).RetryAlone e := by
    rw [Bool.and_eq_true] at ok
    exact ⟨seen_infraOk ok.1 seen, seen_retryAlone ok.2 seen⟩
  have life : Transition.Reach (Note.Step cfg id) (fun n e => e.InfraOk ∧ n.RetryAlone e) .absent
      (s.note id) := note_reach sees run
  exact life.invariant Note.absent_once fun n e n' once ok step => once.step ok.1 ok.2 step

/-- When manual retries keep out of the way of other carriers, no row is sent twice. -/
theorem sent_at_most_once {cfg : Config} {s : Sys} (id : Nat)
    (run : Sys.Reach cfg (fun s l => (s.infraOk l && s.retryAlone l) = true) .initial s) :
    s.world.deliveries.count id ≤ 1 := by
  have once := reach_once id run
  rcases Nat.eq_zero_or_pos (s.note id).deliveries with none | some
  · exact none.trans_le (Nat.zero_le 1)
  · exact (once.settled some).1.le

/-- A manual retry before the worker pops the id, and its one delivery. -/
def timelyRetry : List Label :=
  [.createNotification otpRequest] ++ calls 0 5 (accepting true) ++ [.retryNotification 1] ++
    calls 1 5 (accepting true) ++ [.dequeue .none] ++ calls 2 7 (accepting true)

theorem sent_at_most_once_timelyRetry : ∃ s,
    Sys.Reach defaultConfig (fun s l => (s.infraOk l && s.retryAlone l) = true) .initial s ∧
      s.world.deliveries = [1] ∧ s.world.deliveries.count 1 ≤ 1 := by
  have ran : ((Transition.trace (Sys.step defaultConfig) (fun s l => s.infraOk l && s.retryAlone l)
      .initial timelyRetry).map fun s => s.world.deliveries) = some [1] := by decide +kernel
  obtain ⟨s, hs, delivered⟩ := Option.map_eq_some_iff.mp ran
  have run := Transition.trace_reach Transition.Reach.start hs
  exact ⟨s, run, delivered, sent_at_most_once 1 run⟩

/-- A manual retry while the message of the first retry waits for its TTL, and the delivery it
brings about. -/
def overtakenRetry : List Label :=
  [.createNotification otpRequest] ++ calls 0 5 (accepting true) ++ [.dequeue .none] ++
    calls 1 10 (accepting false) ++ [.retryNotification 1] ++ calls 2 4 (accepting true) ++
    [.dequeue .none] ++ calls 3 7 (accepting true)

/-- The overtaken message comes back. -/
def lateArrival : List Label :=
  [.expire 1000000, .deliver] ++ calls 4 3 (accepting true) ++ [.dequeue .none] ++
    calls 5 5 (accepting true)

theorem sent_twice : ∃ s, Sys.Reach defaultConfig (fun s l => s.infraOk l = true) .initial s ∧
    ¬s.world.deliveries.count 1 ≤ 1 := by
  have ran : ((Transition.trace (Sys.step defaultConfig) Sys.infraOk .initial
      (overtakenRetry ++ lateArrival)).map fun s => s.world.deliveries) = some [1, 1] := by
    decide +kernel
  obtain ⟨s, hs, delivered⟩ := Option.map_eq_some_iff.mp ran
  refine ⟨s, Transition.trace_reach Transition.Reach.start hs, ?_⟩
  rw [delivered]
  decide

end NotificationEngine
