import NotificationEngine.RunConditions
import NotificationEngine.Snapshots

namespace NotificationEngine

open SnapshotWrite Holders

/-- A dispatch between the commit of RETRYING and the end of `publish_retry`. -/
def Task.publishing : Task → Bool
  | dispatch (.refreshRetrying _) => true
  | dispatch (.publishing _ _) => true
  | _ => false

/-- A dispatch about to commit RETRYING. -/
def Task.schedules : Task → Bool
  | dispatch (.commitRetrying _ _ _ _) => true
  | _ => false

/-- A manual retry about to commit PENDING. -/
def Task.resets : Task → Bool
  | retry (.commitPending _) => true
  | _ => false

/-- A commit that counts an attempt finds the count its session loaded. -/
def Task.countsOn (r : Notification) : Task → Bool
  | dispatch (.commitRetrying n _ _ _) => decide (n.retryCount = r.retryCount)
  | retry (.commitPending n) => decide (n.retryCount = r.retryCount)
  | _ => true

/-- The retry messages published and those still to be published. -/
def Note.spent (n : Note) : Nat := n.published + held Task.publishing n.tasks

/-- The attempts the row has counted, up to the limit of its event type. -/
def Config.allowance (cfg : Config) : Option Notification → Nat
  | none => 0
  | some r => min r.retryCount (cfg.retryConfigFor r.eventType).maxRetries

section Calls

variable {cfg : Config} {env : Env} {id : Nat} {q : QueueService} {db : Option Notification}
  {t u : Task}

/-- Only a dispatch that has committed RETRYING comes to `publish_retry`. -/
theorem Task.Goes.still_publishing (id : Nat) (h : t.Goes cfg env q db u) (publishing : u.publishing = true) :
    t.schedules = true ∨ t.publishing = true ∧ t.publishes env id = none := by
  cases h with
  | retrying => exact Or.inl rfl
  | connecting _ => exact Or.inr ⟨rfl, rfl⟩
  | @publishing delay pc pc' next =>
    cases pc with
    | publish => cases next
    | _ => exact Or.inr ⟨rfl, rfl⟩
  | _ => cases publishing

theorem Task.run_published (cfg : Config) (env : Env) (id : Nat) (q : QueueService)
    (db : Option Notification) (fault : Fault) (t : Task) :
    (t.run cfg env id q db fault).published = if fault.effect then t.publishes env id else none := by
  rw [Task.run_part Outcome.published fun _ _ _ _ _ => rfl, (t.act_effects cfg env id q db).published]

theorem Task.publishes_length (env : Env) (id : Nat) (t : Task) :
    (t.publishes env id).toList.length ≤ t.publishing.toNat := by
  rcases t with pc | pc | pc | pc
  · cases pc with
    | publishing delay pc => cases pc <;> simp [Task.publishes, Task.publishing]
    | _ => exact Nat.zero_le _
  · exact Nat.zero_le _
  · exact Nat.zero_le _
  · exact Nat.zero_le _

/-- A call spends what its task was to spend, but for the commit of RETRYING. -/
theorem Task.run_spends (cfg : Config) (env : Env) (id : Nat) (q : QueueService)
    (db : Option Notification) (fault : Fault) (t : Task) :
    let o := t.run cfg env id q db fault
    o.published.toList.length + (o.next.any Task.publishing).toNat ≤
      t.publishing.toNat + (t.schedules && fault.effect).toNat := by
  intro o
  have published : o.published = if fault.effect then t.publishes env id else none :=
    t.run_published cfg env id q db fault
  have at_most : o.published.toList.length ≤ t.publishing.toNat := by
    rw [published]
    split
    next => exact t.publishes_length env id
    next => exact Nat.zero_le _
  by_cases ahead : ∃ u, o.next = some u ∧ u.publishing = true
  case neg =>
    have idle : o.next.any Task.publishing = false := by
      cases next : o.next with
      | none => rfl
      | some u => simpa [next] using ahead
    rw [idle, Bool.toNat_false]
    omega
  obtain ⟨u, next, ahead⟩ := ahead
  rw [next, Option.any_some, ahead, Bool.toNat_true]
  rcases (Task.run_goes next).still_publishing id ahead with schedules | ⟨own, silent⟩
  · have effect : fault.effect = true := by
      rcases t with pc | pc | pc | pc
      · cases pc with
        | commitRetrying n code count delay => cases fault <;> first | rfl | exact nomatch next
        | _ => cases schedules
      · cases schedules
      · cases schedules
      · cases schedules
    have unpublished : t.publishing = false := by
      rcases t with pc | pc | pc | pc
      · cases pc <;> first | rfl | cases schedules
      · rfl
      · rfl
      · rfl
    rw [unpublished, Bool.toNat_false] at at_most
    rw [schedules, effect, unpublished]
    simp only [Bool.and_self, Bool.toNat_true, Bool.toNat_false]
    omega
  · have none : o.published.toList.length = 0 := by
      rw [published, silent]
      split <;> rfl
    rw [none, own]
    simp only [Bool.toNat_true]
    omega

end Calls

section Counts

variable {cfg : Config} {t : Task} {r : Notification}

/-- An attempt counted on the stored count adds one to it, and no other call changes it. -/
theorem Task.write_retryCount (scheduled : t.Scheduled cfg) (current : t.countsOn r = true) :
    (t.write cfg r).retryCount = r.retryCount + t.schedules.toNat + t.resets.toNat := by
  rcases t with pc | pc | pc | pc
  · cases pc with
    | commitRetrying n code count delay =>
      have same : n.retryCount = r.retryCount := of_decide_eq_true current
      have more : count ≠ n.retryCount := by
        have next := scheduled.2.1
        omega
      have counted : (Task.write cfg (.dispatch (.commitRetrying n code count delay)) r).retryCount = count :=
        column_of_ne more
      rw [counted, scheduled.2.1, same]
      rfl
    | commitQueued n => exact column_untouched _ _
    | commitSent n externalId now => exact column_untouched _ _
    | commitFailed n code exhausted => exact column_untouched _ _
    | _ => rfl
  · rfl
  · cases pc with
    | commitPending n =>
      have same : n.retryCount = r.retryCount := of_decide_eq_true current
      have counted : (Task.write cfg (.retry (.commitPending n)) r).retryCount = n.retryCount + 1 :=
        column_of_ne (Nat.succ_ne_self n.retryCount)
      rw [counted, same]
      rfl
    | _ => rfl
  · rfl

theorem Task.schedules_within (scheduled : t.Scheduled cfg) (current : t.countsOn r = true)
    (event : ∀ n ∈ t.snapshot, n.eventType = r.eventType) (schedules : t.schedules = true) :
    r.retryCount + 1 ≤ (cfg.retryConfigFor r.eventType).maxRetries := by
  rcases t with pc | pc | pc | pc
  · cases pc with
    | commitRetrying n code count delay =>
      obtain ⟨_, next, within⟩ := scheduled
      have same : n.retryCount = r.retryCount := of_decide_eq_true current
      rw [event n rfl] at within
      omega
    | _ => cases schedules
  · cases schedules
  · cases schedules
  · cases schedules

end Counts

/-- As many retries were published, or are about to be, as the row has counted, and no more than
its event type allows. -/
structure Note.Budget (cfg : Config) (n : Note) : Prop where
  spent : n.spent ≤ cfg.allowance n.row
  scheduled : n.Scheduled cfg
  events : n.Snapshots fun m r => m.eventType = r.eventType

/-- Every attempt is counted on the count that is stored. -/
def Note.CountsOn (n : Note) : NoteLabel → Prop
  | .ran t _ _ _ => ∀ r, n.row = some r → t.countsOn r = true
  | _ => True

theorem Note.spent_ran {n : Note} {t : Task} {rest : Multiset Task} (tasks : n.tasks = t ::ₘ rest)
    (o : Outcome) : (n.after rest o).spent + t.publishing.toNat =
      n.spent + (o.published.toList.length + (o.next.any Task.publishing).toNat) := by
  simp only [Note.spent, Note.after, tasks, held_put, held_cons]
  omega

theorem Task.snapshot_of_schedules {t : Task} (h : t.schedules = true) : ∃ m, t.snapshot = some m := by
  rcases t with pc | pc | pc | pc
  · cases pc with
    | commitRetrying n code count delay => exact ⟨n, rfl⟩
    | _ => cases h
  · cases h
  · cases h
  · cases h

theorem Note.Budget.allowance_run {cfg : Config} {n : Note} {t : Task} (fault : Fault)
    (budget : n.Budget cfg) (here : t ∈ n.tasks) (current : ∀ r, n.row = some r → t.countsOn r = true) :
    cfg.allowance n.row + (t.schedules && fault.effect).toNat ≤
      cfg.allowance (if fault.effect then n.row.map (t.write cfg) else n.row) := by
  cases effect : fault.effect with
  | false => simp
  | true =>
    cases row : n.row with
    | none =>
      have idle : t.schedules = false := by
        cases schedules : t.schedules with
        | false => rfl
        | true =>
          obtain ⟨m, loaded⟩ := Task.snapshot_of_schedules schedules
          obtain ⟨r, there, _⟩ := budget.events t here m loaded
          exact nomatch row.symm.trans there
      rw [idle]
      exact Nat.le_refl 0
    | some r =>
      have scheduled := budget.scheduled t here
      have events : ∀ m ∈ t.snapshot, m.eventType = r.eventType := by
        intro m mem
        obtain ⟨r', there, same⟩ := budget.events t here m mem
        cases row.symm.trans there
        exact same
      have counted := Task.write_retryCount scheduled (current r row)
      simp only [if_true, Option.map_some, Config.allowance, t.write_eventType, Bool.and_true, counted]
      cases schedules : t.schedules with
      | true =>
        have within := Task.schedules_within scheduled (current r row) events schedules
        rw [Bool.toNat_true]
        omega
      | false =>
        rw [Bool.toNat_false]
        omega

theorem Note.Budget.step {cfg : Config} {j : Nat} {n n' : Note} {e : NoteLabel} (budget : n.Budget cfg)
    (current : n.CountsOn e) (h : Note.Step cfg j n e n') : n'.Budget cfg := by
  have events : n'.Snapshots fun m r => m.eventType = r.eventType := by
    refine budget.events.step (fun _ => rfl) ?_ h
    intro t fault env q _ _ m r _ same
    exact same.trans (t.write_eventType cfg r).symm
  refine ⟨?_, budget.scheduled.step h, events⟩
  have before := budget.spent
  cases h with
  | requested => simpa [Note.spent, held_cons, Task.publishing] using before
  | dequeued lost _ => cases lost <;> simpa [Note.spent, held_cons, Task.publishing] using before
  | expired _ => exact before
  | delivered _ => simpa [Note.spent, held_cons, Task.publishing] using before
  | inserted lost payload channel ctime unborn =>
    rw [unborn] at before
    have grown : n.spent ≤ cfg.allowance (some (payload.row channel ctime)) :=
      before.trans (Nat.zero_le _)
    cases lost <;> simpa [Note.spent, held_cons, Task.publishing] using grown
  | @ran rest t fault env q tasks =>
    have here := Note.mem_running tasks
    have spent := Note.spent_ran tasks (t.run cfg env j q n.row fault)
    have spends := t.run_spends cfg env j q n.row fault
    have allowed := budget.allowance_run fault here current
    have stored : (n.after rest (t.run cfg env j q n.row fault)).row =
        if fault.effect then n.row.map (t.write cfg) else n.row := Task.run_db cfg env j q n.row fault t
    rw [← stored] at allowed
    dsimp only at spends
    omega

theorem Note.absent_budget (cfg : Config) : Note.absent.Budget cfg :=
  ⟨Nat.le_refl 0, Note.absent_scheduled cfg, Note.absent_snapshots _⟩

theorem Note.counts_step {cfg : Config} {j : Nat} {n n' : Note} {e : NoteLabel} {r : Notification}
    (scheduled : n.Scheduled cfg) (current : n.CountsOn e) (h : Note.Step cfg j n e n')
    (row : n.row = some r) : ∃ r', n'.row = some r' ∧ r.retryCount ≤ r'.retryCount := by
  cases h with
  | inserted lost payload channel ctime unborn => exact nomatch row.symm.trans unborn
  | @ran rest t fault env q tasks =>
    have here := Note.mem_running tasks
    have counted := current r row
    have stored : (n.after rest (t.run cfg env j q n.row fault)).row =
        if fault.effect then n.row.map (t.write cfg) else n.row := Task.run_db cfg env j q n.row fault t
    rw [stored, row]
    split
    next =>
      have written := Task.write_retryCount (scheduled t here) counted
      exact ⟨t.write cfg r, rfl, by omega⟩
    next => exact ⟨r, rfl, le_rfl⟩
  | _ => exact ⟨r, row, le_rfl⟩

theorem Note.counts_reach {cfg : Config} {j : Nat} {n n' : Note} {r : Notification}
    (scheduled : n.Scheduled cfg) (row : n.row = some r)
    (h : Transition.Reach (Note.Step cfg j) Note.CountsOn n n') :
    ∃ r', n'.row = some r' ∧ r.retryCount ≤ r'.retryCount := by
  have all : n'.Scheduled cfg ∧ ∃ r', n'.row = some r' ∧ r.retryCount ≤ r'.retryCount := by
    induction h with
    | start => exact ⟨scheduled, r, row, le_rfl⟩
    | next _ current step ih =>
      obtain ⟨scheduled, r', row', more⟩ := ih
      obtain ⟨r'', row'', still⟩ := Note.counts_step scheduled current step row'
      exact ⟨scheduled.step step, r'', row'', more.trans still⟩
  exact all.2

/-- A commit that counts an attempt finds the count its session loaded. -/
def Sys.countsOn (s : Sys) : Label → Bool := s.meets fun r t => t.countsOn r

theorem seen_countsOn {s : Sys} {l : Label} {j : Nat} {e : NoteLabel} (ok : s.countsOn l = true)
    (seen : s.Seen j l e) : (s.note j).CountsOn e := by
  cases e with
  | ran t fault env q => exact seen_meets (fun _ _ => rfl) ok seen
  | _ => trivial

/-- In every run in which no attempt is counted on a stale count, no more retries are published than the
event type allows, and the count of a row never goes down. -/
theorem retry_budget {cfg : Config} {s : Sys} (id : Nat)
    (run : Sys.Reach cfg (fun s l => s.countsOn l = true) .initial s) {r : Notification}
    (row : s.world.rows id = some r) :
    s.world.published.count id ≤ (cfg.retryConfigFor r.eventType).maxRetries ∧
      ∀ s', Sys.Reach cfg (fun s l => s.countsOn l = true) s s' →
        ∃ r', s'.world.rows id = some r' ∧ r.retryCount ≤ r'.retryCount := by
  have noted : Transition.Reach (Note.Step cfg id) Note.CountsOn Note.absent (s.note id) :=
    note_reach (fun _ _ _ ok seen => seen_countsOn ok seen) run
  have budget : (s.note id).Budget cfg :=
    noted.invariant (Note.absent_budget cfg) fun _ _ _ budget current step => budget.step current step
  constructor
  · have spent := budget.spent
    have there : (s.note id).row = some r := row
    have published : s.world.published.count id ≤ (s.note id).spent := Nat.le_add_right _ _
    rw [there] at spent
    exact published.trans (spent.trans (Nat.min_le_right _ _))
  · intro s' later
    have later : Transition.Reach (Note.Step cfg id) Note.CountsOn (s.note id) (s'.note id) :=
      note_reach_from (reach_fresh (fun _ _ => rfl) run) (fun _ _ _ ok seen => seen_countsOn ok seen) later
    exact Note.counts_reach budget.scheduled row later

/-- A notification whose first dispatch fails, up to its retry message. -/
def firstRetry : List Label :=
  [.createNotification otpRequest] ++ calls 0 5 (accepting false) ++ [.dequeue .none] ++
    calls 1 10 (accepting false)

theorem retry_budget_firstRetry : ∃ s r,
    Sys.Reach defaultConfig (fun s l => s.countsOn l = true) .initial s ∧ s.world.rows 1 = some r ∧
      s.world.published = [1] ∧
      s.world.published.count 1 ≤ (defaultConfig.retryConfigFor r.eventType).maxRetries := by
  have ran : ((Transition.trace (Sys.step defaultConfig) Sys.countsOn .initial firstRetry).bind
      fun s => (s.world.rows 1).map fun _ => s.world.published) = some [1] := by decide +kernel
  obtain ⟨s, hs, ran⟩ := Option.bind_eq_some_iff.mp ran
  obtain ⟨r, row, published⟩ := Option.map_eq_some_iff.mp ran
  have run := Transition.trace_reach .start hs
  exact ⟨s, r, run, row, published, (retry_budget 1 run row).1⟩

/-- A manual retry that loaded the row at the start commits its count, and a dispatch follows. -/
def staleRetry (manual dispatch awaits : Nat) : List Label :=
  calls manual 3 (accepting false) ++ [.dequeue .none] ++ calls dispatch awaits (accepting false)

/-- Seven manual retries load the new row, of which the first commits after its first dispatch. -/
def staleRetries : List Label :=
  [.createNotification otpRequest] ++ calls 0 5 (accepting false) ++
  (List.range 7).flatMap (fun i => .retryNotification 1 :: calls (i + 1) 1 (accepting false)) ++
  [.dequeue .none] ++ calls 8 10 (accepting false) ++ staleRetry 1 9 6

/-- The other six follow one after the other; every second dispatch comes to publish its retry. -/
def staleCounts : List Label :=
  staleRetry 2 10 10 ++ staleRetry 3 11 6 ++ staleRetry 4 12 10 ++ staleRetry 5 13 6 ++
    staleRetry 6 14 10 ++ calls 7 1 (accepting false)

/-- Four retries are published where three are allowed, and the count goes down. -/
theorem budget_exceeded : ∃ s s' r r',
    Sys.Reach defaultConfig (fun s l => s.infraOk l = true) .initial s ∧
      Sys.Reach defaultConfig (fun s l => s.infraOk l = true) s s' ∧
      s.world.rows 1 = some r ∧ s'.world.rows 1 = some r' ∧ r'.retryCount < r.retryCount ∧
      (defaultConfig.retryConfigFor r'.eventType).maxRetries < s'.world.published.count 1 := by
  have ran : ((Transition.trace (Sys.step defaultConfig) Sys.infraOk .initial staleRetries).bind fun s =>
      (Transition.trace (Sys.step defaultConfig) Sys.infraOk s staleCounts).bind fun s' =>
        (s.world.rows 1).bind fun r => (s'.world.rows 1).map fun r' =>
          decide (r'.retryCount < r.retryCount ∧
            (defaultConfig.retryConfigFor r'.eventType).maxRetries < s'.world.published.count 1)) =
      some true := by decide +kernel
  obtain ⟨s, hs, ran⟩ := Option.bind_eq_some_iff.mp ran
  obtain ⟨s', hs', ran⟩ := Option.bind_eq_some_iff.mp ran
  obtain ⟨r, row, ran⟩ := Option.bind_eq_some_iff.mp ran
  obtain ⟨r', row', facts⟩ := Option.map_eq_some_iff.mp ran
  obtain ⟨fewer, more⟩ := of_decide_eq_true facts
  exact ⟨s, s', r, r', Transition.trace_reach .start hs, Transition.trace_reach .start hs', row, row', fewer,
    more⟩

end NotificationEngine
