import NotificationEngine.Custody
import NotificationEngine.RetryBudget

namespace NotificationEngine

open Holders

/-- A manual retry commits that it accepted the row. -/
def NoteLabel.accepts : NoteLabel → Bool
  | .ran t .none _ _ => t.resets
  | _ => false

/-- No operation on the notification starts while another is in progress. -/
def Note.InTurn (n : Note) : NoteLabel → Prop
  | .expired => True
  | .ran _ _ _ _ => True
  | _ => n.tasks = 0

/-- `publish_retry` does not meet a cached connection that cannot be asked whether it is closed. -/
def NoteLabel.Publishes (cfg : Config) : NoteLabel → Prop
  | .ran (.dispatch (.refreshRetrying _)) _ _ q =>
    (q.rmqConnection.isSome && !cfg.aioPika.isClosedIsMethod) = false
  | _ => True

section Calls

variable {cfg : Config} {env : Env} {id : Nat} {q : QueueService} {db : Option Notification}
  {t u : Task}

/-- A task goes by what it loaded only as long as it has not written. -/
theorem Task.Goes.unwritten (h : t.Goes cfg env q db u) {m : Notification} (loaded : u.snapshot = some m)
    (r : Notification) : t.write cfg r = r := by
  cases h with
  | exhausted own _ => rcases own with rfl | rfl <;> rfl
  | scheduled own _ _ => rcases own with rfl | rfl <;> rfl
  | queued => cases loaded
  | sent => cases loaded
  | failed => cases loaded
  | retrying => cases loaded
  | reset => cases loaded
  | _ => rfl

/-- A dispatch gives up for good when the count it loaded has reached the limit. -/
theorem Task.Goes.exhausts (h : t.Goes cfg env q db u) (exhausts : u.exhausts = true) :
    ∀ m ∈ u.snapshot, (cfg.retryConfigFor m.eventType).maxRetries ≤ m.retryCount := by
  cases h with
  | exhausted own spent =>
    intro m mem
    obtain rfl := Option.some.inj mem
    omega
  | _ => cases exhausts

theorem Task.act_spends (id : Nat) (row : db.isSome = true)
    (publishes : (NoteLabel.ran t .none env q).Publishes cfg) :
    let o := t.act cfg env id q db
    t.publishing.toNat + t.schedules.toNat ≤
      o.published.toList.length + (o.next.any Task.publishing).toNat := by
  rcases t with pc | pc | pc | pc
  · cases pc with
    | commitRetrying n code count delay => exact Nat.le_refl 1
    | refreshRetrying delay =>
      obtain ⟨n, rfl⟩ := Option.isSome_iff_exists.mp row
      obtain ⟨pc, got⟩ := getRabbitmqChannel_isSome publishes
      simp [Task.act, DispatchPc.act, got, Task.publishing, Task.schedules]
    | publishing delay pc => cases pc <;> exact Nat.le_refl 1
    | _ => exact Nat.zero_le _
  · exact Nat.zero_le _
  · exact Nat.zero_le _
  · exact Nat.zero_le _

end Calls

/-- Of the attempts the row has counted, each is a retry published, one still to be published, or an
accepted manual retry; and one operation at most is in progress. -/
structure Note.Balanced (cfg : Config) (n : Note) (accepted : Nat) : Prop where
  alone : n.tasks.card ≤ 1
  scheduled : n.Scheduled cfg
  knows : n.Snapshots fun m r => m.retryCount = r.retryCount ∧ m.eventType = r.eventType
  counted : ∀ r, n.row = some r → r.retryCount ≤ n.spent + accepted
  exhausts : ∀ t ∈ n.tasks, t.exhausts = true →
    ∀ m ∈ t.snapshot, (cfg.retryConfigFor m.eventType).maxRetries ≤ m.retryCount
  exhausted : 0 < n.exhausted → ∃ r, n.row = some r ∧
    (cfg.retryConfigFor r.eventType).maxRetries ≤ n.published + accepted

theorem Note.alone_ran {n : Note} {t : Task} {rest : Multiset Task} (alone : n.tasks.card ≤ 1)
    (tasks : n.tasks = t ::ₘ rest) : rest = 0 := by
  rw [tasks, Multiset.card_cons] at alone
  exact Multiset.card_eq_zero.mp (by omega)

theorem Note.Balanced.ended {cfg : Config} {n : Note} {accepted : Nat} {t : Task} {rest : Multiset Task}
    {q : QueueService} (balanced : n.Balanced cfg accepted) (tasks : n.tasks = t ::ₘ rest)
    (idle : t.publishing = false) :
    (n.after rest { db := n.row, service := q, next := none }).Balanced cfg accepted := by
  obtain rfl := Note.alone_ran balanced.alone tasks
  have none (u : Task) : u ∉ (0 : Multiset Task) := Multiset.notMem_zero u
  refine ⟨Nat.zero_le 1, fun u hu => absurd hu (none u), fun u hu => absurd hu (none u), ?_,
    fun u hu => absurd hu (none u), ?_⟩
  · intro r row
    have before := balanced.counted r row
    have spent := Note.spent_ran tasks { db := n.row, service := q, next := .none }
    rw [idle, Bool.toNat_false] at spent
    simp only [Option.toList_none, List.length_nil, Option.any_none, Bool.toNat_false] at spent
    omega
  · exact balanced.exhausted

theorem Task.countsOn_of_snapshot {t : Task} {r : Notification}
    (same : ∀ m ∈ t.snapshot, m.retryCount = r.retryCount) : t.countsOn r = true := by
  rcases t with pc | pc | pc | pc
  · cases pc with
    | commitRetrying n code count delay => exact decide_eq_true (same n rfl)
    | _ => rfl
  · rfl
  · cases pc with
    | commitPending n => exact decide_eq_true (same n rfl)
    | _ => rfl
  · rfl

theorem Task.snapshot_of_exhausts {t : Task} (h : t.exhausts = true) :
    t.publishing = false ∧ ∃ m, t.snapshot = some m := by
  rcases t with pc | pc | pc | pc
  · cases pc with
    | commitFailed n code exhausted => exact ⟨rfl, n, rfl⟩
    | _ => cases h
  · cases h
  · cases h
  · cases h

theorem Note.Balanced.ran {cfg : Config} {j : Nat} {n : Note} {accepted : Nat} {t : Task}
    {rest : Multiset Task} {env : Env} {q : QueueService} (balanced : n.Balanced cfg accepted)
    (tasks : n.tasks = t ::ₘ rest) (publishes : (NoteLabel.ran t .none env q).Publishes cfg) :
    (n.after rest (t.act cfg env j q n.row)).Balanced cfg (accepted + t.resets.toNat) := by
  have here := Note.mem_running tasks
  obtain rfl := Note.alone_ran balanced.alone tasks
  have acted := t.act_effects cfg env j q n.row
  have only {u : Task} (hu : u ∈ (n.after 0 (t.act cfg env j q n.row)).tasks) :
      (t.act cfg env j q n.row).next = some u := by
    rcases Note.mem_after.mp hu with next | there
    · exact next
    · exact absurd there (Multiset.notMem_zero u)
  have written {r : Notification} (row : n.row = some r) :
      (n.after 0 (t.act cfg env j q n.row)).row = some (t.write cfg r) := by
    rw [Note.after, acted.db, row]
    rfl
  have current {r : Notification} (row : n.row = some r) : t.countsOn r = true := by
    refine Task.countsOn_of_snapshot fun m mem => ?_
    obtain ⟨r', row', same, _⟩ := balanced.knows t here m mem
    cases row.symm.trans row'
    exact same
  have published : (n.after 0 (t.act cfg env j q n.row)).published =
      n.published + (t.act cfg env j q n.row).published.toList.length := rfl
  refine ⟨?_, ?_, ?_, ?_, ?_, ?_⟩
  · rw [Note.after]
    cases (t.act cfg env j q n.row).next <;> simp
  · exact fun u hu => (Task.act_goes (only hu)).snapshot.2.scheduled
  · intro u hu m loaded
    have goes := Task.act_goes (only hu)
    have kept {r : Notification} (row : n.row = some r) :
        (n.after 0 (t.act cfg env j q n.row)).row = some r := by
      rw [written row, goes.unwritten loaded r]
    rcases goes.snapshot.1 m loaded with own | row
    · obtain ⟨r, row, same⟩ := balanced.knows t here m own
      exact ⟨r, kept row, same⟩
    · exact ⟨m, kept row, rfl, rfl⟩
  · intro r' row'
    obtain ⟨r, row, rfl⟩ : ∃ r, n.row = some r ∧ t.write cfg r = r' := by
      rw [Note.after, acted.db] at row'
      exact Option.map_eq_some_iff.mp row'
    have before := balanced.counted r row
    have counted := Task.write_retryCount (balanced.scheduled t here) (current row)
    have spent := Note.spent_ran tasks (t.act cfg env j q n.row)
    have spends := Task.act_spends j (Option.isSome_of_eq_some row) publishes
    dsimp only at spends
    omega
  · exact fun u hu exhausts => (Task.act_goes (only hu)).exhausts exhausts
  · intro some_exhausted
    have count : (n.after 0 (t.act cfg env j q n.row)).exhausted = n.exhausted + t.exhausts.toNat := by
      rw [Note.after, acted.exhausted]
    cases now : t.exhausts with
    | true =>
      obtain ⟨idle, m, loaded⟩ := Task.snapshot_of_exhausts now
      obtain ⟨r, row, same, event⟩ := balanced.knows t here m loaded
      have limit := balanced.exhausts t here now m loaded
      have before := balanced.counted r row
      have spent : n.spent = n.published := by
        rw [Note.spent, tasks, held_cons, idle, held_zero, Bool.toNat_false, Nat.add_zero]
      refine ⟨_, written row, ?_⟩
      rw [t.write_eventType, ← event, published]
      omega
    | false =>
      rw [now, Bool.toNat_false] at count
      obtain ⟨r, row, limit⟩ := balanced.exhausted (by omega)
      refine ⟨_, written row, ?_⟩
      rw [t.write_eventType, published]
      omega

theorem Note.Balanced.start {cfg : Config} {n : Note} {accepted : Nat} {t : Task}
    (balanced : n.Balanced cfg accepted) (idle : n.tasks = 0) (queued : Bool) (ready : Nat)
    (blank : t.snapshot = none) (scheduled : t.Scheduled cfg) (quiet : t.publishing = false) :
    Note.Balanced cfg { n with queued, ready, tasks := t ::ₘ n.tasks } accepted := by
  have only {u : Task} (hu : u ∈ t ::ₘ n.tasks) : u = t := by
    rw [idle] at hu
    exact Multiset.mem_singleton.mp hu
  have spent : Note.spent { n with queued, ready, tasks := t ::ₘ n.tasks } = n.spent := by
    simp only [Note.spent, held_cons, quiet, Bool.toNat_false, Nat.zero_add]
  refine ⟨by simp [idle], ?_, ?_, ?_, ?_, balanced.exhausted⟩
  · intro u hu
    rw [only hu]
    exact scheduled
  · intro u hu
    rw [only hu]
    exact Task.forall_snapshot blank
  · intro r row
    rw [spent]
    exact balanced.counted r row
  · intro u hu _
    rw [only hu]
    exact Task.forall_snapshot blank

theorem Note.Balanced.step {cfg : Config} {j : Nat} {n n' : Note} {e : NoteLabel} {accepted : Nat}
    (balanced : n.Balanced cfg accepted) (infra : e.InfraOk) (turn : n.InTurn e)
    (publishes : e.Publishes cfg) (h : Note.Step cfg j n e n') :
    n'.Balanced cfg (accepted + e.accepts.toNat) := by
  cases h with
  | requested => exact balanced.start turn n.queued n.ready rfl trivial rfl
  | dequeued lost _ =>
    cases (infra : lost = false)
    exact balanced.start turn false n.ready rfl trivial rfl
  | expired _ =>
    exact ⟨balanced.alone, balanced.scheduled, balanced.knows, balanced.counted, balanced.exhausts,
      balanced.exhausted⟩
  | @delivered r _ => exact balanced.start turn n.queued r rfl trivial rfl
  | inserted lost payload channel ctime unborn =>
    cases (infra : lost = false)
    have started := balanced.start turn n.queued n.ready (t := .saving .refresh) rfl trivial rfl
    have never : ¬0 < n.exhausted := by
      intro some_exhausted
      obtain ⟨r, row, _⟩ := balanced.exhausted some_exhausted
      exact nomatch unborn.symm.trans row
    refine ⟨started.alone, started.scheduled, ?_, ?_, started.exhausts, fun h => absurd h never⟩
    · intro u hu m loaded
      obtain ⟨r, row, _⟩ := started.knows u hu m loaded
      exact nomatch unborn.symm.trans row
    · intro r row
      obtain rfl := Option.some.inj row
      exact Nat.zero_le _
  | ran t fault env q tasks =>
    rcases infra with rfl | ⟨provider, effect, rfl⟩
    · exact balanced.ran tasks publishes
    · have idle : t.publishing = false := by
        rcases t with pc | pc | pc | pc
        · cases pc <;> first | rfl | cases provider
        · rfl
        · rfl
        · rfl
      rw [Task.run_provider_raised effect provider]
      exact balanced.ended tasks idle

theorem Note.absent_balanced (cfg : Config) : Note.absent.Balanced cfg 0 where
  alone := Nat.zero_le 1
  scheduled := Note.absent_scheduled cfg
  knows := Note.absent_snapshots _
  counted := fun _ row => (nomatch row)
  exhausts := fun t ht => absurd ht (Multiset.notMem_zero t)
  exhausted := fun h => absurd h (Nat.lt_irrefl 0)

theorem Note.balanced_reach {cfg : Config} {j : Nat} {b : Note × Nat}
    (h : Transition.Reach
      (fun a e b => Note.Step cfg j a.1 e b.1 ∧ b.2 = a.2 + (NoteLabel.accepts e).toNat)
      (fun a e => e.InfraOk ∧ a.1.InTurn e ∧ e.Publishes cfg) (Note.absent, 0) b) :
    b.1.Balanced cfg b.2 := by
  induction h with
  | start => exact Note.absent_balanced cfg
  | next _ ok step balanced =>
    obtain ⟨infra, turn, publishes⟩ := ok
    obtain ⟨step, counted⟩ := step
    rw [counted]
    exact balanced.step infra turn publishes step

/-- A manual retry of the notification commits that it accepted the row. -/
def Sys.accepts (id : Nat) (s : Sys) : Label → Bool
  | .run i .none _ => match s.ops[i]? with
    | some (.task j t) => decide (j = id) && t.resets
    | _ => false
  | _ => false

/-- No operation on the notification starts while another is in progress. -/
def Sys.inTurn (id : Nat) (s : Sys) (l : Label) : Bool :=
  match s.seenAs id l with
  | none => true
  | some .expired => true
  | some (.ran _ _ _ _) => true
  | some _ => s.ops.all fun op => (op.taskOf id).isNone

/-- `publish_retry` does not meet a cached connection that cannot be asked whether it is closed. -/
def Sys.publishes (cfg : Config) (id : Nat) (s : Sys) : Label → Bool
  | .run i _ _ => match s.ops[i]? with
    | some (.task j (.dispatch (.refreshRetrying _))) =>
      decide (j ≠ id) || s.world.service.rmqConnection.isNone || cfg.aioPika.isClosedIsMethod
    | _ => true
  | _ => true

theorem seen_inTurn {s : Sys} {l : Label} {id : Nat} {e : NoteLabel} (ok : s.inTurn id l = true)
    (seen : s.seenAs id l = some e) : (s.note id).InTurn e := by
  have idle (h : s.ops.all (fun op => (op.taskOf id).isNone) = true) : (s.note id).tasks = 0 := by
    have none : s.ops.filterMap (Op.taskOf id) = [] := by
      refine List.filterMap_eq_nil_iff.mpr fun op mem => ?_
      exact Option.isNone_iff_eq_none.mp (List.all_eq_true.mp h op mem)
    rw [Sys.note, none]
    rfl
  rw [Sys.inTurn, seen] at ok
  cases e with
  | expired => trivial
  | ran t fault env q => trivial
  | _ => exact idle ok

theorem seen_publishes {cfg : Config} {s : Sys} {l : Label} {id : Nat} {e : NoteLabel}
    (ok : s.publishes cfg id l = true) (seen : s.Seen id l e) : e.Publishes cfg := by
  cases seen with
  | @ran i fault env op t hop ht =>
    rcases taskOf_eq_some ht with rfl | ⟨_, _, _, _, _, rfl⟩
    · rcases t with pc | pc | pc | pc
      · cases pc with
        | refreshRetrying delay =>
          cases cached : s.world.service.rmqConnection with
          | none => simp [NoteLabel.Publishes, cached]
          | some connection => simpa [Sys.publishes, hop, cached, NoteLabel.Publishes] using ok
        | _ => trivial
      · trivial
      · trivial
      · trivial
    · trivial
  | _ => trivial

theorem seen_accepts {s : Sys} {l : Label} {id : Nat} {e : NoteLabel} (seen : s.Seen id l e) :
    e.accepts = s.accepts id l := by
  cases seen with
  | inserted hop _ => simp [NoteLabel.accepts, Sys.accepts, hop]
  | @insertLost i fault env c channel rest hop _ _ _ _ =>
    cases fault <;> simp [NoteLabel.accepts, Sys.accepts, hop]
  | @ran i fault env op t hop ht =>
    cases fault with
    | none =>
      rcases taskOf_eq_some ht with rfl | ⟨_, _, _, rfl, _, rfl⟩
      · simp [NoteLabel.accepts, Sys.accepts, hop]
      · simp [NoteLabel.accepts, Sys.accepts, hop, Task.resets]
    | raised effect => rfl
    | stopped effect => rfl
  | _ => rfl

theorem unseen_accepts {s : Sys} {l : Label} {id : Nat} (unseen : s.seenAs id l = none) :
    s.accepts id l = false := by
  cases l with
  | run i fault env =>
    cases fault with
    | none =>
      cases hop : s.ops[i]? with
      | none => simp [Sys.accepts, hop]
      | some op =>
        cases op with
        | task j t =>
          have other : j ≠ id := by
            rintro rfl
            simp [Sys.seenAs, hop, Op.taskOf] at unseen
          simp [Sys.accepts, hop, other]
        | create c => simp [Sys.accepts, hop]
        | done => simp [Sys.accepts, hop]
    | raised effect => rfl
    | stopped effect => rfl
  | _ => rfl

/-- A run together with the number of manual retries of the notification accepted in it. -/
abbrev Sys.CountedReach (cfg : Config) (id : Nat) (ok : Sys → Label → Prop) : Sys × Nat → Prop :=
  Transition.Reach (fun a l b => Transition.counting (Sys.step cfg) (Sys.accepts id) a l = some b)
    (fun a l => ok a.1 l) (.initial, 0)

/-- The operations on the notification do not overlap, no call fails, and its retries can be published. -/
def Sys.oneByOne (cfg : Config) (id : Nat) (s : Sys) (l : Label) : Bool :=
  s.infraOk l && s.inTurn id l && s.publishes cfg id l

/-- A notification that `_schedule_retry` gave up had as many retries published and manual retries
accepted as its event type allows retries. -/
theorem exhausted_balanced {cfg : Config} (id : Nat) {s : Sys} {accepted : Nat}
    (run : Sys.CountedReach cfg id (fun s l => s.oneByOne cfg id l = true) (s, accepted))
    (exhausted : id ∈ s.world.exhausted) :
    ∃ r, s.world.rows id = some r ∧
      (cfg.retryConfigFor r.eventType).maxRetries ≤ s.world.published.count id + accepted := by
  have sees (s : Sys) (l : Label) (e : NoteLabel) (ok : s.oneByOne cfg id l = true)
      (seen : s.seenAs id l = some e) :
      (e.InfraOk ∧ (s.note id).InTurn e ∧ e.Publishes cfg) ∧ e.accepts = s.accepts id l := by
    obtain ⟨ok, publishes⟩ := Bool.and_eq_true_iff.mp ok
    obtain ⟨infra, turn⟩ := Bool.and_eq_true_iff.mp ok
    have noticed := seen_of_seenAs seen
    exact ⟨⟨seen_infraOk infra noticed, seen_inTurn turn seen, seen_publishes publishes noticed⟩,
      seen_accepts noticed⟩
  have unseen (s : Sys) (l : Label) (unseen : s.seenAs id l = none) : s.accepts id l = false :=
    unseen_accepts unseen
  have noted := note_reach_counting (fun s l => s.oneByOne cfg id l = true)
    (fun n e => e.InfraOk ∧ n.InTurn e ∧ e.Publishes cfg) sees unseen run
  have balanced : (s.note id).Balanced cfg accepted := Note.balanced_reach noted
  have some_exhausted : 0 < (s.note id).exhausted := List.count_pos_iff.mpr exhausted
  exact balanced.exhausted some_exhausted

/-- Three manual retries before the first dispatch, one after the other. -/
def retriedThrice : List Label :=
  [.createNotification otpRequest] ++ calls 0 5 (accepting false) ++
  (List.range 3).flatMap (fun i => .retryNotification 1 :: calls (i + 1) 5 (accepting false)) ++
  [.dequeue .none] ++ calls 4 7 (accepting false)

/-- The notification is given up, and no retry was ever published. -/
theorem exhausted_unretried : ∃ s r,
    Sys.CountedReach defaultConfig 1 (fun s l => s.oneByOne defaultConfig 1 l = true) (s, 3) ∧
      1 ∈ s.world.exhausted ∧ s.world.deadLetters.length = 1 ∧ s.world.rows 1 = some r ∧
      r.status = .failed ∧
      ¬(defaultConfig.retryConfigFor r.eventType).maxRetries ≤ s.world.published.count 1 := by
  have ran : ((Transition.trace (Transition.counting (Sys.step defaultConfig) (Sys.accepts 1))
      (fun a l => a.1.oneByOne defaultConfig 1 l) (.initial, 0) retriedThrice).bind fun a =>
        (a.1.world.rows 1).map fun r => decide (a.2 = 3 ∧ 1 ∈ a.1.world.exhausted ∧
          a.1.world.deadLetters.length = 1 ∧ r.status = .failed ∧
          ¬(defaultConfig.retryConfigFor r.eventType).maxRetries ≤ a.1.world.published.count 1)) =
      some true := by decide +kernel
  obtain ⟨⟨s, accepted⟩, hs, ran⟩ := Option.bind_eq_some_iff.mp ran
  obtain ⟨r, row, facts⟩ := Option.map_eq_some_iff.mp ran
  obtain ⟨three, exhausted, letters, failed, fewer⟩ := of_decide_eq_true facts
  cases (three : accepted = 3)
  exact ⟨s, r, Transition.trace_reach .start hs, exhausted, letters, row, failed, fewer⟩

theorem exhausted_balanced_thrice : ∃ (s : Sys) (r : Notification),
    1 ∈ s.world.exhausted ∧ s.world.rows 1 = some r ∧
      (defaultConfig.retryConfigFor r.eventType).maxRetries ≤ s.world.published.count 1 + 3 := by
  have ran : ((Transition.trace (Transition.counting (Sys.step defaultConfig) (Sys.accepts 1))
      (fun a l => a.1.oneByOne defaultConfig 1 l) (.initial, 0) retriedThrice).map fun a =>
        decide (a.2 = 3 ∧ 1 ∈ a.1.world.exhausted)) = some true := by decide +kernel
  obtain ⟨⟨s, accepted⟩, hs, facts⟩ := Option.map_eq_some_iff.mp ran
  obtain ⟨three, exhausted⟩ := of_decide_eq_true facts
  cases (three : accepted = 3)
  obtain ⟨r, row, balanced⟩ := exhausted_balanced 1 (Transition.trace_reach .start hs) exhausted
  exact ⟨s, r, exhausted, row, balanced⟩

end NotificationEngine
