import NotificationEngine.LiveRows
import NotificationEngine.DeadLetters
import NotificationEngine.DeliveredOnce

namespace NotificationEngine

/-- The row an operation works on, and its task there. -/
def Op.current : Op → Option (Nat × Task)
  | task id t => some (id, t)
  | create c => match c.pc with
    | .saving id pc _ => some (id, .saving pc)
    | _ => none
  | done => none

theorem current_of_taskOf {op : Op} {j : Nat} {t : Task} (h : op.taskOf j = some t) :
    op.current = some (j, t) := by
  rcases taskOf_eq_some h with rfl | ⟨c, pc, rest, rfl, hc, rfl⟩
  · rfl
  · simp [Op.current, hc]

/-- The id is in the sorted set, in one of the retry queues, or held by one of these operations. -/
def World.heldBy (w : World) (holds : Task → Bool) (id : Nat) (ops : List Op) : Bool :=
  decide (id ∈ w.queue) || w.retryQueue.any (fun m => m.notificationId = id) ||
    w.retryResult.contains id || ops.any fun op => (op.taskOf id).any holds

def Sys.heldId (s : Sys) (id : Nat) : Bool := s.world.heldBy Task.holds id s.ops

def World.isLive (w : World) (id : Nat) : Bool := (w.rows id).any fun r => r.status.Live

/-- A call that loses a holder of a live row, or of one that it may bring back to life, leaves
another holder behind. -/
def Sys.careful (cfg : Config) (s : Sys) : Label → Bool
  | .dequeue fault => match s.world.queue.popMin memberKey with
    | none => true
    | some (id, queue) => fault = .none || !fault.effect || !s.world.isLive id ||
      World.heldBy { s.world with queue := queue } Task.secure id s.ops
  | .run i fault env => match s.ops[i]? with
    | none => true
    | some op => match op.current with
      | some (id, t) => !t.letsGo cfg env s.world.service fault ||
        !(s.world.isLive id || t.commits.isSome) ||
        s.world.heldBy Task.secure id (s.ops.eraseIdx i)
      | none => match op with
        | .create c => match c.pc with
          | .insert _ _ => fault = .none || !fault.effect
          | _ => true
        | _ => true
  | _ => true

/-- A failure that drops a dead letter finds another, published or on its way. -/
def Sys.letterKept (s : Sys) : Label → Bool
  | .run i fault _ => match s.ops[i]?.bind Op.current with
    | none => true
    | some (id, t) => !t.dropsLetter fault ||
      s.world.deadLetters.any (fun m => m.notificationId = id) ||
      (s.ops.eraseIdx i).any fun op => (op.taskOf id).any Task.owesDeadLetter
  | _ => true

theorem note_tasks_erase {s : Sys} {i j : Nat} {op : Op} {t : Task} (hop : s.ops[i]? = some op)
    (ht : op.taskOf j = some t) :
    (s.note j).tasks = t ::ₘ ((s.ops.eraseIdx i).filterMap (Op.taskOf j) : List Task) := by
  obtain ⟨hi, rfl⟩ := List.getElem?_eq_some_iff.mp hop
  have split := (List.getElem_cons_eraseIdx_perm hi).filterMap (Op.taskOf j)
  rw [List.filterMap_cons_some ht] at split
  exact (Multiset.coe_eq_coe.mpr split).symm

theorem ops_any_iff {ops : List Op} {id : Nat} {p : Task → Bool} :
    (ops.any fun op => (op.taskOf id).any p) = true ↔
      ∃ t ∈ (ops.filterMap (Op.taskOf id) : Multiset Task), p t = true := by
  simp only [List.any_eq_true, Option.any_eq_true, Multiset.mem_coe, List.mem_filterMap]
  constructor
  · rintro ⟨op, hop, t, ht, hp⟩
    exact ⟨t, ⟨op, hop, ht⟩, hp⟩
  · rintro ⟨t, ⟨op, hop, ht⟩, hp⟩
    exact ⟨op, hop, t, ht, hp⟩

theorem note_isLive {s : Sys} {id : Nat} : s.world.isLive id = true ↔ RowIs (·.Live) (s.note id).row := by
  simp [World.isLive, RowIs, Sys.note, Option.any_eq_true]

theorem note_heldBy {w : World} {id : Nat} {ops : List Op} (ops' : List Op) :
    w.heldBy Task.secure id ops = true ↔
      (Sys.note id ⟨w, ops'⟩).HeldBy (ops.filterMap (Op.taskOf id) : List Task) := by
  rw [World.heldBy, Bool.or_eq_true, ops_any_iff, Note.HeldBy]
  simp [Sys.note, List.countP_pos_iff, List.count_pos_iff, or_assoc]

theorem seen_careful {cfg : Config} {s : Sys} {l : Label} {j : Nat} {e : NoteLabel}
    (ok : s.careful cfg l = true) (seen : s.Seen j l e) : (s.note j).Careful cfg e := by
  cases seen with
  | popped hp => exact fun h => by cases h
  | popLost hp fault effect =>
    intro _ live
    have gone : decide (j ∈ (_ : SortedSet Nat)) = false :=
      decide_eq_false fun h => ((SortedSet.mem_of_popMin hp).mp h).2 rfl
    simp only [Sys.careful, hp, fault, effect, note_isLive.mpr live, Bool.not_true, decide_false,
      Bool.false_or] at ok
    have held := (note_heldBy s.ops).mp ok
    simpa [Sys.note, gone] using held
  | inserted hop hc => rfl
  | insertLost hop hc born fault effect =>
    simp [Sys.careful, hop, Op.current, hc, fault, effect] at ok
  | @ran i fault env op t hop ht =>
    intro lets risk rest tasks
    have others := note_tasks_erase hop ht
    rw [tasks] at others
    cases (Multiset.cons_inj_right t).mp others
    have danger : (s.world.isLive j || t.commits.isSome) = true := by
      rw [Bool.or_eq_true, note_isLive]
      exact risk
    simp only [Sys.careful, hop, current_of_taskOf ht, lets, danger, Bool.not_true, Bool.false_or] at ok
    exact (note_heldBy s.ops).mp ok
  | _ => trivial

theorem seen_letterKept {s : Sys} {l : Label} {j : Nat} {e : NoteLabel} (ok : s.letterKept l = true)
    (seen : s.Seen j l e) : (s.note j).LetterKept e := by
  cases seen with
  | @ran i fault env op t hop ht =>
    intro drops
    simp only [Sys.letterKept, hop, Option.bind_some, current_of_taskOf ht, drops, Bool.not_true,
      Bool.false_or, Bool.or_eq_true] at ok
    rcases ok with published | owed
    · left
      obtain ⟨m, hm, about⟩ := List.any_eq_true.mp published
      exact List.ne_nil_of_mem (List.mem_filter.mpr ⟨hm, about⟩)
    · right
      intro rest tasks
      have others := note_tasks_erase hop ht
      rw [tasks] at others
      cases (Multiset.cons_inj_right t).mp others
      exact ops_any_iff.mp owed
  | _ => trivial

theorem Task.holds_of_secure {t : Task} (h : t.secure = true) : t.holds = true := by
  rcases t with pc | pc | pc | pc
  · cases pc <;> first | rfl | exact h
  · exact h
  · exact h
  · exact h

def Sys.letterDue (s : Sys) (id : Nat) : Bool :=
  s.world.deadLetters.any (fun m => m.notificationId = id) ||
    s.ops.any fun op => (op.taskOf id).any Task.owesDeadLetter

/-- Whatever fails: if no failure takes the last holder of an id away, every live row is held,
and every exhausted one has its dead letter or will have. -/
theorem nothing_lost {cfg : Config} {s : Sys} (id : Nat)
    (run : Sys.Reach cfg (fun s l => (s.careful cfg l && s.letterKept l) = true) .initial s) :
    (∀ r, s.world.rows id = some r → r.status.Live → s.heldId id = true) ∧
      (id ∈ s.world.exhausted → s.letterDue id = true) := by
  have life : Transition.Reach (Note.Step cfg id) (fun n e => n.Careful cfg e ∧ n.LetterKept e)
      .absent (s.note id) := by
    refine note_reach (fun s l e ok seen => ?_) run
    rw [Bool.and_eq_true] at ok
    exact ⟨seen_careful ok.1 seen, seen_letterKept ok.2 seen⟩
  have kept : (s.note id).Kept :=
    life.invariant Note.absent_kept fun n e n' kept ok step => kept.step ok.1 step
  have accounted : (s.note id).Accounted :=
    life.invariant Note.absent_accounted fun n e n' accounted ok step => accounted.step ok.2 step
  refine ⟨?_, ?_⟩
  · intro r row live
    have held := (note_heldBy s.ops).mpr (kept ⟨r, row, live⟩)
    simp only [World.heldBy, Bool.or_eq_true] at held
    simp only [Sys.heldId, World.heldBy, Bool.or_eq_true]
    refine held.imp_right fun tasks => ?_
    obtain ⟨t, ht, secure⟩ := ops_any_iff.mp tasks
    exact ops_any_iff.mpr ⟨t, ht, Task.holds_of_secure secure⟩
  · intro spent
    rw [Sys.letterDue, Bool.or_eq_true]
    rcases accounted.letter (List.count_pos_iff.mpr spent) with published | owed
    · left
      obtain ⟨m, hm⟩ := List.exists_mem_of_ne_nil _ published
      exact List.any_eq_true.mpr ⟨m, List.mem_filter.mp hm⟩
    · exact Or.inr (ops_any_iff.mpr owed)

/-- The enqueue of a new row whose answer gets lost. -/
def lostAnswer (effect : Bool) : List Label :=
  [.createNotification otpRequest] ++ calls 0 4 (accepting true) ++ [.run 0 (.raised effect) (accepting true)]

theorem nothing_lost_lostAnswer : ∃ s r,
    Sys.Reach defaultConfig (fun s l => (s.careful defaultConfig l && s.letterKept l) = true) .initial s ∧
      s.world.rows 1 = some r ∧ r.status.Live ∧ s.heldId 1 = true := by
  have ran : ((Transition.trace (Sys.step defaultConfig)
      (fun s l => s.careful defaultConfig l && s.letterKept l) .initial (lostAnswer true)).bind
        fun s => (s.world.rows 1).map (·.status)) = some .pending := by decide +kernel
  obtain ⟨s, hs, ran⟩ := Option.bind_eq_some_iff.mp ran
  obtain ⟨r, row, pending⟩ := Option.map_eq_some_iff.mp ran
  have run := Transition.trace_reach Transition.Reach.start hs
  have live : r.status.Live := by rw [pending]; trivial
  exact ⟨s, r, run, row, live, (nothing_lost 1 run).1 r row live⟩

/-- Calls fail, processes do not stop. -/
def Label.noStop : Label → Bool
  | .dequeue fault => fault = .none || fault.isRaised
  | .run _ fault _ => fault = .none || fault.isRaised
  | .restart => false
  | _ => true

/-- `enqueue` fails for a new row: `create_notification` goes on, and nobody has the id. -/
theorem lost_when_enqueue_fails : ∃ s,
    Sys.Reach defaultConfig (fun _ l => l.noStop = true) .initial s ∧
      s.ops.all (fun op => (op.taskOf 1).isNone) = true ∧
      ¬∀ r, s.world.rows 1 = some r → r.status.Live → s.heldId 1 = true := by
  have ran : ((Transition.trace (Sys.step defaultConfig) (fun _ l => l.noStop) .initial
      (lostAnswer false)).bind fun s => (s.world.rows 1).map fun r =>
        (r.status, s.heldId 1, s.ops.all fun op => (op.taskOf 1).isNone)) =
      some (.pending, false, true) := by decide +kernel
  obtain ⟨s, hs, ran⟩ := Option.bind_eq_some_iff.mp ran
  obtain ⟨r, row, facts⟩ := Option.map_eq_some_iff.mp ran
  simp only [Prod.mk.injEq] at facts
  obtain ⟨pending, unheld, ended⟩ := facts
  refine ⟨s, Transition.trace_reach Transition.Reach.start hs, ended, fun held => ?_⟩
  rw [held r row (by rw [pending]; trivial)] at unheld
  cases unheld

end NotificationEngine
