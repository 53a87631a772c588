import NotificationEngine.SingleCarrier

namespace NotificationEngine

def Fault.isRaised : Fault → Bool
  | raised _ => true
  | _ => false

def Op.callsProvider : Op → Bool
  | task _ t => t.callsProvider
  | _ => false

/-- No Redis, RabbitMQ or database call fails and no process stops; a provider may raise. -/
def Sys.infraOk (s : Sys) : Label → Bool
  | .dequeue fault => decide (fault = .none)
  | .restart => false
  | .run i fault _ => decide (fault = .none) || fault.isRaised && s.ops[i]?.any Op.callsProvider
  | _ => true

/-- Nothing holds the id but, perhaps, the sorted set. -/
def Sys.atRest (s : Sys) (id : Nat) : Bool :=
  s.world.retryQueue.all (fun m => m.notificationId ≠ id) && s.world.retryResult.all (· ≠ id) &&
    s.ops.all fun op => (op.taskOf id).all fun t => !t.carries

/-- A `retry_notification` that accepts the row finds its id nowhere but in the sorted set, and
no worker pops the id while such a request is in progress. -/
def Sys.retryAlone (s : Sys) : Label → Bool
  | .dequeue _ => match s.world.queue.popMin memberKey with
    | none => true
    | some (id, _) => s.ops.all fun op => (op.taskOf id).all fun t => !t.resends
  | .run i _ _ => match s.ops[i]? with
    | some (.task id (.retry .select)) => match s.world.rows id with
      | none => true
      | some r => r.status = .sent || r.status = .queued || s.atRest id
    | _ => true
  | _ => true

theorem note_atRest {s : Sys} {id : Nat} (h : s.atRest id = true) : (s.note id).AtRest := by
  simp only [Sys.atRest, Bool.and_eq_true, List.all_eq_true] at h
  obtain ⟨⟨waiting, ready⟩, tasks⟩ := h
  refine ⟨?_, ?_, ?_⟩
  · exact List.countP_eq_zero.mpr fun m hm => by simpa using waiting m hm
  · exact List.count_eq_zero.mpr fun hm => by simpa using ready id hm
  · intro t ht
    obtain ⟨op, hop, hj⟩ := List.mem_filterMap.mp ht
    simpa [hj] using tasks op hop

theorem note_no_resends {s : Sys} {id : Nat}
    (h : s.ops.all (fun op => (op.taskOf id).all fun t => !t.resends) = true) :
    ∀ t ∈ (s.note id).tasks, t.resends = false := by
  intro t ht
  obtain ⟨op, hop, hj⟩ := List.mem_filterMap.mp ht
  simpa [hj] using List.all_eq_true.mp h op hop

theorem seen_infraOk {s : Sys} {l : Label} {j : Nat} {e : NoteLabel} (ok : s.infraOk l = true)
    (seen : s.Seen j l e) : e.InfraOk := by
  cases seen with
  | popped _ => rfl
  | popLost _ fault _ => exact absurd (of_decide_eq_true ok) fault
  | inserted _ _ => rfl
  | insertLost hop _ _ fault _ => simp [Sys.infraOk, hop, Op.callsProvider, fault] at ok
  | @ran i fault env op t hop ht =>
    simp only [Sys.infraOk, hop, Option.any_some, Bool.or_eq_true, Bool.and_eq_true,
      decide_eq_true_eq] at ok
    rcases ok with rfl | ⟨raised, provider⟩
    · exact Or.inl rfl
    · rcases taskOf_eq_some ht with rfl | ⟨c, _, _, rfl, _, _⟩
      · cases fault with
        | raised effect => exact Or.inr ⟨provider, effect, rfl⟩
        | none => cases raised
        | stopped effect => cases raised
      · cases provider
  | _ => trivial

theorem seen_retryAlone {s : Sys} {l : Label} {j : Nat} {e : NoteLabel} (ok : s.retryAlone l = true)
    (seen : s.Seen j l e) : (s.note j).RetryAlone e := by
  cases seen with
  | popped hp =>
    simp only [Sys.retryAlone, hp] at ok
    exact note_no_resends ok
  | popLost hp _ _ =>
    simp only [Sys.retryAlone, hp] at ok
    exact note_no_resends ok
  | @ran i fault env op t hop ht =>
    rcases taskOf_eq_some ht with rfl | ⟨_, _, _, _, _, rfl⟩
    · rcases t with pc | pc | pc | pc
      · trivial
      · trivial
      · cases pc with
        | select =>
          intro r (hr : s.world.rows j = some r) hsent hqueued
          simp only [Sys.retryAlone, hop, hr] at ok
          exact note_atRest (by simpa [hsent, hqueued] using ok)
        | _ => trivial
      · trivial
    · trivial
  | _ => trivial

/-- The task about to make a call meets `p` with its row. -/
def Sys.meets (p : Notification → Task → Bool) (s : Sys) : Label → Bool
  | .run i _ _ => match s.ops[i]? with
    | some (.task id t) => (s.world.rows id).all fun r => p r t
    | _ => true
  | _ => true

theorem seen_meets {p : Notification → Task → Bool} {s : Sys} {l : Label} {j : Nat} {t : Task}
    {fault : Fault} {env : Env} {q : QueueService} (free : ∀ r pc, p r (.saving pc) = true)
    (ok : s.meets p l = true) (seen : s.Seen j l (.ran t fault env q)) :
    ∀ r, (s.note j).row = some r → p r t = true := by
  intro r row
  have stored : s.world.rows j = some r := row
  cases seen with
  | ran hop ht =>
    rcases taskOf_eq_some ht with rfl | ⟨c, pc, rest, rfl, _, rfl⟩
    · simpa [Sys.meets, hop, stored] using ok
    · exact free r pc

end NotificationEngine
