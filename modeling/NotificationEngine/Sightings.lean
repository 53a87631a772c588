import NotificationEngine.Note

namespace NotificationEngine

/-- The ways in which notification `j` sees a step of the service. -/
inductive Sys.Seen (j : Nat) (s : Sys) : Label → NoteLabel → Prop
  | requested : Seen j s (.retryNotification j) .requested
  | popped {queue} : s.world.queue.popMin memberKey = some (j, queue) →
      Seen j s (.dequeue .none) (.dequeued false)
  | popLost {queue fault} : s.world.queue.popMin memberKey = some (j, queue) → fault ≠ .none →
      fault.effect = true → Seen j s (.dequeue fault) (.dequeued true)
  | expired {now} : Seen j s (.expire now) .expired
  | delivered : Seen j s .deliver .delivered
  | inserted {i env c channel rest} : s.ops[i]? = some (.create c) → c.pc = .insert channel rest →
      Seen j s (.run i .none env) (.inserted false)
  | insertLost {i fault env c channel rest} : s.ops[i]? = some (.create c) →
      c.pc = .insert channel rest → s.world.nextId = j → fault ≠ .none → fault.effect = true →
      Seen j s (.run i fault env) (.inserted true)
  | ran {i fault env op t} : s.ops[i]? = some op → op.taskOf j = some t →
      Seen j s (.run i fault env) (.ran t fault env s.world.service)

theorem seen_run {s : Sys} {i j : Nat} {fault : Fault} {env : Env} {e : NoteLabel}
    (h : s.seenAs j (.run i fault env) = some e) : s.Seen j (.run i fault env) e := by
  simp only [Sys.seenAs] at h
  split at h
  next => cases h
  next op hop =>
    split at h
    next t ht =>
      cases h
      exact Sys.Seen.ran hop ht
    next =>
      split at h
      next c =>
        split at h
        next channel rest hc =>
          split at h
          next born =>
            cases h
            by_cases hf : fault = .none
            · subst hf
              exact Sys.Seen.inserted hop hc
            · simpa [hf] using Sys.Seen.insertLost hop hc born.1 hf born.2.2
          next => cases h
        next => cases h
      next => cases h

theorem seen_of_seenAs {s : Sys} {l : Label} {j : Nat} {e : NoteLabel} (h : s.seenAs j l = some e) :
    s.Seen j l e := by
  cases l with
  | createNotification payload => cases h
  | retryNotification id =>
    simp only [Sys.seenAs] at h
    split at h
    next hid =>
      cases h
      cases hid
      exact Sys.Seen.requested
    next => cases h
  | dequeue fault =>
    simp only [Sys.seenAs] at h
    split at h
    next => cases h
    next id queue hp =>
      split at h
      next hid =>
        cases h
        cases hid.1
        by_cases hf : fault = .none
        · subst hf
          exact Sys.Seen.popped hp
        · simpa [hf] using Sys.Seen.popLost hp hf hid.2
      next => cases h
  | expire now =>
    simp only [Sys.seenAs] at h
    split at h
    next => cases h
    next =>
      split at h <;> cases h
      exact Sys.Seen.expired
  | deliver =>
    simp only [Sys.seenAs] at h
    split at h
    next => cases h
    next =>
      split at h <;> cases h
      exact Sys.Seen.delivered
  | forget key => cases h
  | restart => cases h
  | run i fault env => exact seen_run h

theorem taskOf_eq_some {op : Op} {j : Nat} {t : Task} (h : op.taskOf j = some t) :
    op = .task j t ∨ ∃ c pc rest, op = .create c ∧ c.pc = .saving j pc rest ∧ t = .saving pc := by
  cases op with
  | task id t' =>
    simp only [Op.taskOf] at h
    split at h
    next hid =>
      cases h
      cases hid
      exact Or.inl rfl
    next => cases h
  | create c =>
    cases hc : c.pc with
    | saving id pc rest =>
      simp only [Op.taskOf, hc] at h
      split at h
      next hid =>
        cases h
        cases hid
        exact Or.inr ⟨c, pc, rest, rfl, hc, rfl⟩
      next => cases h
    | _ => simp [Op.taskOf, hc] at h
  | done => cases h

end NotificationEngine
