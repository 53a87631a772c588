import NotificationEngine.NoteRuns
import NotificationEngine.TaskSteps

namespace NotificationEngine

/-- A dispatch that has set the row FAILED as exhausted and has yet to publish its dead letter. -/
def Task.owesDeadLetter : Task → Bool
  | dispatch (.refreshFailed _ exhausted) => exhausted
  | dispatch (.sendToDlq _ _) => true
  | _ => false

/-- A dead letter is first owed when an exhausted dispatch commits FAILED. -/
theorem Task.act_owes {cfg : Config} {env : Env} {id : Nat} {q : QueueService}
    {db : Option Notification} {t t' : Task} (h : (t.act cfg env id q db).next = some t')
    (owes : t'.owesDeadLetter = true) :
    t.owesDeadLetter = true ∨ ∃ n code, t = .dispatch (.commitFailed n code true) := by
  cases Task.act_goes h with
  | @failed n code exhausted =>
    cases (owes : exhausted = true)
    exact Or.inr ⟨n, code, rfl⟩
  | buried row => exact Or.inl rfl
  | _ => cases owes

theorem Task.act_deadLetter {cfg : Config} {env : Env} {id : Nat} {q : QueueService}
    {db : Option Notification} {t : Task} (owes : t.owesDeadLetter = false) :
    (t.act cfg env id q db).deadLetter = none := by
  rw [(t.act_effects cfg env id q db).deadLetter]
  rcases t with pc | pc | pc | pc
  · cases pc with
    | sendToDlq n code => cases owes
    | _ => rfl
  · rfl
  · rfl
  · rfl

/-- A dispatch that has read its row. -/
def Task.loaded : Task → Bool
  | dispatch .select => false
  | dispatch _ => true
  | _ => false

/-- The failures after which an exhausted row's dead letter is published by nobody. -/
def Task.dropsLetter (fault : Fault) (t : Task) : Bool :=
  decide (fault ≠ .none) && match t with
  | dispatch (.commitFailed _ _ exhausted) => exhausted && fault.effect
  | dispatch (.refreshFailed _ exhausted) => exhausted
  | dispatch (.sendToDlq _ _) => !fault.effect
  | _ => false

/-- An exhausted row has a dead letter, or one on its way. -/
structure Note.Accounted (n : Note) : Prop where
  row : (∃ t ∈ n.tasks, t.loaded = true) → n.row.isSome = true
  letter : 0 < n.exhausted → n.deadLetters ≠ [] ∨ ∃ t ∈ n.tasks, t.owesDeadLetter = true

/-- A failure that drops a dead letter finds another, published or on its way. -/
def Note.LetterKept (n : Note) : NoteLabel → Prop
  | .ran t fault _ _ => t.dropsLetter fault = true →
      n.deadLetters ≠ [] ∨ ∀ rest, n.tasks = t ::ₘ rest → ∃ u ∈ rest, u.owesDeadLetter = true
  | _ => True

theorem Task.act_loaded {cfg : Config} {env : Env} {id : Nat} {q : QueueService}
    {db : Option Notification} {t t' : Task} (h : (t.act cfg env id q db).next = some t')
    (loaded : t'.loaded = true) : t.loaded = true ∨ db.isSome = true := by
  cases Task.act_goes h with
  | provided row => rw [row]; exact Or.inr rfl
  | unprovided row => rw [row]; exact Or.inr rfl
  | exhausted own _ => rcases own with rfl | rfl <;> exact Or.inl rfl
  | scheduled own _ _ => rcases own with rfl | rfl <;> exact Or.inl rfl
  | _ => first | exact Or.inl rfl | cases loaded

theorem Task.run_next {cfg : Config} {env : Env} {id : Nat} {q : QueueService}
    {db : Option Notification} {fault : Fault} {t t' : Task}
    (h : (t.run cfg env id q db fault).next = some t') :
    fault = .none ∧ (t.act cfg env id q db).next = some t' ∨
      fault ≠ .none ∧ t'.loaded = false ∧ t'.holds = false := by
  cases fault with
  | none => exact Or.inl ⟨rfl, h⟩
  | raised effect =>
    refine Or.inr ⟨by simp, ?_⟩
    have landed : t.afterRaise = some t' := h
    rcases t with pc | pc | pc | pc
    · cases landed
    · cases pc <;> cases landed
      exact ⟨rfl, rfl⟩
    · cases pc <;> cases landed
      exact ⟨rfl, rfl⟩
    · cases landed
  | stopped effect => cases h

theorem Task.run_exhausted {cfg : Config} {env : Env} {id : Nat} {q : QueueService}
    {db : Option Notification} {fault : Fault} {t : Task}
    (h : (t.run cfg env id q db fault).exhausted = true) :
    fault.effect = true ∧ ∃ n code, t = .dispatch (.commitFailed n code true) := by
  rw [(t.run_effects cfg env id q db fault).2.2, Bool.and_eq_true] at h
  obtain ⟨effect, exhausts⟩ := h
  refine ⟨effect, ?_⟩
  rcases t with pc | pc | pc | pc
  · cases pc with
    | commitFailed n code exhausted =>
      cases (exhausts : exhausted = true)
      exact ⟨n, code, rfl⟩
    | _ => cases exhausts
  · cases exhausts
  · cases exhausts
  · cases exhausts

/-- Whoever owes a dead letter publishes it or goes on owing it, unless it drops it. -/
theorem Task.run_owes (cfg : Config) (env : Env) (id : Nat) (q : QueueService)
    {db : Option Notification} {fault : Fault} {t : Task} (owes : t.owesDeadLetter = true)
    (row : db.isSome = true) (kept : t.dropsLetter fault = false) :
    (t.run cfg env id q db fault).deadLetter.isSome = true ∨
      ∃ u ∈ (t.run cfg env id q db fault).next, u.owesDeadLetter = true := by
  rcases t with pc | pc | pc | pc
  · cases pc with
    | refreshFailed code exhausted =>
      cases (owes : exhausted = true)
      cases fault with
      | none =>
        obtain ⟨n, rfl⟩ := Option.isSome_iff_exists.mp row
        exact Or.inr ⟨_, rfl, rfl⟩
      | raised effect => cases kept
      | stopped effect => cases kept
    | sendToDlq n code =>
      left
      rw [(Task.run_effects cfg env id q db fault _).2.1]
      cases fault with
      | none => rfl
      | raised effect => cases effect <;> [cases kept; rfl]
      | stopped effect => cases effect <;> [cases kept; rfl]
    | _ => cases owes
  · cases owes
  · cases owes
  · cases owes

theorem Note.Accounted.row_step {cfg : Config} {j : Nat} {n n' : Note} {e : NoteLabel}
    (accounted : n.Accounted) (h : Note.Step cfg j n e n') :
    (∃ t ∈ n'.tasks, t.loaded = true) → n'.row.isSome = true := by
  rintro ⟨u, mem, loaded⟩
  refine h.row_isSome ?_
  rcases h.mem_tasks mem with there | start | ⟨t, fault, env, q, _, here, next⟩
  · exact accounted.row ⟨u, there, loaded⟩
  · cases start <;> cases loaded
  · rcases Task.run_next next with ⟨_, acted⟩ | ⟨_, blank, _⟩
    · rcases Task.act_loaded acted loaded with before | row
      · exact accounted.row ⟨t, here, before⟩
      · exact row
    · rw [blank] at loaded
      cases loaded

theorem Note.Accounted.ran {cfg : Config} {j : Nat} {n : Note} {t : Task} {rest : Multiset Task}
    {fault : Fault} {env : Env} {q : QueueService} (accounted : n.Accounted)
    (tasks : n.tasks = t ::ₘ rest) (kept : n.LetterKept (.ran t fault env q))
    (h : 0 < (n.after rest (t.run cfg env j q n.row fault)).exhausted) :
    (n.after rest (t.run cfg env j q n.row fault)).deadLetters ≠ [] ∨
      ∃ u ∈ (n.after rest (t.run cfg env j q n.row fault)).tasks, u.owesDeadLetter = true := by
  have others (u : Task) (hu : u ∈ rest) (owes : u.owesDeadLetter = true) :
      ∃ v ∈ (n.after rest (t.run cfg env j q n.row fault)).tasks, v.owesDeadLetter = true :=
    ⟨u, Note.mem_after.mpr (Or.inr hu), owes⟩
  have letters (some : n.deadLetters ≠ []) :
      (n.after rest (t.run cfg env j q n.row fault)).deadLetters ≠ [] := by
    simp [Note.after, some]
  cases drops : t.dropsLetter fault with
  | true =>
    rcases kept drops with some | other
    · exact Or.inl (letters some)
    · obtain ⟨u, hu, owes⟩ := other rest tasks
      exact Or.inr (others u hu owes)
  | false =>
    cases exhausted : (t.run cfg env j q n.row fault).exhausted with
    | true =>
      obtain ⟨effect, r, code, rfl⟩ := Task.run_exhausted exhausted
      cases fault with
      | none => exact Or.inr ⟨_, Note.mem_after.mpr (Or.inl rfl), rfl⟩
      | raised effect' => cases (effect : effect' = true); cases drops
      | stopped effect' => cases (effect : effect' = true); cases drops
    | false =>
      rcases accounted.letter (by simpa [Note.after, exhausted] using h) with some | ⟨u, hu, owes⟩
      · exact Or.inl (letters some)
      · rw [tasks] at hu
        rcases Multiset.mem_cons.mp hu with rfl | there
        · have row : n.row.isSome = true := by
            refine accounted.row ⟨u, Note.mem_running tasks, ?_⟩
            cases u with
            | dispatch pc => cases pc <;> first | rfl | cases owes
            | _ => cases owes
          rcases Task.run_owes cfg env j q owes row drops with published | ⟨v, hv, owes'⟩
          · obtain ⟨d, hd⟩ := Option.isSome_iff_exists.mp published
            exact Or.inl (by simp [Note.after, hd])
          · exact Or.inr ⟨v, Note.mem_after.mpr (Or.inl hv), owes'⟩
        · exact Or.inr (others u there owes)

theorem Note.Accounted.step {cfg : Config} {j : Nat} {n n' : Note} {e : NoteLabel}
    (accounted : n.Accounted) (kept : n.LetterKept e) (h : Note.Step cfg j n e n') : n'.Accounted := by
  refine ⟨accounted.row_step h, ?_⟩
  have spawn {u : Task} (given_up : 0 < n.exhausted) :
      n.deadLetters ≠ [] ∨ ∃ t ∈ u ::ₘ n.tasks, t.owesDeadLetter = true := by
    rcases accounted.letter given_up with some | ⟨v, hv, owes⟩
    · exact Or.inl some
    · exact Or.inr ⟨v, Multiset.mem_cons_of_mem hv, owes⟩
  cases h with
  | requested => exact spawn
  | dequeued lost queued =>
    cases lost with
    | true => exact accounted.letter
    | false => exact spawn
  | expired waiting => exact accounted.letter
  | delivered ready => exact spawn
  | inserted lost payload channel ctime unborn =>
    cases lost with
    | true => exact accounted.letter
    | false => exact spawn
  | ran t fault env q tasks => exact accounted.ran tasks kept

theorem Note.absent_accounted : Note.absent.Accounted := ⟨by simp [Note.absent], by simp [Note.absent]⟩

end NotificationEngine
