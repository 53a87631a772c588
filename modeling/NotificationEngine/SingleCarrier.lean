import NotificationEngine.TaskIdle
import NotificationEngine.NoteRuns

namespace NotificationEngine

open Holders

/-- No Redis, RabbitMQ or database call fails and no process stops; a provider may raise. -/
def NoteLabel.InfraOk : NoteLabel → Prop
  | dequeued lost => lost = false
  | inserted lost => lost = false
  | ran t fault _ _ => fault = .none ∨ t.callsProvider = true ∧ ∃ effect, fault = .raised effect
  | _ => True

/-- Nothing holds the id but, perhaps, the sorted set. -/
def Note.AtRest (n : Note) : Prop :=
  n.waiting = 0 ∧ n.ready = 0 ∧ ∀ t ∈ n.tasks, t.carries = false

/-- A `retry_notification` that accepts the row finds its id nowhere but in the sorted set, and
no worker pops the id while such a request is in progress. -/
def Note.RetryAlone (n : Note) : NoteLabel → Prop
  | .ran (.retry .select) _ _ _ =>
    ∀ r, n.row = some r → r.status ≠ .sent → r.status ≠ .queued → n.AtRest
  | .dequeued _ => ∀ t ∈ n.tasks, t.resends = false
  | _ => True

/-- At most one carrier, and it knows its row. -/
structure Note.Single (n : Note) : Prop where
  one : n.carriers ≤ 1
  resent : (∃ t ∈ n.tasks, t.resends = true) → n.AtRest
  parked : n.queued = true ∨ 0 < n.waiting ∨ 0 < n.ready → RowIs (·.Live) n.row
  coherent : ∀ t ∈ n.tasks, t.Coherent n.row

theorem Note.Single.alone {n : Note} {t : Task} {rest : Multiset Task} (single : n.Single)
    (tasks : n.tasks = t ::ₘ rest) (carries : t.carries = true) :
    n.queued = false ∧ n.waiting = 0 ∧ n.ready = 0 ∧ ∀ t' ∈ rest, t'.holds = false := by
  have one := single.one
  rw [Note.carriers, tasks, held_cons, carries, Bool.toNat_true] at one
  have idle := held_eq_zero.mp (show held Task.carries rest = 0 by omega)
  refine ⟨?_, by omega, by omega, ?_⟩
  · cases hq : n.queued with
    | false => rfl
    | true =>
      rw [hq, Bool.toNat_true] at one
      omega
  · intro t' ht'
    cases resends : t'.resends with
    | false => simp [Task.holds, idle t' ht', resends]
    | true =>
      have rests := single.resent ⟨t', Note.mem_resting tasks ht', resends⟩
      have absurd := rests.2.2 t (Note.mem_running tasks)
      rw [carries] at absurd
      cases absurd

theorem Note.after_carriers_alone {n : Note} {rest : Multiset Task} {o : Outcome}
    (queued : n.queued = false) (waiting : n.waiting = 0) (ready : n.ready = 0)
    (idle : ∀ t ∈ rest, t.carries = false) : (n.after rest o).carriers = o.holders := by
  simp only [Note.carriers, Note.after, queued, waiting, ready, held_put, held_eq_zero.mpr idle,
    Outcome.holders, Bool.false_or]
  omega

theorem Note.Single.after_carrier {n : Note} {t : Task} {rest : Multiset Task} {o : Outcome}
    (single : n.Single) (tasks : n.tasks = t ::ₘ rest) (carries : t.carries = true)
    (moved : o.Moved) : (n.after rest o).Single := by
  obtain ⟨queued, waiting, ready, idle⟩ := single.alone tasks carries
  refine ⟨?_, ?_, ?_, ?_⟩
  · rw [Note.after_carriers_alone queued waiting ready fun t' ht' => Task.carries_of_holds (idle t' ht')]
    exact moved.one
  · rintro ⟨t', ht', resends⟩
    exfalso
    rcases Note.mem_after.mp ht' with here | there
    · simp [moved.kept t' here] at resends
    · simp [Task.resends_of_holds (idle t' there)] at resends
  · intro h
    apply moved.parked
    have redelivered := moved.redelivered
    cases hp : o.published <;> simp_all [Note.after]
  · intro t' ht'
    rcases Note.mem_after.mp ht' with here | there
    · exact moved.coherent t' here
    · exact Task.coherent_of_idle _ (idle t' there)

theorem Note.atRest_after {n : Note} {rest : Multiset Task} {o : Outcome} (waiting : n.waiting = 0)
    (ready : n.ready = 0) (others : ∀ u ∈ rest, u.carries = false) (published : o.published = none)
    (redelivered : o.redelivered = false) (next : ∀ u ∈ o.next, u.carries = false) :
    (n.after rest o).AtRest := by
  refine ⟨?_, ?_, ?_⟩
  · simp [Note.after, waiting, published]
  · simp [Note.after, ready, redelivered]
  · intro u hu
    rcases Note.mem_after.mp hu with goes | there
    · exact next u goes
    · exact others u there

/-- A task that has nothing to do with the id acts, or a manual retry accepts the row. -/
theorem Note.Single.after_idle {n : Note} {t : Task} {rest : Multiset Task} {o : Outcome}
    (single : n.Single) (tasks : n.tasks = t ::ₘ rest) (idle : t.holds = false)
    (inert : o.Idle n.row t)
    (alone : t = .retry .select → ∀ r, n.row = some r → r.status ≠ .sent → r.status ≠ .queued →
      n.AtRest) : (n.after rest o).Single := by
  have old {t' : Task} (h : t' ∈ rest) : t' ∈ n.tasks := Note.mem_resting tasks h
  have quiet : ∀ t' ∈ o.next, t'.carries = false := by
    intro t' ht'
    rcases inert.next t' ht' with h | ⟨_, r, _, _, _, rfl⟩
    · exact Task.carries_of_holds h
    · rfl
  have carriers : (n.after rest o).carriers = n.carriers := by
    have none : (o.next.any Task.carries).toNat = 0 := by
      cases hn : o.next with
      | none => rfl
      | some t' => simp [quiet t' hn]
    simp only [Note.carriers, Note.after, tasks, inert.enqueued, inert.published,
      inert.redelivered, held_put, held_cons, Task.carries_of_holds idle, none]
    simp
  have rests (h : n.AtRest) : (n.after rest o).AtRest := by
    obtain ⟨waiting, ready, others⟩ := h
    exact Note.atRest_after waiting ready (fun u hu => others u (old hu)) inert.published
      inert.redelivered quiet
  refine ⟨carriers.trans_le single.one, ?_, ?_, ?_⟩
  · rintro ⟨t', ht', resends⟩
    rcases Note.mem_after.mp ht' with here | there
    · rcases inert.next t' here with h | ⟨ht, r, hr, hsent, hqueued, _⟩
      · simp [Task.resends_of_holds h] at resends
      · exact rests (alone ht r hr hsent hqueued)
    · exact rests (single.resent ⟨t', old there, resends⟩)
  · intro h
    rw [Note.after, inert.unchanged]
    apply single.parked
    simpa [Note.after, inert.enqueued, inert.published, inert.redelivered] using h
  · intro t' ht'
    simp only [Note.after, inert.unchanged]
    rcases Note.mem_after.mp ht' with here | there
    · rcases inert.next t' here with h | ⟨_, r, hr, hsent, hqueued, rfl⟩
      · exact Task.coherent_of_idle _ h
      · exact ⟨⟨r, hr, Or.inl rfl⟩, hsent, hqueued⟩
    · exact single.coherent t' (old there)

theorem Task.Coherent.pending {t : Task} {db db' : Option Notification} (h : t.Coherent db)
    (idle : t.carries = false) (pending : RowIs (· = .pending) db') : t.Coherent db' := by
  cases t with
  | retry pc =>
    cases pc with
    | commitPending n => exact ⟨pending.mono fun _ => Or.inr, h.2⟩
    | refreshPending => exact pending
    | enqueue score => exact pending
    | _ => trivial
  | saving pc => simp [Task.carries] at idle
  | event pc =>
    cases pc with
    | ack => trivial
    | _ => simp [Task.carries] at idle
  | dispatch pc => exact Task.coherent_of_idle db' (by simp [Task.holds, idle, Task.resends])

theorem Note.Single.after_resent {n : Note} {t : Task} {rest : Multiset Task} {o : Outcome}
    (single : n.Single) (tasks : n.tasks = t ::ₘ rest) (resends : t.resends = true)
    (resent : o.Resent n.row) : (n.after rest o).Single := by
  have old {t' : Task} (h : t' ∈ rest) : t' ∈ n.tasks := Note.mem_resting tasks h
  obtain ⟨waiting, ready, idle⟩ :=
    single.resent ⟨t, Note.mem_running tasks, resends⟩
  have rests : (n.after rest o).AtRest := Note.atRest_after waiting ready
    (fun u hu => idle u (old hu)) resent.published resent.redelivered resent.idle
  refine ⟨?_, fun _ => rests, ?_, ?_⟩
  · rw [Note.carriers, rests.1, rests.2.1, held_eq_zero.mpr rests.2.2]
    have bound := Bool.toNat_le (n.after rest o).queued
    omega
  · intro h
    cases ho : o.enqueued with
    | some score => exact (resent.parked (by simp [ho])).live_of_pending
    | none =>
      have live : RowIs (·.Live) n.row := single.parked (by
        simpa [Note.after, ho, resent.published, resent.redelivered] using h)
      rcases resent.row with same | pending
      · simpa [Note.after, same] using live
      · exact pending.live_of_pending
  · intro t' ht'
    rcases Note.mem_after.mp ht' with here | there
    · exact resent.coherent t' here
    · rcases resent.row with same | pending
      · simpa [Note.after, same] using single.coherent t' (old there)
      · exact (single.coherent t' (old there)).pending (idle t' (old there)) pending

theorem Note.Single.unparked {n : Note} (single : n.Single) (settled : ¬RowIs (·.Live) n.row) :
    n.queued = false ∧ n.waiting = 0 ∧ n.ready = 0 := by
  have nowhere : ¬(n.queued = true ∨ 0 < n.waiting ∨ 0 < n.ready) := fun h =>
    settled (single.parked h)
  simpa only [not_or, Bool.not_eq_true, Nat.not_lt, Nat.le_zero] using nowhere

/-- A row that is SENT, or does not exist yet, is held by nothing. -/
theorem Note.Single.unheld {n : Note} (single : n.Single) (gone : ¬RowIs (· ≠ .sent) n.row) :
    n.queued = false ∧ n.waiting = 0 ∧ n.ready = 0 ∧ ∀ t ∈ n.tasks, t.holds = false := by
  have settled : ¬RowIs (·.Live) n.row := fun live => gone (live.mono fun s hs => by
    rintro rfl
    exact hs)
  obtain ⟨queued, waiting, ready⟩ := single.unparked settled
  refine ⟨queued, waiting, ready, fun t ht => ?_⟩
  by_contra holds
  exact gone ((single.coherent t ht).unsent (by simpa using holds))

theorem Task.carries_of_callsProvider {t : Task} (h : t.callsProvider = true) :
    t.carries = true := by
  rcases t with pc | pc | pc | pc
  · cases pc <;> simp [Task.callsProvider] at h <;> rfl
  · simp [Task.callsProvider] at h
  · simp [Task.callsProvider] at h
  · simp [Task.callsProvider] at h

theorem Note.Single.ran {cfg : Config} {j : Nat} {n : Note} {t : Task} {rest : Multiset Task}
    {fault : Fault} {env : Env} {q : QueueService} (single : n.Single) (tasks : n.tasks = t ::ₘ rest)
    (infra : (NoteLabel.ran t fault env q).InfraOk) (alone : n.RetryAlone (.ran t fault env q)) :
    (n.after rest (t.run cfg env j q n.row fault)).Single := by
  rcases infra with rfl | ⟨provider, effect, rfl⟩
  · have coherent := single.coherent t (Note.mem_running tasks)
    cases carries : t.carries with
    | true => exact single.after_carrier tasks carries (Task.act_moved coherent carries)
    | false =>
      cases resends : t.resends with
      | true => exact single.after_resent tasks resends (Task.act_resent coherent resends)
      | false =>
        have idle : t.holds = false := by simp [Task.holds, carries, resends]
        apply single.after_idle tasks idle (Task.act_idle idle)
        rintro rfl
        exact alone
  -- Only a dispatch calls a provider, and what the provider raises ends it.
  · rw [Task.run_provider_raised effect provider]
    exact single.after_carrier tasks (Task.carries_of_callsProvider provider) Outcome.moved_end

theorem Note.Single.no_resend {n : Note} (single : n.Single) (h : 0 < n.waiting ∨ 0 < n.ready) :
    ∀ t ∈ n.tasks, t.resends = false := by
  intro t ht
  by_contra resends
  obtain ⟨waiting, ready, _⟩ := single.resent ⟨t, ht, by simpa using resends⟩
  omega

theorem Note.single_take {n : Note} {t : Task} (row : Option Notification)
    (queued : Bool) (ready : Nat) (kept : t.resends = false) (knows : t.Coherent row)
    (free : ∀ t' ∈ n.tasks, t'.resends = false) (known : ∀ t' ∈ n.tasks, t'.Coherent row)
    (live : RowIs (·.Live) row)
    (one : queued.toNat + n.waiting + ready + (1 + held Task.carries n.tasks) ≤ 1)
    (carries : t.carries = true) :
    Note.Single { n with row, queued, ready, tasks := t ::ₘ n.tasks } where
  one := by simpa [Note.carriers, held_cons, carries] using one
  resent := by
    rintro ⟨t', ht', resends⟩
    rcases Multiset.mem_cons.mp ht' with rfl | there
    · simp [kept] at resends
    · simp [free t' there] at resends
  parked := fun _ => live
  coherent := by
    intro t' ht'
    rcases Multiset.mem_cons.mp ht' with rfl | there
    · exact knows
    · exact known t' there

theorem Note.Single.step {cfg : Config} {j : Nat} {n n' : Note} {e : NoteLabel} (single : n.Single)
    (infra : e.InfraOk) (alone : n.RetryAlone e) (h : Note.Step cfg j n e n') : n'.Single := by
  have one := single.one
  simp only [Note.carriers] at one
  cases h with
  | requested =>
    refine ⟨?_, ?_, single.parked, ?_⟩
    · simpa [Note.carriers, held_cons, Task.carries] using one
    · rintro ⟨t, ht, resends⟩
      rcases Multiset.mem_cons.mp ht with rfl | ht
      · simp [Task.resends] at resends
      · obtain ⟨waiting, ready, idle⟩ := single.resent ⟨t, ht, resends⟩
        exact ⟨waiting, ready, by simpa [Task.carries] using idle⟩
    · intro t ht
      rcases Multiset.mem_cons.mp ht with rfl | ht
      · trivial
      · exact single.coherent t ht
  | dequeued lost queued =>
    cases (infra : lost = false)
    have live := single.parked (Or.inl queued)
    rw [queued, Bool.toNat_true] at one
    exact Note.single_take n.row false n.ready rfl live alone single.coherent live
      (by rw [Bool.toNat_false]; omega) rfl
  | @expired w waiting =>
    have free := single.no_resend (Or.inl (by omega))
    have live := single.parked (Or.inr (Or.inl (by omega)))
    refine ⟨?_, ?_, fun _ => live, single.coherent⟩
    · simp only [Note.carriers]
      omega
    · rintro ⟨t, ht, resends⟩
      simp [free t ht] at resends
  | @delivered r ready =>
    have live := single.parked (Or.inr (Or.inr (by omega)))
    exact Note.single_take n.row n.queued r rfl live (single.no_resend (Or.inr (by omega)))
      single.coherent live (by omega) rfl
  | inserted lost payload channel ctime none =>
    cases (infra : lost = false)
    obtain ⟨queued, waiting, ready, idle⟩ := single.unheld (by rw [none]; exact not_rowIs_none _)
    have carried : held Task.carries n.tasks = 0 :=
      held_eq_zero.mpr fun t ht => Task.carries_of_holds (idle t ht)
    have parked : n.queued.toNat = 0 := by rw [queued]; rfl
    exact Note.single_take (some (payload.row channel ctime)) n.queued n.ready rfl ⟨_, rfl, rfl⟩
      (fun t ht => Task.resends_of_holds (idle t ht))
      (fun t ht => Task.coherent_of_idle _ (idle t ht)) ⟨_, rfl, trivial⟩ (by omega) rfl
  | ran t fault env q tasks => exact single.ran tasks infra alone

theorem Note.absent_single : Note.absent.Single where
  one := by simp [Note.carriers, Note.absent]
  resent := by simp [Note.absent]
  parked := by simp [Note.absent]
  coherent := by simp [Note.absent]

end NotificationEngine
