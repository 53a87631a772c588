import NotificationEngine.Note

namespace NotificationEngine

/-- The row exists and its status satisfies `p`. -/
def RowIs (p : NotificationStatus → Prop) (db : Option Notification) : Prop :=
  ∃ n, db = some n ∧ p n.status

/-- What a task that still has the id knows of its row. A dispatch has loaded the row as it is
stored, with the status its last commit left; a manual retry may share the row with others. -/
def DispatchPc.Coherent (db : Option Notification) : DispatchPc → Prop
  | select => RowIs (·.Live) db
  | commitQueued n => db = some n ∧ n.status.Live
  | refreshQueued => RowIs (· = .queued) db
  | health n => db = some n ∧ n.status = .queued
  | send n => db = some n ∧ n.status = .queued
  | commitSent n _ _ => db = some n ∧ n.status = .queued
  | commitFailed n _ _ => db = some n ∧ n.status.Live
  | commitRetrying n _ _ _ => db = some n ∧ n.status = .queued
  | refreshRetrying _ => RowIs (· = .retrying) db
  | publishing _ _ => RowIs (· = .retrying) db
  | _ => True

def EventPc.Coherent (db : Option Notification) : EventPc → Prop
  | ack => True
  | _ => RowIs (·.Live) db

def RetryPc.Coherent (db : Option Notification) : RetryPc → Prop
  | commitPending n =>
    RowIs (fun s => s = n.status ∨ s = .pending) db ∧ n.status ≠ .sent ∧ n.status ≠ .queued
  | refreshPending => RowIs (· = .pending) db
  | enqueue _ => RowIs (· = .pending) db
  | _ => True

def Task.Coherent (db : Option Notification) : Task → Prop
  | dispatch pc => pc.Coherent db
  | event pc => pc.Coherent db
  | retry pc => pc.Coherent db
  | saving _ => RowIs (· = .pending) db

theorem RowIs.mono {p q : NotificationStatus → Prop} {db : Option Notification}
    (h : ∀ s, p s → q s) (hp : RowIs p db) : RowIs q db := by
  obtain ⟨n, hn, hs⟩ := hp
  exact ⟨n, hn, h _ hs⟩

theorem RowIs.live {s : NotificationStatus} {db : Option Notification} (hs : s.Live)
    (h : RowIs (· = s) db) : RowIs (·.Live) db :=
  h.mono fun t ht => by
    rw [ht]
    exact hs

theorem RowIs.live_of_pending {db : Option Notification} (h : RowIs (· = .pending) db) :
    RowIs (·.Live) db :=
  h.live (by simp [NotificationStatus.Live])

@[simp] theorem not_rowIs_none (p : NotificationStatus → Prop) : ¬RowIs p none := by
  rintro ⟨n, hn, _⟩
  cases hn

@[simp] theorem rowIs_some {p : NotificationStatus → Prop} {n : Notification} :
    RowIs p (some n) ↔ p n.status := by
  simp [RowIs]

theorem RowIs.of_loaded {p : NotificationStatus → Prop} {db : Option Notification}
    {n : Notification} (h : db = some n) (hp : p n.status) : RowIs p db := ⟨n, h, hp⟩

theorem DispatchPc.Coherent.live {pc : DispatchPc} {db : Option Notification}
    (h : pc.Coherent db) (carries : (Task.dispatch pc).carries = true) : RowIs (·.Live) db := by
  have queued : NotificationStatus.queued.Live := trivial
  have retrying : NotificationStatus.retrying.Live := trivial
  cases pc with
  | select => exact h
  | commitQueued n => exact RowIs.of_loaded h.1 h.2
  | refreshQueued => exact RowIs.live queued h
  | health n => exact RowIs.of_loaded h.1 (h.2 ▸ queued)
  | send n => exact RowIs.of_loaded h.1 (h.2 ▸ queued)
  | commitSent n externalId now => exact RowIs.of_loaded h.1 (h.2 ▸ queued)
  | commitFailed n code exhausted => exact RowIs.of_loaded h.1 h.2
  | commitRetrying n code count delay => exact RowIs.of_loaded h.1 (h.2 ▸ queued)
  | refreshRetrying delay => exact RowIs.live retrying h
  | publishing delay pc => exact RowIs.live retrying h
  | refreshSent => cases carries
  | refreshFailed code exhausted => cases carries
  | sendToDlq n code => cases carries

theorem Task.Coherent.live {t : Task} {db : Option Notification} (h : t.Coherent db)
    (carries : t.carries = true) : RowIs (·.Live) db := by
  rcases t with pc | pc | pc | pc
  · exact DispatchPc.Coherent.live h carries
  · cases pc with
    | ack => cases carries
    | _ => exact h
  · cases carries
  · exact RowIs.live_of_pending h

theorem RetryPc.Coherent.free {pc : RetryPc} {db : Option Notification} (h : pc.Coherent db)
    (resends : (Task.retry pc).resends = true) : RowIs (fun s => s ≠ .sent ∧ s ≠ .queued) db := by
  have pending {s : NotificationStatus} (hs : s = .pending) : s ≠ .sent ∧ s ≠ .queued := by simp [hs]
  cases pc with
  | commitPending n =>
    obtain ⟨row, hsent, hqueued⟩ := h
    refine row.mono fun s hs => ?_
    rcases hs with rfl | rfl
    · exact ⟨hsent, hqueued⟩
    · exact pending rfl
  | refreshPending => exact h.mono fun _ => pending
  | enqueue score => exact h.mono fun _ => pending
  | select => simp [Task.resends] at resends
  | returned error => simp [Task.resends] at resends

theorem Task.Coherent.unsent {t : Task} {db : Option Notification} (h : t.Coherent db)
    (holds : t.holds = true) : RowIs (· ≠ .sent) db := by
  cases carries : t.carries with
  | true =>
    refine (h.live carries).mono fun s live => ?_
    rintro rfl
    exact live
  | false =>
    cases t with
    | retry pc =>
      have resends : (Task.retry pc).resends = true := by simpa [Task.holds, carries] using holds
      exact (RetryPc.Coherent.free h resends).mono fun _ hs => hs.1
    | _ => simp [Task.holds, carries, Task.resends] at holds

theorem Task.coherent_of_idle {t : Task} (db : Option Notification) (h : t.holds = false) :
    t.Coherent db := by
  rcases t with pc | pc | pc | pc
  · cases pc <;> trivial
  · cases pc <;> trivial
  · cases pc <;> trivial
  · simp [Task.holds, Task.carries] at h

@[simp] theorem Task.holds_of_carries {t : Task} (h : t.carries = true) : t.holds = true := by
  simp [Task.holds, h]

theorem Task.carries_of_holds {t : Task} (h : t.holds = false) : t.carries = false := by
  cases hc : t.carries with
  | false => rfl
  | true => simp [Task.holds, hc] at h

theorem Task.resends_of_holds {t : Task} (h : t.holds = false) : t.resends = false := by
  cases hr : t.resends with
  | false => rfl
  | true => simp [Task.holds, hr] at h

end NotificationEngine
