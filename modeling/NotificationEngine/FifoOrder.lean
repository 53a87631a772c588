import NotificationEngine.PriorityQueue

namespace NotificationEngine

theorem memberKey_inj (a b : Nat) (h : memberKey a = memberKey b) : a = b := by
  have back := congrArg (fun digits => Nat.ofDigitChars 10 digits 0) h
  simpa only [memberKey, Nat.ofDigitChars_ten_toDigits] using back

/-- The calls of `enqueue` read a clock that never goes back. -/
def Steady (calls : List QueueCall) : Prop := (readings calls).Pairwise (· ≤ ·)

instance (calls : List QueueCall) : Decidable (Steady calls) :=
  inferInstanceAs (Decidable (List.Pairwise _ _))

/-- Of two entries that wait, `e` was enqueued first. -/
def QueueRun.Ahead (r : QueueRun) (e e' : QueueEntry) : Prop := [e, e'].Sublist r.waiting

theorem QueueRun.Ahead.left {r : QueueRun} {e e' : QueueEntry} (ahead : r.Ahead e e') :
    e ∈ r.waiting := ahead.subset List.mem_cons_self

theorem QueueRun.Ahead.right {r : QueueRun} {e e' : QueueEntry} (ahead : r.Ahead e e') :
    e' ∈ r.waiting := ahead.subset (List.mem_cons_of_mem e (List.mem_singleton_self e'))

theorem QueueRun.Ahead.ids {r : QueueRun} {e e' : QueueEntry} (ahead : r.Ahead e e')
    (tracks : r.Tracks) : e.id ≠ e'.id := by
  have distinct := tracks.distinct.sublist (ahead.map QueueEntry.id)
  simpa using distinct

theorem QueueRun.Ahead.now_le {calls : List QueueCall} {e e' : QueueEntry} (steady : Steady calls)
    (ahead : (QueueRun.after calls).Ahead e e') : e.now ≤ e'.now := by
  have sorted := steady.sublist ((ahead.map QueueEntry.now).trans (waiting_readings calls))
  simpa using sorted

theorem QueueRun.Tracks.entry_eq {r : QueueRun} (tracks : r.Tracks) {e e' : QueueEntry}
    (waits : e ∈ r.waiting) (waits' : e' ∈ r.waiting) (same : e.id = e'.id) : e = e' :=
  List.inj_on_of_nodup_map tracks.distinct waits waits' same

theorem Before.queueScore_iff {e e' : QueueEntry} (same : e.priority = e'.priority) :
    SortedSet.Before memberKey e.scored e'.scored ↔
      e.now < e'.now ∨ e.now = e'.now ∧ memberKey e.id ≤ memberKey e'.id := by
  unfold SortedSet.Before
  simp only [QueueEntry.scored, queueScore, same, Int.add_lt_add_iff_left, Int.add_right_inj]

/-- Dequeues bring `e'` to the front before `e` if its score comes first. -/
theorem QueueRun.Tracks.drain {r : QueueRun} (tracks : r.Tracks) {e e' : QueueEntry}
    (ahead : r.Ahead e e') (first : SortedSet.Before memberKey e'.scored e.scored) :
    ∃ n, ((List.replicate n .dequeue).foldl QueueRun.call r).Ahead e e' ∧
      ((List.replicate n .dequeue).foldl QueueRun.call r).served = some e'.id := by
  induction len : r.waiting.length using Nat.strong_induction_on generalizing r with
  | _ len' ih =>
    cases served : r.served with
    | none =>
      have waits := ahead.left
      rw [tracks.served_none served] at waits
      cases waits
    | some id =>
      obtain ⟨m, waits, rfl, least⟩ := tracks.served_first served
      by_cases there : m.id = e'.id
      · exact ⟨0, ahead, there ▸ served⟩
      · have notFirst : m.id ≠ e.id := by
          intro same
          obtain rfl := tracks.entry_eq waits ahead.left same
          exact there (SortedSet.Before.antisymm memberKey_inj (least e' ahead.right) first)
        obtain ⟨⟨x, queue⟩, popped, same⟩ := Option.map_eq_some_iff.mp served
        obtain rfl : x = m.id := same
        have rest : (r.call .dequeue).waiting = r.waiting.filter (fun a => a.id ≠ m.id) := by
          simp only [QueueRun.call, popped]
        have still : (r.call .dequeue).Ahead e e' := by
          have kept := ahead.filter (fun a => a.id ≠ m.id)
          rw [QueueRun.Ahead, rest]
          simpa [notFirst.symm, Ne.symm there] using kept
        have shorter : (r.call .dequeue).waiting.length < len' := by
          rw [rest, ← len]
          exact List.length_filter_lt_length_iff_exists.mpr ⟨m, waits, by simp⟩
        obtain ⟨n, ahead', served'⟩ := ih _ shorter (tracks.call .dequeue) still rfl
        exact ⟨n + 1, ahead', served'⟩

theorem steady_dequeues {calls : List QueueCall} (steady : Steady calls) (n : Nat) :
    Steady (calls ++ List.replicate n .dequeue) := by
  have none : readings (List.replicate n .dequeue) = [] := by
    induction n with
    | zero => rfl
    | succ n ih => exact ih
  rw [Steady, readings, List.filterMap_append]
  change ((readings calls ++ readings (List.replicate n .dequeue))).Pairwise (· ≤ ·)
  rw [none, List.append_nil]
  exact steady

/-- Of two waiting ids with one priority the one enqueued first is served first, whatever calls
follow, exactly if its call read an earlier millisecond or its decimal string is the smaller. -/
theorem fifo_iff (calls : List QueueCall) (steady : Steady calls) {e e' : QueueEntry}
    (ahead : (QueueRun.after calls).Ahead e e') (same : e.priority = e'.priority) :
    (∀ more, Steady (calls ++ more) → (QueueRun.after (calls ++ more)).Ahead e e' →
        (QueueRun.after (calls ++ more)).served ≠ some e'.id) ↔
      e.now < e'.now ∨ memberKey e.id < memberKey e'.id := by
  constructor
  · intro fifo
    by_contra tie
    obtain ⟨notEarlier, notSmaller⟩ := not_or.mp tie
    have le := ahead.now_le steady
    have first : SortedSet.Before memberKey e'.scored e.scored :=
      (Before.queueScore_iff same.symm).mpr (Or.inr ⟨by omega, le_of_not_gt notSmaller⟩)
    obtain ⟨n, ahead', served⟩ := (after_tracks calls).drain ahead first
    rw [← QueueRun.after_append] at ahead' served
    exact fifo _ (steady_dequeues steady n) ahead' served
  · intro earlier more steady' ahead' served
    have tracks := after_tracks (calls ++ more)
    obtain ⟨m, waits, sameId, first⟩ := tracks.served_first served
    obtain rfl := tracks.entry_eq waits ahead'.right sameId
    rcases (Before.queueScore_iff same.symm).mp (first e ahead'.left) with lt | ⟨eq, le⟩
    · have := ahead.now_le steady
      omega
    · rcases earlier with lt | smaller
      · omega
      · exact absurd smaller (not_lt_of_ge le)

theorem fifo_two_milliseconds :
    (QueueRun.after [.enqueue 9 .high 0, .enqueue 10 .high 1]).Ahead ⟨9, .high, 0⟩ ⟨10, .high, 1⟩ ∧
      ∀ more, Steady ([.enqueue 9 .high 0, .enqueue 10 .high 1] ++ more) →
        (QueueRun.after ([.enqueue 9 .high 0, .enqueue 10 .high 1] ++ more)).Ahead
          ⟨9, .high, 0⟩ ⟨10, .high, 1⟩ →
        (QueueRun.after ([.enqueue 9 .high 0, .enqueue 10 .high 1] ++ more)).served ≠ some 10 := by
  have ahead : (QueueRun.after [.enqueue 9 .high 0, .enqueue 10 .high 1]).Ahead
      ⟨9, .high, 0⟩ ⟨10, .high, 1⟩ := List.Sublist.refl _
  have steady : Steady [.enqueue 9 .high 0, .enqueue 10 .high 1] := by decide
  exact ⟨ahead, (fifo_iff _ steady ahead rfl).mpr (Or.inl (by decide))⟩

/-- Two ids enqueued in one millisecond: the later one, 10, is served before 9. -/
theorem later_id_served_first :
    Steady [.enqueue 9 .high 0, .enqueue 10 .high 0] ∧
      (QueueRun.after [.enqueue 9 .high 0, .enqueue 10 .high 0]).Ahead ⟨9, .high, 0⟩ ⟨10, .high, 0⟩ ∧
      (QueueRun.after [.enqueue 9 .high 0, .enqueue 10 .high 0]).served = some 10 :=
  ⟨by decide, List.Sublist.refl _, by decide⟩

end NotificationEngine
