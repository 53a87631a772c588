import Mathlib.Data.List.Induction
import NotificationEngine.QueueService

namespace NotificationEngine

/-- The calls of a `QueueService` on its sorted set. `now` is the clock `enqueue` reads, in
milliseconds. -/
inductive QueueCall
  | enqueue (id : Nat) (priority : NotificationPriority) (now : Int)
  | dequeue
  | remove (id : Nat)
  deriving DecidableEq, Repr

/-- What an effective `enqueue` was called with. -/
structure QueueEntry where
  id : Nat
  priority : NotificationPriority
  now : Int
  deriving DecidableEq, Repr

/-- The sorted set after some calls, and what a queue of entries without scores would hold: those
that wait, in the order of their calls, and the ids inserted, dequeued and removed. -/
structure QueueRun where
  queue : SortedSet Nat
  waiting : List QueueEntry
  inserted : List Nat
  dequeued : List Nat
  removed : List Nat

def QueueRun.start : QueueRun := ⟨.empty, [], [], [], []⟩

/-- One call; `enqueue` is `ZADD NX`, `dequeue` is `BZPOPMIN`, `remove` is `ZREM`. -/
def QueueRun.call (r : QueueRun) : QueueCall → QueueRun
  | .enqueue id priority now =>
    if id ∈ r.queue then { r with queue := r.queue.addNX id (queueScore priority now) }
    else { r with
      queue := r.queue.addNX id (queueScore priority now)
      waiting := r.waiting ++ [⟨id, priority, now⟩]
      inserted := r.inserted ++ [id] }
  | .dequeue => match r.queue.popMin memberKey with
    | none => r
    | some (id, queue) => { r with
      queue := queue
      waiting := r.waiting.filter (fun e => e.id ≠ id)
      dequeued := r.dequeued ++ [id] }
  | .remove id =>
    { r with
      queue := r.queue.remove id
      waiting := r.waiting.filter (fun e => e.id ≠ id)
      removed := if id ∈ r.queue then r.removed ++ [id] else r.removed }

def QueueRun.after (calls : List QueueCall) : QueueRun := calls.foldl QueueRun.call .start

/-- What a `dequeue` would return. -/
def QueueRun.served (r : QueueRun) : Option Nat := (r.queue.popMin memberKey).map Prod.fst

/-- The clock readings of some calls, in order. -/
def readings (calls : List QueueCall) : List Int :=
  calls.filterMap fun
    | .enqueue _ _ now => some now
    | _ => none

def QueueEntry.scored (e : QueueEntry) : Nat × Int := (e.id, queueScore e.priority e.now)

/-- The sorted set holds what waits, under its scores. -/
structure QueueRun.Tracks (r : QueueRun) : Prop where
  entries : r.queue.entries.Perm (r.waiting.map QueueEntry.scored)
  balance : ∀ id, r.inserted.count id =
    r.dequeued.count id + r.removed.count id + if id ∈ r.queue then 1 else 0

theorem QueueRun.Tracks.mem {r : QueueRun} (tracks : r.Tracks) {id : Nat} :
    id ∈ r.queue ↔ ∃ e ∈ r.waiting, e.id = id := by
  rw [SortedSet.mem_iff]
  constructor
  · rintro ⟨score, mem⟩
    obtain ⟨e, waits, same⟩ := List.mem_map.mp (tracks.entries.mem_iff.mp mem)
    exact ⟨e, waits, congrArg Prod.fst same⟩
  · rintro ⟨e, waits, rfl⟩
    exact ⟨_, tracks.entries.mem_iff.mpr (List.mem_map_of_mem waits)⟩

theorem QueueRun.Tracks.distinct {r : QueueRun} (tracks : r.Tracks) :
    (r.waiting.map QueueEntry.id).Nodup := by
  have ids := (tracks.entries.map Prod.fst).nodup_iff.mp r.queue.nodup
  rwa [List.map_map] at ids

theorem QueueRun.Tracks.filter {r : QueueRun} (tracks : r.Tracks) (id : Nat) :
    (r.queue.remove id).entries.Perm ((r.waiting.filter (fun e => e.id ≠ id)).map QueueEntry.scored) := by
  have left := tracks.entries.filter (fun e => e.1 ≠ id)
  rwa [List.filter_map] at left

theorem QueueRun.enqueue_waiting {r : QueueRun} {id : Nat} (waits : id ∈ r.queue)
    (priority : NotificationPriority) (now : Int) : r.call (.enqueue id priority now) = r := by
  simp only [QueueRun.call, if_pos waits, SortedSet.addNX_of_mem waits]

theorem QueueRun.Tracks.call {r : QueueRun} (tracks : r.Tracks) (c : QueueCall) :
    (r.call c).Tracks := by
  cases c with
  | enqueue id priority now =>
    by_cases waits : id ∈ r.queue
    · rw [QueueRun.enqueue_waiting waits]
      exact tracks
    · refine ⟨?_, fun x => ?_⟩
      · simp only [QueueRun.call, if_neg waits, SortedSet.addNX_of_not_mem waits, List.map_append]
        exact (tracks.entries.cons _).trans (List.perm_append_singleton _ _).symm
      · have balance := tracks.balance x
        simp only [QueueRun.call, if_neg waits, List.count_append, SortedSet.mem_addNX]
        by_cases same : x = id
        · subst same
          simp only [if_neg waits] at balance
          simp [balance]
        · simp [same, balance, Ne.symm same]
  | dequeue =>
    cases popped : r.queue.popMin memberKey with
    | none => simpa only [QueueRun.call, popped] using tracks
    | some first =>
      obtain ⟨id, queue⟩ := first
      obtain ⟨rfl, _⟩ := SortedSet.popMin_first popped
      have waited := SortedSet.popMin_mem popped
      refine ⟨?_, fun x => ?_⟩
      · simpa only [QueueRun.call, popped] using tracks.filter id
      · have balance := tracks.balance x
        simp only [QueueRun.call, popped, List.count_append, SortedSet.mem_remove]
        by_cases same : x = id
        · subst same
          simp only [if_pos waited] at balance
          simp only [balance, List.count_singleton_self, ne_eq, not_true_eq_false, and_false, if_false]
          omega
        · simp [same, balance, Ne.symm same]
  | remove id =>
    refine ⟨tracks.filter id, fun x => ?_⟩
    have balance := tracks.balance x
    simp only [QueueRun.call, SortedSet.mem_remove]
    by_cases same : x = id
    · subst same
      by_cases waits : x ∈ r.queue
      · simp only [if_pos waits] at balance
        simp only [balance, if_pos waits, List.count_append, List.count_singleton_self, ne_eq,
          not_true_eq_false, and_false, if_false]
        omega
      · simpa [waits] using balance
    · by_cases waits : id ∈ r.queue
      · simp [same, balance, waits, Ne.symm same]
      · simp [same, balance, waits]

theorem QueueRun.after_append (calls more : List QueueCall) :
    QueueRun.after (calls ++ more) = more.foldl QueueRun.call (.after calls) :=
  List.foldl_append

theorem after_tracks (calls : List QueueCall) : (QueueRun.after calls).Tracks := by
  induction calls using List.reverseRecOn with
  | nil => exact ⟨List.Perm.refl _, fun id => by simp [QueueRun.after, QueueRun.start]⟩
  | append_singleton calls c ih =>
    rw [QueueRun.after_append]
    exact ih.call c

theorem waiting_readings (calls : List QueueCall) :
    ((QueueRun.after calls).waiting.map QueueEntry.now).Sublist (readings calls) := by
  induction calls using List.reverseRecOn with
  | nil => exact List.Sublist.refl _
  | append_singleton calls c ih =>
    rw [QueueRun.after_append, readings, List.filterMap_append]
    change List.Sublist (((QueueRun.after calls).call c).waiting.map QueueEntry.now) _
    have left {ys : List Int} : ((QueueRun.after calls).waiting.map QueueEntry.now).Sublist
        (readings calls ++ ys) := ih.trans (List.sublist_append_left _ _)
    have fewer (id : Nat) {ys : List Int} :
        (((QueueRun.after calls).waiting.filter (fun e => e.id ≠ id)).map QueueEntry.now).Sublist
          (readings calls ++ ys) := (List.filter_sublist.map _).trans left
    cases c with
    | enqueue id priority now =>
      simp only [QueueRun.call]
      split
      next => exact left
      next =>
        rw [List.map_append]
        exact ih.append (List.Sublist.refl _)
    | dequeue =>
      simp only [QueueRun.call]
      split
      next => exact left
      next => exact fewer _
    | remove id => exact fewer id

/-- The entry that is served comes before every other one that waits. -/
theorem QueueRun.Tracks.served_first {r : QueueRun} (tracks : r.Tracks) {id : Nat}
    (served : r.served = some id) : ∃ e ∈ r.waiting, e.id = id ∧
      ∀ e' ∈ r.waiting, SortedSet.Before memberKey e.scored e'.scored := by
  obtain ⟨⟨x, queue⟩, popped, rfl⟩ := Option.map_eq_some_iff.mp served
  obtain ⟨_, score, mem, first⟩ := SortedSet.popMin_first popped
  obtain ⟨e, waits, same⟩ := List.mem_map.mp (tracks.entries.mem_iff.mp mem)
  refine ⟨e, waits, congrArg Prod.fst same, fun e' waits' => ?_⟩
  rw [same]
  exact first _ (tracks.entries.mem_iff.mpr (List.mem_map_of_mem waits'))

theorem QueueRun.Tracks.served_none {r : QueueRun} (tracks : r.Tracks) (none : r.served = none) :
    r.waiting = [] := by
  have empty := SortedSet.popMin_eq_none.mp (Option.map_eq_none_iff.mp none)
  have same := tracks.entries
  rw [empty] at same
  exact List.map_eq_nil_iff.mp same.nil_eq.symm

end NotificationEngine
