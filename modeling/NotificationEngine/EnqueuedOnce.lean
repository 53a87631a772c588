import NotificationEngine.UniqueRows

namespace NotificationEngine

open Holders

/-- A request arrives, one of its calls ends in whatever way, a key vanishes, or a process starts. -/
def Label.creates : Label → Bool
  | .createNotification _ => true
  | .forget _ => true
  | .restart => true
  | .run _ _ _ => true
  | _ => false

/-- The id of the row that a request has committed and not enqueued yet. -/
def Op.saves : Op → Option Nat
  | create c => match c.pc with
    | .saving id _ _ => some id
    | _ => none
  | _ => none

/-- What a call of a request does to the ids given out: it keeps them, drops its own, enqueues its
own, or takes the next one. -/
inductive World.Passes (w w' : World) (old new : Option Nat) : Prop
  | kept : w'.enqueued = w.enqueued → w.nextId ≤ w'.nextId → new = none ∨ new = old → Passes w w' old new
  | enqueued {id} : w'.enqueued = w.enqueued ++ [id] → w'.nextId = w.nextId → old = some id → new = none →
      Passes w w' old new
  | taken : w'.enqueued = w.enqueued → w'.nextId = w.nextId + 1 → old = none → new = some w.nextId →
      Passes w w' old new

theorem World.Passes.lose {w w' : World} {old new : Option Nat} (passes : w.Passes w' old new) :
    w.Passes w' old none := by
  cases passes with
  | kept enqueued nextId _ => exact .kept enqueued nextId (Or.inl rfl)
  | enqueued enqueued nextId own _ => exact .enqueued enqueued nextId own rfl
  | taken enqueued nextId _ _ => exact .kept enqueued (by omega) (Or.inl rfl)

theorem nextChannel_saves (c : CreateOp) (rest : List NotificationChannel) :
    (Op.create (c.nextChannel rest)).saves = none := by
  cases rest <;> rfl

theorem CreateOp.act_passes (cfg : Config) (env : Env) (w : World) (c : CreateOp) :
    w.Passes (c.act cfg env w).1 (Op.create c).saves (Op.create (c.act cfg env w).2).saves := by
  cases pc : c.pc with
  | setnx =>
    simp only [CreateOp.act, pc]
    split <;> exact .kept rfl le_rfl (Or.inl rfl)
  | expire =>
    simp only [CreateOp.act, pc]
    exact .kept rfl le_rfl (Or.inl (nextChannel_saves _ _))
  | insert channel rest =>
    have own : (Op.create c).saves = none := by simp [Op.saves, pc]
    simp only [CreateOp.act, pc]
    split
    next => exact .taken rfl rfl own rfl
    next => exact .kept rfl (Nat.le_succ _) (Or.inl rfl)
    next => exact .kept rfl (Nat.le_succ _) (Or.inl rfl)
  | rollback rest =>
    simp only [CreateOp.act, pc]
    exact .kept rfl le_rfl (Or.inl (nextChannel_saves _ _))
  | saving id pc' rest =>
    have own : (Op.create c).saves = some id := by simp [Op.saves, pc]
    cases pc' with
    | enqueue score =>
      rw [act_enqueue pc]
      exact .enqueued rfl rfl own (nextChannel_saves _ _)
    | refresh =>
      cases row : w.rows id with
      | some n =>
        rw [act_refresh pc row]
        exact .kept rfl le_rfl (Or.inr own.symm)
      | none =>
        refine .kept ?_ ?_ (Or.inl ?_)
        all_goals simp [CreateOp.act, pc, row, World.apply, Task.act, SavingPc.act, Op.saves]
  | returned isDuplicate =>
    simp only [CreateOp.act, pc]
    exact .kept rfl le_rfl (Or.inr rfl)
  | raised =>
    simp only [CreateOp.act, pc]
    exact .kept rfl le_rfl (Or.inr rfl)

theorem afterRaise_saves (c : CreateOp) : (Op.create c.afterRaise).saves = none := by
  unfold CreateOp.afterRaise
  split
  next => exact nextChannel_saves _ _
  next => rfl

theorem CreateOp.run_passes (cfg : Config) (env : Env) (w : World) (fault : Fault) (c : CreateOp) :
    w.Passes (c.run cfg env w fault).1 (Op.create c).saves (c.run cfg env w fault).2.saves := by
  have acted := c.act_passes cfg env w
  have lost : w.Passes w (Op.create c).saves none := .kept rfl le_rfl (Or.inl rfl)
  cases fault with
  | none => exact acted
  | raised effect =>
    simp only [CreateOp.run, afterRaise_saves]
    cases effect with
    | false => exact lost
    | true => exact acted.lose
  | stopped effect =>
    cases effect with
    | false => exact lost
    | true => exact acted.lose

theorem CreateOp.run_ne_task (cfg : Config) (env : Env) (w : World) (fault : Fault) (c : CreateOp)
    (id : Nat) (t : Task) : (c.run cfg env w fault).2 ≠ .task id t := by
  cases fault <;> simp [CreateOp.run]

/-- The ids enqueued and those about to be. -/
def Sys.givenIds (s : Sys) : Multiset Nat :=
  (s.world.enqueued : Multiset Nat) + (s.ops.filterMap Op.saves : List Nat)

/-- Each id is enqueued once or about to be, by the one request that committed its row. -/
structure Sys.EnqueuedOnce (s : Sys) : Prop where
  nodup : s.givenIds.Nodup
  known : ∀ id ∈ s.givenIds, id < s.world.nextId
  creates : ∀ op ∈ s.ops, ∀ id t, op ≠ .task id t

theorem World.Passes.given {w w' : World} {old new : Option Nat} (passes : w.Passes w' old new)
    (rest : Multiset Nat) :
    let before := (w.enqueued : Multiset Nat) + put old rest
    let after := (w'.enqueued : Multiset Nat) + put new rest
    w.nextId ≤ w'.nextId ∧ (after ≤ before ∨ after = w.nextId ::ₘ before ∧ w'.nextId = w.nextId + 1) := by
  cases passes with
  | kept enqueued nextId own =>
    refine ⟨nextId, Or.inl ?_⟩
    rw [enqueued]
    rcases own with rfl | rfl
    · cases old with
      | none => exact le_rfl
      | some id => exact Multiset.add_le_add_left (Multiset.le_cons_self rest id)
    · exact le_rfl
  | @enqueued id enqueued nextId own passed =>
    have moved : ((w.enqueued ++ [id] : List Nat) : Multiset Nat) = id ::ₘ (w.enqueued : Multiset Nat) :=
      Multiset.coe_eq_coe.mpr (List.perm_append_singleton id w.enqueued)
    refine ⟨nextId.ge, Or.inl (le_of_eq ?_)⟩
    rw [enqueued, own, passed, moved, put_none, put_some, Multiset.cons_add, Multiset.add_cons]
  | taken enqueued nextId own taken =>
    refine ⟨by omega, Or.inr ⟨?_, nextId⟩⟩
    rw [enqueued, own, taken]
    simp

theorem Sys.EnqueuedOnce.step {cfg : Config} {s s' : Sys} {l : Label} (once : s.EnqueuedOnce) (ok : l.creates = true)
    (h : s.step cfg l = some s') : s'.EnqueuedOnce := by
  cases l with
  | createNotification payload =>
    obtain rfl := Option.some.inj h
    have given : Sys.givenIds ⟨s.world, s.ops ++ [.create ⟨payload, [], .setnx⟩]⟩ = s.givenIds := by
      have awaits : (Op.create ⟨payload, [], .setnx⟩).saves = none := rfl
      simp [Sys.givenIds, awaits]
    refine ⟨given ▸ once.nodup, given ▸ once.known, ?_⟩
    intro op mem id t
    rcases List.mem_append.mp mem with old | new
    · exact once.creates op old id t
    · rw [List.mem_singleton.mp new]
      exact nofun
  | forget key =>
    obtain rfl := Option.some.inj h
    exact ⟨once.nodup, once.known, once.creates⟩
  | restart =>
    obtain rfl := Option.some.inj h
    exact ⟨once.nodup, once.known, once.creates⟩
  | run i fault env =>
    obtain ⟨op, hop, rfl⟩ := Option.map_eq_some_iff.mp h
    obtain ⟨rest, before, after⟩ := filterMap_set Op.saves hop
    have passes : s.world.Passes (op.run cfg env s.world fault).1 op.saves
        (op.run cfg env s.world fault).2.saves := by
      cases op with
      | create c => exact c.run_passes cfg env s.world fault
      | task id t => exact absurd rfl (once.creates _ (List.mem_of_getElem? hop) id t)
      | done => exact .kept rfl le_rfl (Or.inl rfl)
    have nodup := once.nodup
    have known := once.known
    obtain ⟨grows, given⟩ := passes.given rest
    unfold Sys.givenIds at nodup known
    rw [before] at nodup known
    refine ⟨?_, ?_, ?_⟩
    · unfold Sys.givenIds
      rw [after]
      rcases given with fewer | ⟨more, _⟩
      · exact Multiset.nodup_of_le fewer nodup
      · rw [more]
        exact Multiset.nodup_cons.mpr ⟨fun mem => Nat.lt_irrefl _ (known _ mem), nodup⟩
    · unfold Sys.givenIds
      rw [after]
      intro id mem
      rcases given with fewer | ⟨more, next⟩
      · exact Nat.lt_of_lt_of_le (known id (Multiset.mem_of_le fewer mem)) grows
      · rw [more] at mem
        rcases Multiset.mem_cons.mp mem with rfl | old
        · rw [next]
          exact Nat.lt_succ_self _
        · exact Nat.lt_of_lt_of_le (known id old) grows
    · intro op' mem id t
      rcases List.mem_or_eq_of_mem_set mem with old | rfl
      · exact once.creates op' old id t
      · cases op with
        | create c => exact c.run_ne_task cfg env s.world fault id t
        | task id t => exact absurd rfl (once.creates _ (List.mem_of_getElem? hop) id t)
        | done => exact nofun
  | _ => cases ok

theorem reach_enqueuedOnce {cfg : Config} {s : Sys}
    (h : Sys.Reach cfg (fun _ l => l.creates = true) .initial s) : s.EnqueuedOnce := by
  refine h.invariant ?_ fun _ _ _ once ok step => once.step ok step
  exact ⟨Multiset.nodup_zero, fun id mem => absurd mem (Multiset.notMem_zero id),
    fun op mem => absurd mem List.not_mem_nil⟩

end NotificationEngine
