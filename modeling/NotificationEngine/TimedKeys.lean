import Mathlib.Order.Lattice
import Mathlib.Algebra.Order.Group.Int

/-- The keys a server holds, and the deadlines after which it may drop some of them. -/
structure TimedKeys (κ : Type) where
  keys : List κ
  deadline : κ → Option Int

namespace TimedKeys

variable {κ : Type}

/-- A key set at the instant `x.2` is there, and will be for its time to live, or that has passed. -/
def Remembers (s : TimedKeys κ) (ttl clock : Int) (x : κ × Int) : Prop :=
  x.2 ≤ clock ∧
    (x.1 ∈ s.keys ∧ (∀ d, s.deadline x.1 = some d → x.2 + ttl ≤ d) ∨ x.2 + ttl ≤ clock)

variable {s s' : TimedKeys κ} {ttl clock now : Int} {key : κ} {x : κ × Int}

theorem Remembers.later (h : s.Remembers ttl clock x) (le : clock ≤ now) : s.Remembers ttl now x :=
  ⟨h.1.trans le, h.2.imp id fun past => past.trans le⟩

/-- Within its time to live a key is there. -/
theorem Remembers.mem (h : s.Remembers ttl clock x) (early : clock < x.2 + ttl) : x.1 ∈ s.keys := by
  rcases h.2 with kept | late
  · exact kept.1
  · omega

variable [DecidableEq κ]

/-- A new key has no deadline. -/
def setnx (s : TimedKeys κ) (key : κ) : TimedKeys κ :=
  if key ∈ s.keys then s else ⟨key :: s.keys, fun k => if k = key then none else s.deadline k⟩

/-- A missing key is given no deadline. -/
def expire (s : TimedKeys κ) (key : κ) (ttl now : Int) : TimedKeys κ :=
  if key ∈ s.keys then { s with deadline := fun k => if k = key then some (now + ttl) else s.deadline k } else s

/-- The server drops a key whose deadline has passed. -/
def evict (s : TimedKeys κ) (key : κ) (now : Int) : Option (TimedKeys κ) :=
  match s.deadline key with
  | none => none
  | some d =>
    if d ≤ now then some ⟨s.keys.filter (· ≠ key), fun k => if k = key then none else s.deadline k⟩ else none

theorem setnx_of_mem (there : key ∈ s.keys) : s.setnx key = s := if_pos there

theorem Remembers.setnx (h : s.Remembers ttl clock x) : (s.setnx key).Remembers ttl clock x := by
  by_cases there : key ∈ s.keys
  · rw [setnx_of_mem there]
    exact h
  · refine ⟨h.1, h.2.imp (fun kept => ?_) id⟩
    have other : x.1 ≠ key := fun same => there (same ▸ kept.1)
    rw [TimedKeys.setnx, if_neg there]
    exact ⟨List.mem_cons_of_mem _ kept.1, by simpa [other] using kept.2⟩

theorem Remembers.expire (h : s.Remembers ttl now x) : (s.expire key ttl now).Remembers ttl now x := by
  unfold TimedKeys.expire
  split
  next there =>
    refine ⟨h.1, h.2.imp (fun kept => ⟨kept.1, fun d deadline => ?_⟩) id⟩
    by_cases same : x.1 = key
    · have is : now + ttl = d := by simpa [same] using deadline
      have before := h.1
      omega
    · exact kept.2 d (by simpa [same] using deadline)
  next => exact h

/-- A key is dropped only after its time to live. -/
theorem Remembers.evict (h : s.Remembers ttl now x) (gone : s.evict key now = some s') :
    s'.Remembers ttl now x := by
  unfold TimedKeys.evict at gone
  split at gone
  next => cases gone
  next d deadline =>
    split at gone
    next past =>
      cases gone
      refine ⟨h.1, ?_⟩
      rcases h.2 with ⟨there, kept⟩ | late
      · by_cases same : x.1 = key
        · have least := kept d (same ▸ deadline)
          exact Or.inr (least.trans past)
        · exact Or.inl ⟨List.mem_filter.mpr ⟨there, by simpa using same⟩, by simpa [same] using kept⟩
      · exact Or.inr late
    next => cases gone

end TimedKeys
