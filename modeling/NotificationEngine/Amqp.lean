import Mathlib.Data.List.Dedup
import Mathlib.Logic.Function.Basic

namespace Amqp

variable {μ : Type}

inductive ExchangeType
  | topic | fanout
  deriving DecidableEq, Repr

structure Binding where
  exchange : String
  queue : String
  pattern : String
  deriving DecidableEq

/-- The durable objects of a broker: its exchanges, its queues with the exchanges they dead-letter to, and
the bindings between them. -/
structure Topology where
  exchanges : String → Option ExchangeType
  queues : String → Option (Option String)
  bindings : List Binding

def Topology.empty : Topology := ⟨fun _ => none, fun _ => none, []⟩

/-- A key's words. -/
def words (key : String) : List (List Char) := key.toList.splitOn '.'

/-- A topic pattern's words against a key's: a star is one word, a hash any number. -/
def wordsMatch : List (List Char) → List (List Char) → Bool
  | [], key => key.isEmpty
  | word :: pattern, key =>
    if word = ['#'] then key.tails.any (wordsMatch pattern)
    else match key with
      | [] => false
      | first :: rest => (word = ['*'] || word = first) && wordsMatch pattern rest

def Binding.admits (type : ExchangeType) (b : Binding) (key : String) : Bool :=
  match type with
  | .topic => wordsMatch (words b.pattern) (words key)
  | .fanout => true

/-- The queues that a message goes to, each once. The default exchange knows a queue by its name. -/
def Topology.route (t : Topology) (exchange key : String) : List String :=
  if exchange = "" then if (t.queues key).isSome then [key] else []
  else match t.exchanges exchange with
    | none => []
    | some type => ((t.bindings.filter fun b => b.exchange = exchange && b.admits type key).map Binding.queue).dedup

/-- A message with its routing key and the instant at which its expiration elapses. -/
structure Letter (μ : Type) where
  key : String
  content : μ
  deadline : Option Int

inductive Request (μ : Type)
  | declareExchange (name : String) (type : ExchangeType)
  | declareQueue (name : String) (deadLetterExchange : Option String)
  | bind (b : Binding)
  | publish (exchange : String) (l : Letter μ)

/-- What there is must be declared as it is; a binding needs both its ends, and a message its exchange. -/
def Topology.grants (t : Topology) : Request μ → Bool
  | .declareExchange name type => (t.exchanges name).all (· = type)
  | .declareQueue name deadLetterExchange => (t.queues name).all (· = deadLetterExchange)
  | .bind b => (t.exchanges b.exchange).isSome && (t.queues b.queue).isSome
  | .publish exchange _ => exchange = "" || (t.exchanges exchange).isSome

def Topology.adding (t : Topology) : Request μ → Topology
  | .declareExchange name type => { t with exchanges := Function.update t.exchanges name (some type) }
  | .declareQueue name deadLetterExchange =>
    { t with queues := Function.update t.queues name (some deadLetterExchange) }
  | .bind b => { t with bindings := t.bindings.insert b }
  | .publish _ _ => t

/-- The topology has what the request declares. -/
def Topology.has (t : Topology) : Request μ → Bool
  | .declareExchange name type => t.exchanges name = some type
  | .declareQueue name deadLetterExchange => t.queues name = some deadLetterExchange
  | .bind b => b ∈ t.bindings
  | .publish _ _ => true

/-- A broker: its topology and the letters that wait in each queue. -/
structure Broker (μ : Type) where
  topology : Topology
  ready : String → List (Letter μ)

def Broker.empty : Broker μ := ⟨.empty, fun _ => []⟩

def Broker.put (b : Broker μ) (queues : List String) (l : Letter μ) : Broker μ :=
  { b with ready := fun queue => if queue ∈ queues then b.ready queue ++ [l] else b.ready queue }

/-- A granted request. -/
def Broker.serve (b : Broker μ) : Request μ → Broker μ
  | .publish exchange l => b.put (b.topology.route exchange l.key) l
  | r => { b with topology := b.topology.adding r }

/-- The broker refuses a request by closing its channel. -/
def Broker.run (b : Broker μ) (r : Request μ) : Option (Broker μ) :=
  if b.topology.grants r then some (b.serve r) else none

def Broker.runAll (b : Broker μ) : List (Request μ) → Option (Broker μ)
  | [] => some b
  | r :: rs => (b.run r).bind fun b => b.runAll rs

def Broker.leave (b : Broker μ) (queue : String) (letters : List (Letter μ)) : Broker μ :=
  { b with ready := Function.update b.ready queue letters }

/-- The head of a queue is taken from it. -/
def Broker.take (b : Broker μ) (queue : String) : Option (Letter μ × Broker μ) :=
  match b.ready queue with
  | [] => none
  | l :: rest => some (l, b.leave queue rest)

/-- Where an expired letter of a queue goes: to where the queue's dead-letter exchange routes it, with the key
it came with. -/
def Topology.expiresTo (t : Topology) (queue key : String) : List String :=
  match t.queues queue with
  | some (some exchange) => t.route exchange key
  | _ => []

/-- A letter expires at the head of its queue, and but once. -/
def Broker.expire (b : Broker μ) (queue : String) (now : Int) : Option (Broker μ) :=
  (b.take queue).bind fun (l, left) =>
    if l.deadline.any (· ≤ now) then
      some (left.put (b.topology.expiresTo queue l.key) { l with deadline := none })
    else none

@[simp] theorem Broker.put_nil (b : Broker μ) (l : Letter μ) : b.put [] l = b := by
  obtain ⟨topology, ready⟩ := b
  simp [Broker.put]

@[simp] theorem Broker.put_self (b : Broker μ) (queue : String) (l : Letter μ) :
    (b.put [queue] l).ready queue = b.ready queue ++ [l] := by
  simp [Broker.put]

theorem Broker.put_other (b : Broker μ) {queue other : String} (ne : other ≠ queue) (l : Letter μ) :
    (b.put [queue] l).ready other = b.ready other := by
  simp [Broker.put, ne]

@[simp] theorem Broker.leave_self (b : Broker μ) (queue : String) (letters : List (Letter μ)) :
    (b.leave queue letters).ready queue = letters :=
  Function.update_self ..

theorem Broker.leave_other (b : Broker μ) {queue other : String} (ne : other ≠ queue) (letters : List (Letter μ)) :
    (b.leave queue letters).ready other = b.ready other :=
  Function.update_of_ne ne ..

theorem Broker.take_eq_some {b b' : Broker μ} {queue : String} {l : Letter μ} (h : b.take queue = some (l, b')) :
    ∃ rest, b.ready queue = l :: rest ∧ b' = b.leave queue rest := by
  unfold Broker.take at h
  split at h
  next => cases h
  next first rest is =>
    cases Option.some.inj h
    exact ⟨rest, is, rfl⟩

theorem Broker.expire_eq_some {b b' : Broker μ} {queue : String} {now : Int} (h : b.expire queue now = some b') :
    ∃ l rest deadline, b.ready queue = l :: rest ∧ l.deadline = some deadline ∧ deadline ≤ now ∧
      b' = (b.leave queue rest).put (b.topology.expiresTo queue l.key) { l with deadline := none } := by
  obtain ⟨⟨l, left⟩, taken, h⟩ := Option.bind_eq_some_iff.mp h
  obtain ⟨rest, is, rfl⟩ := Broker.take_eq_some taken
  dsimp only at h
  split at h
  next due =>
    cases Option.some.inj h
    obtain ⟨deadline, own, past⟩ := (Option.any_eq_true _ _).mp due
    exact ⟨l, rest, deadline, is, own, of_decide_eq_true past, rfl⟩
  next => cases h

/-- What is there in one topology is there in the other. -/
structure Topology.Within (t u : Topology) : Prop where
  exchanges : ∀ name type, t.exchanges name = some type → u.exchanges name = some type
  queues : ∀ name x, t.queues name = some x → u.queues name = some x
  bindings : ∀ b ∈ t.bindings, b ∈ u.bindings

theorem Topology.Within.refl (t : Topology) : t.Within t := ⟨fun _ _ h => h, fun _ _ h => h, fun _ h => h⟩

theorem Topology.Within.trans {t u v : Topology} (h : t.Within u) (k : u.Within v) : t.Within v :=
  ⟨fun _ _ x => k.exchanges _ _ (h.exchanges _ _ x), fun _ _ x => k.queues _ _ (h.queues _ _ x),
    fun _ x => k.bindings _ (h.bindings _ x)⟩

theorem Topology.empty_within (t : Topology) : Topology.empty.Within t where
  exchanges _ _ h := by cases h
  queues _ _ h := by cases h
  bindings _ h := by cases h

section Tables

variable {α : Type} {f g plan : String → Option α} {name other : String} {x y : α}

theorem update_of_all [DecidableEq α] (agrees : (f name).all (· = x) = true) (h : f other = some y) :
    Function.update f name (some x) other = some y := by
  by_cases same : other = name
  · subst same
    rw [h] at agrees
    simp only [Option.all_some, decide_eq_true_eq] at agrees
    rw [Function.update_self, agrees]
  · rw [Function.update_of_ne same, h]

theorem update_le (within : ∀ n z, f n = some z → g n = some z) (is : g name = some x) :
    ∀ n z, Function.update f name (some x) n = some z → g n = some z := by
  intro n z h
  by_cases same : n = name
  · subst same
    rw [Function.update_self] at h
    rw [is, h]
  · rw [Function.update_of_ne same] at h
    exact within n z h

end Tables

section Keys

/-- A pattern of one fixed word and a star takes the keys of two words that begin with it. -/
theorem star_matches {word : List Char} (hash : word ≠ ['#']) (star : word ≠ ['*']) (key : List (List Char)) :
    wordsMatch [word, ['*']] key = true ↔ ∃ last, key = [word, last] := by
  rcases key with _ | ⟨first, _ | ⟨last, _ | ⟨more, rest⟩⟩⟩
  · simp [wordsMatch, hash]
  · simp [wordsMatch, hash]
  · simp [wordsMatch, hash, star, eq_comm]
  · simp [wordsMatch, hash]

/-- No piece of a split has the separator in it. -/
theorem not_mem_of_mem_splitOn {a : Char} {xs piece : List Char} (mem : piece ∈ xs.splitOn a) : a ∉ piece := by
  induction xs generalizing piece with
  | nil =>
    rw [List.splitOn_nil] at mem
    simp [List.mem_singleton.mp mem]
  | cons x xs ih =>
    rw [List.splitOn_cons_eq_if_modifyHead] at mem
    split at mem
    next =>
      rcases List.mem_cons.mp mem with rfl | mem
      · exact List.not_mem_nil
      · exact ih mem
    next other =>
      obtain ⟨first, rest, pieces⟩ := List.exists_cons_of_ne_nil (List.splitOn_ne_nil a xs)
      rw [pieces] at mem ih
      rcases List.mem_cons.mp mem with rfl | mem
      · have ne : a ≠ x := fun same => other (by simp [same])
        simp [ne, ih (List.mem_cons_self ..)]
      · exact ih (List.mem_cons_of_mem _ mem)

theorem words_eq_pair {key : String} {word last : List Char} :
    words key = [word, last] ↔ '.' ∉ word ∧ '.' ∉ last ∧ key.toList = word ++ '.' :: last := by
  constructor
  · intro h
    have pieces : ∀ w ∈ words key, '.' ∉ w := fun _ mem => not_mem_of_mem_splitOn mem
    have whole : [('.' : Char)].intercalate (key.toList.splitOn '.') = key.toList := List.intercalate_splitOn '.'
    rw [show key.toList.splitOn '.' = [word, last] from h] at whole
    refine ⟨pieces word (by simp [h]), pieces last (by simp [h]), ?_⟩
    simpa [List.intercalate] using whole.symm
  · rintro ⟨clean, clean', is⟩
    rw [words, is, List.splitOn_append_cons_self_of_not_mem clean, List.splitOn_eq_singleton clean']

end Keys

section Requests

variable {t u plan : Topology} {r : Request μ}

/-- What a request declares joins the topology. -/
theorem Topology.within_adding (granted : t.grants r = true) : t.Within (t.adding r) := by
  cases r with
  | declareExchange name type =>
    exact ⟨fun _ _ h => update_of_all granted h, fun _ _ h => h, fun _ h => h⟩
  | declareQueue name x => exact ⟨fun _ _ h => h, fun _ _ h => update_of_all granted h, fun _ h => h⟩
  | bind b => exact ⟨fun _ _ h => h, fun _ _ h => h, fun _ h => List.mem_insert_of_mem h⟩
  | publish exchange l => exact Within.refl t

theorem Topology.has_of_adding (aim : (t.adding r).Within plan) : plan.has r = true := by
  cases r with
  | declareExchange name type => exact decide_eq_true (aim.exchanges name type (Function.update_self ..))
  | declareQueue name x => exact decide_eq_true (aim.queues name x (Function.update_self ..))
  | bind b => exact decide_eq_true (aim.bindings b (List.mem_insert_self ..))
  | publish exchange l => rfl

theorem Topology.has_mono (within : t.Within u) (known : t.has r = true) : u.has r = true := by
  cases r with
  | declareExchange name type => exact decide_eq_true (within.exchanges _ _ (of_decide_eq_true known))
  | declareQueue name x => exact decide_eq_true (within.queues _ _ (of_decide_eq_true known))
  | bind b => exact decide_eq_true (within.bindings _ (of_decide_eq_true known))
  | publish exchange l => rfl

theorem Topology.Within.adding (within : t.Within plan) (known : plan.has r = true) :
    (t.adding r).Within plan := by
  cases r with
  | declareExchange name type =>
    exact ⟨update_le within.exchanges (of_decide_eq_true known), within.queues, within.bindings⟩
  | declareQueue name x =>
    exact ⟨within.exchanges, update_le within.queues (of_decide_eq_true known), within.bindings⟩
  | bind b =>
    refine ⟨within.exchanges, within.queues, fun c mem => ?_⟩
    rcases List.mem_insert_iff.mp mem with rfl | there
    · exact of_decide_eq_true known
    · exact within.bindings c there
  | publish exchange l => exact within

/-- A planned request that a smaller topology grants, a larger one within the plan grants too. -/
theorem Topology.grants_mono (within : t.Within u) (planned : u.Within plan) (known : plan.has r = true)
    (granted : t.grants r = true) : u.grants r = true := by
  cases r with
  | declareExchange name type =>
    rw [Topology.grants, Option.all_eq_true]
    intro there h
    rw [Topology.has, planned.exchanges _ _ h] at known
    exact decide_eq_true (Option.some.inj (of_decide_eq_true known))
  | declareQueue name x =>
    rw [Topology.grants, Option.all_eq_true]
    intro there h
    rw [Topology.has, planned.queues _ _ h] at known
    exact decide_eq_true (Option.some.inj (of_decide_eq_true known))
  | bind b =>
    obtain ⟨exchange, queue⟩ := Bool.and_eq_true_iff.mp granted
    obtain ⟨type, exchange⟩ := Option.isSome_iff_exists.mp exchange
    obtain ⟨x, queue⟩ := Option.isSome_iff_exists.mp queue
    simp [Topology.grants, within.exchanges _ _ exchange, within.queues _ _ queue]
  | publish exchange l =>
    rcases Bool.or_eq_true_iff.mp granted with default | there
    · exact Bool.or_eq_true_iff.mpr (Or.inl default)
    · obtain ⟨type, there⟩ := Option.isSome_iff_exists.mp there
      simp [Topology.grants, within.exchanges _ _ there]

theorem Topology.adding_mono (within : t.Within u) (granted : u.grants r = true) :
    (t.adding r).Within (u.adding r) := by
  have larger := within.trans (Topology.within_adding granted)
  cases r with
  | declareExchange name type =>
    exact ⟨update_le larger.exchanges (Function.update_self ..), larger.queues, larger.bindings⟩
  | declareQueue name x =>
    exact ⟨larger.exchanges, update_le larger.queues (Function.update_self ..), larger.bindings⟩
  | bind b =>
    refine ⟨larger.exchanges, larger.queues, fun c mem => ?_⟩
    rcases List.mem_insert_iff.mp mem with rfl | there
    · exact List.mem_insert_self ..
    · exact larger.bindings c there
  | publish exchange l => exact within

end Requests

/-- Every binding has both its ends. -/
def Topology.Sound (t : Topology) : Prop :=
  ∀ b ∈ t.bindings, (t.exchanges b.exchange).isSome = true ∧ (t.queues b.queue).isSome = true

section Routes

variable {t : Topology} {r : Request μ} {exchange queue key : String} {type : ExchangeType}

theorem Topology.Sound.adding (sound : t.Sound) (granted : t.grants r = true) : (t.adding r).Sound := by
  have kept : ∀ b ∈ t.bindings,
      ((t.adding r).exchanges b.exchange).isSome = true ∧ ((t.adding r).queues b.queue).isSome = true := by
    intro b mem
    obtain ⟨there, there'⟩ := sound b mem
    obtain ⟨x, there⟩ := Option.isSome_iff_exists.mp there
    obtain ⟨y, there'⟩ := Option.isSome_iff_exists.mp there'
    have within := Topology.within_adding granted
    exact ⟨by rw [within.exchanges _ _ there]; rfl, by rw [within.queues _ _ there']; rfl⟩
  cases r with
  | bind b =>
    intro c mem
    rcases List.mem_insert_iff.mp mem with rfl | there
    · exact Bool.and_eq_true_iff.mp granted
    · exact kept c there
  | declareExchange name type => exact kept
  | declareQueue name x => exact kept
  | publish exchange l => exact kept

theorem dedup_of_all_eq {α : Type} [DecidableEq α] {xs : List α} {x : α} (all : ∀ y ∈ xs, y = x) :
    xs.dedup = if xs = [] then [] else [x] := by
  cases xs with
  | nil => rfl
  | cons y ys =>
    have is := all y (List.mem_cons_self ..)
    subst is
    have same : y :: ys = List.replicate (ys.length + 1) y := List.eq_replicate_iff.mpr ⟨rfl, all⟩
    rw [same, List.replicate_dedup (Nat.succ_ne_zero _), if_neg (by simp)]

/-- Where all bindings of an exchange lead to one queue, that queue gets one copy or none. -/
theorem Topology.route_eq (named : exchange ≠ "") (there : t.exchanges exchange = some type)
    (single : ∀ b ∈ t.bindings, b.exchange = exchange → b.queue = queue) :
    t.route exchange key =
      if ∃ b ∈ t.bindings, b.exchange = exchange ∧ b.admits type key = true then [queue] else [] := by
  rw [Topology.route, if_neg named, there]
  dsimp only
  have all : ∀ y ∈ (t.bindings.filter fun b => b.exchange = exchange && b.admits type key).map Binding.queue,
      y = queue := by
    intro y mem
    obtain ⟨b, found, rfl⟩ := List.mem_map.mp mem
    have passes := (List.mem_filter.mp found).2
    simp only [Bool.and_eq_true, decide_eq_true_eq] at passes
    exact single b (List.mem_filter.mp found).1 passes.1
  rw [dedup_of_all_eq all]
  by_cases found : ∃ b ∈ t.bindings, b.exchange = exchange ∧ b.admits type key = true
  · obtain ⟨b, mem, own, admits⟩ := found
    have nonempty :
        (t.bindings.filter fun b => b.exchange = exchange && b.admits type key).map Binding.queue ≠ [] :=
      List.ne_nil_of_mem (List.mem_map_of_mem (List.mem_filter.mpr ⟨mem, by simp [own, admits]⟩))
    rw [if_neg nonempty, if_pos ⟨b, mem, own, admits⟩]
  · have empty : (t.bindings.filter fun b => b.exchange = exchange && b.admits type key) = [] :=
      List.filter_eq_nil_iff.mpr fun b mem passes => found ⟨b, mem, by simpa using passes⟩
    rw [empty, if_neg found]
    rfl

end Routes

/-- The topology grants the requests one after the other and stays within the plan. -/
def Topology.Serves (plan : Topology) : Topology → List (Request μ) → Prop
  | t, [] => t.Within plan
  | t, r :: rs => t.grants r = true ∧ Serves plan (t.adding r) rs

section Programs

variable {t u plan : Topology} {r : Request μ} {rs : List (Request μ)}

theorem Topology.Serves.within (h : plan.Serves t rs) : t.Within plan := by
  induction rs generalizing t with
  | nil => exact h
  | cons r rs ih => exact (Topology.within_adding h.1).trans (ih h.2)

/-- What a smaller topology serves, a larger one within the plan serves too. -/
theorem Topology.Serves.mono (within : t.Within u) (planned : u.Within plan) (h : plan.Serves t rs) :
    plan.Serves u rs := by
  induction rs generalizing t u with
  | nil => exact planned
  | cons r rs ih =>
    have known := Topology.has_of_adding h.2.within
    have granted := Topology.grants_mono within planned known h.1
    exact ⟨granted, ih (Topology.adding_mono within granted) (planned.adding known) h.2⟩

theorem Broker.serve_topology (b : Broker μ) (r : Request μ) :
    (b.serve r).topology = b.topology.adding r := by
  cases r <;> rfl

/-- What a plan serves is never refused. -/
theorem Broker.runAll_served {b : Broker μ} (h : plan.Serves b.topology rs) :
    b.runAll rs = some (rs.foldl serve b) ∧ b.topology.Within (rs.foldl serve b).topology ∧
      (rs.foldl serve b).topology.Within plan ∧ (b.topology.Sound → (rs.foldl serve b).topology.Sound) := by
  induction rs generalizing b with
  | nil => exact ⟨rfl, .refl _, h, fun sound => sound⟩
  | cons r rs ih =>
    have rest : plan.Serves (b.serve r).topology rs := by
      rw [serve_topology]
      exact h.2
    obtain ⟨run, larger, planned, sound⟩ := ih rest
    rw [serve_topology] at larger sound
    refine ⟨?_, (Topology.within_adding h.1).trans larger, planned, fun start => sound (start.adding h.1)⟩
    rw [runAll, Broker.run, if_pos h.1]
    exact run

end Programs

/-- The topology grants the requests one after the other. -/
def Topology.grantsAll : Topology → List (Request μ) → Bool
  | _, [] => true
  | t, r :: rs => t.grants r && grantsAll (t.adding r) rs

section Plans

variable {t plan : Topology} {r : Request μ} {rs : List (Request μ)}

/-- A plan serves what is part of it, in an order that is granted. -/
theorem Topology.Within.serves (within : t.Within plan) (known : rs.all plan.has = true)
    (granted : t.grantsAll rs = true) : plan.Serves t rs := by
  induction rs generalizing t with
  | nil => exact within
  | cons r rs ih =>
    obtain ⟨first, rest⟩ := Bool.and_eq_true_iff.mp granted
    rw [List.all_cons, Bool.and_eq_true] at known
    exact ⟨first, ih (within.adding known.1) known.2 rest⟩

end Plans

end Amqp
