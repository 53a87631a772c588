import NotificationEngine.CreateAnswer

namespace NotificationEngine

/-- The row a channel of the payload should get. -/
structure NotificationCreate.RowOf (p : NotificationCreate) (channel : NotificationChannel)
    (n : Notification) : Prop where
  key : n.idempotencyKey = channelIdemKey p.idempotencyKey channel
  ofChannel : n.channel = channel
  status : n.status = .pending
  priority : n.priority = p.priority
  sourceService : n.sourceService = p.sourceService
  eventType : n.eventType = p.eventType
  recipient : p.recipient.fieldFor channel = some n.recipient ∧ n.recipient ≠ ""
  content : p.content.lookup channel.label = some n.content

/-- `w'` is `w` with a new row for each of the channels, their ids enqueued in this order. -/
structure World.Created (w : World) (p : NotificationCreate) (channels : List NotificationChannel)
    (ids : List Nat) (w' : World) : Prop where
  rows : List.Forall₂ (fun channel id => ∃ n, w'.rows id = some n ∧ p.RowOf channel n) channels ids
  nodup : ids.Nodup
  beyond : ∀ id ∈ ids, w.nextId ≤ id
  others : ∀ id ∉ ids, w'.rows id = w.rows id
  enqueued : w'.enqueued = w.enqueued ++ ids
  queue : ∃ times : List Int, times.length = ids.length ∧
    w'.queue = (ids.zip times).foldl (fun q e => q.addNX e.1 (queueScore p.priority e.2)) w.queue

theorem NotificationCreate.rowOf_row (p : NotificationCreate) {channel : NotificationChannel} (ctime : Int)
    (mem : channel ∈ eventChannelMap p.eventType) : p.RowOf channel (p.row channel ctime) := by
  obtain ⟨recipient, field, filled⟩ := p.hasRecipient channel mem
  obtain ⟨content, found⟩ := Option.isSome_iff_exists.mp (p.hasContent channel mem)
  have filled_in : (p.row channel ctime).recipient = recipient := by simp [NotificationCreate.row, field]
  have given : (p.row channel ctime).content = content := by simp [NotificationCreate.row, found]
  exact ⟨rfl, rfl, rfl, rfl, rfl, rfl, ⟨by rw [filled_in, field], by rwa [filled_in]⟩, by rw [given, found]⟩

theorem World.Created.cons {w w' : World} {p : NotificationCreate} {channel : NotificationChannel}
    {channels : List NotificationChannel} {ids : List Nat} {n : Notification} {now : Int}
    (row : p.RowOf channel n)
    (rest : ((w.insert n).enqueue w.nextId (queueScore p.priority now)).Created p channels ids w') :
    w.Created p (channel :: channels) (w.nextId :: ids) w' := by
  have later : ∀ id ∈ ids, w.nextId < id := rest.beyond
  have new : w.nextId ∉ ids := fun mem => Nat.lt_irrefl _ (later _ mem)
  have kept : w'.rows w.nextId = some n := by
    rw [rest.others _ new]
    simp [World.enqueue, World.insert]
  refine ⟨.cons ⟨n, kept, row⟩ rest.rows, List.nodup_cons.mpr ⟨new, rest.nodup⟩, ?_, ?_, ?_, ?_⟩
  · intro id mem
    rcases List.mem_cons.mp mem with rfl | mem
    · exact le_rfl
    · exact Nat.le_of_lt (later id mem)
  · intro id other
    obtain ⟨old, absent⟩ := not_or.mp (mt List.mem_cons.mpr other)
    rw [rest.others id absent]
    simp [World.enqueue, World.insert, old]
  · rw [rest.enqueued]
    simp [World.enqueue, World.insert]
  · obtain ⟨times, length, queue⟩ := rest.queue
    exact ⟨now :: times, by simp [length], queue⟩

end NotificationEngine
