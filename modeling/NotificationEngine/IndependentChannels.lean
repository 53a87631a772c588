import NotificationEngine.CreateRequest
import NotificationEngine.FirstFailure
import NotificationEngine.Isolation

namespace NotificationEngine

open FirstFailure

section Loop

variable {refused : NotificationChannel → Bool} {w : World} {p : NotificationCreate}
  {channel target : NotificationChannel} {ctime score : Int}

theorem stored_created (sound : w.Sound) :
    ((w.insert (p.row channel ctime)).enqueue w.nextId score).Stored p target ↔
      w.Stored p target ∨ channel = target := by
  have row := w.rows_insert (p.row channel ctime)
  have key : (p.row channel ctime).idempotencyKey = channelIdemKey p.idempotencyKey channel := rfl
  rw [stored_enqueue row, stored_insert sound, key, channelIdemKey_inj]

/-- A new row decides the inserts of its own channel only. -/
theorem outcome_created (sound : w.Sound) (other : target ≠ channel) :
    ((w.insert (p.row channel ctime)).enqueue w.nextId score).insertOutcome p refused target =
      w.insertOutcome p refused target :=
  insertOutcome_congr (hasKey_insert_other sound rfl other)

/-- The loop stores the channels whose insert succeeds, up to the first that fails otherwise than by
a unique violation. -/
theorem loop_reaches (target : NotificationChannel) {channels : List NotificationChannel} {w : World}
    {c : CreateOp} {session : Nat → Option Notification} {r : CreateRequest}
    (loop : CreateRequest.Loop refused channels w c session r) (sound : w.Sound) (distinct : channels.Nodup) :
    r.world.Stored c.payload target ↔
      w.Stored c.payload target ∨ w.insertOutcome c.payload refused target = .success ∧
        Reaches (fun channel => w.insertOutcome c.payload refused channel = .otherError) target channels := by
  induction loop with
  | done => simp only [Reaches, and_false, or_false]
  | @error channel rest w c session is =>
    have kept : (if refused channel then w else w.skipId).Stored c.payload target ↔
        w.Stored c.payload target := by
      split <;> exact Iff.rfl
    rw [kept]
    simp only [Reaches, is, not_true, false_and, and_false, or_false]
  | @duplicate channel rest w c session r is _ ih =>
    have same (other : NotificationChannel) : w.skipId.insertOutcome c.payload refused other =
        w.insertOutcome c.payload refused other := insertOutcome_congr (hasKey_skipId sound _)
    have skipped : w.skipId.Stored c.payload target ↔ w.Stored c.payload target := Iff.rfl
    rw [ih sound.skipId (List.nodup_cons.mp distinct).2, skipped]
    simp only [same]
    refine or_congr Iff.rfl (and_congr_right fun success => ?_)
    have passed : w.insertOutcome c.payload refused channel ≠ .otherError := by
      rw [is]
      decide
    have different : channel ≠ target := by
      rintro rfl
      cases is.symm.trans success
    rw [Reaches, and_iff_right passed]
    exact (or_iff_right different).symm
  | @created channel rest w c session r ctime score is _ ih =>
    obtain ⟨new, distinct⟩ := List.nodup_cons.mp distinct
    have passed : w.insertOutcome c.payload refused channel ≠ .otherError := by
      rw [is]
      decide
    rw [ih sound.created distinct, stored_created sound]
    by_cases own : channel = target
    · subst own
      exact iff_of_true (Or.inl (Or.inr rfl)) (Or.inr ⟨is, passed, Or.inl rfl⟩)
    · let w' := (w.insert (c.payload.row channel ctime)).enqueue w.nextId score
      have others : Reaches (fun channel => w'.insertOutcome c.payload refused channel = .otherError) target
            rest ↔
          Reaches (fun channel => w.insertOutcome c.payload refused channel = .otherError) target rest :=
        reaches_congr fun other mem => by rw [outcome_created sound (ne_of_mem_of_not_mem mem new)]
      rw [outcome_created sound (Ne.symm own), others]
      simp only [own, or_false]
      refine or_congr Iff.rfl (and_congr_right fun success => ?_)
      rw [Reaches, and_iff_right passed]
      exact (or_iff_right own).symm

end Loop

section Claim

variable (cfg : Config) (p : NotificationCreate) (env : Nat → Env) (refused : NotificationChannel → Bool)
  {w : World}

theorem request_stored (sound : w.Sound) (unclaimed : p.redisKey ∉ w.idemKeys)
    (target : NotificationChannel) :
    (w.request cfg p env refused).world.Stored p target ↔
      w.Stored p target ∨ w.insertOutcome p refused target = .success ∧
        Reaches (fun channel => w.insertOutcome p refused channel = .otherError) target
          (eventChannelMap p.eventType) := by
  have sound' : World.Sound { w with idemKeys := p.redisKey :: w.idemKeys } :=
    ⟨sound.fresh, sound.enqueued⟩
  exact loop_reaches target (request_loop cfg env refused unclaimed) sound' (eventChannelMap_nodup p.eventType)

theorem unstored_of_success {channel : NotificationChannel} (sound : w.Sound)
    (success : w.insertOutcome p refused channel = .success) : ¬w.Stored p channel := by
  rintro ⟨id, n, row, key, _⟩
  have taken : w.hasKey (channelIdemKey p.idempotencyKey channel) = true :=
    (World.hasKey_iff sound.fresh _).mpr ⟨id, n, row, key⟩
  have violation := (hasKey_of_insertOutcome (by rw [success]; decide)).mp taken
  cases success.symm.trans violation

/-- Every channel whose own insert would succeed is stored and enqueued exactly if none of them comes
after a channel whose insert fails with an error other than the unique violation. -/
theorem channels_independent_iff (sound : w.Sound) (unclaimed : p.redisKey ∉ w.idemKeys) :
    (∀ channel ∈ eventChannelMap p.eventType, w.insertOutcome p refused channel = .success →
        (w.request cfg p env refused).world.Stored p channel) ↔
      (eventChannelMap p.eventType).Pairwise fun before after =>
        w.insertOutcome p refused before = .otherError → w.insertOutcome p refused after ≠ .success := by
  have exclusive (channel : NotificationChannel) (success : w.insertOutcome p refused channel = .success) :
      w.insertOutcome p refused channel ≠ .otherError := by
    rw [success]
    decide
  refine Iff.trans ?_ (all_reached_iff (eventChannelMap_nodup p.eventType) exclusive)
  refine forall_congr' fun channel => forall_congr' fun _ => forall_congr' fun success => ?_
  rw [request_stored cfg p env refused sound unclaimed]
  simp only [unstored_of_success p refused sound success, success, true_and, false_or]

end Claim

/-- The last channel of the event fails, and the first is stored. -/
theorem channels_independent_email :
    (World.initial.request defaultConfig delayedShipment (fun _ => accepting true)
      fun channel => channel = .sms).world.Stored delayedShipment .email := by
  refine (channels_independent_iff defaultConfig delayedShipment (fun _ => accepting true)
    (fun channel => channel = .sms) ⟨fun _ _ => rfl, fun _ mem => absurd mem List.not_mem_nil⟩
    List.not_mem_nil).mpr ?_ .email (by decide) (by decide +kernel)
  decide +kernel

theorem longEmail_filled : String.ofList (List.replicate 256 'a') ≠ "" := by
  intro empty
  have length := congrArg String.length empty
  rw [String.length_ofList, List.length_replicate] at length
  exact absurd length (by decide)

def longEmailShipment : NotificationCreate :=
  { delayedShipment with
    recipient := ⟨some (String.ofList (List.replicate 256 'a')), some "+4915112345678", none⟩
    hasRecipient := by
      intro channel mem
      have mapped : channel ∈ [.email, .sms] := mem
      rcases List.mem_cons.mp mapped with rfl | mapped
      · exact ⟨_, rfl, longEmail_filled⟩
      · obtain rfl := List.mem_singleton.mp mapped
        exact ⟨_, rfl, by decide⟩ }

theorem longEmail_refused : World.initial.insertOutcome longEmailShipment (fun _ => false) .email =
    .otherError := by
  have long : 255 < ((longEmailShipment.row .email 0).recipient).length := by
    change 255 < (String.ofList (List.replicate 256 'a')).length
    rw [String.length_ofList, List.length_replicate]
    decide
  have result : World.initial.insertResult (longEmailShipment.row .email 0) = .tooLong := by
    rw [World.insertResult, if_pos (Or.inr long)]
  simp [World.insertOutcome, result]

/-- The SMS of a shipment is lost because the email address is too long for its column. -/
theorem sms_lost_with_email :
    longEmailShipment.redisKey ∉ World.initial.idemKeys ∧
      .sms ∈ eventChannelMap longEmailShipment.eventType ∧
      World.initial.insertOutcome longEmailShipment (fun _ => false) .sms = .success ∧
      ¬(World.initial.request defaultConfig longEmailShipment (fun _ => accepting true)
        fun _ => false).world.Stored longEmailShipment .sms := by
  refine ⟨List.not_mem_nil, by decide, by decide +kernel, ?_⟩
  have sound : World.initial.Sound := ⟨fun _ _ => rfl, fun _ mem => absurd mem List.not_mem_nil⟩
  rw [request_stored defaultConfig longEmailShipment _ _ sound List.not_mem_nil]
  rintro (⟨_, _, row, _⟩ | ⟨_, reached⟩)
  · cases row
  · exact reached.1 longEmail_refused

end NotificationEngine
