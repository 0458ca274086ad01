import WastePickup.Proofs.Bookings

/-!
# Stamps agree with the status

A booking is stamped with the time at which it was confirmed and with the reason for which it was
called off. The stamps are put in as side effects of two actions, before the status moves, and
nothing takes them out again. They agree with the status nevertheless: a booking has a time of
confirmation exactly when it is completed, and a reason only when it is called off.

What makes this work is the table: no action starts at a completed booking, and the only one that
starts at a booking that was called off is the refund, which has no side effects. So a stamp that is
there is never written over either.

* `Acted.stamped`, `Acted.keepsStamps`: what an action does to the stamps.
* `stamps_agree_with_status`: what a run does to them.
-/

namespace WastePickup

namespace Progress

variable {p q r : Progress}

/-- The stamps agree with the status. -/
structure Stamped (p : Progress) : Prop where
  confirmed : p.confirmedAt.isSome = true ↔ p.status? = some .completed
  reason : p.cancelReason.isSome = true →
    p.status? = some .cancelled ∨ p.status? = some .refunded

/-- Stamps that are there stay as they are. -/
structure KeepsStamps (p q : Progress) : Prop where
  confirmedAt : ∀ time, p.confirmedAt = some time → q.confirmedAt = some time
  cancelReason : ∀ reason, p.cancelReason = some reason → q.cancelReason = some reason

/-- A progress keeps its own stamps. -/
theorem KeepsStamps.refl (p : Progress) : p.KeepsStamps p where
  confirmedAt _ h := h
  cancelReason _ h := h

/-- Stamps that are kept twice are kept. -/
theorem KeepsStamps.trans (h : p.KeepsStamps q) (h' : q.KeepsStamps r) : p.KeepsStamps r where
  confirmedAt time hp := h'.confirmedAt time (h.confirmedAt time hp)
  cancelReason reason hp := h'.cancelReason reason (h.cancelReason reason hp)

/-- The status and the stamps are what they were. -/
structure SameStamps (p q : Progress) : Prop where
  status : q.status = p.status
  confirmedAt : q.confirmedAt = p.confirmedAt
  cancelReason : q.cancelReason = p.cancelReason

/-- With the same stamps, a progress is stamped as it should be. -/
theorem SameStamps.stamped (h : p.SameStamps q) (stamped : p.Stamped) : q.Stamped where
  confirmed := by
    rw [h.confirmedAt, status?, h.status]
    exact stamped.confirmed
  reason := by
    rw [h.cancelReason, status?, h.status]
    exact stamped.reason

/-- The same stamps are kept stamps. -/
theorem SameStamps.keepsStamps (h : p.SameStamps q) : p.KeepsStamps q where
  confirmedAt _ hp := h.confirmedAt.trans hp
  cancelReason _ hp := h.cancelReason.trans hp

/-- To be written over another progress changes no stamps. -/
theorem stamped_onto : (p.onto q).Stamped ↔ p.Stamped :=
  ⟨fun h => ⟨h.confirmed, h.reason⟩, fun h => ⟨h.confirmed, h.reason⟩⟩

/-- Whether stamps are kept shows in what is written already. -/
theorem keepsStamps_onto : p.KeepsStamps (q.onto p) ↔ p.KeepsStamps q :=
  ⟨fun h => ⟨h.confirmedAt, h.cancelReason⟩, fun h => ⟨h.confirmedAt, h.cancelReason⟩⟩

/-- A booking that is not completed has not been confirmed. -/
theorem Stamped.confirmedAt_eq_none (h : p.Stamped) (status : p.status? ≠ some .completed) :
    p.confirmedAt = none :=
  Option.not_isSome_iff_eq_none.1 fun hsome => status (h.confirmed.1 hsome)

/-- A booking that has not been called off has no reason. -/
theorem Stamped.cancelReason_eq_none (h : p.Stamped) (cancelled : p.status? ≠ some .cancelled)
    (refunded : p.status? ≠ some .refunded) : p.cancelReason = none :=
  Option.not_isSome_iff_eq_none.1 fun hsome => (h.reason hsome).elim cancelled refunded

/-- Without stamps, the stamps agree with every status but `COMPLETED`. -/
theorem Stamped.of_none (confirmedAt : p.confirmedAt = none) (cancelReason : p.cancelReason = none)
    (status : p.status? ≠ some .completed) : p.Stamped where
  confirmed := by simp [confirmedAt, status]
  reason := by simp [cancelReason]

end Progress

/-! ## The table -/

/-- No action starts at a completed booking. -/
theorem Action.source_ne_completed (action : Action) :
    ∀ source ∈ action.sources, source ≠ .completed := by
  cases action <;> simp [sources]

/-- Only the refund starts at a booking that was called off. -/
theorem Action.source_ne_cancelled (action : Action) (refund : action ≠ .refund) :
    ∀ source ∈ action.sources, source ≠ .cancelled ∧ source ≠ .refunded := by
  cases action <;> simp_all [sources]

/-! ## Stages -/

namespace Store

variable {s : Store} {now : Instant} {order : Order} {p q : Progress}

/-- Where an action starts, the booking has no time of confirmation, and has no reason unless the
action is the refund. -/
theorem stamps_of_source {action : Action} {source : Status} (stamped : p.Stamped)
    (known : p.status? = some source) (mem : source ∈ action.sources) :
    p.confirmedAt = none ∧ (action ≠ .refund → p.cancelReason = none) := by
  refine ⟨stamped.confirmedAt_eq_none ?_, fun hrefund => stamped.cancelReason_eq_none ?_ ?_⟩
  · rw [known]
    exact fun h => action.source_ne_completed source mem (Option.some.inj h)
  · rw [known]
    exact fun h => (action.source_ne_cancelled hrefund source mem).1 (Option.some.inj h)
  · rw [known]
    exact fun h => (action.source_ne_cancelled hrefund source mem).2 (Option.some.inj h)

/-- After an action, the stamps agree with the status that it leads to. -/
theorem Acted.stamped (h : s.Acted now order p q) (stamped : p.Stamped) : q.Stamped := by
  obtain ⟨asked, known, mem, effected⟩ := h
  obtain ⟨hconfirmedAt, hreason⟩ := stamps_of_source stamped known mem
  cases effected with
  | assigned named approved =>
    exact .of_none hconfirmedAt (hreason (by simp)) (by simp [Progress.status?, Action.target])
  | started =>
    exact .of_none hconfirmedAt (hreason (by simp)) (by simp [Progress.status?, Action.target])
  | collected named value found =>
    exact .of_none hconfirmedAt (hreason (by simp)) (by simp [Progress.status?, Action.target])
  | completed driver weight amounts amount =>
    obtain ⟨w, a, rfl⟩ := withAmounts_eq_ok amounts
    have hnone : p.cancelReason = none := hreason (by simp)
    exact ⟨by simp [Progress.status?, Action.target], by simp [hnone]⟩
  | cancelled kept =>
    exact ⟨by simp [Progress.status?, Action.target, hconfirmedAt], fun _ => .inl rfl⟩
  | refunded =>
    exact ⟨by simp [Progress.status?, Action.target, hconfirmedAt], fun _ => .inr rfl⟩

/-- An action does not write over stamps. -/
theorem Acted.keepsStamps (h : s.Acted now order p q) (stamped : p.Stamped) : p.KeepsStamps q := by
  obtain ⟨asked, known, mem, effected⟩ := h
  rename_i action source q
  obtain ⟨hconfirmedAt, hreason⟩ := stamps_of_source stamped known mem
  refine ⟨fun time htime => ?_, fun reason hr => ?_⟩
  · rw [hconfirmedAt] at htime
    cases htime
  · by_cases hrefund : action = .refund
    · subst hrefund
      cases effected
      exact hr
    · rw [hreason hrefund] at hr
      cases hr

/-- A driver swap leaves the status and the stamps alone. -/
theorem Swapped.sameStamps (h : s.Swapped order p q) : p.SameStamps q := by
  obtain ⟨driver, -, rfl⟩ := h.frame
  exact ⟨rfl, rfl, rfl⟩

/-- So does a correction of amounts. -/
theorem Corrected.sameStamps (h : s.Corrected order p q) : p.SameStamps q := by
  obtain ⟨w, a, rfl⟩ := h.frame
  exact ⟨rfl, rfl, rfl⟩

end Store

/-- Whatever is ordered, the stamps agree with the status, and those that are there stay. -/
theorem Order.stamps_of_work {order : Order} {s : Store} {now : Instant} {actor : Actor}
    {p : Progress} {w : Writes} (h : order.work now actor s p = .ok w) (stamped : p.Stamped) :
    w.progress.Stamped ∧ p.KeepsStamps w.progress := by
  refine work_induction (I := fun q => q.Stamped ∧ p.KeepsStamps q) h ?_ ?_ ?_
    ⟨stamped, .refl p⟩
  · rintro q r hacted ⟨hstamped, hkeeps⟩
    exact ⟨hacted.stamped hstamped, hkeeps.trans (hacted.keepsStamps hstamped)⟩
  · rintro q r hswapped ⟨hstamped, hkeeps⟩
    have hsame := hswapped.sameStamps
    exact ⟨hsame.stamped hstamped, hkeeps.trans hsame.keepsStamps⟩
  · rintro q r hcorrected ⟨hstamped, hkeeps⟩
    have hsame := hcorrected.sameStamps
    exact ⟨hsame.stamped hstamped, hkeeps.trans hsame.keepsStamps⟩

/-! ## Runs -/

/-- The stamps of all bookings agree with their statuses. -/
def Store.AllStamped (s : Store) : Prop :=
  ∀ b ∈ s.bookings.rows, b.progress.Stamped

/-- The sample is stamped as it should be. -/
theorem Booking.IsSample.stamped {now : Instant} {b : Booking} (h : b.IsSample now) :
    b.progress.Stamped := by
  obtain ⟨sample, -, category, hprogress⟩ := h
  have hstatus := Sample.status?_progress now category sample
  rw [hprogress]
  constructor
  · rw [hstatus, Sample.progress]
    cases sample.status <;> simp [StoredStatus.canonical]
  · rw [hstatus, Sample.progress]
    cases sample.status <;> simp [StoredStatus.canonical]

namespace Event.Leaves

variable {event : Event} {now : Instant} {s t : Store}

/-- Every event leaves stamps that agree with the statuses, if they did so before. -/
theorem allStamped (h : event.Leaves now s t) (stamped : s.AllStamped) : t.AllStamped := by
  intro b hb
  cases h.origin hb with
  | kept mem => exact stamped b mem
  | worked orders found work eq_advance =>
    rw [eq_advance, Booking.advance_progress, Progress.stamped_onto]
    exact (Order.stamps_of_work work (stamped _ (Table.mem_of_find? found))).1
  | booked fresh =>
    rw [fresh]
    exact .of_none rfl rfl (by simp [Progress.status?, Store.freshProgress])
  | sampled filled sample => exact sample.stamped

/-- Every event leaves the stamps that are there. -/
theorem keepsStamps (h : event.Leaves now s t) (stamped : s.AllStamped) {booking : Int}
    {b : Booking} (found : s.bookings.find? booking = some b) :
    ∃ b', t.bookings.find? booking = some b' ∧ b.progress.KeepsStamps b'.progress := by
  rcases h.continues found with ⟨hkept, -⟩ | ⟨actor, order, w, -, work, rfl⟩
  · exact ⟨b, hkept, .refl _⟩
  · refine ⟨_, Store.find?_commit_self found, ?_⟩
    rw [Booking.advance_progress, Progress.keepsStamps_onto]
    exact (Order.stamps_of_work work (stamped b (Table.mem_of_find? found))).2

end Event.Leaves

/-- Along a run, stamps agree with the statuses, and those that are there stay. -/
theorem Service.run_stamped (service : Service) (steps : List Step)
    (stamped : service.world.store.AllStamped) :
    (service.run steps).world.store.AllStamped ∧
      ∀ booking b, service.world.store.bookings.find? booking = some b →
        ∃ b', (service.run steps).world.store.bookings.find? booking = some b' ∧
          b.progress.KeepsStamps b'.progress := by
  refine run_induction (R := fun s t => s.AllStamped → t.AllStamped ∧
    ∀ booking b, s.bookings.find? booking = some b →
      ∃ b', t.bookings.find? booking = some b' ∧ b.progress.KeepsStamps b'.progress)
    ?_ ?_ steps ?_ service stamped
  · exact fun s stamped => ⟨stamped, fun booking b found => ⟨b, found, .refl _⟩⟩
  · intro s t u h h' stamped
    obtain ⟨stamped', hkept⟩ := h stamped
    obtain ⟨stamped'', hkept'⟩ := h' stamped'
    refine ⟨stamped'', fun booking b found => ?_⟩
    obtain ⟨b', found', hkeeps⟩ := hkept booking b found
    obtain ⟨b'', found'', hkeeps'⟩ := hkept' booking b' found'
    exact ⟨b'', found'', hkeeps.trans hkeeps'⟩
  · intro s _ service stamped
    have h := service.step_leaves s
    exact ⟨h.allStamped stamped, fun booking b found => h.keepsStamps stamped found⟩

/-- If the stamps of all bookings agree with their statuses, they do so after any run: a booking has
a time of confirmation exactly when it is completed, and a reason only when it is cancelled or
refunded. A stamp that is there at some point of the run is the same ever after. -/
theorem stamps_agree_with_status (service : Service) (earlier later : List Step)
    (stamped : service.world.store.AllStamped) :
    let before := (service.run earlier).world.store
    let after := (service.run (earlier ++ later)).world.store
    after.AllStamped ∧
      ∀ booking b, before.bookings.find? booking = some b →
        ∃ b', after.bookings.find? booking = some b' ∧ b.progress.KeepsStamps b'.progress := by
  intro before after
  have hbefore : before.AllStamped := (service.run_stamped earlier stamped).1
  have hafter : after = ((service.run earlier).run later).world.store := by
    rw [← Service.run_append]
  rw [hafter]
  exact (service.run earlier).run_stamped later hbefore

/-- A collected booking is completed; later it is neither completed again nor called off. -/
theorem completed_booking_keeps_time :
    let service := Service.single ⟨"PAID", some 7, 1, some 2.5, some 100.0, none, none⟩
    let earlier : List Step := [⟨⟨1⟩, ⟨1⟩, .act ⟨3, .admin⟩ 1 .complete .none⟩]
    let later : List Step :=
      [⟨⟨2⟩, ⟨2⟩, .act ⟨3, .admin⟩ 1 .complete .none⟩,
        ⟨⟨3⟩, ⟨3⟩, .act ⟨3, .admin⟩ 1 .cancel ⟨none, none, none, none, some (.proper "Late")⟩⟩]
    let after := (service.run (earlier ++ later)).world.store
    after.AllStamped ∧
      ∃ b, after.bookings.find? 1 = some b ∧ b.progress.confirmedAt = some ⟨1⟩ := by
  intro service earlier later after
  have stamped : service.world.store.AllStamped := by
    intro b hb
    obtain rfl := List.mem_singleton.1 hb
    exact .of_none rfl rfl (by decide)
  obtain ⟨hafter, hkept⟩ := stamps_agree_with_status service earlier later stamped
  have htime : ((service.run earlier).world.store.bookings.find? 1).bind
      (fun b => b.progress.confirmedAt) = some ⟨1⟩ := by
    decide +kernel
  obtain ⟨b, found, time⟩ := Option.bind_eq_some_iff.1 htime
  obtain ⟨b', found', hkeeps⟩ := hkept 1 b found
  exact ⟨hafter, b', found', hkeeps.confirmedAt ⟨1⟩ time⟩

end WastePickup
