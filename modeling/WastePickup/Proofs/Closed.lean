import WastePickup.Proofs.Orders

/-!
# Closed bookings stay closed

A booking that is completed or refunded does not change any more, in any column, whoever asks for
whatever, and nothing is added to its history. A cancelled booking can be refunded, once, by an
admin; that moves its status and the time of its last update, and is recorded.

Closedness is looked at in three places: in the table, before a driver is swapped, and before
amounts are corrected. `Worked.of_closed` is what the three amount to: on a closed booking, work
that is not turned down writes back what is there, or is the refund.

* `closed_booking_kept`: what any run leaves of a closed booking.
-/

namespace WastePickup

/-! ## The table -/

/-- The only row of the table that starts at a closed status is the refund. -/
theorem Rule.of_closed (role : Role) (action : Action) :
    ∀ rule ∈ Rule.of role action, ∀ source ∈ rule.sources, source.isClosed = true →
      role = .admin ∧ action = .refund ∧ source = .cancelled ∧ rule.target = .refunded := by
  cases role <;> cases action <;> simp [Rule.of, Status.isClosed]

/-- The refund, the only move that starts at a closed status. -/
def Move.refund : Move :=
  ⟨.cancelled, .refunded, .refund, .admin⟩

/-- A move that starts at a closed status is the refund. -/
theorem Move.Lawful.eq_refund {m : Move} (h : m.Lawful) (closed : m.source.isClosed = true) :
    m = .refund := by
  obtain ⟨rule, hr, hmem, ht⟩ := h
  obtain ⟨hrole, haction, hsource, htarget⟩ :=
    Rule.of_closed m.role m.action rule hr m.source hmem closed
  rw [htarget] at ht
  obtain ⟨source, target, action, role⟩ := m
  cases hrole
  cases haction
  cases hsource
  cases ht
  rfl

/-! ## Work on a closed booking -/

/-- Writes that write back what is there, and nothing else. -/
def Writes.idle (p : Progress) : Writes :=
  ⟨p, none, none, false⟩

/-- The writes of a refund: the status moves, and nothing else. -/
def Writes.refund (p : Progress) : Writes :=
  ⟨{ p with status := Status.refunded.name }, none, some .refund, false⟩

namespace Store

variable {s : Store} {now : Instant} {actor : Actor} {p q : Progress} {w : Writes} {status : Status}

/-- A closed booking is not open. -/
theorem requireOpen_of_closed {refusal : Refusal} (known : p.status? = some status)
    (closed : status.isClosed = true) : requireOpen refusal p ≠ .ok () := by
  intro h
  obtain ⟨status', hs, hopen⟩ := requireOpen_eq_ok_iff.1 h
  rw [known] at hs
  cases hs
  rw [closed] at hopen
  cases hopen

/-- The only action on a closed booking is the refund of a cancelled one, by an admin. -/
theorem perform_of_closed {action : Action} {given : Particulars} (known : p.status? = some status)
    (closed : status.isClosed = true) (h : s.perform now actor action given p = .ok w) :
    status = .cancelled ∧ actor.role.isAdmin = true ∧ action = .refund ∧ w = .refund p := by
  obtain ⟨-, m, e, hm, he, -, rfl⟩ := perform_eq_ok_iff.1 h
  obtain ⟨hsource, haction, hrole, lawful⟩ := planMove_eq_ok_iff.1 hm
  have hstatus : status = m.source := Option.some.inj (known.symm.trans hsource)
  obtain rfl : m = .refund := lawful.eq_refund (hstatus ▸ closed)
  cases he
  refine ⟨hstatus, ?_, haction.symm, rfl⟩
  rw [Role.isAdmin, ← hrole]
  rfl

/-- What goes through on a closed booking writes back what is there, or is the refund. -/
theorem Worked.of_closed (h : s.Worked now actor p w) (known : p.status? = some status)
    (closed : status.isClosed = true) :
    w = .idle p ∨ (status = .cancelled ∧ actor.role.isAdmin = true ∧ w = .refund p) := by
  cases h with
  | acted h =>
    obtain ⟨hstatus, isAdmin, -, hw⟩ := perform_of_closed known closed h
    exact .inr ⟨hstatus, isAdmin, hw⟩
  | @updated request isAdmin h =>
    obtain ⟨v, swapped, corrected, hv, hswap, hcorrect, rfl⟩ := adminWork_eq_ok_iff.1 h
    -- Whichever action came first, the booking is closed when the driver and the amounts are due.
    have hfirst : request.action ≠ some .complete ∧
        (v = .idle p ∨ (status = .cancelled ∧ v = .refund p)) := by
      unfold adminAction at hv
      split at hv
      · rename_i hnone
        cases hv
        exact ⟨by rw [hnone]; simp, .inl rfl⟩
      · rename_i action hsome
        obtain ⟨hstatus, -, haction, hw⟩ := perform_of_closed known closed hv
        exact ⟨by rw [hsome, haction]; simp, .inr ⟨hstatus, hw⟩⟩
    obtain ⟨hincomplete, hfirst⟩ := hfirst
    rw [if_neg hincomplete] at hcorrect
    have hclosed : ∃ later, v.progress.status? = some later ∧ later.isClosed = true := by
      rcases hfirst with rfl | ⟨-, rfl⟩
      · exact ⟨status, known, closed⟩
      · exact ⟨.refunded, Status.ofStored?_name .refunded, rfl⟩
    obtain ⟨later, hlater, hlaterClosed⟩ := hclosed
    obtain rfl := swapDriver_of_not_open (requireOpen_of_closed hlater hlaterClosed) hswap
    obtain ⟨hweight, hamount, rfl⟩ :=
      correctAmounts_of_not_open (requireOpen_of_closed hlater hlaterClosed) hcorrect
    rw [hweight, hamount]
    rcases hfirst with rfl | ⟨hstatus, rfl⟩
    · exact .inl rfl
    · exact .inr ⟨hstatus, isAdmin, rfl⟩

end Store

/-! ## One change -/

/-- A booking after its refund: the status and the time of the last update are new. -/
def Booking.refundedAt (now : Instant) (b : Booking) : Booking :=
  { b with
    progress := { b.progress with status := Status.refunded.name }
    updatedAt := now }

/-- Writing the refund of a booking that is cancelled refunds it. -/
theorem Booking.advance_refund {now : Instant} {b : Booking} (known : b.status? = some .cancelled) :
    b.advance now (Writes.refund b.progress).progress false = b.refundedAt now := by
  have hne : b.progress.status ≠ Status.refunded.name := by
    intro h
    rw [Booking.status?, Progress.status?, h, Status.ofStored?_name] at known
    cases known
  have hdiffers : b.progress.same (Writes.refund b.progress).progress = false := by
    simp [Progress.same, Writes.refund, hne]
  rw [Booking.advance, hdiffers]
  simp [Writes.refund, Booking.refundedAt, Progress.onto, Progress.settled]

/-- The entry that records the refund of a booking. -/
def HistoryEntry.ofRefund (id booking changedBy : Int) (now : Instant) : HistoryEntry :=
  ⟨id, booking, .cancelled, .refunded, .refund, changedBy, .admin, now⟩

/-- What may become of a closed booking between two stores, where `By` says who may have done
something and when: it is as it was, or it was cancelled and has been refunded by an admin. -/
def Store.KeepsClosed (By : Instant → Actor → Prop) (b : Booking) (s t : Store) : Prop :=
  ∀ status, s.bookings.find? b.id = some b → b.status? = some status → status.isClosed = true →
    (t.bookings.find? b.id = some b ∧ t.historyOf b.id = s.historyOf b.id) ∨
      (status = .cancelled ∧ ∃ now actor id, By now actor ∧ actor.role.isAdmin = true ∧
        t.bookings.find? b.id = some (b.refundedAt now) ∧
        t.historyOf b.id = s.historyOf b.id ++ [.ofRefund id b.id actor.id now])

namespace Store

variable {By : Instant → Actor → Prop} {b : Booking} {s t u : Store} {now : Instant} {actor : Actor}

/-- Where bookings are added only, closed ones are kept. -/
theorem KeepsClosed.of_grows {more : List Booking} (h : s.Grows t more) :
    KeepsClosed By b s t := by
  intro _ found _ _
  refine .inl ⟨?_, h.historyOf_eq b.id⟩
  rw [h.find?_eq, found]
  rfl

/-- Once a booking is refunded, it is kept as it is. -/
theorem KeepsClosed.trans (h : ∀ b, KeepsClosed By b s t) (h' : ∀ b, KeepsClosed By b t u) :
    KeepsClosed By b s u := by
  intro status found known closed
  rcases h b status found known closed with
    ⟨hfound, hhistory⟩ | ⟨hcancelled, now, actor, id, hby, isAdmin, hfound, hhistory⟩
  · rcases h' b status hfound known closed with
      ⟨hfound', hhistory'⟩ | ⟨hcancelled, now, actor, id, hby, isAdmin, hfound', hhistory'⟩
    · exact .inl ⟨hfound', hhistory'.trans hhistory⟩
    · exact .inr ⟨hcancelled, now, actor, id, hby, isAdmin, hfound', by rw [hhistory', hhistory]⟩
  · have hrefunded : (b.refundedAt now).status? = some .refunded :=
      Status.ofStored?_name .refunded
    rcases h' (b.refundedAt now) .refunded hfound hrefunded rfl with
      ⟨hfound', hhistory'⟩ | ⟨hcancelled', -⟩
    · exact .inr ⟨hcancelled, now, actor, id, hby, isAdmin, hfound', hhistory'.trans hhistory⟩
    · cases hcancelled'

/-- A change in somebody's name keeps closed bookings. -/
theorem Change.keepsClosed (h : s.Change now actor t) (hby : By now actor) (b : Booking) :
    KeepsClosed By b s t := by
  rcases h.worked_or_grows with ⟨b', w, found', worked, rfl⟩ | ⟨more, grows, -⟩
  · intro status found known closed
    by_cases hb : b.id = b'.id
    · rw [← hb, found] at found'
      obtain rfl : b = b' := Option.some.inj found'
      rcases worked.of_closed known closed with rfl | ⟨rfl, isAdmin, rfl⟩
      · refine .inl ⟨?_, ?_⟩
        · rw [find?_commit_self found, Writes.idle, Booking.advance_of_same (Progress.same_self _)]
        · rw [historyOf_commit_self]
          exact List.append_nil _
      · refine .inr ⟨rfl, now, actor, s.history.nextId, hby, isAdmin, ?_, ?_⟩
        · rw [find?_commit_self found]
          exact congrArg some (Booking.advance_refund known)
        · exact historyOf_commit_self
    · refine .inl ⟨?_, historyOf_commit_of_ne hb⟩
      rw [find?_commit_of_ne hb]
      exact found
  · exact .of_grows grows

end Store

/-! ## Runs -/

/-- Along any run, a closed booking is kept in every column, with its history; only a cancelled one
may come out as refunded, by one step of an admin or a super admin, which moves its status and the
time of its last update and adds one entry. -/
theorem closed_booking_kept (service : Service) (steps : List Step) (b : Booking) (status : Status)
    (found : service.world.store.bookings.find? b.id = some b) (known : b.status? = some status)
    (closed : status.isClosed = true) :
    let before := service.world.store
    let after := (service.run steps).world.store
    (after.bookings.find? b.id = some b ∧ after.historyOf b.id = before.historyOf b.id) ∨
      (status = .cancelled ∧ ∃ s ∈ steps, ∃ actor id,
        s.event.author? = some actor ∧ actor.role.isAdmin = true ∧
        after.bookings.find? b.id = some (b.refundedAt s.now) ∧
        after.historyOf b.id = before.historyOf b.id ++ [.ofRefund id b.id actor.id s.now]) := by
  let By (now : Instant) (actor : Actor) : Prop :=
    ∃ s ∈ steps, s.now = now ∧ s.event.author? = some actor
  have hrun : ∀ b, Store.KeepsClosed By b service.world.store (service.run steps).world.store := by
    refine Service.run_induction (R := fun s t => ∀ b, Store.KeepsClosed By b s t) ?_ ?_ steps ?_
      service
    · exact fun s b => .of_grows (.of_eq rfl rfl)
    · exact fun h h' b => .trans h h'
    · intro s hs service b
      rcases service.step_change s with h | ⟨actor, hauthor, h⟩ | ⟨-, report, h⟩
      · rw [h]
        exact .of_grows (.of_eq rfl rfl)
      · exact h.keepsClosed ⟨s, hs, rfl, hauthor⟩ b
      · obtain ⟨more, grows⟩ := Store.seed_grows h
        exact .of_grows grows
  rcases hrun b status found known closed with
    h | ⟨hcancelled, now, actor, id, ⟨s, hs, rfl, hauthor⟩, isAdmin, hfound, hhistory⟩
  · exact .inl h
  · exact .inr ⟨hcancelled, s, hs, actor, id, hauthor, isAdmin, hfound, hhistory⟩

/-- A cancelled booking with a weight is refunded by a super admin; what is asked for before and
afterwards has no effect on it. -/
theorem cancelled_booking_refunded :
    let p : Progress := ⟨"CANCELLED", some 7, 1, some 2.5, none, some "Not home", none⟩
    let service := Service.single p
    let b := Booking.single p
    let steps : List Step :=
      [⟨⟨1⟩, ⟨1⟩, .act ⟨7, .driver⟩ 1 .collect ⟨none, some (.float 3.0), none, none, none⟩⟩,
        ⟨⟨2⟩, ⟨2⟩, .act ⟨6, .superAdmin⟩ 1 .refund .none⟩,
        ⟨⟨3⟩, ⟨3⟩, .adminUpdate ⟨3, .admin⟩ 1 ⟨none, none, some (.float 9.0), none⟩⟩]
    let after := (service.run steps).world.store
    service.world.store.bookings.find? b.id = some b ∧ b.status? = some .cancelled ∧
      ∃ s ∈ steps, ∃ actor id,
        s.event.author? = some actor ∧ actor.role.isAdmin = true ∧
        after.bookings.find? b.id = some (b.refundedAt s.now) ∧
        after.historyOf b.id = [.ofRefund id b.id actor.id s.now] := by
  intro p service b steps after
  have found : service.world.store.bookings.find? b.id = some b := rfl
  have known : b.status? = some .cancelled := by decide
  have refunded : (after.bookings.find? b.id).map (·.progress.status) = some "REFUNDED" := by
    decide +kernel
  refine ⟨found, known, ?_⟩
  rcases closed_booking_kept service steps b .cancelled found known rfl with ⟨kept, -⟩ | ⟨-, h⟩
  · rw [kept] at refunded
    exact absurd refunded (by decide)
  · exact h

end WastePickup
