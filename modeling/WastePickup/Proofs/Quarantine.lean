import WastePickup.Proofs.Asking
import WastePickup.Proofs.Bookings
import WastePickup.Proofs.Canonical
import WastePickup.Proofs.Closed
import WastePickup.Proofs.Grouping

/-!
# Bookings whose stored text is no status

A row may hold any text in the place of its status. A booking whose text is no status is left to
itself: nobody's order changes a column of it or adds to its history, whatever is asked for, and no
order makes another such booking. What needs its status fails for as long as it is there, and a list
that is asked for by status is the list without it.

The status is looked at late on some ways, and on one way not at all: an update that swaps no driver
and corrects no amount goes through. `Order.idle_of_unknown` is what all ways amount to: work that
is not turned down writes back what is there.

* `Store.quarantined?`: the booking of a number, if its text is no status.
* `Event.Leaves.keepsQuarantine`: one event leaves these bookings as they are, and makes none.
* `unknown_status_is_quarantined`: the same for runs of any length, and what is answered after them.
-/

namespace WastePickup

/-! ## Work on a booking without a status -/

namespace Store

variable {s : Store} {now : Instant} {actor : Actor} {p : Progress} {w : Writes}

/-- A booking without a status is not open. -/
theorem requireOpen_of_unknown {refusal : Refusal} (unknown : p.status? = none) :
    requireOpen refusal p ≠ .ok () := by
  intro h
  obtain ⟨status, known, -⟩ := requireOpen_eq_ok_iff.1 h
  rw [unknown] at known
  cases known

/-- No action is taken on a booking without a status. -/
theorem perform_of_unknown {action : Action} {given : Particulars} (unknown : p.status? = none) :
    s.perform now actor action given p ≠ .ok w := by
  intro h
  obtain ⟨-, m, e, hm, -⟩ := perform_eq_ok_iff.1 h
  obtain ⟨known, -⟩ := planMove_eq_ok_iff.1 hm
  rw [unknown] at known
  cases known

end Store

/-- What goes through on a booking without a status writes back what is there. -/
theorem Order.idle_of_unknown {order : Order} {s : Store} {now : Instant} {actor : Actor}
    {p : Progress} {w : Writes} (h : order.work now actor s p = .ok w)
    (unknown : p.status? = none) : w = .idle p := by
  cases order with
  | act action given => exact absurd h (Store.perform_of_unknown unknown)
  | update request =>
    obtain ⟨v, swapped, corrected, hv, hswap, hcorrect, rfl⟩ := Store.adminWork_eq_ok_iff.1 h
    -- Any action is turned down, so that no action is asked for and the status stays unknown.
    have hfirst : request.action = none ∧ v = .idle p := by
      unfold Store.adminAction at hv
      split at hv
      · rename_i hnone
        cases hv
        exact ⟨hnone, rfl⟩
      · exact absurd hv (Store.perform_of_unknown unknown)
    obtain ⟨hnone, rfl⟩ := hfirst
    have hincomplete : request.action ≠ some .complete := by
      rw [hnone]
      simp
    rw [if_neg hincomplete] at hcorrect
    obtain rfl := Store.swapDriver_of_not_open (Store.requireOpen_of_unknown unknown) hswap
    obtain ⟨hweight, hamount, rfl⟩ :=
      Store.correctAmounts_of_not_open (Store.requireOpen_of_unknown unknown) hcorrect
    rw [hweight, hamount]
    rfl

/-! ## What is kept -/

namespace Store

/-- The booking of a number, if its stored text is no status. -/
def quarantined? (s : Store) (booking : Int) : Option Booking :=
  (s.bookings.find? booking).filter fun b => b.status? = none

/-- A booking is in quarantine if it is found and reads as no status. -/
theorem quarantined?_eq_some_iff {s : Store} {booking : Int} {b : Booking} :
    s.quarantined? booking = some b ↔
      s.bookings.find? booking = some b ∧ b.status? = none := by
  simp [quarantined?, Option.filter_eq_some_iff]

/-- Where a booking has a status, or there is none, nothing is quarantined. -/
theorem quarantined?_eq_none_iff {s : Store} {booking : Int} :
    s.quarantined? booking = none ↔
      ∀ b, s.bookings.find? booking = some b → ∃ status, b.status? = some status := by
  simp [quarantined?, Option.filter_eq_none_iff, Option.ne_none_iff_exists']

/-- The bookings without a status are the same in two stores, with the same histories. -/
structure KeepsQuarantine (s t : Store) : Prop where
  same : ∀ booking, t.quarantined? booking = s.quarantined? booking
  history : ∀ booking b, s.quarantined? booking = some b →
    t.historyOf booking = s.historyOf booking

/-- A store keeps its own quarantine. -/
theorem KeepsQuarantine.refl (s : Store) : s.KeepsQuarantine s :=
  ⟨fun _ => rfl, fun _ _ _ => rfl⟩

/-- A quarantine that is kept twice is kept. -/
theorem KeepsQuarantine.trans {s t u : Store} (h : s.KeepsQuarantine t)
    (h' : t.KeepsQuarantine u) : s.KeepsQuarantine u where
  same booking := (h'.same booking).trans (h.same booking)
  history booking b hb := by
    rw [h'.history booking b (by rw [h.same, hb]), h.history booking b hb]

end Store

namespace Event.Leaves

variable {event : Event} {now : Instant} {s t : Store}

/-- A booking that is there after an event and was not there before has a status. -/
theorem exists_status_of_new (h : event.Leaves now s t) {booking : Int} {b : Booking}
    (new : s.bookings.find? booking = none) (found : t.bookings.find? booking = some b) :
    ∃ status, b.status? = some status := by
  have hid : b.id = booking := Table.id_of_find? found
  cases h.origin (Table.mem_of_find? found) with
  | kept mem =>
    have hnone := List.find?_eq_none.1 new b mem
    exact absurd (decide_eq_true hid) hnone
  | @worked old actor order w orders found' work eq_advance =>
    rw [eq_advance, Booking.advance_id] at hid
    rw [hid, new] at found'
    cases found'
  | booked fresh =>
    refine ⟨.created, ?_⟩
    rw [Booking.status?, fresh]
    exact Status.ofStored?_name .created
  | sampled filled sample =>
    obtain ⟨sample, -, category, hprogress⟩ := sample
    exact ⟨sample.status.canonical, by rw [Booking.status?, hprogress, Sample.status?_progress]⟩

/-- An event leaves bookings without a status as they are, with their histories, and makes none. -/
theorem keepsQuarantine (h : event.Leaves now s t) : s.KeepsQuarantine t := by
  -- What an order leaves of a booking without a status is what was there.
  have hkept : ∀ booking b, s.quarantined? booking = some b →
      t.bookings.find? booking = some b ∧ t.historyOf booking = s.historyOf booking := by
    intro booking b hb
    obtain ⟨found, unknown⟩ := Store.quarantined?_eq_some_iff.1 hb
    rcases h.continues found with kept | ⟨actor, order, w, -, work, rfl⟩
    · exact kept
    · obtain rfl : b.id = booking := Table.id_of_find? found
      obtain rfl := Order.idle_of_unknown work unknown
      constructor
      · rw [Store.find?_commit_self found, Writes.idle,
          Booking.advance_of_same (Progress.same_self _)]
      · rw [Store.historyOf_commit_self]
        exact List.append_nil _
  refine ⟨fun booking => ?_, fun booking b hb => (hkept booking b hb).2⟩
  cases hb : s.quarantined? booking with
  | some b =>
    have unknown := (Store.quarantined?_eq_some_iff.1 hb).2
    exact Store.quarantined?_eq_some_iff.2 ⟨(hkept booking b hb).1, unknown⟩
  | none =>
    have known := Store.quarantined?_eq_none_iff.1 hb
    apply Store.quarantined?_eq_none_iff.2
    intro b' found'
    cases found : s.bookings.find? booking with
    | none => exact h.exists_status_of_new found found'
    | some b =>
      obtain ⟨status, hstatus⟩ := known b found
      rcases h.continues found with ⟨kept, -⟩ | ⟨actor, order, w, -, work, rfl⟩
      · rw [kept] at found'
        cases found'
        exact ⟨status, hstatus⟩
      · obtain rfl : b.id = booking := Table.id_of_find? found
        rw [Store.find?_commit_self found] at found'
        cases found'
        rw [Booking.advance_status?]
        exact (Order.follows_of_work work).exists_status hstatus

end Event.Leaves

/-- Neither does a run of any length change them or make one. -/
theorem Service.run_keepsQuarantine (service : Service) (steps : List Step) :
    service.world.store.KeepsQuarantine (service.run steps).world.store := by
  apply Service.run_induction .refl .trans
  intro s _ service
  exact (service.step_leaves s).keepsQuarantine

/-! ## What is answered -/

/-- A request needs the status of a booking: it asks for the counters, or for this one booking on
behalf of somebody who may see it. -/
inductive Request.NeedsStatusOf (r : Request) (b : Booking) : Prop where
  | metrics {actor : Actor} (asks : r.Asks actor .metrics) : NeedsStatusOf r b
  | booking {actor : Actor} (asks : r.Asks actor (.oneBooking b.id))
      (fits : Number.fits64 b.id = true)
      (maySee : actor.role.isAdmin = true ∨ b.pickup.user = actor.id) : NeedsStatusOf r b
  | duty {actor : Actor} (asks : r.Asks actor (.oneDuty b.id))
      (fits : Number.fits64 b.id = true)
      (own : b.progress.driver = some actor.id) : NeedsStatusOf r b

/-- An event asks for a list of bookings in a known status. -/
inductive Event.ListsByStatus : Event → Prop where
  | own {r : Request} {actor : Actor} {status : Status} {page size : Int}
      (asks : r.Asks actor (.ownBookings (some status) page size)) : ListsByStatus (.request r)
  | all {r : Request} {actor : Actor} {status : Status} {page size : Int}
      (asks : r.Asks actor (.allBookings (some status) page size)) : ListsByStatus (.request r)
  | list {f : BookingFilter} {status : Status} (status_eq : f.status = some status)
      {page size : Int} : ListsByStatus (.list f page size)

namespace Store

variable {s : Store} {b : Booking}

/-- There are no counters where a booking has no status. -/
theorem metrics_of_unknown (mem : b ∈ s.bookings.rows) (unknown : b.status? = none) :
    ∃ text, s.metrics = .error (.unknownStatus text) := by
  have hsome : ((Metrics.texts s.bookings.rows).find? fun text =>
      (Status.ofStored? text).isNone).isSome := by
    rw [List.find?_isSome]
    exact ⟨b.progress.status, List.mem_map_of_mem mem, congrArg Option.isNone unknown⟩
  obtain ⟨text, found⟩ := Option.isSome_iff_exists.1 hsome
  refine ⟨text, ?_⟩
  rw [metrics_eq, Metrics.statuses_of_unknown found]
  rfl

/-- Whoever may see a booking without a status is told that it has none. -/
theorem bookingView_of_unknown (viewer : Role) (refusal : Refusal)
    (found : s.bookings.find? b.id = some b) (fits : Number.fits64 b.id = true)
    (unknown : b.status? = none) (maySee : Booking → Bool) (allowed : maySee b = true) :
    s.bookingView viewer b.id maySee refusal = .error (.unknownStatus b.progress.status) := by
  have hlookUp := Table.lookUp_eq_ok_iff.2 ⟨fits, found⟩
  rw [bookingView, hlookUp]
  show (if maySee b then (BookingView.of viewer b).map Answer.booking else .error refusal) = _
  rw [if_pos allowed, BookingView.of, unknown]
  rfl

/-- The same store without a booking. -/
def without (s : Store) (b : Booking) : Store :=
  { s with bookings := ⟨s.bookings.rows.filter (· ≠ b)⟩ }

end Store

/-- The same service without a booking. -/
def Service.without (service : Service) (b : Booking) : Service :=
  service.withWorld ⟨service.world.store.without b, service.world.locks⟩

/-- A filter by a known status does not accept a booking without one. -/
theorem BookingFilter.accepts_of_unknown {f : BookingFilter} {status : Status} {b : Booking}
    (by_status : f.status = some status) (unknown : b.status? = none) : f.accepts b = false := by
  have hread : Status.ofStored? b.progress.status ≠ some status := by
    intro known
    rw [show Status.ofStored? b.progress.status = none from unknown] at known
    cases known
  simp [accepts, by_status, Status.any_aliases_eq, hread]

/-- A list by status is the list without the booking. -/
theorem Store.pageAndTotal_without {s : Store} {f : BookingFilter} {status : Status} {b : Booking}
    (by_status : f.status = some status) (unknown : b.status? = none) (page size : Int) :
    (s.without b).pageAndTotal f page size = s.pageAndTotal f page size := by
  have hb := f.accepts_of_unknown by_status unknown
  apply pageAndTotal_congr
  rw [listed, listed, without, List.filter_filter]
  congr 1
  apply List.filter_congr
  intro row _
  by_cases hrow : row = b
  · simp [hrow, hb]
  · simp [hrow]

namespace Service

variable {service : Service} {b : Booking}

/-- The refusal of a booking without a status, as callers are told. -/
def unrecognised : Reply :=
  .ok (.detail 500 "Booking has an unrecognised status")

/-- What needs the status of a booking that has none fails. -/
theorem serve_of_unknown (token : Token) (now : Instant) {r : Request}
    (found : service.world.store.bookings.find? b.id = some b) (unknown : b.status? = none)
    (needs : r.NeedsStatusOf b) :
    (service.serve token now r).2 = service.limited r unrecognised := by
  cases needs with
  | @metrics actor asks =>
    obtain ⟨text, hmetrics⟩ :=
      service.world.store.metrics_of_unknown (Table.mem_of_find? found) unknown
    rw [serve_of_asks_limited token now asks (by simp), Command.run, World.reading, hmetrics]
    rfl
  | @booking actor asks fits maySee =>
    have allowed : (actor.role.isAdmin || b.pickup.user = actor.id) = true := by
      simpa using maySee
    have hview := Store.bookingView_of_unknown actor.role .otherCustomer found fits unknown
      (fun b => actor.role.isAdmin || b.pickup.user = actor.id) allowed
    rw [serve_of_asks_limited token now asks (by simp), Command.run, World.reading, hview]
    rfl
  | @duty actor asks fits own =>
    have hview := Store.bookingView_of_unknown actor.role .notAssignedToDriver found fits unknown
      (fun b => b.progress.driver = some actor.id) (decide_eq_true own)
    rw [serve_of_asks_limited token now asks (by simp), Command.run, World.reading, hview]
    rfl

/-- A list by status is answered as if the booking were not there. -/
theorem step_without (token : Token) (now : Instant) {event : Event}
    (unknown : b.status? = none) (lists : event.ListsByStatus) :
    ((service.without b).step ⟨token, now, event⟩).2 = (service.step ⟨token, now, event⟩).2 := by
  have hview : ∀ viewer f status page size, f.status = some status →
      (service.world.store.without b).pageView viewer f page size =
        service.world.store.pageView viewer f page size := by
    intro viewer f status page size by_status
    rw [Store.pageView, Store.pageView, Store.pageAndTotal_without by_status unknown]
  have hrequest : ∀ {r : Request} {actor : Actor} {command : Command}, r.Asks actor command →
      command ≠ .health → (command.run (service.without b).world token now actor).2 =
        (command.run service.world token now actor).2 →
      Outcome.ofReply ((service.without b).serve token now r).2 =
        Outcome.ofReply (service.serve token now r).2 := by
    intro r actor command asks health run
    rw [serve_of_asks_limited token now asks health, serve_of_asks_limited token now asks health,
      run]
    rfl
  cases lists with
  | @own r actor status page size asks =>
    apply hrequest asks (by simp)
    exact hview actor.role ⟨some actor.id, none, some status⟩ status page size rfl
  | @all r actor status page size asks =>
    apply hrequest asks (by simp)
    exact hview actor.role ⟨none, none, some status⟩ status page size rfl
  | @list f status by_status page size =>
    show Outcome.ofList ((service.world.store.without b).pageAndTotal f page size) = _
    rw [Store.pageAndTotal_without by_status unknown]
    rfl

end Service

/-- Along any run, a booking whose text is no status stays as it is in every column, with its
history, and no booking comes to have such a text. At any point of the run, what needs its status is
answered with code 500, unless its path has been served too often. No filter by a status finds it,
and lists by status are answered as if it were not there. -/
theorem unknown_status_is_quarantined (service : Service) (steps : List Step) :
    let before := service.world.store
    let last := service.run steps
    let after := last.world.store
    (∀ booking, after.quarantined? booking = before.quarantined? booking) ∧
      ∀ b, before.quarantined? b.id = some b →
        after.historyOf b.id = before.historyOf b.id ∧
        (∀ token now (r : Request), r.NeedsStatusOf b →
          (last.serve token now r).2 = last.limited r Service.unrecognised) ∧
        (∀ f : BookingFilter, f.status ≠ none → b ∉ after.listed f) ∧
        ∀ token now (event : Event), event.ListsByStatus →
          ((last.without b).step ⟨token, now, event⟩).2 = (last.step ⟨token, now, event⟩).2 := by
  intro before last after
  have kept := service.run_keepsQuarantine steps
  refine ⟨kept.same, fun b hb => ?_⟩
  have hafter : after.quarantined? b.id = some b := (kept.same b.id).trans hb
  obtain ⟨found, unknown⟩ := Store.quarantined?_eq_some_iff.1 hafter
  refine ⟨kept.history b.id b hb, ?needs, ?filters, ?lists⟩
  case needs =>
    intro token now r needs
    exact Service.serve_of_unknown token now found unknown needs
  case filters =>
    intro f by_status hmem
    obtain ⟨status, by_status⟩ := Option.ne_none_iff_exists'.1 by_status
    have haccepts := (Store.mem_listed_iff.1 hmem).2
    rw [f.accepts_of_unknown by_status unknown] at haccepts
    cases haccepts
  case lists => exact fun token now event lists => Service.step_without token now unknown lists

/-- A lost booking is kept: its driver cannot collect it, an admin can neither cancel it nor give it
to somebody else, and the counters fail. -/
theorem lost_booking_is_kept :
    let p : Progress := ⟨"LOST", some 7, 1, some 2.5, none, none, none⟩
    let service := Service.single p
    let b := Booking.single p
    let steps : List Step :=
      [⟨⟨1⟩, ⟨1⟩, .act ⟨7, .driver⟩ 1 .collect ⟨none, some (.float 3.0), none, none, none⟩⟩,
        ⟨⟨2⟩, ⟨2⟩, .act ⟨6, .superAdmin⟩ 1 .cancel .none⟩,
        ⟨⟨3⟩, ⟨3⟩, .adminUpdate ⟨3, .admin⟩ 1 ⟨none, some 9, none, none⟩⟩]
    let last := service.run steps
    let counters : Request := ⟨"GET", "/api/v1/admin/metrics",
      [("X-Actor-Id", "3"), ("X-Actor-Role", "ADMIN")], .absent⟩
    service.world.store.quarantined? b.id = some b ∧
      last.world.store.quarantined? b.id = some b ∧ last.world.store.historyOf b.id = [] ∧
      (last.serve ⟨4⟩ ⟨4⟩ counters).2 =
        .ok (.detail 500 "Booking has an unrecognised status") ∧
      b ∉ last.world.store.listed ⟨none, none, some .created⟩ := by
  intro p service b steps last counters
  have quarantined : service.world.store.quarantined? b.id = some b := by decide +kernel
  obtain ⟨same, h⟩ := unknown_status_is_quarantined service steps
  obtain ⟨history, needs, filters, -⟩ := h b quarantined
  have leads : counters.LeadsTo .metrics "" := by decide +kernel
  have asks : counters.Asks ⟨3, .admin⟩ .metrics :=
    .intro leads (by decide +kernel) (by decide) rfl
  have unlimited : ¬Service.limit ≤ last.servedAt (Target.ofText counters.target).path := by
    decide +kernel
  refine ⟨quarantined, (same b.id).trans quarantined, history, ?_, filters _ (by simp)⟩
  rw [needs ⟨4⟩ ⟨4⟩ counters (.metrics asks)]
  exact if_neg unlimited

end WastePickup
