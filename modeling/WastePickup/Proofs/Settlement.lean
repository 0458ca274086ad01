import WastePickup.Proofs.Amounts
import WastePickup.Proofs.Bookings

/-!
# Settled bookings have their weight and their amount

Once the waste has been collected, a booking has a weight and an amount, through re-collections,
corrections, changes of the price bands and the completion. For the weight this holds along every
run of requests.

For the amount it does not. The middle of a band may be infinite although both its ends are finite,
and a weight of zero at that price comes to what is not a number. It passes the check that looks for
an amount before the completion, and is stored as none (`amount_lost_by_overflow`). A run in which
whatever is priced comes to a number keeps the amounts, too.

* `Event.Leaves.settled`, `Service.run_settled`: what a request and what a run keeps.
* `settled_bookings_keep_quantities`: the weights along any run, and the amounts along such a run.
-/

namespace WastePickup

/-! ## Requests -/

/-- The weight that is priced for a request, and the band it is priced in: there is one only if the
work that the request orders can be done. -/
def Store.priced? (s : Store) (now : Instant) (r : Request) : Option (Band Float × Float) := do
  let actor ← (Event.request r).author?
  let command ← r.command?
  let (booking, order) ← command.order? s
  let b ← s.bookings.find? booking
  let _ ← (order.work now actor s b.progress).toOption
  let (category, weight) ← order.priced? b.progress
  let band ← s.band? category
  return (band, weight)

/-- What is priced for a request, if anything, comes to a number. -/
def Store.PricesRequest (s : Store) (now : Instant) (r : Request) : Prop :=
  ∀ priced ∈ s.priced? now r, priced.1.Prices priced.2

instance (s : Store) (now : Instant) (r : Request) : Decidable (s.PricesRequest now r) :=
  inferInstanceAs (Decidable (∀ priced ∈ s.priced? now r, priced.1.Prices priced.2))

/-- All settled bookings have the quantity. -/
def Store.Settled (s : Store) (quantity : Quantity) : Prop :=
  ∀ b ∈ s.bookings.rows, b.progress.Settled quantity

instance (s : Store) (quantity : Quantity) : Decidable (s.Settled quantity) :=
  inferInstanceAs (Decidable (∀ b ∈ s.bookings.rows, b.progress.Settled quantity))

/-- The order of a request puts in numbers, if the amount of what is priced for it is one. -/
theorem Event.Orders.putsNumbers {r : Request} {s : Store} {now : Instant} {actor : Actor}
    {b : Booking} {order : Order} {w : Writes} {quantity : Quantity}
    (orders : (Event.request r).Orders s actor b.id order)
    (found : s.bookings.find? b.id = some b) (work : order.work now actor s b.progress = .ok w)
    (numbers : quantity = .amount → ∀ priced ∈ s.priced? now r,
      (priced.1.amount (some priced.2)).isNaN = false) :
    order.PutsNumbers s quantity b.progress := by
  refine ⟨orders.numbers, fun hamount category weight hpriced band hband => ?_⟩
  have hrequest : s.priced? now r = some (band, weight) := by
    cases orders with
    | request caller read order? =>
      simp [Store.priced?, Event.author?, caller, read, order?, found, work, hpriced, hband,
        Except.toOption]
  exact numbers hamount (band, weight) hrequest

/-- What the sample has collected, it has weighed and priced. -/
theorem Booking.IsSample.settled {now : Instant} {b : Booking} (h : b.IsSample now)
    (quantity : Quantity) : b.progress.Settled quantity := by
  have hweighed : ∀ sample ∈ Sample.bookings, sample.status.canonical.isSettled = true →
      sample.weight.isSome = true := by
    decide
  intro status hstatus hsettled
  obtain ⟨sample, mem, rfl, category, hprogress⟩ := h.exists_of_status hstatus
  have hweight := hweighed sample mem hsettled
  rw [hprogress]
  cases quantity with
  | weight => exact hweight
  | amount => exact (Option.isSome_map ..).trans hweight

/-- A request leaves all settled bookings with their quantity. -/
theorem Event.Leaves.settled {r : Request} {now : Instant} {s t : Store} {quantity : Quantity}
    (h : (Event.request r).Leaves now s t) (prices : quantity = .amount → s.PricesRequest now r)
    (settled : s.Settled quantity) : t.Settled quantity := by
  intro b hb
  cases h.origin hb with
  | kept mem => exact settled b mem
  | @worked old actor order w orders found work eq_advance =>
    rw [eq_advance, Booking.advance_progress]
    have puts : order.PutsNumbers s quantity old.progress :=
      orders.putsNumbers found work fun hamount priced hpriced =>
        Band.isNaN_amount (prices hamount priced hpriced)
    exact Order.settled_of_work work puts (settled old (Table.mem_of_find? found))
  | booked fresh =>
    intro status hstatus hsettled
    rw [fresh] at hstatus
    cases hstatus
    cases hsettled
  | sampled filled sample => exact sample.settled quantity

/-! ## Runs of requests -/

/-- Whatever is priced along a run comes to a number. -/
def Service.PricesAll : Service → List Call → Prop
  | _, [] => True
  | service, c :: rest =>
    service.world.store.PricesRequest c.now c.request ∧ (service.step c.step).1.PricesAll rest

instance Service.decidablePricesAll :
    (service : Service) → (calls : List Call) → Decidable (service.PricesAll calls)
  | _, [] => inferInstanceAs (Decidable True)
  | service, c :: rest =>
    have := (service.step c.step).1.decidablePricesAll rest
    inferInstanceAs (Decidable (_ ∧ _))

/-- A run of requests leaves all settled bookings with their quantity. -/
theorem Service.run_settled (quantity : Quantity) (service : Service) (calls : List Call)
    (prices : quantity = .amount → service.PricesAll calls)
    (settled : service.world.store.Settled quantity) :
    (service.run (calls.map Call.step)).world.store.Settled quantity := by
  induction calls generalizing service with
  | nil => exact settled
  | cons c rest ih =>
    rw [List.map_cons, Service.run_cons]
    refine ih (service.step c.step).1 (fun hamount => (prices hamount).2) ?_
    have hleaves := service.step_leaves c.step
    exact hleaves.settled (fun hamount => (prices hamount).1) settled

/-- If all bookings that are collected or completed have a weight, they have one along any run of
requests. If they have an amount, they have one along any run in which whatever is priced comes to a
number. -/
theorem settled_bookings_keep_quantities (service : Service) (calls : List Call) :
    let before := service.world.store
    let after := (service.run (calls.map Call.step)).world.store
    (before.Settled .weight → after.Settled .weight) ∧
      (before.Settled .amount → service.PricesAll calls → after.Settled .amount) := by
  intro before after
  constructor
  · intro settled
    exact Service.run_settled .weight service calls nofun settled
  · intro settled prices
    exact Service.run_settled .amount service calls (fun _ => prices) settled

/-- A band is set, a weight of zero is collected and corrected, and the booking is completed. -/
theorem completed_booking_has_quantities :
    let service := Service.single ⟨"IN_PROGRESS", some 7, 1, none, none, none, none⟩
    let calls : List Call :=
      [⟨⟨1⟩, ⟨1⟩, ⟨"PUT", "/api/v1/admin/pricing/1",
        [("X-Actor-Id", "3"), ("X-Actor-Role", "ADMIN")],
        .value (.obj [("min_price_lkr_per_kg", .int 40), ("max_price_lkr_per_kg", .int 60)])⟩⟩,
      ⟨⟨2⟩, ⟨2⟩, ⟨"PATCH", "/api/v1/driver/bookings/1/update",
        [("X-Actor-Id", "7"), ("X-Actor-Role", "DRIVER")],
        .value (.obj [("status", .str "COLLECTED"), ("actual_weight_kg", .int 0)])⟩⟩,
      ⟨⟨3⟩, ⟨3⟩, ⟨"PATCH", "/api/v1/admin/bookings/1",
        [("X-Actor-Id", "3"), ("X-Actor-Role", "ADMIN")],
        .value (.obj [("actual_weight_kg", .int 4)])⟩⟩,
      ⟨⟨4⟩, ⟨4⟩, ⟨"PATCH", "/api/v1/admin/bookings/1/complete",
        [("X-Actor-Id", "3"), ("X-Actor-Role", "ADMIN")], .absent⟩⟩]
    let after := (service.run (calls.map Call.step)).world.store
    ∃ b, after.bookings.find? 1 = some b ∧ b.status? = some .completed ∧
      b.progress.weight.isSome = true ∧ b.progress.amount.isSome = true := by
  intro service calls after
  have settled : ∀ quantity, service.world.store.Settled quantity := by
    intro quantity
    cases quantity <;> decide +kernel
  have prices : service.PricesAll calls := by decide +kernel
  have hstatus : (after.bookings.find? 1).bind Booking.status? = some .completed := by
    decide +kernel
  obtain ⟨hweight, hamount⟩ := settled_bookings_keep_quantities service calls
  obtain ⟨b, found, known⟩ := Option.bind_eq_some_iff.1 hstatus
  have hmem : b ∈ after.bookings.rows := Table.mem_of_find? found
  exact ⟨b, found, known, hweight (settled .weight) b hmem .completed known rfl,
    hamount (settled .amount) prices b hmem .completed known rfl⟩

/-- Once the middle of the band is infinite, a booking that is completed with a weight of zero is
left without an amount. -/
theorem amount_lost_by_overflow :
    let service := Service.single ⟨"COLLECTED", some 7, 1, some 4.0, some 200.0, none, none⟩
    let calls : List Call :=
      [⟨⟨1⟩, ⟨1⟩, ⟨"PUT", "/api/v1/admin/pricing/1",
        [("X-Actor-Id", "3"), ("X-Actor-Role", "ADMIN")],
        .value (.obj [("min_price_lkr_per_kg", .float 1e308),
          ("max_price_lkr_per_kg", .float 1e308)])⟩⟩,
      ⟨⟨2⟩, ⟨2⟩, ⟨"PATCH", "/api/v1/admin/bookings/1/complete",
        [("X-Actor-Id", "3"), ("X-Actor-Role", "ADMIN")],
        .value (.obj [("actual_weight_kg", .int 0)])⟩⟩]
    let after := (service.run (calls.map Call.step)).world.store
    service.world.store.Settled .amount ∧ ¬after.Settled .amount ∧
      (after.bookings.find? 1).bind Booking.status? = some .completed := by
  decide +kernel

end WastePickup
