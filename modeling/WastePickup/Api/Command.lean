import WastePickup.Api.View
import WastePickup.Booking.Creation
import WastePickup.Booking.Listing
import WastePickup.Booking.Update
import WastePickup.Form.Driver
import WastePickup.Pricing.Update

/-!
# Commands

A command is a request that has been read: what is asked for, with typed particulars. `Command.run`
gives the world after it and its answer or refusal.

Two forms name a target status instead of an action. A driver's form is turned into an action by
itself (`DriverForm.toAction`). An admin's form depends on where the booking stands: it is read once
without the lock to decide on the action (`AdminForm.decide`), and the decision is carried out under
the lock, on the row as it stands then.
-/

namespace WastePickup

/-- A request that has been read. -/
inductive Command where
  | createBookings (form : BookingForm)
  | ownBookings (status : Option Status) (page size : Int)
  | oneBooking (booking : Int)
  | duties
  | oneDuty (booking : Int)
  | start (booking : Int)
  | collect (booking : Int) (form : CollectForm)
  | cancelAsDriver (booking : Int) (form : Option CancelForm)
  | updateAsDriver (booking : Int) (form : DriverForm)
  | setAvailability (form : AvailabilityForm)
  | allBookings (status : Option Status) (page size : Int)
  | assign (booking : Int) (form : AssignForm)
  | complete (booking : Int) (form : Option SettleForm)
  | cancelAsAdmin (booking : Int) (form : Option CancelForm)
  | refund (booking : Int)
  | updateAsAdmin (booking : Int) (form : AdminForm)
  | history (booking : Int)
  | metrics
  | priceList
  | setPrice (category : Int) (form : PricingForm)
  | health
  deriving DecidableEq

/-! ## Forms that name a target status -/

/-- A status that is no longer given cannot be asked for. -/
def requireCurrentName (status : Option StoredStatus) : Except Refusal Unit :=
  match status with
  | none => .ok ()
  | some s => if s.isLegacy then .error (.legacyStatus s) else .ok ()

/-- The action that a driver's form stands for. A weight without a status is a collection. -/
def DriverForm.toAction (form : DriverForm) : Except Refusal (Action × Particulars) := do
  requireCurrentName form.status
  match form.status with
  | some .completed => .error .driverCannotComplete
  | some .inProgress => .ok (.start, .none)
  | some .cancelled => .ok (.cancel, .none)
  | some .collected =>
    match form.weight with
    | none => .error .weightRequired
    | some w => .ok (.collect, ⟨none, some (.float w), none, form.wasteCategory, none⟩)
  | none =>
    match form.weight with
    | none => .error .driverActionMissing
    | some w => .ok (.collect, ⟨none, some (.float w), none, form.wasteCategory, none⟩)
  | some _ => .error .driverActionMissing

namespace AdminForm

/-- The action that an admin's form stands for on a booking in a given status. Naming the status
that the booking has asks for no action; a driver alone on a new booking is an assignment. -/
def action? (form : AdminForm) (current : Status) : Except Refusal (Option Action) :=
  match form.status with
  | some s =>
    let target := s.canonical
    if target = current then .ok none
    else
      match target.adminActionTo? with
      | none => .error (.adminsCannotMoveTo target)
      | some action => .ok (some action)
  | none =>
    if form.driver.isSome && current = .created then .ok (some .assign) else .ok none

/-- Decide on an admin's form, from the booking as it stands. -/
def decide (s : Store) (booking : Int) (form : AdminForm) : Except Refusal AdminRequest := do
  requireCurrentName form.status
  match ← s.bookings.lookUp booking with
  | none => .error .bookingNotFound
  | some b =>
    match b.status? with
    | none => .error (.unknownStatus b.progress.status)
    | some current => do
      let action ← form.action? current
      return ⟨action, form.driver, form.weight.map .float, form.amount.map .float⟩

end AdminForm

/-! ## Running commands -/

namespace World

/-- Show the booking that an update answers. -/
def shown (viewer : Role) : World × Except Refusal Booking → World × Except Refusal Answer
  | (w, .error refusal) => (w, .error refusal)
  | (w, .ok b) => (w, (BookingView.of viewer b).map .booking)

/-- Answer from the tables without changing them. -/
def reading (w : World) (answer : Except Refusal Answer) : World × Except Refusal Answer :=
  (w, answer)

/-- Change the tables, unless the change is refused. -/
def storing (w : World) : Except Refusal (Store × Answer) → World × Except Refusal Answer
  | .error refusal => (w, .error refusal)
  | .ok (store, answer) => (⟨store, w.locks⟩, .ok answer)

end World

namespace Store

/-- One page of a list, as a role sees it. -/
def pageView (s : Store) (viewer : Role) (f : BookingFilter) (page size : Int) :
    Except Refusal Answer := do
  let (bookings, total) ← s.pageAndTotal f page size
  return .page (← BookingView.ofList viewer bookings) total page size

/-- One booking, if the reader may see it. -/
def bookingView (s : Store) (viewer : Role) (booking : Int) (maySee : Booking → Bool)
    (refusal : Refusal) : Except Refusal Answer := do
  match ← s.bookings.lookUp booking with
  | none => .error .bookingNotFound
  | some b => if maySee b then (BookingView.of viewer b).map .booking else .error refusal

/-- The bookings of a driver, as the driver sees them. -/
def dutiesView (s : Store) (actor : Actor) : Except Refusal Answer := do
  requireFits actor.id
  return .bookings (← BookingView.ofList actor.role (s.dutiesOf actor.id))

/-- The status changes of a booking that exists. -/
def historyView (s : Store) (booking : Int) : Except Refusal Answer := do
  match ← s.bookings.lookUp booking with
  | none => .error .bookingNotFound
  | some _ => return .history (s.historyOf booking)

/-- Set the availability of a driver. -/
def setAvailability (s : Store) (driver : Int) (form : AvailabilityForm) :
    Except Refusal (Store × Answer) := do
  if form.status.isManual then
    match ← s.drivers.lookUp driver with
    | none => .error .driverRowNotFound
    | some d =>
      let row := { d with status := form.status.name }
      .ok ({ s with drivers := s.drivers.replace row }, .driver row)
  else .error .notManualAvailability

end Store

/-- The world after a command, and its answer or refusal. -/
def Command.run (w : World) (token : Token) (now : Instant) (actor : Actor) :
    Command → World × Except Refusal Answer
  | createBookings form =>
    w.storing do
      let (store, made) ← w.store.create now actor.id form
      return (store, .created (← BookingView.ofList actor.role made))
  | ownBookings status page size =>
    w.reading (w.store.pageView actor.role ⟨some actor.id, none, status⟩ page size)
  | oneBooking booking =>
    w.reading (w.store.bookingView actor.role booking
      (fun b => actor.role.isAdmin || b.pickup.user = actor.id) .otherCustomer)
  | duties => w.reading (w.store.dutiesView actor)
  | oneDuty booking =>
    w.reading (w.store.bookingView actor.role booking
      (fun b => b.progress.driver = some actor.id) .notAssignedToDriver)
  | start booking => World.shown actor.role (w.applyAction token now actor booking .start .none)
  | collect booking form =>
    World.shown actor.role (w.applyAction token now actor booking .collect
      ⟨none, some (.float form.weight), none, form.wasteCategory, none⟩)
  | cancelAsDriver booking form | cancelAsAdmin booking form =>
    World.shown actor.role (w.applyAction token now actor booking .cancel
      ⟨none, none, none, none, (form.bind CancelForm.reason).map .proper⟩)
  | updateAsDriver booking form =>
    match form.toAction with
    | .error refusal => (w, .error refusal)
    | .ok (action, given) =>
      World.shown actor.role (w.applyAction token now actor booking action given)
  | setAvailability form => w.storing (w.store.setAvailability actor.id form)
  | allBookings status page size =>
    w.reading (w.store.pageView actor.role ⟨none, none, status⟩ page size)
  | assign booking form =>
    World.shown actor.role (w.applyAction token now actor booking .assign
      ⟨some form.driver, none, none, none, none⟩)
  | complete booking form =>
    World.shown actor.role (w.applyAction token now actor booking .complete
      ⟨none, (form.bind SettleForm.weight).map .float, (form.bind SettleForm.amount).map .float,
        none, none⟩)
  | refund booking => World.shown actor.role (w.applyAction token now actor booking .refund .none)
  | updateAsAdmin booking form =>
    match form.decide w.store booking with
    | .error refusal => (w, .error refusal)
    | .ok request => World.shown actor.role (w.updateAsAdmin token now actor booking request)
  | history booking => w.reading (w.store.historyView booking)
  | metrics => w.reading (w.store.metrics.map .metrics)
  | priceList => w.reading (.ok (.priceList w.store.priceList))
  | setPrice category form =>
    w.storing ((w.store.setPrice now category form).map fun (store, row) => (store, .pricing row))
  | health => w.reading (.ok .healthy)

end WastePickup
