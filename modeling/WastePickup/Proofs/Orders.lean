import WastePickup.Proofs.Alike
import WastePickup.Proofs.Change
import WastePickup.Proofs.Stages

/-!
# Orders and what they leave

Everything that works on a booking is an order that somebody gives: by a call that does without a
request, or by a request that is read as a command. `Event.Leaves` says, for each event, which
tables it can leave behind and on whose order.

* `Service.serve_runs`: a request leaves the world as it was, or comes to what the command comes to
  that it asks for.
* `Command.run_cases`: a command carries out an order, or it has nothing to do with locks.
* `Command.run_leaves`: a command leaves nothing new, the work that it orders, or what it stores.
* `Service.step_leaves`: what a step leaves, and on whose order; `Service.step_change` is the same
  without the orders.
-/

namespace WastePickup

/-! ## Requests and their commands -/

/-- The command that a request is read as, if it leads to an endpoint and can be read. -/
def Request.command? (r : Request) : Option Command :=
  let target := Target.ofText r.target
  match Service.route r.method target.segments with
  | .endpoint e number =>
    match e.read number target.query r.body with
    | .ok command => some command
    | .failed _ _ => none
  | .notFound | .methodNotAllowed | .redirect => none

/-- What a request asks for is what it is read as. -/
theorem Request.Asks.command?_eq {r : Request} {actor : Actor} {command : Command}
    (h : r.Asks actor command) : r.command? = some command := by
  obtain ⟨leads, -, -, read⟩ := h
  rw [LeadsTo] at leads
  simp only [command?, leads, read]

/-- What a request comes to: the world is as it was, or it and the reply are what they are after the
command that the request asks for. -/
inductive Service.Runs (service : Service) (token : Token) (now : Instant) (request : Request) :
    Service × Reply → Prop where
  | idle {next : Service} {reply : Reply} (h : next.world = service.world) :
      Runs service token now request (next, reply)
  | ran {next : Service} {reply : Reply} {actor : Actor} {command : Command}
      (asks : request.Asks actor command)
      (h : next.world = (command.run service.world token now actor).1)
      (answer : reply = .ofOutcome (command.run service.world token now actor).2) :
      Runs service token now request (next, reply)

/-- A request leaves the world as it was, or as the command leaves it that it asks for. -/
theorem Service.serve_runs (service : Service) (token : Token) (now : Instant)
    (request : Request) :
    service.Runs token now request (service.serve token now request) := by
  rcases serve_uniform request with ⟨reply, h⟩ | ⟨actor, command, asks, h⟩
  · rw [h]
    exact .idle rfl
  · rw [h, runLimited]
    split
    · exact .idle rfl
    · exact .ran asks rfl rfl

/-! ## Orders of commands -/

/-- What a command asks to be done, and with which booking. What an admin's form asks for is decided
from where the booking stands. -/
def Command.order? (s : Store) : Command → Option (Int × Order)
  | start booking => some (booking, .act .start .none)
  | collect booking form =>
    some (booking,
      .act .collect ⟨none, some (.float form.weight), none, form.wasteCategory, none⟩)
  | cancelAsDriver booking form | cancelAsAdmin booking form =>
    some (booking,
      .act .cancel ⟨none, none, none, none, (form.bind CancelForm.reason).map .proper⟩)
  | updateAsDriver booking form =>
    match form.toAction with
    | .error _ => none
    | .ok (action, given) => some (booking, .act action given)
  | assign booking form => some (booking, .act .assign ⟨some form.driver, none, none, none, none⟩)
  | complete booking form =>
    some (booking, .act .complete ⟨none, (form.bind SettleForm.weight).map .float,
      (form.bind SettleForm.amount).map .float, none, none⟩)
  | refund booking => some (booking, .act .refund .none)
  | updateAsAdmin booking form =>
    match form.decide s booking with
    | .error _ => none
    | .ok request => some (booking, .update request)
  | _ => none

/-- The order of a command is an update only if the command is an admin's form, decided on. -/
theorem Command.order?_eq_update {s : Store} {command : Command} {booking : Int}
    {request : AdminRequest} (h : command.order? s = some (booking, .update request)) :
    ∃ form, command = .updateAsAdmin booking form ∧ form.decide s booking = .ok request := by
  cases command with
  | updateAsAdmin booking' form =>
    simp only [order?] at h
    split at h
    · cases h
    · rename_i hdecide
      cases h
      exact ⟨form, rfl, hdecide⟩
  | updateAsDriver booking' form =>
    simp only [order?] at h
    split at h
    · cases h
    · cases h
  | _ => cases h

/-! ## Orders under the lock -/

/-- An update is for admins. -/
def Order.IsOpenTo (actor : Actor) : Order → Prop
  | act _ _ => True
  | update _ => actor.role.isAdmin = true

/-- What comes of an order is a piece of work. -/
theorem Order.worked_of_work {order : Order} {s : Store} {now : Instant} {actor : Actor}
    {p : Progress} {w : Writes} (h : order.work now actor s p = .ok w)
    (isOpen : order.IsOpenTo actor) : s.Worked now actor p w := by
  cases order with
  | act action given => exact .acted h
  | update request => exact .updated isOpen h

namespace World

/-- Carry out an order on a booking, under its lock. -/
def carryOut (w : World) (token : Token) (now : Instant) (actor : Actor) (booking : Int) :
    Order → World × Except Refusal Booking
  | .act action given => w.applyAction token now actor booking action given
  | .update request => w.updateAsAdmin token now actor booking request

variable (w : World) (token : Token) (now : Instant) {actor : Actor} (booking : Int)
  {order : Order}

/-- Whoever may give an order has its work done under the lock. -/
theorem carryOut_of_isOpenTo (isOpen : order.IsOpenTo actor) :
    w.carryOut token now actor booking order =
      w.lockedUpdate token now actor booking (order.work now actor) := by
  cases order with
  | act action given => rfl
  | update request => exact if_pos isOpen

/-- An order that is not open to its author is turned down. -/
theorem carryOut_of_not_isOpenTo (closed : ¬order.IsOpenTo actor) :
    w.carryOut token now actor booking order = (w, .error .adminsOnly) := by
  cases order with
  | act action given => exact absurd trivial closed
  | update request => exact if_neg closed

/-- An order is turned down and nothing happens, or its work is done on the booking that is found
and is committed. -/
theorem carryOut_cases (actor : Actor) (order : Order) :
    (∃ refusal, w.carryOut token now actor booking order = (w, .error refusal)) ∨
      ∃ b writes, order.IsOpenTo actor ∧ w.store.bookings.find? booking = some b ∧
        order.work now actor w.store b.progress = .ok writes ∧
        w.carryOut token now actor booking order =
          (⟨w.store.commit now actor b writes, w.locks⟩,
            .ok (b.advance now writes.progress writes.rounded)) := by
  by_cases isOpen : order.IsOpenTo actor
  · rw [w.carryOut_of_isOpenTo token now booking isOpen]
    rcases w.lockedUpdate_cases token now actor booking (order.work now actor) with
      hrefused | ⟨b, writes, found, work, h⟩
    · exact .inl hrefused
    · exact .inr ⟨b, writes, isOpen, found, work, h⟩
  · exact .inl ⟨.adminsOnly, w.carryOut_of_not_isOpenTo token now booking isOpen⟩

/-- An order is carried out exactly if it is open to whoever gives it, nobody holds the lock, the
booking is there and the work goes through; then the work is committed. -/
theorem carryOut_eq_ok_iff {w w' : World} {token : Token} {now : Instant} {actor : Actor}
    {booking : Int} {order : Order} {b' : Booking} :
    w.carryOut token now actor booking order = (w', .ok b') ↔
      order.IsOpenTo actor ∧ w.LockIsFree booking ∧ ∃ b writes,
        w.store.bookings.lookUp booking = .ok (some b) ∧
        order.work now actor w.store b.progress = .ok writes ∧
        w' = ⟨w.store.commit now actor b writes, w.locks⟩ ∧
        b' = b.advance now writes.progress writes.rounded := by
  by_cases isOpen : order.IsOpenTo actor
  · rw [carryOut_of_isOpenTo w token now booking isOpen, and_iff_right isOpen]
    by_cases free : w.LockIsFree booking
    · rw [lockedUpdate_of_free free, and_iff_right free]
      unfold Store.revise
      cases w.store.bookings.lookUp booking with
      | error refusal => simp
      | ok found =>
        cases found with
        | none => simp
        | some b =>
          cases hwork : order.work now actor w.store b.progress with
          | error refusal => simp [hwork]
          | ok writes => simp [hwork, eq_comm]
    · rw [lockedUpdate_of_held free]
      simp [free]
  · rw [carryOut_of_not_isOpenTo w token now booking isOpen]
    simp [isOpen]

/-- An action is open to everybody. -/
theorem applyAction_eq_ok_iff {w w' : World} {token : Token} {now : Instant} {actor : Actor}
    {booking : Int} {action : Action} {given : Particulars} {b' : Booking} :
    w.applyAction token now actor booking action given = (w', .ok b') ↔
      w.LockIsFree booking ∧ ∃ b writes, w.store.bookings.lookUp booking = .ok (some b) ∧
        w.store.perform now actor action given b.progress = .ok writes ∧
        w' = ⟨w.store.commit now actor b writes, w.locks⟩ ∧
        b' = b.advance now writes.progress writes.rounded := by
  show w.carryOut token now actor booking (.act action given) = (w', .ok b') ↔ _
  rw [carryOut_eq_ok_iff]
  exact and_iff_right trivial

/-- An order leaves the locks as they are. -/
theorem carryOut_locks (actor : Actor) (order : Order) :
    (w.carryOut token now actor booking order).1.locks = w.locks := by
  rcases w.carryOut_cases token now booking actor order with
    ⟨refusal, h⟩ | ⟨b, writes, -, -, -, h⟩
  · rw [h]
  · rw [h]

/-- Showing a booking leaves the world. -/
@[simp] theorem shown_fst (viewer : Role) (result : World × Except Refusal Booking) :
    (shown viewer result).1 = result.1 := by
  obtain ⟨w, refusal | b⟩ := result
  · rfl
  · rfl

end World

/-! ## What commands leave -/

namespace Command

/-- What a command comes to on a store, whatever is locked: it has its order carried out, or it has
none and answers by itself. -/
theorem run_cases (s : Store) (now : Instant) (actor : Actor) (command : Command) :
    (∃ booking order, command.order? s = some (booking, order) ∧ ∀ locks token,
        command.run ⟨s, locks⟩ token now actor =
          World.shown actor.role (World.carryOut ⟨s, locks⟩ token now actor booking order)) ∨
      command.order? s = none ∧ ∃ result : Except Refusal (Store × Answer),
        (∀ t answer, result = .ok (t, answer) → t = s ∨ s.Furnished now actor command t) ∧
          ∀ locks token, command.run ⟨s, locks⟩ token now actor =
            World.storing ⟨s, locks⟩ result := by
  have hreading : ∀ answer : Except Refusal Answer, ∃ result : Except Refusal (Store × Answer),
      (∀ t given, result = .ok (t, given) → t = s ∨ s.Furnished now actor command t) ∧
        ∀ (locks : LockStore) (_ : Token), World.reading ⟨s, locks⟩ answer =
          World.storing ⟨s, locks⟩ result := by
    rintro (refusal | answer)
    · exact ⟨.error refusal, fun _ _ h => (nomatch h), fun _ _ => rfl⟩
    · refine ⟨.ok (s, answer), fun t given h => ?_, fun _ _ => rfl⟩
      cases h
      exact .inl rfl
  cases command with
  | createBookings form =>
    let result : Except Refusal (Store × Answer) := do
      let made ← s.create now actor.id form
      return (made.1, .created (← BookingView.ofList actor.role made.2))
    refine .inr ⟨rfl, result, fun t answer h => ?_, fun locks token => rfl⟩
    obtain ⟨⟨t', made⟩, hmade, h⟩ := bind_eq_ok_iff.1 h
    obtain ⟨views, -, h⟩ := bind_eq_ok_iff.1 h
    cases h
    exact .inr (.booked hmade)
  | setAvailability form =>
    exact .inr ⟨rfl, s.setAvailability actor.id form, fun t answer h => .inr (.available h),
      fun locks token => rfl⟩
  | setPrice category form =>
    refine .inr ⟨rfl, (s.setPrice now category form).map fun set => (set.1, .pricing set.2),
      fun t answer h => ?_, fun locks token => rfl⟩
    cases hset : s.setPrice now category form with
    | error refusal => rw [hset] at h; cases h
    | ok result =>
      rw [hset] at h
      cases h
      exact .inr (.priced hset)
  | start booking => exact .inl ⟨booking, _, rfl, fun locks token => rfl⟩
  | collect booking form => exact .inl ⟨booking, _, rfl, fun locks token => rfl⟩
  | cancelAsDriver booking form => exact .inl ⟨booking, _, rfl, fun locks token => rfl⟩
  | cancelAsAdmin booking form => exact .inl ⟨booking, _, rfl, fun locks token => rfl⟩
  | assign booking form => exact .inl ⟨booking, _, rfl, fun locks token => rfl⟩
  | complete booking form => exact .inl ⟨booking, _, rfl, fun locks token => rfl⟩
  | refund booking => exact .inl ⟨booking, _, rfl, fun locks token => rfl⟩
  | updateAsDriver booking form =>
    simp only [order?, run]
    cases form.toAction with
    | error refusal => exact .inr ⟨rfl, .error refusal, fun _ _ h => (nomatch h), fun _ _ => rfl⟩
    | ok asked => exact .inl ⟨booking, _, rfl, fun locks token => rfl⟩
  | updateAsAdmin booking form =>
    simp only [order?, run]
    cases form.decide s booking with
    | error refusal => exact .inr ⟨rfl, .error refusal, fun _ _ h => (nomatch h), fun _ _ => rfl⟩
    | ok request => exact .inl ⟨booking, _, rfl, fun locks token => rfl⟩
  | ownBookings status page size =>
    exact .inr ⟨rfl, hreading (s.pageView actor.role ⟨some actor.id, none, status⟩ page size)⟩
  | oneBooking booking =>
    exact .inr ⟨rfl, hreading (s.bookingView actor.role booking
      (fun b => actor.role.isAdmin || b.pickup.user = actor.id) .otherCustomer)⟩
  | duties => exact .inr ⟨rfl, hreading (s.dutiesView actor)⟩
  | oneDuty booking =>
    exact .inr ⟨rfl, hreading (s.bookingView actor.role booking
      (fun b => b.progress.driver = some actor.id) .notAssignedToDriver)⟩
  | allBookings status page size =>
    exact .inr ⟨rfl, hreading (s.pageView actor.role ⟨none, none, status⟩ page size)⟩
  | history booking => exact .inr ⟨rfl, hreading (s.historyView booking)⟩
  | metrics => exact .inr ⟨rfl, hreading (s.metrics.map .metrics)⟩
  | priceList => exact .inr ⟨rfl, hreading (.ok (.priceList s.priceList))⟩
  | health => exact .inr ⟨rfl, hreading (.ok .healthy)⟩

/-- A command leaves the locks as they are: what it takes, it drops again. -/
theorem run_locks (w : World) (token : Token) (now : Instant) (actor : Actor) (command : Command) :
    (command.run w token now actor).1.locks = w.locks := by
  rcases run_cases w.store now actor command with
    ⟨booking, order, -, h⟩ | ⟨-, result, -, h⟩
  · rw [h w.locks token, World.shown_fst]
    exact World.carryOut_locks ..
  · rw [h w.locks token]
    rcases result with refusal | ⟨t, answer⟩
    · rfl
    · rfl

/-- What a command leaves of a store. -/
inductive Leaves (now : Instant) (actor : Actor) (s : Store) (command : Command) :
    Store → Prop where
  | idle : Leaves now actor s command s
  | ordered {booking : Int} {order : Order} {b : Booking} {w : Writes}
      (order? : command.order? s = some (booking, order)) (isOpen : order.IsOpenTo actor)
      (found : s.bookings.find? booking = some b)
      (work : order.work now actor s b.progress = .ok w) :
      Leaves now actor s command (s.commit now actor b w)
  | furnished {t : Store} (h : s.Furnished now actor command t) : Leaves now actor s command t

/-- What a command leaves: nothing new, the work that it orders, or what it stores. -/
theorem run_leaves (w : World) (token : Token) (now : Instant) (actor : Actor)
    (command : Command) :
    command.Leaves now actor w.store (command.run w token now actor).1.store := by
  rcases run_cases w.store now actor command with
    ⟨booking, order, order?, h⟩ | ⟨-, result, furnishes, h⟩
  · rw [h w.locks token, World.shown_fst]
    rcases World.carryOut_cases w token now booking actor order with
      ⟨refusal, hr⟩ | ⟨b, writes, isOpen, found, work, hr⟩
    · rw [hr]
      exact .idle
    · rw [hr]
      exact .ordered order? isOpen found work
  · rw [h w.locks token]
    rcases result with refusal | ⟨t, answer⟩
    · exact .idle
    · rcases furnishes t answer rfl with rfl | furnished
      · exact .idle
      · exact .furnished furnished

end Command

/-- So does a request. -/
theorem Service.serve_locks (service : Service) (token : Token) (now : Instant)
    (request : Request) :
    (service.serve token now request).1.world.locks = service.world.locks := by
  have h := service.serve_runs token now request
  generalize service.serve token now request = result at h ⊢
  cases h with
  | idle h => rw [h]
  | @ran next reply actor command asks h => rw [h, command.run_locks]

/-! ## Events -/

/-- Who orders what on which booking by an event. -/
inductive Event.Orders (s : Store) : Event → Actor → Int → Order → Prop where
  | request {r : Request} {actor : Actor} {command : Command} {booking : Int} {order : Order}
      (caller : Service.readActor r.headers = .ok actor) (read : r.command? = some command)
      (order? : command.order? s = some (booking, order)) :
      Orders s (.request r) actor booking order
  | act {actor : Actor} {booking : Int} {action : Action} {given : Particulars} :
      Orders s (.act actor booking action given) actor booking (.act action given)
  | update {actor : Actor} {booking : Int} {request : AdminRequest} :
      Orders s (.adminUpdate actor booking request) actor booking (.update request)

/-- The call by which an order is given without a request. -/
def Order.call (actor : Actor) (booking : Int) : Order → Event
  | act action given => .act actor booking action given
  | update request => .adminUpdate actor booking request

/-- Whoever orders something by an event is its author. -/
theorem Event.Orders.author?_eq {s : Store} {event : Event} {actor : Actor} {booking : Int}
    {order : Order} (h : event.Orders s actor booking order) : event.author? = some actor := by
  cases h with
  | request caller => simp only [Event.author?, caller]
  | act => rfl
  | update => rfl

/-- What an event leaves of a store: nothing new, the work of an order, something that is stored in
the name of its author, or the sample. -/
inductive Event.Leaves (now : Instant) (s : Store) (event : Event) : Store → Prop where
  | idle : Leaves now s event s
  | ordered {actor : Actor} {booking : Int} {order : Order} {b : Booking} {w : Writes}
      (orders : event.Orders s actor booking order) (isOpen : order.IsOpenTo actor)
      (found : s.bookings.find? booking = some b)
      (work : order.work now actor s b.progress = .ok w) :
      Leaves now s event (s.commit now actor b w)
  | furnished {actor : Actor} {command : Command} {t : Store} (author : event.author? = some actor)
      (h : s.Furnished now actor command t) : Leaves now s event t
  | seeded {t : Store} {report : List String} (event_eq : event = .seed)
      (h : s.seed now = .ok (t, report)) : Leaves now s event t

namespace Service

variable (service : Service)

/-- An order that is given without a request is carried out and answered. -/
theorem step_order (token : Token) (now : Instant) (actor : Actor) (booking : Int)
    (order : Order) :
    service.step ⟨token, now, order.call actor booking⟩ =
      (service.withWorld (service.world.carryOut token now actor booking order).1,
        .ofUpdate (service.world.carryOut token now actor booking order).2) := by
  cases order with
  | act action given => simp only [step, Order.call, World.carryOut]
  | update request => simp only [step, Order.call, World.carryOut]

/-- An order that is given without a request leaves what its work leaves. -/
theorem leaves_carryOut {token : Token} {now : Instant} {event : Event} {actor : Actor}
    {booking : Int} {order : Order}
    (orders : event.Orders service.world.store actor booking order) :
    event.Leaves now service.world.store
      (service.world.carryOut token now actor booking order).1.store := by
  rcases service.world.carryOut_cases token now booking actor order with
    ⟨refusal, h⟩ | ⟨b, w, isOpen, found, work, h⟩
  · rw [h]
    exact .idle
  · rw [h]
    exact .ordered orders isOpen found work

/-- What a step leaves, and on whose order. -/
theorem step_leaves (s : Step) :
    s.event.Leaves s.now service.world.store (service.step s).1.world.store := by
  obtain ⟨token, now, event⟩ := s
  cases event with
  | request r =>
    have h := service.serve_runs token now r
    simp only [step]
    generalize service.serve token now r = result at h ⊢
    cases h with
    | idle h =>
      rw [h]
      exact .idle
    | @ran next reply actor command asks h =>
      have hleaves := command.run_leaves service.world token now actor
      simp only [h]
      generalize (command.run service.world token now actor).1.store = t at hleaves ⊢
      cases hleaves with
      | idle => exact .idle
      | ordered order? isOpen found work =>
        exact .ordered (.request asks.caller asks.command?_eq order?) isOpen found work
      | furnished h => exact .furnished (by simp only [Event.author?, asks.caller]) h
  | act actor booking action given => exact service.leaves_carryOut .act
  | adminUpdate actor booking request => exact service.leaves_carryOut .update
  | list filter page size => exact .idle
  | seed =>
    simp only [step]
    split
    · rename_i store report h
      exact .seeded rfl h
    · exact .idle
  | hold booking => exact .idle
  | drop booking => exact .idle
  | forget path => exact .idle

/-- What one event does to the tables: nothing, one change in the name of its author, or the
sample. -/
theorem step_change (s : Step) :
    (service.step s).1.world.store = service.world.store ∨
      (∃ actor, s.event.author? = some actor ∧
        service.world.store.Change s.now actor (service.step s).1.world.store) ∨
      (s.event = .seed ∧ ∃ report,
        service.world.store.seed s.now = .ok ((service.step s).1.world.store, report)) := by
  have h := service.step_leaves s
  generalize (service.step s).1.world.store = t at h ⊢
  cases h with
  | idle => exact .inl rfl
  | ordered orders isOpen found work =>
    exact .inr (.inl ⟨_, orders.author?_eq, .worked found (Order.worked_of_work work isOpen)⟩)
  | furnished author h => exact .inr (.inl ⟨_, author, h.change⟩)
  | seeded event_eq h => exact .inr (.inr ⟨event_eq, _, h⟩)

end Service

end WastePickup
