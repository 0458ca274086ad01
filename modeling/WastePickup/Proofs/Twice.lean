import WastePickup.Proofs.Asking
import WastePickup.Proofs.Terms

/-!
# One change in two services

A request or a call that changes a booking is made in two services in which the booking stands
alike, is locked or not, and work is done on the same terms. Then it comes to the same in both,
whenever it is made: it is turned down for the same reason, or the same is done to the booking, and
the answers differ at most in the time of a stamp.

* `Event.IsChangeOf`: requests and calls that change a booking.
* `Service.step_comesAlike`: both services answer without doing anything, or carry out one order.
* `Service.step_alike`: so the answers are the same up to times, and so is what is done.
-/

namespace WastePickup

/-! ## Changes of bookings -/

/-- Where bookings are changed. -/
def Endpoint.changes : List Endpoint :=
  [start, collect, cancelAsDriver, updateAsDriver, assign, complete, cancelAsAdmin, refund,
    updateAsAdmin]

/-- An event that is there to change a booking: a request where bookings are changed, under the
number of the booking, or a call without one. -/
inductive Event.IsChangeOf (booking : Int) : Event → Prop where
  | request {r : Request} {e : Endpoint} {number : String} (leads : r.LeadsTo e number)
      (changes : e ∈ Endpoint.changes) (about : e.subject? number = some (.booking booking)) :
      IsChangeOf booking (.request r)
  | act (actor : Actor) (action : Action) (given : Particulars) :
      IsChangeOf booking (.act actor booking action given)
  | update (actor : Actor) (request : AdminRequest) :
      IsChangeOf booking (.adminUpdate actor booking request)

/-- A booking is changed by one method. -/
theorem Endpoint.method_of_changes {e : Endpoint} (changes : e ∈ Endpoint.changes) :
    e.method = "PATCH" := by
  revert e
  decide

/-- What is asked for where bookings are changed is about a booking. -/
theorem Command.exists_subject? {command : Command}
    (changes : command.endpoint ∈ Endpoint.changes) :
    ∃ booking, command.subject? = some (.booking booking) := by
  cases command with
  | start booking | collect booking | cancelAsDriver booking | updateAsDriver booking
  | assign booking | complete booking | cancelAsAdmin booking | refund booking
  | updateAsAdmin booking => exact ⟨booking, rfl⟩
  | _ => exact absurd changes (by simp [endpoint, Endpoint.changes])

/-- What a request asks for that changes a booking is about that booking. -/
theorem Request.Asks.about_change {r : Request} {actor : Actor} {command : Command} {e : Endpoint}
    {number : String} {booking : Int} (asks : r.Asks actor command) (leads : r.LeadsTo e number)
    (changes : e ∈ Endpoint.changes) (about : e.subject? number = some (.booking booking)) :
    command.endpoint ∈ Endpoint.changes ∧ command.subject? = some (.booking booking) := by
  obtain @⟨e', number', leads', -, -, read⟩ := asks
  obtain ⟨rfl, rfl⟩ := leads.unique leads'
  obtain ⟨rfl, hsubject⟩ := Endpoint.read_eq_ok read
  obtain ⟨booking', habout⟩ := Command.exists_subject? changes
  have hsame := hsubject _ habout
  rw [about] at hsame
  cases hsame
  exact ⟨changes, habout⟩

/-! ## Answers up to times -/

/-- A view with a stamp that does not tell the time. -/
def BookingView.untimed (v : BookingView) : BookingView :=
  { v with confirmedAt := v.confirmedAt.map fun _ => ⟨0⟩ }

/-- Two outcomes are the same, or they show the same booking up to times. -/
inductive Outcome.SameUpToTimes : Outcome → Outcome → Prop where
  | same (o : Outcome) : SameUpToTimes o o
  | booking {b b' : Booking} (same : b'.untimed = b.untimed) :
      SameUpToTimes (.booking b) (.booking b')
  | shown {view view' : BookingView} (same : view'.untimed = view.untimed) :
      SameUpToTimes (.response ⟨200, some (Answer.booking view).toJson⟩)
        (.response ⟨200, some (Answer.booking view').toJson⟩)

/-- The view of a booking without times is its view without times. -/
theorem BookingView.of_untimed (viewer : Role) (b : Booking) :
    of viewer b.untimed = (of viewer b).map untimed := by
  unfold of
  rw [show b.untimed.status? = b.status? from rfl]
  cases b.status? with
  | none => rfl
  | some status => rfl

namespace Outcome

variable {answer answer' : Except Refusal Booking}

/-- Calls that come to the same up to times are answered so. -/
theorem ofUpdate_sameUpToTimes (h : answer'.map Booking.untimed = answer.map Booking.untimed) :
    (ofUpdate answer).SameUpToTimes (ofUpdate answer') := by
  rcases map_eq_map_cases h with ⟨refusal, rfl, rfl⟩ | ⟨b', b, rfl, rfl, hsame⟩
  · exact .same _
  · exact .booking hsame

/-- What a request is answered that shows a booking. -/
def ofShown (viewer : Role) (answer : Except Refusal Booking) : Outcome :=
  ofReply (.ofOutcome (answer >>= fun b => (BookingView.of viewer b).map .booking))

/-- So are requests. -/
theorem ofShown_sameUpToTimes (viewer : Role)
    (h : answer'.map Booking.untimed = answer.map Booking.untimed) :
    (ofShown viewer answer).SameUpToTimes (ofShown viewer answer') := by
  rcases map_eq_map_cases h with ⟨refusal, rfl, rfl⟩ | ⟨b', b, rfl, rfl, hsame⟩
  · exact .same _
  · have hview : (BookingView.of viewer b').map BookingView.untimed =
        (BookingView.of viewer b).map BookingView.untimed := by
      rw [← BookingView.of_untimed, ← BookingView.of_untimed, hsame]
    simp only [ofShown, bind, Except.bind]
    rcases map_eq_map_cases hview with ⟨refusal, hv', hv⟩ | ⟨view', view, hv', hv, hsame⟩
    · rw [hv, hv']
      exact .same _
    · rw [hv, hv']
      exact .shown hsame

end Outcome

/-- What has been done is answered by the view of the booking. -/
theorem World.shown_snd (viewer : Role) (result : World × Except Refusal Booking) :
    (World.shown viewer result).2 =
      result.2 >>= fun b => (BookingView.of viewer b).map .booking := by
  obtain ⟨w, refusal | b⟩ := result
  · rfl
  · rfl

/-! ## Commands on a booking -/

/-- An admin's form is decided on from the booking as it stands. -/
theorem AdminForm.decide_congr {s t : Store} {booking : Int}
    (row : t.bookings.find? booking = s.bookings.find? booking) (form : AdminForm) :
    form.decide t booking = form.decide s booking := by
  unfold decide Table.lookUp
  rw [row]

/-- What is asked for where bookings are changed is refused in both of two worlds in which the
booking stands alike, or gives the same order. -/
theorem Command.run_of_change {command : Command} {booking : Int}
    (changes : command.endpoint ∈ Endpoint.changes)
    (about : command.subject? = some (.booking booking)) (actor : Actor) {w w' : World}
    (row : w'.store.bookings.find? booking = w.store.bookings.find? booking) :
    (∃ refusal, ∀ u, u = w ∨ u = w' → ∀ token now,
        command.run u token now actor = (u, .error refusal)) ∨
      ∃ order, ∀ u, u = w ∨ u = w' → command.order? u.store = some (booking, order) ∧
        ∀ token now, command.run u token now actor =
          World.shown actor.role (u.carryOut token now actor booking order) := by
  cases command with
  | start | collect | cancelAsDriver | cancelAsAdmin | assign | complete | refund =>
    cases about
    exact .inr ⟨_, fun u _ => ⟨rfl, fun token now => rfl⟩⟩
  | updateAsDriver booking' form =>
    cases about
    simp only [order?, run]
    cases form.toAction with
    | error refusal => exact .inl ⟨refusal, fun u _ token now => rfl⟩
    | ok asked => exact .inr ⟨_, fun u _ => ⟨rfl, fun token now => rfl⟩⟩
  | updateAsAdmin booking' form =>
    cases about
    have hdecide : ∀ u, u = w ∨ u = w' →
        form.decide u.store booking = form.decide w.store booking := by
      rintro u (rfl | rfl)
      · rfl
      · exact AdminForm.decide_congr row form
    cases hform : form.decide w.store booking with
    | error refusal =>
      refine .inl ⟨refusal, fun u hu token now => ?_⟩
      simp only [run, hdecide u hu, hform]
    | ok request =>
      refine .inr ⟨.update request, fun u hu => ⟨?_, fun token now => ?_⟩⟩
      · simp only [order?, hdecide u hu, hform]
      · simp only [run, hdecide u hu, hform]
        rfl
  | _ => exact absurd changes (by simp [endpoint, Endpoint.changes])

/-! ## One step in two services -/

/-- Two services are alike for an event that changes a booking: the booking stands alike in both,
the same locks are held, work is done on the same terms, and the path of a request has been served
as often. -/
structure Service.AlikeFor (service : Service) (event : Event) (booking : Int) (other : Service) :
    Prop where
  locks : other.world.locks = service.world.locks
  row : other.world.store.bookings.find? booking = service.world.store.bookings.find? booking
  terms : service.world.store.SameTerms other.world.store
  served : ∀ r, event = .request r → other.servedAt (Target.ofText r.target).path =
    service.servedAt (Target.ofText r.target).path

/-- Two services come to the same by a step, taken in each of them: nothing is done and the answer
is the same, or one order is carried out and answered in one way. -/
inductive Service.ComesAlike (service other : Service) (x x' : Step) (booking : Int)
    (result result' : Service × Outcome) : Prop where
  | idle (world : result.1.world = service.world) (world' : result'.1.world = other.world)
      (same : result'.2 = result.2)
  | ordered {actor : Actor} {order : Order} (answer : Except Refusal Booking → Outcome)
      (alike : ∀ {a b}, b.map Booking.untimed = a.map Booking.untimed →
        (answer a).SameUpToTimes (answer b))
      (orders : x.event.Orders service.world.store actor booking order)
      (world : result.1.world = (service.world.carryOut x.token x.now actor booking order).1)
      (outcome : result.2 = answer (service.world.carryOut x.token x.now actor booking order).2)
      (world' : result'.1.world = (other.world.carryOut x'.token x'.now actor booking order).1)
      (outcome' : result'.2 =
        answer (other.world.carryOut x'.token x'.now actor booking order).2)

namespace Service

variable {service other : Service} {x x' : Step} {booking : Int}

/-- A request that changes a booking comes to the same in two services that are alike for it. -/
theorem serve_comesAlike {r : Request} {e : Endpoint} {number : String} (leads : r.LeadsTo e number)
    (changes : e ∈ Endpoint.changes) (about : e.subject? number = some (.booking booking))
    (alike : service.AlikeFor (.request r) booking other) (token token' : Token)
    (now now' : Instant) :
    ComesAlike service other ⟨token, now, .request r⟩ ⟨token', now', .request r⟩ booking
      (service.step ⟨token, now, .request r⟩) (other.step ⟨token', now', .request r⟩) := by
  simp only [step]
  rcases serve_uniform r with ⟨reply, h⟩ | ⟨actor, command, asks, h⟩
  · rw [h, h]
    exact .idle rfl rfl rfl
  · rw [h, h, runLimited, runLimited, alike.served r rfl]
    obtain ⟨hchanges, habout⟩ := asks.about_change leads changes about
    by_cases hlimit : limit ≤ service.servedAt (Target.ofText r.target).path
    · rw [if_pos hlimit, if_pos hlimit]
      exact .idle rfl rfl rfl
    · rw [if_neg hlimit, if_neg hlimit]
      rcases command.run_of_change hchanges habout actor alike.row with
        ⟨refusal, hrun⟩ | ⟨order, hrun⟩
      · rw [hrun _ (.inl rfl), hrun _ (.inr rfl)]
        exact .idle rfl rfl rfl
      · obtain ⟨horder, hcarry⟩ := hrun _ (.inl rfl)
        obtain ⟨-, hcarry'⟩ := hrun _ (.inr rfl)
        rw [hcarry, hcarry']
        refine .ordered (Outcome.ofShown actor.role) (Outcome.ofShown_sameUpToTimes _)
          (.request asks.caller asks.command?_eq horder) ?_ ?_ ?_ ?_
        · exact World.shown_fst _ _
        · exact congrArg (fun answer => Outcome.ofReply (.ofOutcome answer)) (World.shown_snd _ _)
        · exact World.shown_fst _ _
        · exact congrArg (fun answer => Outcome.ofReply (.ofOutcome answer)) (World.shown_snd _ _)

/-- So does every change of a booking. -/
theorem step_comesAlike (change : x.event.IsChangeOf booking) (again : x'.event = x.event)
    (alike : service.AlikeFor x.event booking other) :
    ComesAlike service other x x' booking (service.step x) (other.step x') := by
  obtain ⟨token, now, event⟩ := x
  obtain ⟨token', now', event'⟩ := x'
  obtain rfl : event' = event := again
  cases change with
  | request leads changes about =>
    exact serve_comesAlike leads changes about alike token token' now now'
  | act actor action given =>
    exact .ordered .ofUpdate Outcome.ofUpdate_sameUpToTimes .act rfl rfl rfl rfl
  | update actor request =>
    exact .ordered .ofUpdate Outcome.ofUpdate_sameUpToTimes .update rfl rfl rfl rfl

end Service

/-! ## What is done in two stores -/

/-- What an event on a booking leaves of two stores: both as they are, or the same work done on the
booking in both, up to times. -/
inductive Event.LeavesAlike (event : Event) (booking : Int) (now now' : Instant) (s t : Store) :
    Store → Store → Prop where
  | idle : LeavesAlike event booking now now' s t s t
  | done {actor : Actor} {order : Order} {b : Booking} {w w' : Writes}
      (orders : event.Orders s actor booking order) (found : s.bookings.find? booking = some b)
      (found' : t.bookings.find? booking = some b)
      (work : order.work now actor s b.progress = .ok w)
      (work' : order.work now' actor t b.progress = .ok w') (same : w'.outline = w.outline) :
      LeavesAlike event booking now now' s t (s.commit now actor b w) (t.commit now' actor b w')

/-- What has been counted from one store to the next fits a third one, in which drivers have made no
fewer pickups. -/
structure Store.LeavesRoom (s after t : Store) : Prop where
  fits : ∀ driver d, s.drivers.find? driver = some d → Number.fits64 d.pickupCount = true
  grown : ∀ driver d d', s.drivers.find? driver = some d → t.drivers.find? driver = some d' →
    d.pickupCount ≤ d'.pickupCount
  room : ∀ driver d d₁ d', s.drivers.find? driver = some d →
    after.drivers.find? driver = some d₁ → t.drivers.find? driver = some d' →
    Number.fits64 (d'.pickupCount + (d₁.pickupCount - d.pickupCount)) = true

/-- Whoever moves no booking counts no pickups. -/
theorem Driver.pickupCount_after_add (d d' : Driver) (actor : Actor) (w : Writes)
    (same : d'.id = d.id) : (d'.after actor w).pickupCount =
      d'.pickupCount + ((d.after actor w).pickupCount - d.pickupCount) := by
  unfold after
  rw [same]
  split
  · split
    · simp only
      omega
    · omega
  · omega

/-- Where there is room, an order that is carried out fits. -/
theorem Order.fits_of_leavesRoom {order : Order} {s after t : Store} {now : Instant} {actor : Actor}
    {b : Booking} (room : s.LeavesRoom after t)
    (carried : ∀ w, order.work now actor s b.progress = .ok w → after = s.commit now actor b w) :
    order.Fits now actor b.progress s t := by
  intro d d' hs ht
  refine ⟨room.fits _ d hs, room.grown _ d d' hs ht, fun w work => ?_⟩
  have hafter : after.drivers.find? actor.id = some (d.after actor w) := by
    rw [carried w work, Order.find?_drivers_commit work, hs, Option.map_some]
  have hid : d.id = actor.id := Table.id_of_find? hs
  have hid' : d'.id = actor.id := Table.id_of_find? ht
  rw [d.pickupCount_after_add d' actor w (hid'.trans hid.symm)]
  exact room.room _ d _ d' hs hafter ht

/-- An order that is carried out in two worlds is turned down for the same reason, or does the same
to the booking. -/
theorem World.carryOut_alike {w w' : World} {booking : Int} {event : Event} {actor : Actor}
    {order : Order} (token token' : Token) (now now' : Instant)
    (orders : event.Orders w.store actor booking order) (locks : w'.locks = w.locks)
    (row : w'.store.bookings.find? booking = w.store.bookings.find? booking)
    (terms : w.store.SameTerms w'.store)
    (room : w.store.LeavesRoom (w.carryOut token now actor booking order).1.store w'.store) :
    (w'.carryOut token' now' actor booking order).2.map Booking.untimed =
        (w.carryOut token now actor booking order).2.map Booking.untimed ∧
      event.LeavesAlike booking now now' w.store w'.store
        (w.carryOut token now actor booking order).1.store
        (w'.carryOut token' now' actor booking order).1.store := by
  by_cases isOpen : order.IsOpenTo actor
  · rw [carryOut_of_isOpenTo w token now booking isOpen] at room ⊢
    rw [carryOut_of_isOpenTo w' token' now' booking isOpen]
    have hfree : w'.LockIsFree booking ↔ w.LockIsFree booking := by
      rw [LockIsFree, LockIsFree, locks]
    by_cases free : w.LockIsFree booking
    · rw [lockedUpdate_of_free free] at room ⊢
      rw [lockedUpdate_of_free (hfree.2 free)]
      have hlookUp : w'.store.bookings.lookUp booking = w.store.bookings.lookUp booking := by
        rw [Table.lookUp, Table.lookUp, row]
      unfold Store.revise at room ⊢
      rw [hlookUp]
      cases hfound : w.store.bookings.lookUp booking with
      | error refusal => exact ⟨rfl, .idle⟩
      | ok found =>
        cases found with
        | none => exact ⟨rfl, .idle⟩
        | some b =>
          simp only [hfound] at room ⊢
          have found := (Table.lookUp_eq_ok_iff.1 hfound).2
          have fits : order.Fits now actor b.progress w.store w'.store := by
            apply Order.fits_of_leavesRoom room
            intro writes work
            simp only [work]
          rcases map_eq_map_cases (Order.work_outline terms now now' isOpen fits) with
            ⟨refusal, work', work⟩ | ⟨writes', writes, work', work, hsame⟩
          · simp only [work, work']
            exact ⟨trivial, .idle⟩
          · simp only [work, work']
            refine ⟨?_, .done orders found (row.trans found) work work' hsame⟩
            simp only [Except.map, Booking.untimed_advance, hsame]
    · rw [lockedUpdate_of_held free, lockedUpdate_of_held fun h => free (hfree.1 h)]
      exact ⟨rfl, .idle⟩
  · rw [carryOut_of_not_isOpenTo w token now booking isOpen,
      carryOut_of_not_isOpenTo w' token' now' booking isOpen]
    exact ⟨rfl, .idle⟩

namespace Service

variable {service other : Service} {x x' : Step} {booking : Int}

/-- A change of a booking that is made in two services is answered in the same way up to times, and
the same is done in both. -/
theorem step_alike (change : x.event.IsChangeOf booking) (again : x'.event = x.event)
    (alike : service.AlikeFor x.event booking other)
    (room : service.world.store.LeavesRoom (service.step x).1.world.store other.world.store) :
    (service.step x).2.SameUpToTimes (other.step x').2 ∧
      x.event.LeavesAlike booking x.now x'.now service.world.store other.world.store
        (service.step x).1.world.store (other.step x').1.world.store := by
  have h := step_comesAlike change again alike
  generalize service.step x = result at h room ⊢
  generalize other.step x' = result' at h ⊢
  cases h with
  | idle world world' same =>
    rw [world, world', same]
    exact ⟨.same _, .idle⟩
  | ordered answer sameAnswer orders world outcome world' outcome' =>
    rw [world] at room
    obtain ⟨hanswer, hleaves⟩ := World.carryOut_alike x.token x'.token x.now x'.now orders
      alike.locks alike.row alike.terms room
    rw [world, world', outcome, outcome']
    exact ⟨sameAnswer hanswer, hleaves⟩

end Service

end WastePickup
