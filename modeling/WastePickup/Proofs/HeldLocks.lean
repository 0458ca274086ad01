import Mathlib
import WastePickup.Proofs.Alike
import WastePickup.Proofs.Asking
import WastePickup.Proofs.Bookings
import WastePickup.Proofs.LockOwners

/-!
# Requests and locks that are held

A request takes the lock of a booking for its own work and drops it again, however the work ends. So
the locks are the same before and after, and what is held belongs to somebody else. While somebody
else holds the lock of a booking, the booking stays as it is: its one writer is the work under the
lock, and that is turned down. Whatever is about other bookings takes no notice, since every booking
has a key of its own.

* `Service.step_locks`: a call leaves the locks as they are.
* `Service.step_of_held`: an order on a booking whose lock is held leaves the world as it is.
* `Service.step_withLocks`: a call depends only on whether the lock of the booking is free that it
  has an order on.
* `held_locks_are_respected`: what a call does about a lock that is held.
-/

namespace WastePickup

/-! ## Keys of bookings -/

namespace Lock

/-- The key of the lock that guards a booking. -/
def bookingKey (booking : Int) : String :=
  "lock:booking:" ++ toString booking

/-- The lock of a booking is held under the key of the booking. -/
theorem key_forBooking (booking ttl : Int) (token : Token) :
    (forBooking booking ttl token).key = bookingKey booking := by
  show "lock:" ++ ("booking:" ++ toString booking) = "lock:booking:" ++ toString booking
  rw [← String.append_assoc]
  rfl

/-- Every booking has a key of its own. -/
theorem bookingKey_injective : Function.Injective bookingKey := by
  intro booking other h
  apply Int.repr_injective
  exact (String.append_right_inj "lock:booking:").1 h

end Lock

namespace World

variable {w : World} {token : Token} {now : Instant} {actor : Actor} {booking : Int}
  {order : Order}

/-- The lock of a booking is free if nobody holds its key. -/
theorem lockIsFree_iff :
    w.LockIsFree booking ↔ w.locks.holder? (Lock.bookingKey booking) = none := by
  constructor
  · intro free
    rw [← Lock.key_forBooking booking updateTtl ⟨0⟩]
    exact free updateTtl ⟨0⟩
  · intro free ttl token
    rw [Lock.key_forBooking]
    exact free

/-! ## Orders under a lock that is held -/

/-- An order on a booking whose lock is held is turned down. -/
theorem carryOut_of_held (isOpen : order.IsOpenTo actor) (held : ¬w.LockIsFree booking) :
    w.carryOut token now actor booking order = (w, .error (.bookingLocked booking)) := by
  rw [w.carryOut_of_isOpenTo token now booking isOpen]
  exact lockedUpdate_of_held held _

/-- It leaves the world as it is, whoever gives it. -/
theorem carryOut_fst_of_held (order : Order) (held : ¬w.LockIsFree booking) :
    (w.carryOut token now actor booking order).1 = w := by
  by_cases isOpen : order.IsOpenTo actor
  · rw [carryOut_of_held isOpen held]
  · rw [w.carryOut_of_not_isOpenTo token now booking isOpen]

/-- What becomes of an order depends on whether the lock of its booking is free, and on no other
lock. -/
theorem carryOut_withLocks (token : Token) (now : Instant) (actor : Actor) (order : Order)
    {locks : LockStore} (same : locks.holder? (Lock.bookingKey booking) = none ↔
      w.locks.holder? (Lock.bookingKey booking) = none) :
    World.carryOut ⟨w.store, locks⟩ token now actor booking order =
      (⟨(w.carryOut token now actor booking order).1.store, locks⟩,
        (w.carryOut token now actor booking order).2) := by
  by_cases isOpen : order.IsOpenTo actor
  · rw [w.carryOut_of_isOpenTo token now booking isOpen,
      World.carryOut_of_isOpenTo _ token now booking isOpen]
    by_cases free : w.LockIsFree booking
    · have free' : World.LockIsFree ⟨w.store, locks⟩ booking :=
        lockIsFree_iff.2 (same.2 (lockIsFree_iff.1 free))
      rw [lockedUpdate_of_free free, lockedUpdate_of_free free']
    · have held' : ¬World.LockIsFree ⟨w.store, locks⟩ booking := fun free' =>
        free (lockIsFree_iff.2 (same.1 (lockIsFree_iff.1 free')))
      rw [lockedUpdate_of_held free, lockedUpdate_of_held held']
  · rw [w.carryOut_of_not_isOpenTo token now booking isOpen,
      World.carryOut_of_not_isOpenTo _ token now booking isOpen]

end World

/-- What a command comes to depends on no lock but that of the booking that it has an order on. -/
theorem Command.run_withLocks {w : World} {token : Token} {now : Instant} {actor : Actor}
    {command : Command} {locks : LockStore}
    (same : ∀ booking order, command.order? w.store = some (booking, order) →
      (locks.holder? (Lock.bookingKey booking) = none ↔
        w.locks.holder? (Lock.bookingKey booking) = none)) :
    Prod.map World.store id (command.run ⟨w.store, locks⟩ token now actor) =
      Prod.map World.store id (command.run w token now actor) := by
  rcases command.run_cases w.store now actor with
    ⟨booking, order, order?, h⟩ | ⟨-, result, -, h⟩
  · rw [h locks token, h w.locks token]
    have hcarry := World.carryOut_withLocks token now actor order (same booking order order?)
    generalize World.carryOut ⟨w.store, w.locks⟩ token now actor booking order = result at hcarry ⊢
    rw [hcarry]
    obtain ⟨next, refusal | b⟩ := result
    · rfl
    · rfl
  · rw [h locks token, h w.locks token]
    rcases result with refusal | ⟨t, answer⟩
    · rfl
    · rfl

/-! ## Events -/

namespace Event

/-- The event is a request or another call of the service, or a count that begins anew. What is left
are the doings of the other writer. -/
def IsCall : Event → Prop
  | request _ | act _ _ _ _ | adminUpdate _ _ _ | list _ _ _ | seed | forget _ => True
  | hold _ | drop _ => False

/-- How a call is answered that comes to a booking whose lock is held. -/
def busy (booking : Int) : Event → Outcome
  | request _ => .response (.detail 409
      ("Booking " ++ toString booking ++ " is being updated by another request"))
  | _ => .refused (.bookingLocked booking)

end Event

namespace Service

variable {service : Service} {booking : Int}

/-- An event gets as far as the work on a booking under its lock. -/
inductive Attempts (service : Service) : Event → Int → Prop where
  | request {r : Request} {actor : Actor} {command : Command} {booking : Int} {order : Order}
      (asks : r.Asks actor command)
      (unlimited : service.servedAt (Target.ofText r.target).path < limit)
      (order? : command.order? service.world.store = some (booking, order)) :
      Attempts service (.request r) booking
  | act {actor : Actor} {booking : Int} {action : Action} {given : Particulars} :
      Attempts service (.act actor booking action given) booking
  | update {actor : Actor} {booking : Int} {request : AdminRequest}
      (isAdmin : actor.role.isAdmin = true) :
      Attempts service (.adminUpdate actor booking request) booking

/-- A call leaves the locks as they are. -/
theorem step_locks (service : Service) (s : Step) (isCall : s.event.IsCall) :
    (service.step s).1.world.locks = service.world.locks := by
  obtain ⟨token, now, event⟩ := s
  cases event with
  | request r => exact service.serve_locks token now r
  | act actor booking action given =>
    exact service.world.carryOut_locks token now booking actor (.act action given)
  | adminUpdate actor booking request =>
    exact service.world.carryOut_locks token now booking actor (.update request)
  | list filter page size => rfl
  | seed =>
    simp only [step]
    split
    · rfl
    · rfl
  | hold booking => exact isCall.elim
  | drop booking => exact isCall.elim
  | forget path => rfl

/-! ## A booking whose lock is held -/

/-- An order on a booking whose lock is held leaves the world as it is. -/
theorem step_of_held {s : Step} {actor : Actor} {order : Order}
    (orders : s.event.Orders service.world.store actor booking order)
    (held : ¬service.world.LockIsFree booking) :
    (service.step s).1.world = service.world := by
  obtain ⟨token, now, event⟩ := s
  cases orders with
  | act => exact World.carryOut_fst_of_held (.act _ _) held
  | update => exact World.carryOut_fst_of_held (.update _) held
  | @request r _ command _ _ caller read order? =>
    show (service.serve token now r).1.world = service.world
    have h := service.serve_runs token now r
    generalize service.serve token now r = result at h ⊢
    cases h with
    | idle h => exact h
    | @ran next reply actor' command' asks h =>
      obtain rfl : command = command' := Option.some.inj (read.symm.trans asks.command?_eq)
      rw [h]
      rcases command.run_cases service.world.store now actor' with
        ⟨booking', order', order?', hrun⟩ | ⟨order?', -⟩
      · rw [order?] at order?'
        cases order?'
        rw [hrun service.world.locks token, World.shown_fst]
        exact World.carryOut_fst_of_held _ held
      · rw [order?] at order?'
        cases order?'

/-- A call leaves a booking as it is whose lock is held, and adds nothing to its history. -/
theorem step_kept_of_held {s : Step} (held : ¬service.world.LockIsFree booking) {b : Booking}
    (found : service.world.store.bookings.find? booking = some b) :
    (service.step s).1.world.store.bookings.find? booking = some b ∧
      (service.step s).1.world.store.historyOf booking =
        service.world.store.historyOf booking := by
  rcases (service.step_leaves s).continues found with kept | ⟨actor, order, w, orders, -, -⟩
  · exact kept
  · rw [step_of_held orders held]
    exact ⟨found, rfl⟩

/-- An order on such a booking that is given without a request is refused. -/
theorem refused_of_held {token : Token} {now : Instant} {actor : Actor} (order : Order)
    (isOpen : order.IsOpenTo actor) (held : ¬service.world.LockIsFree booking) :
    (service.step ⟨token, now, order.call actor booking⟩).2 =
      .refused (.bookingLocked booking) := by
  rw [step_order, World.carryOut_of_held isOpen held]
  rfl

/-- A call that comes to the work on such a booking is told that it is being updated. -/
theorem busy_of_attempts {s : Step} (attempts : service.Attempts s.event booking)
    (held : ¬service.world.LockIsFree booking) : (service.step s).2 = s.event.busy booking := by
  obtain ⟨token, now, event⟩ := s
  cases attempts with
  | @act actor _ action given =>
    exact refused_of_held (.act action given) trivial held
  | @update actor _ request isAdmin =>
    exact refused_of_held (.update request) isAdmin held
  | @request r actor command _ order asks unlimited order? =>
    have health : command ≠ .health := by
      rintro rfl
      cases order?
    show Outcome.ofReply (service.serve token now r).2 = _
    rw [serve_of_asks token now asks health unlimited]
    rcases command.run_cases service.world.store now actor with
      ⟨booking', order', order?', hrun⟩ | ⟨order?', -⟩
    · rw [order?] at order?'
      cases order?'
      rw [hrun service.world.locks token, World.carryOut_of_held (asks.isOpenTo order?) held]
      rfl
    · rw [order?] at order?'
      cases order?'

/-! ## Calls that are about something else -/

/-- The same service with the lock of a booking free. -/
def unlocked (service : Service) (booking : Int) : Service :=
  service.withLocks (service.world.locks.expire (Lock.bookingKey booking))

/-- What becomes of a request depends on no lock but that of the booking that it orders work on. -/
theorem serve_withLocks (token : Token) (now : Instant) {locks : LockStore} {r : Request}
    (same : ∀ actor booking order,
      (Event.request r).Orders service.world.store actor booking order →
        (locks.holder? (Lock.bookingKey booking) = none ↔
          service.world.locks.holder? (Lock.bookingKey booking) = none)) :
    (service.withLocks locks).serve token now r =
      ((service.serve token now r).1.withLocks locks, (service.serve token now r).2) := by
  have alike : (service.withLocks locks).view World.store = service.view World.store := rfl
  have h : Prod.map (view World.store) id ((service.withLocks locks).serve token now r) =
      Prod.map (view World.store) id (service.serve token now r) := by
    apply serve_congr alike
    intro actor command asks
    apply Command.run_withLocks
    intro booking order order?
    exact same actor booking order (.request asks.caller asks.command?_eq order?)
  have hlocks := (service.withLocks locks).serve_locks token now r
  generalize (service.withLocks locks).serve token now r = result at h hlocks ⊢
  generalize service.serve token now r = result' at h ⊢
  obtain ⟨⟨⟨store, locks'⟩, served⟩, reply⟩ := result
  obtain ⟨⟨⟨store', _⟩, served'⟩, reply'⟩ := result'
  simp only [Prod.map, view, Prod.mk.injEq, id] at h
  obtain ⟨⟨rfl, rfl⟩, rfl⟩ := h
  obtain rfl : locks' = locks := hlocks
  rfl

/-- Nor does what becomes of an order that is given without one. -/
theorem step_order_withLocks {locks : LockStore} {token : Token} {now : Instant} {actor : Actor}
    (order : Order) (same : locks.holder? (Lock.bookingKey booking) = none ↔
      service.world.locks.holder? (Lock.bookingKey booking) = none) :
    (service.withLocks locks).step ⟨token, now, order.call actor booking⟩ =
      ((service.step ⟨token, now, order.call actor booking⟩).1.withLocks locks,
        (service.step ⟨token, now, order.call actor booking⟩).2) := by
  have h := World.carryOut_withLocks token now actor order same
  rw [step_order, step_order]
  show (Service.mk (World.carryOut ⟨service.world.store, locks⟩ token now actor booking order).1 _,
    Outcome.ofUpdate (World.carryOut ⟨service.world.store, locks⟩ token now actor booking order).2)
      = _
  rw [h]
  rfl

/-- What becomes of a call depends on no lock but that of the booking that it orders work on. -/
theorem step_withLocks {locks : LockStore} {s : Step} (isCall : s.event.IsCall)
    (same : ∀ actor booking order, s.event.Orders service.world.store actor booking order →
      (locks.holder? (Lock.bookingKey booking) = none ↔
        service.world.locks.holder? (Lock.bookingKey booking) = none)) :
    (service.withLocks locks).step s =
      ((service.step s).1.withLocks locks, (service.step s).2) := by
  obtain ⟨token, now, event⟩ := s
  cases event with
  | request r =>
    have h := serve_withLocks token now same
    simp only [step, h]
  | act actor booking action given =>
    exact step_order_withLocks (.act action given) (same actor booking _ .act)
  | adminUpdate actor booking request =>
    exact step_order_withLocks (.update request) (same actor booking _ .update)
  | list filter page size => rfl
  | seed =>
    have hstore : (service.withLocks locks).world.store = service.world.store := rfl
    simp only [step, hstore]
    split
    · rfl
    · rfl
  | hold booking => exact isCall.elim
  | drop booking => exact isCall.elim
  | forget path => rfl

end Service

/-- A call leaves the locks as they were. A booking whose lock is held stays as it is, with its
history, and whatever comes to the work on it is told so; and calls that are about anything else
come to what they would come to if the lock were free. -/
theorem held_locks_are_respected (service : Service) (s : Step) (isCall : s.event.IsCall) :
    (service.step s).1.world.locks = service.world.locks ∧
      ∀ booking holding,
        service.world.locks.holder? (Lock.bookingKey booking) = some holding →
          (∀ b, service.world.store.bookings.find? booking = some b →
            (service.step s).1.world.store.bookings.find? booking = some b ∧
              (service.step s).1.world.store.historyOf booking =
                service.world.store.historyOf booking) ∧
          (service.Attempts s.event booking → (service.step s).2 = s.event.busy booking) ∧
          (s.event.subject? ≠ some (.booking booking) →
            (service.unlocked booking).step s =
              ((service.step s).1.unlocked booking, (service.step s).2)) := by
  have hlocks := service.step_locks s isCall
  refine ⟨hlocks, fun booking holding hholder => ?_⟩
  have held : ¬service.world.LockIsFree booking := by
    intro free
    rw [World.lockIsFree_iff.1 free] at hholder
    cases hholder
  refine ⟨fun b found => Service.step_kept_of_held held found,
    fun attempts => Service.busy_of_attempts attempts held, fun other => ?_⟩
  rw [Service.unlocked, Service.unlocked, hlocks]
  apply Service.step_withLocks isCall
  intro actor booking' order orders
  have hne : Lock.bookingKey booking' ≠ Lock.bookingKey booking := by
    intro heq
    rw [orders.subject?, Lock.bookingKey_injective heq] at other
    exact other rfl
  rw [LockStore.holder?_expire_of_ne hne]

/-- A driver who starts while another writer holds the lock of his booking is told so, and neither
the booking nor the locks change. -/
theorem start_waits_for_lock :
    let single := Service.single ⟨"ASSIGNED", some 7, 1, none, none, none, none⟩
    let service := (single.step ⟨⟨1⟩, ⟨1⟩, .hold 1⟩).1
    let request : Request := ⟨"PATCH", "/api/v1/driver/bookings/1/start",
      [("X-Actor-Id", "7"), ("X-Actor-Role", "DRIVER")], .absent⟩
    let start : Step := ⟨⟨2⟩, ⟨2⟩, .request request⟩
    (service.step start).2 =
        .response (.detail 409 "Booking 1 is being updated by another request") ∧
      (service.step start).1.world.store.bookings.find? 1 =
        single.world.store.bookings.find? 1 ∧
      (service.step start).1.world.locks = service.world.locks := by
  intro single service request start
  have hholder : service.world.locks.holder? (Lock.bookingKey 1) = some ⟨⟨0⟩, 10⟩ := by
    decide +kernel
  obtain ⟨hlocks, h⟩ := held_locks_are_respected service start trivial
  obtain ⟨kept, busy, -⟩ := h 1 ⟨⟨0⟩, 10⟩ hholder
  have leads : request.LeadsTo .start "1" := by
    decide +kernel
  have asks : request.Asks ⟨7, .driver⟩ (.start 1) :=
    .intro leads (by decide +kernel) (by decide) (by decide +kernel)
  have attempts : service.Attempts start.event 1 :=
    .request asks (by decide +kernel) rfl
  refine ⟨busy attempts, ?_, hlocks⟩
  exact (kept _ rfl).1

end WastePickup
