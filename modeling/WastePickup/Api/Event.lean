import WastePickup.Api.Service
import WastePickup.Sample

/-!
# Events

Everything that can happen to the service: a request, a call that does without one, the filling of
an empty store, another writer who takes or drops the lock of a booking, and the end of the minute
over which the requests to a path are counted. Each event happens at an instant and brings the token
under which its own locks are taken; the other writer has a token of his own.

The clock of the counts is not the one that stamps rows, and the minute of a path begins with its
first request, so the end of a minute is an event of its own and may come at any point of a run.

`Service.run` is a run of any length, and `Service.outcomes` is what it answers.

* `run_append`: a run in two parts is one run.
-/

namespace WastePickup

/-- Something that happens to the service. -/
inductive Event where
  | request (request : Request)
  /-- An action on a booking, without a form. -/
  | act (actor : Actor) (booking : Int) (action : Action) (given : Particulars)
  /-- An update by an admin, without a form. -/
  | adminUpdate (actor : Actor) (booking : Int) (request : AdminRequest)
  | list (filter : BookingFilter) (page size : Int)
  | seed
  /-- Another writer takes the lock of a booking. -/
  | hold (booking : Int)
  /-- Another writer drops the lock of a booking. -/
  | drop (booking : Int)
  /-- The minute is over in which the requests to a path have been counted. -/
  | forget (path : String)

/-- What an event answers. -/
inductive Outcome where
  | response (response : Response)
  | booking (b : Booking)
  | refused (refusal : Refusal)
  | listed (ids : List Int) (total : Nat)
  | seeded (report : List String)
  | held (b : Bool)
  /-- The count of a path begins anew. -/
  | forgotten
  | broken (breakdown : Breakdown)

namespace Outcome

/-- The outcome of a request. -/
def ofReply : Reply → Outcome
  | .ok r => .response r
  | .error breakdown => .broken breakdown

/-- The outcome of a refusal. -/
def ofRefusal (refusal : Refusal) : Outcome :=
  match refusal.breakdown? with
  | some breakdown => .broken breakdown
  | none => .refused refusal

/-- The outcome of an update of a booking. -/
def ofUpdate : Except Refusal Booking → Outcome
  | .ok b => .booking b
  | .error refusal => ofRefusal refusal

/-- The outcome of a list. -/
def ofList : Except Refusal (List Booking × Nat) → Outcome
  | .ok (bookings, total) => .listed (bookings.map Booking.id) total
  | .error refusal => ofRefusal refusal

end Outcome

/-- An event, when it happens, and the token of its locks. -/
structure Step where
  token : Token
  now : Instant
  event : Event

namespace Service

/-- The token of the other writer. -/
def otherWriter : Token := ⟨0⟩

/-- The service with another world. -/
def withWorld (service : Service) (world : World) : Service :=
  { service with world }

/-- The service with other locks. -/
def withLocks (service : Service) (locks : LockStore) : Service :=
  service.withWorld ⟨service.world.store, locks⟩

/-- The lock of a booking as the other writer takes it. -/
def otherLock (booking : Int) : Lock :=
  Lock.forBooking booking Lock.defaultTtl otherWriter

/-- The service after an event, and what the event answers. -/
def step (service : Service) (s : Step) : Service × Outcome :=
  let world := service.world
  match s.event with
  | .request request =>
    let (next, reply) := service.serve s.token s.now request
    (next, .ofReply reply)
  | .act actor booking action given =>
    let (next, answer) := world.applyAction s.token s.now actor booking action given
    (service.withWorld next, .ofUpdate answer)
  | .adminUpdate actor booking request =>
    let (next, answer) := world.updateAsAdmin s.token s.now actor booking request
    (service.withWorld next, .ofUpdate answer)
  | .list filter page size => (service, .ofList (world.store.pageAndTotal filter page size))
  | .seed =>
    match world.store.seed s.now with
    | .ok (store, report) => (service.withWorld ⟨store, world.locks⟩, .seeded report)
    | .error breakdown => (service, .broken breakdown)
  | .hold booking =>
    (service.withLocks ((world.locks.acquire (otherLock booking)).getD world.locks), .held true)
  | .drop booking => (service.withLocks (world.locks.release (otherLock booking)), .held false)
  | .forget path => (service.forget path, .forgotten)

/-- The service after a run of events. -/
def run (service : Service) (steps : List Step) : Service :=
  steps.foldl (fun service s => (service.step s).1) service

/-- What the events of a run answer, one after the other. -/
def outcomes (service : Service) : List Step → List Outcome
  | [] => []
  | s :: rest => (service.step s).2 :: (service.step s).1.outcomes rest

/-- A run begins with its first event. -/
@[simp] theorem run_cons (service : Service) (s : Step) (rest : List Step) :
    service.run (s :: rest) = (service.step s).1.run rest := rfl

/-- A run in two parts is one run. -/
theorem run_append (service : Service) (first second : List Step) :
    service.run (first ++ second) = (service.run first).run second :=
  List.foldl_append

end Service

end WastePickup
