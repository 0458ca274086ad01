import WastePickup.Availability
import WastePickup.Json
import WastePickup.Number.Given
import WastePickup.Store.Lookup
import WastePickup.Text.Blank

/-!
# Working on a booking

What an action does to a booking, computed from the store and the booking as it stands, and written
nowhere yet. A piece of work gives `Writes`: the new progress of the booking, at most one driver row
and at most one status change to be recorded. Whoever holds the booking's lock commits them
together or not at all.

* `perform`: check who asks, plan the move from the stored status, apply the side effects of the
  action and move the status.
* `adminWork`: an optional action, then a driver swap, then a correction of weight and amount, all
  on the result of what came before.
-/

namespace WastePickup

/-- The particulars of an action. -/
structure Particulars where
  driver : Option Int
  weight : Option Number.Given
  amount : Option Number.Given
  wasteCategory : Option Int
  reason : Option Json.Text
  deriving DecidableEq

/-- No particulars. -/
def Particulars.none : Particulars :=
  ⟨.none, .none, .none, .none, .none⟩

/-- The side effects of an action: the progress, with its status still the old one, and a driver row
if one changes. -/
structure Effect where
  progress : Progress
  driver : Option Driver
  /-- Whether a number that was put in had to be rounded. -/
  rounded : Bool
  deriving DecidableEq

/-- What a piece of work writes. -/
structure Writes where
  progress : Progress
  driver : Option Driver
  /-- The move to record, if the status moves. -/
  move : Option Move
  /-- Whether a number that is written had to be rounded. -/
  rounded : Bool
  deriving DecidableEq

/-- What an admin may ask for in one go. -/
structure AdminRequest where
  action : Option Action
  driver : Option Int
  weight : Option Number.Given
  amount : Option Number.Given
  deriving DecidableEq

namespace Store

/-- Whether a driver may be given work. -/
def requireApproved (s : Store) (driver : Int) : Except Refusal Unit :=
  match s.drivers.lookUp driver with
  | .error refusal => .error refusal
  | .ok none => .error .driverNotFound
  | .ok (some d) => if d.approved then .ok () else .error .driverNotApproved

/-- The row of a driver with a new availability and some more pickups, if there is such a driver. -/
def driverWith (s : Store) (driver : Option Int) (status : Availability) (pickups : Int) :
    Option Driver :=
  match driver with
  | none => none
  | some id =>
    (s.drivers.find? id).map fun d =>
      { d with status := status.name, pickupCount := d.pickupCount + pickups }

/-- The float that is written for a number. -/
def written (given : Number.Given) : Except Refusal Float :=
  match given.value? with
  | none => .error (.broken .amountTooLarge)
  | some x => .ok x

/-- The float that is written for a number that may be missing. -/
def written? (given : Option Number.Given) : Except Refusal (Option Float) :=
  match given with
  | none => .ok none
  | some g => (written g).map some

/-- Whether a number has to be rounded to be written. -/
def isRounded (given : Option Number.Given) : Bool :=
  given.any fun g => !g.isExact

/-- Put in a weight and an amount. A weight without an amount is priced, if its category has a
band. -/
def withAmounts (s : Store) (weight amount : Option Number.Given) (p : Progress) :
    Except Refusal Progress := do
  let w ← written? weight
  let a ← written? amount
  let priced := w.bind fun x => Band.amount? (s.band? p.wasteCategory) (some x)
  return { p with weight := w <|> p.weight, amount := a <|> priced <|> p.amount }

/-! ## Side effects -/

/-- Assigning puts in an approved driver. -/
def assignEffect (s : Store) (given : Particulars) (p : Progress) : Except Refusal Effect :=
  match given.driver with
  | none => .error .driverRequired
  | some driver => do
    s.requireApproved driver
    return ⟨{ p with driver := some driver }, none, false⟩

/-- Starting sends the driver on a pickup. -/
def startEffect (s : Store) (p : Progress) : Effect :=
  ⟨p, s.driverWith p.driver .onPickup 0, false⟩

/-- The category that is collected: the one that was found, unless none or the number zero is
given. -/
def collectedCategory (given : Particulars) (p : Progress) : Int :=
  match given.wasteCategory with
  | none => p.wasteCategory
  | some category => if category = 0 then p.wasteCategory else category

/-- A category that was found instead of the booking's has to exist. -/
def requireCategory (s : Store) (category : Int) (p : Progress) : Except Refusal Unit :=
  if category = p.wasteCategory then .ok ()
  else
    match s.categories.lookUp category with
    | .error refusal => .error refusal
    | .ok none => .error .categoryNotFound
    | .ok (some _) => .ok ()

/-- The weight that is priced and written. A weight above all floats cannot be priced; one below all
of them is priced like none, and then cannot be written. -/
def pricedWeight (given : Number.Given) : Except Refusal Float :=
  match given.value? with
  | some x => .ok x
  | none => .error (.broken (if given.isAboveZero then .numberTooLarge else .amountTooLarge))

/-- Collecting weighs and prices the waste. The first time, the driver is online again and has one
pickup more. -/
def collectEffect (s : Store) (move : Move) (given : Particulars) (p : Progress) :
    Except Refusal Effect :=
  match given.weight with
  | none => .error .weightRequired
  | some weight => do
    let category := collectedCategory given p
    s.requireCategory category p
    match s.band? category with
    | none => .error .pricingMissing
    | some band => do
      let w ← pricedWeight weight
      let amount := band.amount (some w)
      return ⟨{ p with weight := some w, amount := some amount, wasteCategory := category },
        if move.changed then s.driverWith p.driver .online 1 else none, !weight.isExact⟩

/-- Completing needs a driver, a weight and an amount, and stamps the booking. -/
def completeEffect (s : Store) (now : Instant) (given : Particulars) (p : Progress) :
    Except Refusal Effect :=
  if p.driver = none then .error .driverMissing
  else if given.weight = none ∧ p.weight = none then .error .amountMissing
  else do
    let q ← s.withAmounts given.weight given.amount p
    if q.amount = none then .error .amountMissing
    else
      return ⟨{ q with confirmedAt := some (q.confirmedAt.getD now) }, none,
        isRounded given.weight || isRounded given.amount⟩

/-- The reason that is kept: trimmed, and only if something is left. A text that is no string cannot
be kept. -/
def keptReason (given : Particulars) (p : Progress) : Except Refusal (Option String) :=
  match given.reason with
  | none => .ok p.cancelReason
  | some (.broken _) => .error (.broken .textNotEncodable)
  | some (.proper s) =>
    let reason := Text.trim Text.isBlank s
    .ok (if reason = "" then p.cancelReason else some reason)

/-- Cancelling keeps a reason; a driver who cancels is online again. -/
def cancelEffect (s : Store) (role : Role) (given : Particulars) (p : Progress) :
    Except Refusal Effect := do
  return ⟨{ p with cancelReason := ← keptReason given p },
    if role = .driver then s.driverWith p.driver .online 0 else none, false⟩

/-- The side effects of an action that is open. -/
def effect (s : Store) (now : Instant) (role : Role) (move : Move) (given : Particulars)
    (p : Progress) : Except Refusal Effect :=
  match move.action with
  | .assign => s.assignEffect given p
  | .start => .ok (s.startEffect p)
  | .collect => s.collectEffect move given p
  | .complete => s.completeEffect now given p
  | .cancel => s.cancelEffect role given p
  | .refund => .ok ⟨p, none, false⟩

/-! ## Work -/

/-- Plan an action from the stored status. -/
def planMove (role : Role) (action : Action) (p : Progress) : Except Refusal Move :=
  match p.status? with
  | none => .error (.unknownStatus p.status)
  | some status => (Move.plan status role action).mapError .transition

/-- A move is recorded at once, so what it writes has to fit: who made it, and how many pickups a
driver has. -/
def requireRecordable (actor : Actor) (move : Move) (effect : Effect) : Except Refusal Unit :=
  if move.changed then do
    requireFits actor.id
    match effect.driver with
    | none => .ok ()
    | some d => requireFits d.pickupCount
  else .ok ()

/-- Take an action: who asks, the move, the side effects, the new status. -/
def perform (s : Store) (now : Instant) (actor : Actor) (action : Action) (given : Particulars)
    (p : Progress) : Except Refusal Writes :=
  if actor.role = .driver ∧ p.driver ≠ some actor.id then .error .notAssignedToDriver
  else do
    let move ← planMove actor.role action p
    let effect ← s.effect now actor.role move given p
    requireRecordable actor move effect
    return ⟨{ effect.progress with status := move.target.name }, effect.driver,
      if move.changed then some move else none, effect.rounded⟩

/-- Nothing may be changed any more on a closed booking. -/
def requireOpen (refusal : Refusal) (p : Progress) : Except Refusal Unit :=
  match p.status? with
  | none => .error (.unknownStatus p.status)
  | some status => if status.isClosed then .error refusal else .ok ()

/-- Swap the driver, if another one is given. -/
def swapDriver (s : Store) (driver : Option Int) (p : Progress) : Except Refusal Progress :=
  match driver with
  | none => .ok p
  | some id =>
    if p.driver = some id then .ok p
    else do
      requireOpen .closedToDrivers p
      s.requireApproved id
      return { p with driver := some id }

/-- Correct weight and amount, if one of them is given. -/
def correctAmounts (s : Store) (weight amount : Option Number.Given) (p : Progress) :
    Except Refusal Progress :=
  if weight = none ∧ amount = none then .ok p
  else do
    requireOpen .closedToAmounts p
    s.withAmounts weight amount p

/-- An action if one is asked for, else nothing yet. -/
def adminAction (s : Store) (now : Instant) (actor : Actor) (request : AdminRequest)
    (p : Progress) : Except Refusal Writes :=
  match request.action with
  | none => .ok ⟨p, none, none, false⟩
  | some action =>
    s.perform now actor action ⟨request.driver, request.weight, request.amount, none, none⟩ p

/-- Action, driver swap and correction, one after the other. Completing has already put in the
amounts it was given. -/
def adminWork (s : Store) (now : Instant) (actor : Actor) (request : AdminRequest) (p : Progress) :
    Except Refusal Writes := do
  let writes ← s.adminAction now actor request p
  let swapped ← s.swapDriver request.driver writes.progress
  let corrected ←
    if request.action = some .complete then pure swapped
    else s.correctAmounts request.weight request.amount swapped
  return { writes with
    progress := corrected
    rounded := isRounded request.weight || isRounded request.amount }

end Store

end WastePickup
