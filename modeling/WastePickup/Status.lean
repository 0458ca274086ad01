import WastePickup.Role
import WastePickup.Text.Quoted

/-!
# Booking statuses

A booking goes through seven statuses. Stored rows may also carry two older names, `SCHEDULED`
for a created booking and `PAID` for a collected one. `StoredStatus` is the list of names that may
stand in a row, `Status` the list that decisions are taken on, and `StoredStatus.canonical` maps
the first onto the second.

* `canonical_stored`: a canonical status stored under its own name reads back as itself.
* `mem_aliases_iff`: the aliases of a status are exactly the stored names that read back as it.

A row may hold any text, so reading a row (`Status.ofStored?`) can fail. So can reading a status
from any value at all (`Status.read`): only the exact name of a stored status is one, and everything
else is reported with the value that was found.

On a screen a status has a label. A customer does not see that a driver has been assigned, and sees
a collected booking as one whose payment is due; everybody else sees the working names.
-/

namespace WastePickup

/-- Where a booking stands. -/
inductive Status where
  | created
  | assigned
  | inProgress
  | collected
  | completed
  | cancelled
  | refunded
  deriving DecidableEq

/-- The names that may stand in a stored row, older ones included. -/
inductive StoredStatus where
  | scheduled
  | assigned
  | created
  | inProgress
  | collected
  | paid
  | completed
  | cancelled
  | refunded
  deriving DecidableEq

namespace Status

/-- The written form of a status. -/
def name : Status → String
  | created => "CREATED"
  | assigned => "ASSIGNED"
  | inProgress => "IN_PROGRESS"
  | collected => "COLLECTED"
  | completed => "COMPLETED"
  | cancelled => "CANCELLED"
  | refunded => "REFUNDED"

instance : Named Status where
  all := [created, assigned, inProgress, collected, completed, cancelled, refunded]
  name := name
  mem_all a := by cases a <;> simp
  name_injective a b := by cases a <;> cases b <;> simp [name]

/-- The name under which a status is stored today. -/
def stored : Status → StoredStatus
  | created => .created
  | assigned => .assigned
  | inProgress => .inProgress
  | collected => .collected
  | completed => .completed
  | cancelled => .cancelled
  | refunded => .refunded

/-- A booking in a closed status takes no driver and no amounts any more. -/
def isClosed : Status → Bool
  | completed | cancelled | refunded => true
  | _ => false

/-- The pickup is over and paid for. -/
def isCompleted (status : Status) : Bool :=
  status = completed

/-- The waste has been collected and the customer is still to be paid. -/
def isPaymentDue (status : Status) : Bool :=
  status = collected

end Status

namespace StoredStatus

/-- The written form of a stored status. -/
def name : StoredStatus → String
  | scheduled => "SCHEDULED"
  | assigned => "ASSIGNED"
  | created => "CREATED"
  | inProgress => "IN_PROGRESS"
  | collected => "COLLECTED"
  | paid => "PAID"
  | completed => "COMPLETED"
  | cancelled => "CANCELLED"
  | refunded => "REFUNDED"

instance : Named StoredStatus where
  all := [scheduled, assigned, created, inProgress, collected, paid, completed, cancelled,
    refunded]
  name := name
  mem_all a := by cases a <;> simp
  name_injective a b := by cases a <;> cases b <;> simp [name]

/-- The status that a stored name stands for. -/
def canonical : StoredStatus → Status
  | scheduled | created => .created
  | assigned => .assigned
  | inProgress => .inProgress
  | collected | paid => .collected
  | completed => .completed
  | cancelled => .cancelled
  | refunded => .refunded

/-- Whether the name is one of the two that are no longer given. -/
def isLegacy : StoredStatus → Bool
  | scheduled | paid => true
  | _ => false

/-- A canonical status stored under its own name reads back as itself. -/
@[simp] theorem canonical_stored (status : Status) : status.stored.canonical = status := by
  cases status <;> rfl

end StoredStatus

namespace Status

/-- The canonical name and the stored name of a status are the same text. -/
@[simp] theorem name_stored (status : Status) : status.stored.name = status.name := by
  cases status <;> rfl

/-- The stored names that read back as a status, in declared order. -/
def aliases (status : Status) : List StoredStatus :=
  (Named.all : List StoredStatus).filter fun s => s.canonical = status

/-- The aliases of a status are the stored names that read back as it. -/
theorem mem_aliases_iff {status : Status} {s : StoredStatus} :
    s ∈ status.aliases ↔ s.canonical = status := by
  simp [aliases, Named.mem_all]

/-- The status of a stored row; none when the row holds a name outside the list. -/
def ofStored? (text : String) : Option Status :=
  (Named.ofName? text : Option StoredStatus).map StoredStatus.canonical

/-- Writing a status and reading it again changes nothing. -/
@[simp] theorem ofStored?_name (status : Status) : ofStored? status.name = some status := by
  have h : (Named.ofName? status.name : Option StoredStatus) = some status.stored :=
    Named.ofName?_eq_some_iff.2 (name_stored status)
  simp [ofStored?, h]

/-! ## Labels -/

/-- The label shown to customers. -/
def customerLabel : Status → String
  | created | assigned => "Scheduled"
  | inProgress => "In Progress"
  | collected => "Payment Due"
  | completed => "Completed"
  | cancelled => "Cancelled"
  | refunded => "Refunded"

/-- The label shown to staff, and where no viewer is known. -/
def staffLabel : Status → String
  | created => "Created"
  | assigned => "Assigned"
  | inProgress => "In Progress"
  | collected => "Collected"
  | completed => "Completed"
  | cancelled => "Cancelled"
  | refunded => "Refunded"

/-- The label of a status as one viewer sees it. -/
def label (status : Status) (viewer : Option Role) : String :=
  if viewer = some .customer then status.customerLabel else status.staffLabel

end Status

/-! ## Reading a status from any value -/

/-- A value that should have been a stored status and is not. -/
structure UnknownStatus where
  found : Json

/-- The report shows the value that was found. -/
def UnknownStatus.message (unknown : UnknownStatus) : String :=
  "Unknown booking status: " ++ unknown.found.shown

/-- The stored status that a value names. -/
def StoredStatus.read (value : Json) : Except UnknownStatus StoredStatus :=
  match value with
  | .str (.proper text) =>
    match Named.ofName? text with
    | some stored => .ok stored
    | none => .error ⟨value⟩
  | _ => .error ⟨value⟩

/-- The status that a value stands for. -/
def Status.read (value : Json) : Except UnknownStatus Status :=
  (StoredStatus.read value).map StoredStatus.canonical

end WastePickup
