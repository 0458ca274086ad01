import WastePickup.Calendar.Instant
import WastePickup.Status
import WastePickup.Store.Table

/-!
# Bookings

A booking has two parts. `Pickup` is what the customer asked for: who, where, when and what it was
estimated at; it is written once. `Progress` is how far the booking has come: its status, driver,
category, weight, amount and stamps; this is all that anybody changes afterwards.

The status of a row is kept as the text that was stored, because older rows hold older names and a
row may hold a text that is no status at all.

* `advance_pickup`, `advance_id`: a change of progress leaves the pickup and the number alone.
* `advance_progress`: the columns that change are written, and all others are left as they are.
* `advance_of_same`: writing what is there already is no change, and does not move the time of
  the last update, unless a number had to be rounded.
-/

namespace WastePickup

/-! ## Stored numbers

A store has one zero and no value that is not a number: such a value is stored as none. -/

/-- A float as it comes back from the store. -/
def storedFloat (x : Float) : Option Float :=
  if x != x then none else if x == 0.0 then some 0.0 else some x

/-- A float that may be missing, as it comes back from the store. -/
def storedFloat? (x : Option Float) : Option Float :=
  x.bind storedFloat

/-- Whether a number that is written is, or equals, the one that is there. -/
def sameFloat (old new : Option Float) : Bool :=
  match old, new with
  | none, none => true
  | some a, some b => a = b || a == b
  | _, _ => false

/-- A stored number is the same as itself. -/
@[simp] theorem sameFloat_self (x : Option Float) : sameFloat x x = true := by
  cases x <;> simp [sameFloat]

/-- What is in the store after a number has been written over another. -/
def ontoFloat (old new : Option Float) : Option Float :=
  if sameFloat old new then old else storedFloat? new

/-- A stored number written over itself is kept. -/
@[simp] theorem ontoFloat_self (x : Option Float) : ontoFloat x x = x := by
  simp [ontoFloat]

/-! ## The two parts of a booking -/

/-- What a customer asked for. -/
structure Pickup where
  user : Int
  estimatedWeight : Option String
  estimatedMin : Option Float
  estimatedMax : Option Float
  addressLine1 : String
  city : String
  postalCode : String
  phone : Option String
  specialInstructions : Option String
  scheduledDate : Date
  scheduledTimeSlot : String
  lat : Option Float
  lng : Option Float
  createdAt : Instant
  deriving DecidableEq

/-- How far a booking has come. -/
structure Progress where
  /-- The stored text. -/
  status : String
  driver : Option Int
  wasteCategory : Int
  weight : Option Float
  amount : Option Float
  cancelReason : Option String
  confirmedAt : Option Instant
  deriving DecidableEq

namespace Progress

/-- The status of the booking; none if the stored text is not a status. -/
def status? (p : Progress) : Option Status :=
  Status.ofStored? p.status

/-- Whether writing `new` over `old` changes no column. -/
def same (old new : Progress) : Bool :=
  old.status = new.status && old.driver = new.driver && old.wasteCategory = new.wasteCategory &&
    sameFloat old.weight new.weight && sameFloat old.amount new.amount &&
    old.cancelReason = new.cancelReason && old.confirmedAt = new.confirmedAt

/-- The progress as it comes back from the store. -/
def settled (p : Progress) : Progress :=
  { p with weight := storedFloat? p.weight, amount := storedFloat? p.amount }

/-- What is in the store after `new` has been written over `old`: only columns that change are
written. -/
def onto (new old : Progress) : Progress :=
  { new.settled with
    weight := ontoFloat old.weight new.weight
    amount := ontoFloat old.amount new.amount }

/-- What is written over a progress has the status that is written. -/
@[simp] theorem onto_status (new old : Progress) : (new.onto old).status = new.status := rfl

/-- What is written over a progress has the driver that is written. -/
@[simp] theorem onto_driver (new old : Progress) : (new.onto old).driver = new.driver := rfl

/-- What is written over a progress reads as the status that is written. -/
@[simp] theorem status?_onto (new old : Progress) : (new.onto old).status? = new.status? := rfl

/-- A progress is the same as itself. -/
theorem same_self (p : Progress) : p.same p = true := by
  simp [same]

/-- Writing a progress over itself changes nothing. -/
@[simp] theorem onto_self (p : Progress) : p.onto p = p := by
  simp [onto, settled]

/-- Where no column changes, what was there stays. -/
theorem onto_of_same {old new : Progress} (h : old.same new = true) : new.onto old = old := by
  simp only [same, Bool.and_eq_true, decide_eq_true_eq] at h
  obtain ⟨⟨⟨⟨⟨⟨hs, hd⟩, hc⟩, hw⟩, ha⟩, hr⟩, ht⟩ := h
  simp only [onto, settled, ontoFloat, hw, ha, if_true, ← hs, ← hd, ← hc, ← hr, ← ht]

end Progress

/-- A stored booking. -/
structure Booking where
  id : Int
  pickup : Pickup
  progress : Progress
  updatedAt : Instant
  deriving DecidableEq

namespace Booking

instance : Row Booking where
  id := Booking.id

/-- The number of the row of a booking is that of the booking. -/
@[simp] theorem row_id (b : Booking) : Row.id b = b.id := rfl

/-- The status of the booking; none if the stored text is not a status. -/
def status? (b : Booking) : Option Status :=
  b.progress.status?

/-- Write a progress. The time of the last update moves only if a column changes, or if a number
that is written was rounded, so that it differs from what is there whatever that is. -/
def advance (now : Instant) (b : Booking) (p : Progress) (rounded : Bool) : Booking :=
  if b.progress.same p && !rounded then b
  else { b with progress := p.onto b.progress, updatedAt := now }

/-- A booking that advances keeps its number. -/
@[simp] theorem advance_id (now : Instant) (b : Booking) (p : Progress) (rounded : Bool) :
    (b.advance now p rounded).id = b.id := by
  unfold advance; split <;> rfl

/-- A change of progress leaves the pickup alone. -/
@[simp] theorem advance_pickup (now : Instant) (b : Booking) (p : Progress) (rounded : Bool) :
    (b.advance now p rounded).pickup = b.pickup := by
  unfold advance; split <;> rfl

/-- The columns that change are written, and all others are left as they are. -/
@[simp] theorem advance_progress (now : Instant) (b : Booking) (p : Progress) (rounded : Bool) :
    (b.advance now p rounded).progress = p.onto b.progress := by
  unfold advance
  split
  · rename_i h
    simp only [Bool.and_eq_true] at h
    rw [Progress.onto_of_same h.1]
  · rfl

/-- A booking that advances stands where its new progress does. -/
@[simp] theorem advance_status? (now : Instant) (b : Booking) (p : Progress) (rounded : Bool) :
    (b.advance now p rounded).status? = p.status? := by
  rw [status?, advance_progress, Progress.status?_onto]

/-- Writing what is there already is no change. -/
theorem advance_of_same {now : Instant} {b : Booking} {p : Progress}
    (h : b.progress.same p = true) : b.advance now p false = b := by
  simp [advance, h]

end Booking

end WastePickup
