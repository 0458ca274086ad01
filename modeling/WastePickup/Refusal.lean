import WastePickup.Transition

/-!
# Refusals

Why a request about bookings is turned down. Each cause has one wording and one response code, both
given here and nowhere else.

A request may also ask for something that the store or the wire cannot hold. It is not refused with
a word to its caller; it breaks down, gets no response, and leaves everything as it was. Such a
breakdown is among the causes, but has no wording, for it is never put to the caller.
-/

namespace WastePickup

/-- Why a request breaks down. -/
inductive Breakdown where
  /-- A whole number is too large for its column or for what is to be computed with it. -/
  | numberTooLarge
  /-- A weight or an amount cannot be written, because it is beyond all floats. -/
  | amountTooLarge
  /-- A row that has to be unique is there already. -/
  | rowExists
  /-- A date lies outside the calendar. -/
  | dateOutOfRange
  /-- A number that is not finite cannot be written in JSON. -/
  | numberNotFinite
  /-- Half of a pair of code units cannot be written in UTF-8. -/
  | textNotEncodable
  deriving DecidableEq

/-- A reason to turn a request down. -/
inductive Refusal where
  | bookingNotFound
  | driverRowNotFound
  | categoryRowNotFound
  /-- Another request holds the lock of the booking. -/
  | bookingLocked (booking : Int)
  /-- A stored row holds a text that is no status. -/
  | unknownStatus (text : String)
  | transition (refusal : TransitionRefusal)
  | notAssignedToDriver
  | otherCustomer
  | adminsOnly
  /-- Assigning needs a driver. -/
  | driverRequired
  | driverNotFound
  | driverNotApproved
  /-- Collecting needs a weight. -/
  | weightRequired
  | categoryNotFound
  | pricingMissing
  /-- Completing needs a driver. -/
  | driverMissing
  /-- Completing needs a weight and an amount. -/
  | amountMissing
  | closedToDrivers
  | closedToAmounts
  | legacyStatus (status : StoredStatus)
  | adminsCannotMoveTo (status : Status)
  | driverCannotComplete
  | driverActionMissing
  | notManualAvailability
  | categoryUnavailable (category : Int)
  /-- Nobody turned the request down; it could not be carried out. -/
  | broken (breakdown : Breakdown)
  deriving DecidableEq

namespace Refusal

/-- The refusal in words; a breakdown has none. -/
def message : Refusal → String
  | bookingNotFound => "Booking not found"
  | driverRowNotFound => "Driver not found"
  | categoryRowNotFound => "Waste category not found"
  | bookingLocked booking =>
    "Booking " ++ toString booking ++ " is being updated by another request"
  | unknownStatus text => UnknownStatus.message ⟨.str text⟩
  | transition refusal => refusal.message
  | notAssignedToDriver => "Booking is not assigned to this driver"
  | otherCustomer => "Booking belongs to another customer"
  | adminsOnly => "Only admins can update bookings"
  | driverRequired => "A driver is required to assign a booking"
  | driverNotFound => "Driver not found"
  | driverNotApproved => "Driver must be approved before assignment"
  | weightRequired => "Weight (kg) is required when marking a booking as collected."
  | categoryNotFound => "Waste category not found"
  | pricingMissing => "Pricing is not configured for this waste category."
  | driverMissing => "Assign a driver before advancing this booking"
  | amountMissing => "Cannot complete a booking without weight and amount."
  | closedToDrivers => "Cannot assign a driver to a closed booking"
  | closedToAmounts => "Cannot change amounts on a closed booking"
  | legacyStatus status => "Legacy status " ++ status.name ++ " is not allowed."
  | adminsCannotMoveTo status => "Admins cannot move bookings to " ++ status.name ++ "."
  | driverCannotComplete => "Driver cannot mark bookings as completed."
  | driverActionMissing => "Use start, collect, or cancel actions to update bookings."
  | notManualAvailability => "Driver status can only be ONLINE or OFFLINE"
  | categoryUnavailable category => "Waste category " ++ toString category ++ " is not available"
  | broken _ => ""

/-- The response code of a refusal. -/
def code : Refusal → Nat
  | bookingNotFound | driverRowNotFound | categoryRowNotFound => 404
  | bookingLocked _ => 409
  | unknownStatus _ | broken _ => 500
  | notAssignedToDriver | otherCustomer | adminsOnly => 403
  | _ => 400

/-- A refusal is a failure. -/
theorem le_code (refusal : Refusal) : 400 ≤ refusal.code := by
  unfold code
  split <;> decide

/-- The breakdown behind a refusal, if there is one. -/
def breakdown? : Refusal → Option Breakdown
  | broken breakdown => some breakdown
  | _ => none

/-- What a caller of the service is told. The text of a row that holds no status stays inside. -/
def detail : Refusal → String
  | unknownStatus _ => "Booking has an unrecognised status"
  | refusal => refusal.message

end Refusal

end WastePickup
