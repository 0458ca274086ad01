import WastePickup.Form
import WastePickup.Status

/-!
# The forms of an admin

Assigning a driver, settling a booking, cancelling it, updating it through a target status, and
setting a price band. Drivers cancel with the same form.
-/

namespace WastePickup

/-- The driver a booking is given to. -/
structure AssignForm where
  driver : Int
  deriving DecidableEq

namespace AssignForm

/-- The driver. -/
def driverField : Field Int := .required "driver_id" (.whole none none)

instance : Form AssignForm where
  read _ o := mk <$> driverField.read o
  write f := [driverField.member f.driver]

end AssignForm

/-- The weight and amount a booking is settled with. -/
structure SettleForm where
  weight : Option Float
  amount : Option Float
  deriving DecidableEq

namespace SettleForm

/-- The weight in kilograms. -/
def weightField : Field (Option Float) := .optional "actual_weight_kg" (.decimal (some 0.0) none)

/-- The amount. -/
def amountField : Field (Option Float) := .optional "final_amount_lkr" (.decimal (some 0.0) none)

instance : Form SettleForm where
  read _ o := (mk <$> weightField.read o) <*> amountField.read o
  write f := [weightField.member f.weight, amountField.member f.amount]

end SettleForm

/-- Why a booking is cancelled. -/
structure CancelForm where
  reason : Option String
  deriving DecidableEq

namespace CancelForm

/-- The reason. -/
def reasonField : Field (Option String) := .optional "reason" (.text 0 (some 240))

instance : Form CancelForm where
  read _ o := mk <$> reasonField.read o
  write f := [reasonField.member f.reason]

end CancelForm

/-- A change to a booking: a target status, a driver, a weight, an amount, any of them. -/
structure AdminForm where
  status : Option StoredStatus
  driver : Option Int
  weight : Option Float
  amount : Option Float
  deriving DecidableEq

namespace AdminForm

/-- The status that the booking should have. -/
def statusField : Field (Option StoredStatus) := .optional "status" (.choice StoredStatus)

/-- The driver. -/
def driverField : Field (Option Int) := .optional "driver_id" (.whole none none)

/-- The weight in kilograms. -/
def weightField : Field (Option Float) := .optional "actual_weight_kg" (.decimal (some 0.0) none)

/-- The amount. -/
def amountField : Field (Option Float) := .optional "final_amount_lkr" (.decimal (some 0.0) none)

instance : Form AdminForm where
  read _ o :=
    (mk <$> statusField.read o) <*> driverField.read o <*> weightField.read o
      <*> amountField.read o
  write f := [statusField.member f.status, driverField.member f.driver,
    weightField.member f.weight, amountField.member f.amount]

end AdminForm

/-- The price band of a waste category. -/
structure PricingForm where
  min : Float
  max : Float
  isActive : Bool
  deriving DecidableEq

namespace PricingForm

/-- The least price for a kilogram. -/
def minField : Field Float := .required "min_price_lkr_per_kg" (.decimal (some 0.0) none)

/-- The greatest price for a kilogram. -/
def maxField : Field Float := .required "max_price_lkr_per_kg" (.decimal (some 0.0) none)

/-- Whether the band is in use; it is unless it is said not to be. -/
def isActiveField : Field Bool := ⟨"is_active", .flag, some true⟩

/-- Check the fields one by one. -/
def readFields (o : Json.Object) : Checked PricingForm :=
  (mk <$> minField.read o) <*> maxField.read o <*> isActiveField.read o

/-- A band whose ends are in order. -/
def inOrder (f : PricingForm) : Checked PricingForm :=
  if f.max < f.min then .fault .bandReversed else .ok f

/-- The rule between the fields is looked at only when every field has passed. -/
instance : Form PricingForm where
  read _ o := (readFields o).andThen inOrder
  write f := [minField.member f.min, maxField.member f.max, isActiveField.member f.isActive]

end PricingForm

end WastePickup
