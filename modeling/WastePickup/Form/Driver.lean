import WastePickup.Availability
import WastePickup.Form
import WastePickup.Status

/-!
# The forms of a driver

Collecting waste, updating a booking through a target status, and setting the own availability.
-/

namespace WastePickup

/-- The waste has been weighed, and perhaps turned out to be of another category. -/
structure CollectForm where
  weight : Float
  wasteCategory : Option Int
  deriving DecidableEq

namespace CollectForm

/-- The weight in kilograms, ten grams at least. -/
def weightField : Field Float := .required "weight_kg" (.decimal (some 0.01) none)

/-- The waste category that was found. -/
def wasteCategoryField : Field (Option Int) := .optional "waste_category_id" (.whole none none)

instance : Form CollectForm where
  read _ o := (mk <$> weightField.read o) <*> wasteCategoryField.read o
  write f := [weightField.member f.weight, wasteCategoryField.member f.wasteCategory]

end CollectForm

/-- A change to a booking, named by the status it should lead to. -/
structure DriverForm where
  status : Option StoredStatus
  wasteCategory : Option Int
  weight : Option Float
  amount : Option Float
  deriving DecidableEq

namespace DriverForm

/-- The status that the booking should have. -/
def statusField : Field (Option StoredStatus) := .optional "status" (.choice StoredStatus)

/-- The waste category that was found. -/
def wasteCategoryField : Field (Option Int) := .optional "waste_category_id" (.whole none none)

/-- The weight in kilograms. -/
def weightField : Field (Option Float) := .optional "actual_weight_kg" (.decimal (some 0.0) none)

/-- An amount, which is checked and not used. -/
def amountField : Field (Option Float) := .optional "final_amount_lkr" (.decimal (some 0.0) none)

instance : Form DriverForm where
  read _ o :=
    (mk <$> statusField.read o) <*> wasteCategoryField.read o <*> weightField.read o
      <*> amountField.read o
  write f := [statusField.member f.status, wasteCategoryField.member f.wasteCategory,
    weightField.member f.weight, amountField.member f.amount]

end DriverForm

/-- The availability that a driver sets by hand. -/
structure AvailabilityForm where
  status : Availability
  deriving DecidableEq

namespace AvailabilityForm

/-- The availability. -/
def statusField : Field Availability := .required "status" (.choice Availability)

instance : Form AvailabilityForm where
  read _ o := mk <$> statusField.read o
  write f := [statusField.member f.status]

end AvailabilityForm

end WastePickup
