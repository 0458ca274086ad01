import WastePickup.Form

/-!
# The form of a customer

Booking a pickup: what is to be picked up, item by item, and where and when.
-/

namespace WastePickup

/-- How much of one waste category is to be picked up. -/
structure ItemForm where
  wasteCategory : Int
  quantity : Float
  deriving DecidableEq

namespace ItemForm

/-- The waste category. -/
def wasteCategoryField : Field Int :=
  .required "waste_category_id" (.whole none none)

/-- The quantity in kilograms, a tenth at least. -/
def quantityField : Field Float :=
  .required "quantity_kg" (.decimal (some 0.1) none)

instance : Form ItemForm where
  read _ o := (mk <$> wasteCategoryField.read o) <*> quantityField.read o
  write f := [wasteCategoryField.member f.wasteCategory, quantityField.member f.quantity]

end ItemForm

/-- A request for a pickup. -/
structure BookingForm where
  items : List ItemForm
  addressLine1 : String
  city : String
  postalCode : String
  phone : String
  specialInstructions : Option Json.Text
  scheduledDate : Date
  scheduledTimeSlot : String
  lat : Option Float
  lng : Option Float
  deriving DecidableEq

namespace BookingForm

/-- The items, one at least. -/
def itemsField (notObject : Fault) : Field (List ItemForm) :=
  .required "items" (.listOf (Form.kind ItemForm notObject))

/-- The street address. -/
def addressLine1Field : Field String := .required "address_line1" (.text 1 (some 255))

/-- The city. -/
def cityField : Field String := .required "city" (.text 1 (some 120))

/-- The postal code. -/
def postalCodeField : Field String := .required "postal_code" (.text 1 (some 20))

/-- The telephone number. -/
def phoneField : Field String := .required "phone" (.text 1 (some 32))

/-- Anything the driver should know. -/
def specialInstructionsField : Field (Option Json.Text) :=
  .optional "special_instructions" .anyText

/-- The day of the pickup. -/
def scheduledDateField : Field Date := .required "scheduled_date" .date

/-- The time of day of the pickup. -/
def scheduledTimeSlotField : Field String := .required "scheduled_time_slot" (.text 1 (some 40))

/-- The latitude in degrees. -/
def latField : Field (Option Float) := .optional "lat" (.decimal (some (-90.0)) (some 90.0))

/-- The longitude in degrees. -/
def lngField : Field (Option Float) := .optional "lng" (.decimal (some (-180.0)) (some 180.0))

instance : Form BookingForm where
  read notObject o :=
    (mk <$> (itemsField notObject).read o) <*> addressLine1Field.read o <*> cityField.read o
      <*> postalCodeField.read o <*> phoneField.read o <*> specialInstructionsField.read o
      <*> scheduledDateField.read o <*> scheduledTimeSlotField.read o <*> latField.read o
      <*> lngField.read o
  write f :=
    [(itemsField .objectType).member f.items, addressLine1Field.member f.addressLine1,
      cityField.member f.city, postalCodeField.member f.postalCode, phoneField.member f.phone,
      specialInstructionsField.member f.specialInstructions,
      scheduledDateField.member f.scheduledDate,
      scheduledTimeSlotField.member f.scheduledTimeSlot, latField.member f.lat,
      lngField.member f.lng]

end BookingForm

end WastePickup
