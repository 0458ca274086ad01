import WastePickup.Metrics

/-!
# What callers see

The answers of the service. A booking is shown in its canonical status, with a label and the open
actions of the role that looks at it; its telephone number and the time of its last update are not
shown. A booking whose stored text is no status cannot be shown. A number that is not finite cannot
be written in JSON, and nothing stands in its place.
-/

namespace WastePickup

/-- A booking as one role sees it. -/
structure BookingView where
  id : Int
  user : Int
  driver : Option Int
  wasteCategory : Int
  status : Status
  label : String
  paymentDue : Bool
  allowedActions : List Action
  estimatedWeight : Option String
  estimatedMin : Option Float
  estimatedMax : Option Float
  weight : Option Float
  amount : Option Float
  addressLine1 : String
  city : String
  postalCode : String
  specialInstructions : Option String
  scheduledDate : Date
  scheduledTimeSlot : String
  lat : Option Float
  lng : Option Float
  cancelReason : Option String
  confirmedAt : Option Instant
  createdAt : Instant
  deriving DecidableEq

namespace BookingView

/-- A booking in a known status as one role sees it. -/
def ofStatus (viewer : Role) (b : Booking) (status : Status) : BookingView where
  id := b.id
  user := b.pickup.user
  driver := b.progress.driver
  wasteCategory := b.progress.wasteCategory
  status := status
  label := status.label (some viewer)
  paymentDue := status.isPaymentDue
  allowedActions := status.allowedActions viewer
  estimatedWeight := b.pickup.estimatedWeight
  estimatedMin := b.pickup.estimatedMin
  estimatedMax := b.pickup.estimatedMax
  weight := b.progress.weight
  amount := b.progress.amount
  addressLine1 := b.pickup.addressLine1
  city := b.pickup.city
  postalCode := b.pickup.postalCode
  specialInstructions := b.pickup.specialInstructions
  scheduledDate := b.pickup.scheduledDate
  scheduledTimeSlot := b.pickup.scheduledTimeSlot
  lat := b.pickup.lat
  lng := b.pickup.lng
  cancelReason := b.progress.cancelReason
  confirmedAt := b.progress.confirmedAt
  createdAt := b.pickup.createdAt

/-- A booking as one role sees it. -/
def of (viewer : Role) (b : Booking) : Except Refusal BookingView :=
  match b.status? with
  | none => .error (.unknownStatus b.progress.status)
  | some status => .ok (ofStatus viewer b status)

/-- Bookings as one role sees them, all or none. -/
def ofList (viewer : Role) : List Booking → Except Refusal (List BookingView)
  | [] => .ok []
  | b :: rest =>
    match of viewer b with
    | .error refusal => .error refusal
    | .ok view => (ofList viewer rest).map (view :: ·)

/-- The written form. -/
def toJson (v : BookingView) : Json :=
  .obj [("id", .int v.id), ("user_id", .int v.user), ("driver_id", .ofInt? v.driver),
    ("waste_category_id", .int v.wasteCategory), ("status", .str v.status.name),
    ("status_label", .str v.label), ("payment_due", .bool v.paymentDue),
    ("allowed_actions", .arr (v.allowedActions.map fun a => .str a.name)),
    ("estimated_weight_range", .ofText? v.estimatedWeight),
    ("estimated_min_amount", .ofFinite? v.estimatedMin),
    ("estimated_max_amount", .ofFinite? v.estimatedMax),
    ("actual_weight_kg", .ofFinite? v.weight), ("final_amount_lkr", .ofFinite? v.amount),
    ("address_line1", .str v.addressLine1), ("city", .str v.city),
    ("postal_code", .str v.postalCode),
    ("special_instructions", .ofText? v.specialInstructions),
    ("scheduled_date", .str v.scheduledDate.text),
    ("scheduled_time_slot", .str v.scheduledTimeSlot), ("lat", .ofFinite? v.lat),
    ("lng", .ofFinite? v.lng), ("cancel_reason", .ofText? v.cancelReason),
    ("confirmed_at", .ofText? (v.confirmedAt.map Instant.text)),
    ("created_at", .str v.createdAt.text)]

end BookingView

/-- An answer of the service. -/
inductive Answer where
  | booking (view : BookingView)
  | bookings (views : List BookingView)
  /-- Bookings that were just created. -/
  | created (views : List BookingView)
  | page (views : List BookingView) (total : Nat) (number size : Int)
  | history (entries : List HistoryEntry)
  | driver (driver : Driver)
  | pricing (row : Pricing)
  | priceList (rows : List Pricing)
  | metrics (metrics : Metrics)
  | healthy

namespace Answer

/-- A status change as it is shown. -/
def ofEntry (e : HistoryEntry) : Json :=
  .obj [("id", .int e.id), ("booking_id", .int e.booking), ("from_status", .str e.source.name),
    ("to_status", .str e.target.name), ("action", .str e.action.name),
    ("changed_by_id", .int e.changedBy), ("changed_by_role", .str e.role.name),
    ("created_at", .str e.createdAt.text)]

/-- A price band as it is shown. -/
def ofPricing (row : Pricing) : Json :=
  .obj [("waste_category_id", .int row.wasteCategory), ("min_price_lkr_per_kg", .ofFinite row.min),
    ("max_price_lkr_per_kg", .ofFinite row.max), ("is_active", .bool row.isActive),
    ("updated_at", .str row.updatedAt.text)]

/-- The counters as they are shown. -/
def ofMetrics (m : Metrics) : Json :=
  .obj [("total_bookings", .int m.total), ("completed_bookings", .int (m.byStatus .completed)),
    ("payment_due_bookings", .int (m.byStatus .collected)),
    ("cancelled_bookings", .int (m.byStatus .cancelled)),
    ("completed_revenue_lkr", .ofFinite m.revenue),
    ("by_status", .obj ((Named.all : List Status).map fun s => (s.name, .int (m.byStatus s))))]

/-- The written form. -/
def toJson : Answer → Json
  | booking view => view.toJson
  | bookings views | created views => .arr (views.map BookingView.toJson)
  | page views total number size =>
    .obj [("items", .arr (views.map BookingView.toJson)), ("total", .int total),
      ("page", .int number), ("page_size", .int size)]
  | history entries => .arr (entries.map ofEntry)
  | driver d =>
    .obj [("id", .int d.id), ("full_name", .str d.fullName), ("approved", .bool d.approved),
      ("status", .str d.status), ("pickup_count", .int d.pickupCount)]
  | pricing row => ofPricing row
  | priceList rows => .arr (rows.map ofPricing)
  | metrics m => ofMetrics m
  | healthy => .obj [("status", .str "ok")]

/-- The response code. -/
def code : Answer → Nat
  | created _ => 201
  | _ => 200

end Answer

end WastePickup
