import WastePickup.Api.Command
import WastePickup.Api.Target
import WastePickup.Json.Encoding

/-!
# Endpoints

The addresses of the service: for each endpoint its method, its path, the roles it admits, and how
its command is read from a request. A path segment that is a number stands for a booking or a waste
category and may be any text without a slash; what is wrong with it is reported together with the
issues of the query and the body, in this order.
-/

namespace WastePickup

/-- An address of the service together with its method. -/
inductive Endpoint where
  | createBookings
  | ownBookings
  | oneBooking
  | duties
  | oneDuty
  | start
  | collect
  | cancelAsDriver
  | updateAsDriver
  | setAvailability
  | allBookings
  | assign
  | complete
  | cancelAsAdmin
  | refund
  | updateAsAdmin
  | history
  | metrics
  | priceList
  | setPrice
  | health
  deriving DecidableEq

/-- A segment of a path. -/
inductive Segment where
  | word (text : String)
  | number
  deriving DecidableEq

/-- The body of a request. -/
inductive Body where
  | absent
  /-- A text that is not JSON. -/
  | malformed
  /-- A text that may be JSON but cannot be read. -/
  | unreadable
  | value (j : Json)

/-- The body that a text is; an empty text is none. -/
def Body.ofText (text : String) : Body :=
  if text = "" then .absent
  else
    match Json.ofBody text with
    | .ok j => .value j
    | .error .malformed => .malformed
    | .error _ => .unreadable

namespace Endpoint

/-- All endpoints. -/
def all : List Endpoint :=
  [createBookings, ownBookings, oneBooking, duties, oneDuty, start, collect, cancelAsDriver,
    updateAsDriver, setAvailability, allBookings, assign, complete, cancelAsAdmin, refund,
    updateAsAdmin, history, metrics, priceList, setPrice, health]

/-- The method of an endpoint. -/
def method : Endpoint → String
  | createBookings => "POST"
  | ownBookings | oneBooking | duties | oneDuty | allBookings | history | metrics | priceList
  | health => "GET"
  | setPrice => "PUT"
  | _ => "PATCH"

/-- The path of an endpoint, below the address of the service. -/
def path : Endpoint → List Segment
  | createBookings | ownBookings => [.word "bookings"]
  | oneBooking => [.word "bookings", .number]
  | duties => [.word "driver", .word "bookings"]
  | oneDuty => [.word "driver", .word "bookings", .number]
  | start => [.word "driver", .word "bookings", .number, .word "start"]
  | collect => [.word "driver", .word "bookings", .number, .word "collect"]
  | cancelAsDriver => [.word "driver", .word "bookings", .number, .word "cancel"]
  | updateAsDriver => [.word "driver", .word "bookings", .number, .word "update"]
  | setAvailability => [.word "driver", .word "status"]
  | allBookings => [.word "admin", .word "bookings"]
  | assign => [.word "admin", .word "bookings", .number, .word "assign"]
  | complete => [.word "admin", .word "bookings", .number, .word "complete"]
  | cancelAsAdmin => [.word "admin", .word "bookings", .number, .word "cancel"]
  | refund => [.word "admin", .word "bookings", .number, .word "refund"]
  | updateAsAdmin => [.word "admin", .word "bookings", .number]
  | history => [.word "admin", .word "bookings", .number, .word "history"]
  | metrics => [.word "admin", .word "metrics"]
  | priceList => [.word "admin", .word "pricing"]
  | setPrice => [.word "admin", .word "pricing", .number]
  | health => [.word "admin", .word "health"]

/-- Where the paths of the endpoints begin. -/
def root : List Segment :=
  [.word "", .word "api", .word "v1"]

/-- Match the segments of a path; the texts in the place of numbers are given. A word at the end
may be followed by a line break. -/
def matchSegments : List Segment → List String → Option (List String)
  | [], [] => some []
  | [.word w], [text] => if text = w ∨ text = w ++ "\n" then some [] else none
  | .word w :: pattern, text :: texts => if text = w then matchSegments pattern texts else none
  | .number :: pattern, text :: texts =>
    if text = "" then none else (matchSegments pattern texts).map (text :: ·)
  | _, _ => none

/-- The endpoints at a path, each with the text in the place of its number. -/
def atPath (segments : List String) : List (Endpoint × String) :=
  all.filterMap fun e =>
    (matchSegments (root ++ e.path) segments).map fun texts => (e, texts.headD "")

/-- The roles that an endpoint admits. -/
def roles : Endpoint → List Role
  | createBookings | ownBookings => [.customer]
  | oneBooking => [.customer, .admin, .superAdmin]
  | duties | oneDuty | start | collect | cancelAsDriver | updateAsDriver | setAvailability =>
    [.driver]
  | _ => [.admin, .superAdmin]

/-- Whether an endpoint takes a body. -/
def takesBody : Endpoint → Bool
  | createBookings | collect | cancelAsDriver | updateAsDriver | setAvailability | assign | complete
  | cancelAsAdmin | updateAsAdmin | setPrice => true
  | _ => false

/-! ## Reading commands -/

/-- The number of a booking. -/
def bookingField : Field Int := .required "booking_id" (.whole none none)

/-- The number of a waste category. -/
def categoryField : Field Int := .required "waste_category_id" (.whole none none)

/-- Read the text in the place of a number. -/
def inPath (field : Field Int) (text : String) : Checked Int :=
  (field.read [(field.name, .str text)]).under (.field "path")

/-- The status that a list is asked for. -/
def statusField : Field (Option Status) := .optional "status" (.choice Status)

/-- The page that is asked for; the first one if none is. -/
def pageField : Field Int := ⟨"page", .whole (some 1) none, some 1⟩

/-- The size of a page: ten, unless another one up to a hundred is asked for. -/
def sizeField : Field Int := ⟨"page_size", .whole (some 1) (some 100), some 10⟩

/-- Read a field of the query. -/
def inQuery {α : Type} (field : Field α) (query : Json.Object) : Checked α :=
  (field.read query).under (.field "query")

/-- Read a body that has to be there. -/
def inBody (α : Type) [Form α] (body : Body) : Checked α :=
  let checked : Checked α :=
    match body with
    | .absent => .fault .missing
    | .malformed | .unreadable => .fault .jsonInvalid
    | .value j => Form.checkBody α j
  checked.under (.field "body")

/-- Read a body that may be missing or `null`. -/
def inOptionalBody (α : Type) [Form α] (body : Body) : Checked (Option α) :=
  match body with
  | .absent | .value .null => .ok none
  | body => some <$> inBody α body

/-- Read a command: its path, then its query, then its body. -/
def read (endpoint : Endpoint) (number : String) (query : Json.Object) (body : Body) :
    Checked Command :=
  let booking := inPath bookingField number
  let status := inQuery statusField query
  let page := inQuery pageField query
  let size := inQuery sizeField query
  match endpoint with
  | createBookings => .createBookings <$> inBody BookingForm body
  | ownBookings => (.ownBookings <$> status) <*> page <*> size
  | oneBooking => .oneBooking <$> booking
  | duties => .ok .duties
  | oneDuty => .oneDuty <$> booking
  | start => .start <$> booking
  | collect => (.collect <$> booking) <*> inBody CollectForm body
  | cancelAsDriver => (.cancelAsDriver <$> booking) <*> inOptionalBody CancelForm body
  | updateAsDriver => (.updateAsDriver <$> booking) <*> inBody DriverForm body
  | setAvailability => .setAvailability <$> inBody AvailabilityForm body
  | allBookings => (.allBookings <$> status) <*> page <*> size
  | assign => (.assign <$> booking) <*> inBody AssignForm body
  | complete => (.complete <$> booking) <*> inOptionalBody SettleForm body
  | cancelAsAdmin => (.cancelAsAdmin <$> booking) <*> inOptionalBody CancelForm body
  | refund => .refund <$> booking
  | updateAsAdmin => (.updateAsAdmin <$> booking) <*> inBody AdminForm body
  | history => .history <$> booking
  | metrics => .ok .metrics
  | priceList => .ok .priceList
  | setPrice => (.setPrice <$> inPath categoryField number) <*> inBody PricingForm body
  | health => .ok .health

end Endpoint

end WastePickup
