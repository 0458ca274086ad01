import WastePickup.Pricing.Band
import WastePickup.Store.Booking
import WastePickup.Transition

/-!
# The store

The tables that the service keeps: drivers, waste categories, price bands, bookings and the history
of their statuses. Users are only counted.
-/

namespace WastePickup

/-- A driver. -/
structure Driver where
  id : Int
  fullName : String
  approved : Bool
  /-- The stored text; the name of an availability once the driver or a pickup has set it. -/
  status : String
  pickupCount : Int
  deriving DecidableEq

instance : Row Driver where
  id := Driver.id

/-- A kind of waste that is picked up. -/
structure WasteCategory where
  id : Int
  isActive : Bool
  deriving DecidableEq

instance : Row WasteCategory where
  id := WasteCategory.id

/-- The stored price band of a waste category. -/
structure Pricing where
  id : Int
  wasteCategory : Int
  min : Float
  max : Float
  isActive : Bool
  updatedAt : Instant
  deriving DecidableEq

instance : Row Pricing where
  id := Pricing.id

/-- The band of a stored row. -/
def Pricing.band (row : Pricing) : Band Float :=
  Band.ofPrices (some row.min) (some row.max)

/-- One status change of a booking. -/
structure HistoryEntry where
  id : Int
  booking : Int
  source : Status
  target : Status
  action : Action
  changedBy : Int
  /-- The acting role. -/
  role : Role
  createdAt : Instant
  deriving DecidableEq

instance : Row HistoryEntry where
  id := HistoryEntry.id

/-- The tables. -/
structure Store where
  users : Nat
  drivers : Table Driver
  categories : Table WasteCategory
  pricing : Table Pricing
  bookings : Table Booking
  history : Table HistoryEntry
  deriving DecidableEq

namespace Store

/-- No rows at all. -/
def empty : Store :=
  ⟨0, .empty, .empty, .empty, .empty, .empty⟩

/-- The price row of a waste category. -/
def pricing? (s : Store) (category : Int) : Option Pricing :=
  s.pricing.rows.find? fun row => row.wasteCategory = category

/-- The price band of a waste category. -/
def band? (s : Store) (category : Int) : Option (Band Float) :=
  (s.pricing? category).map Pricing.band

/-- The status changes of a booking, in the order in which they were made. -/
def historyOf (s : Store) (booking : Int) : List HistoryEntry :=
  s.history.rows.filter fun entry => entry.booking = booking

/-- Record a planned move. -/
def record (s : Store) (now : Instant) (booking changedBy : Int) (move : Move) : Store :=
  let entry : HistoryEntry :=
    ⟨s.history.nextId, booking, move.source, move.target, move.action, changedBy, move.role, now⟩
  { s with history := s.history.append entry }

end Store

end WastePickup
