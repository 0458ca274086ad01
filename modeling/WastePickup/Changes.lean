import WastePickup.Booking.Update

/-!
# Changes

What differs between two states of the world, row by row and column by column. A world is laid out
as named rows of named cells (`World.rows`); a row that is new is reported with all its cells, a row
that is gone without any, and any other with the cells that differ.
-/

namespace WastePickup

/-- What a column holds. -/
inductive Cell where
  | none
  | flag (b : Bool)
  | whole (n : Int)
  | amount (x : Float)
  | text (s : String)
  deriving DecidableEq

namespace Cell

/-- A whole number or nothing. -/
def whole? (n : Option Int) : Cell := n.elim none whole

/-- An amount or nothing. -/
def amount? (x : Option Float) : Cell := x.elim none amount

/-- A text or nothing. -/
def text? (s : Option String) : Cell := s.elim none text

/-- The written form. -/
def toJson : Cell → Json
  | none => .null
  | flag b => .bool b
  | whole n => .int n
  | amount x => .float x
  | text s => .str s

end Cell

/-- The columns of a row. -/
abbrev Cells := List (String × Cell)

/-- The columns of a driver that change. -/
def Driver.cells (d : Driver) : Cells :=
  [("status", .text d.status), ("pickup_count", .whole d.pickupCount)]

/-- The columns of a price row. -/
def Pricing.cells (p : Pricing) : Cells :=
  [("waste_category_id", .whole p.wasteCategory), ("min_price_lkr_per_kg", .amount p.min),
    ("max_price_lkr_per_kg", .amount p.max), ("is_active", .flag p.isActive),
    ("updated_at", .text p.updatedAt.text)]

/-- The columns of what a customer asked for. -/
def Pickup.cells (p : Pickup) : Cells :=
  [("user_id", .whole p.user), ("estimated_weight_range", .text? p.estimatedWeight),
    ("estimated_min_amount", .amount? p.estimatedMin),
    ("estimated_max_amount", .amount? p.estimatedMax), ("address_line1", .text p.addressLine1),
    ("city", .text p.city), ("postal_code", .text p.postalCode), ("phone", .text? p.phone),
    ("special_instructions", .text? p.specialInstructions),
    ("scheduled_date", .text p.scheduledDate.text),
    ("scheduled_time_slot", .text p.scheduledTimeSlot), ("lat", .amount? p.lat),
    ("lng", .amount? p.lng), ("created_at", .text p.createdAt.text)]

/-- The columns of how far a booking has come. -/
def Progress.cells (p : Progress) : Cells :=
  [("status", .text p.status), ("driver_id", .whole? p.driver),
    ("waste_category_id", .whole p.wasteCategory), ("actual_weight_kg", .amount? p.weight),
    ("final_amount_lkr", .amount? p.amount), ("cancel_reason", .text? p.cancelReason),
    ("confirmed_at", .text? (p.confirmedAt.map Instant.text))]

/-- The columns of a booking. -/
def Booking.cells (b : Booking) : Cells :=
  b.pickup.cells ++ b.progress.cells ++ [("updated_at", .text b.updatedAt.text)]

/-- The columns of a status change. -/
def HistoryEntry.cells (e : HistoryEntry) : Cells :=
  [("booking_id", .whole e.booking), ("from_status", .text e.source.name),
    ("to_status", .text e.target.name), ("action", .text e.action.name),
    ("changed_by_id", .whole e.changedBy), ("changed_by_role", .text e.role.name),
    ("created_at", .text e.createdAt.text)]

/-- Rows under their names. -/
abbrev Rows := List (String × Cells)

namespace Rows

/-- The rows of a table, named by their numbers. -/
def ofTable {α : Type} [Row α] (table : String) (cells : α → Cells) (t : Table α) : Rows :=
  t.rows.map fun row => (table ++ "/" ++ toString (Row.id row), cells row)

/-- What differs in a row: nothing, or the cells that do. -/
def changedCells (old new : Cells) : Option Cells :=
  match new.filter fun (name, cell) => old.lookup name ≠ some cell with
  | [] => none
  | cells => some cells

/-- The rows that differ, each with the cells that differ, and without any if the row is gone. -/
def changes (old new : Rows) : List (String × Option Cells) :=
  let gone := (old.filter fun row => (new.lookup row.1).isNone).map fun row => (row.1, none)
  let changed := new.filterMap fun (name, cells) =>
    match old.lookup name with
    | none => some (name, some cells)
    | some before => (changedCells before cells).map fun c => (name, some c)
  gone ++ changed

end Rows

namespace World

/-- The rows of a world whose changes are of interest. -/
def rows (w : World) : Rows :=
  Rows.ofTable "driver" Driver.cells w.store.drivers ++
    Rows.ofTable "pricing" Pricing.cells w.store.pricing ++
    Rows.ofTable "booking" Booking.cells w.store.bookings ++
    Rows.ofTable "history" HistoryEntry.cells w.store.history ++
    w.locks.held.map fun entry => (entry.1, [("held", .flag true)])

/-- What a world has changed to. -/
def changes (old new : World) : List (String × Option Cells) :=
  Rows.changes old.rows new.rows

end World

end WastePickup
