import WastePickup.Store

/-!
# The text columns of the tables

A text column is declared with a width, the number of characters that it holds at most. The tables
here do not look at it: a row may hold a text of any length, and `Store.Fits` says of a column that
all that is in it is within the width. The status of a booking has a check besides: it is one of the
names that a status may be stored under (`Booking.PassesCheck`).

What a customer wants the driver to know has no width, and no request writes the name of a driver.
-/

namespace WastePickup

/-- A text column with a width. -/
inductive TextColumn where
  | bookingStatus
  | estimatedWeight
  | addressLine1
  | city
  | postalCode
  | phone
  | scheduledTimeSlot
  | cancelReason
  | driverStatus
  | historySource
  | historyTarget
  | historyAction
  | historyRole
  deriving DecidableEq

namespace TextColumn

/-- How many characters a column holds at most. -/
def width : TextColumn → Nat
  | addressLine1 => 255
  | cancelReason => 240
  | city => 120
  | estimatedWeight | scheduledTimeSlot => 40
  | phone => 32
  | bookingStatus | postalCode | driverStatus => 20
  | historySource | historyTarget | historyAction | historyRole => 20

/-- A text is within the width of a column. -/
def Admits (column : TextColumn) (text : String) : Prop :=
  text.length ≤ column.width

instance (column : TextColumn) (text : String) : Decidable (column.Admits text) :=
  inferInstanceAs (Decidable (_ ≤ _))

end TextColumn

/-! ## The texts of rows -/

/-- What a booking has in a column. -/
def Booking.text? (b : Booking) : TextColumn → Option String
  | .bookingStatus => some b.progress.status
  | .estimatedWeight => b.pickup.estimatedWeight
  | .addressLine1 => some b.pickup.addressLine1
  | .city => some b.pickup.city
  | .postalCode => some b.pickup.postalCode
  | .phone => b.pickup.phone
  | .scheduledTimeSlot => some b.pickup.scheduledTimeSlot
  | .cancelReason => b.progress.cancelReason
  | _ => none

/-- What a driver has in a column. -/
def Driver.text? (d : Driver) : TextColumn → Option String
  | .driverStatus => some d.status
  | _ => none

/-- What a status change has in a column; all of its texts are names. -/
def HistoryEntry.text? (entry : HistoryEntry) : TextColumn → Option String
  | .historySource => some entry.source.name
  | .historyTarget => some entry.target.name
  | .historyAction => some entry.action.name
  | .historyRole => some entry.role.name
  | _ => none

/-! ## The texts of a store -/

namespace Store

variable {s : Store} {column : TextColumn} {text : String}

/-- All that is in a column, row by row. -/
def texts (s : Store) (column : TextColumn) : List String :=
  s.bookings.rows.filterMap (·.text? column) ++ s.drivers.rows.filterMap (·.text? column) ++
    s.history.rows.filterMap (·.text? column)

/-- A text is in a column if a booking, a driver or an entry of the history holds it there. -/
theorem mem_texts_iff : text ∈ s.texts column ↔
    (∃ b ∈ s.bookings.rows, b.text? column = some text) ∨
      (∃ d ∈ s.drivers.rows, d.text? column = some text) ∨
      ∃ entry ∈ s.history.rows, entry.text? column = some text := by
  simp only [texts, List.mem_append, List.mem_filterMap, or_assoc]

/-- All that is in a column is within its width. -/
def Fits (s : Store) (column : TextColumn) : Prop :=
  ∀ text ∈ s.texts column, column.Admits text

instance (s : Store) (column : TextColumn) : Decidable (s.Fits column) :=
  inferInstanceAs (Decidable (∀ text ∈ s.texts column, column.Admits text))

end Store

/-! ## The check on the status of a booking -/

/-- The status of a booking is one of the names that a status may be stored under. -/
def Booking.PassesCheck (b : Booking) : Prop :=
  b.progress.status ∈ (Named.all : List StoredStatus).map Named.name

instance (b : Booking) : Decidable b.PassesCheck :=
  inferInstanceAs (Decidable (_ ∈ _))

/-- Such a status can be read, and no other one can. -/
theorem Booking.passesCheck_iff {b : Booking} :
    b.PassesCheck ↔ ∃ status, b.status? = some status := by
  simp only [PassesCheck, List.mem_map, status?, Progress.status?, Status.ofStored?,
    Option.map_eq_some_iff, Named.ofName?_eq_some_iff]
  constructor
  · rintro ⟨stored, -, hname⟩
    exact ⟨stored.canonical, stored, hname, rfl⟩
  · rintro ⟨status, stored, hname, -⟩
    exact ⟨stored, Named.mem_all stored, hname⟩

end WastePickup
