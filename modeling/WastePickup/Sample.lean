import WastePickup.Availability
import WastePickup.Booking.Creation

/-!
# Sample data

What an empty store is filled with, so that there is something to look at: an admin and five
customers, three drivers of whom two are approved, four kinds of waste with their price bands, and
one booking for every status text that a row may hold, the older names included.

A store that has users is left alone. If a row of the sample is there already, or its dates leave
the calendar, nothing is stored at all.
-/

namespace WastePickup

/-- The kinds of waste in the sample. -/
inductive SampleWaste where
  | plastic
  | paper
  | metal
  | electronics
  deriving DecidableEq

namespace SampleWaste

/-- All kinds, in the order in which they are stored. -/
def all : List SampleWaste := [plastic, paper, metal, electronics]

/-- The place of a kind in the order. -/
def place : SampleWaste → Int
  | plastic => 0
  | paper => 1
  | metal => 2
  | electronics => 3

/-- What is paid for a kilogram. -/
def band : SampleWaste → Band Float
  | plastic => ⟨40.0, 60.0⟩
  | paper => ⟨25.0, 35.0⟩
  | metal => ⟨120.0, 180.0⟩
  | electronics => ⟨200.0, 300.0⟩

end SampleWaste

/-- What tells one booking of the sample from another. -/
structure SampleBooking where
  status : StoredStatus
  driver : Option Int
  waste : SampleWaste
  quantity : Float
  weight : Option Float

namespace Sample

/-- How many users there are: an admin, five customers and three drivers. -/
def users : Nat := 9

/-- The users who are customers. -/
def customers : List Int := [2, 3, 4, 5, 6]

/-- The drivers; the last one is not approved. -/
def drivers : List Driver :=
  [⟨7, "Saman Kumara", true, Availability.online.name, 0⟩,
    ⟨8, "Chamara Rathnayake", true, Availability.online.name, 0⟩,
    ⟨9, "Lahiru Dissanayake", false, Availability.offline.name, 0⟩]

/-- The bookings: open ones, those to be paid for, closed ones. -/
def bookings : List SampleBooking :=
  [⟨.created, none, .plastic, 5.0, none⟩, ⟨.scheduled, none, .paper, 12.0, none⟩,
    ⟨.assigned, some 7, .metal, 3.0, none⟩, ⟨.inProgress, some 8, .plastic, 8.0, none⟩,
    ⟨.collected, some 7, .electronics, 2.0, some 2.4⟩, ⟨.paid, some 8, .paper, 10.0, some 9.5⟩,
    ⟨.completed, some 7, .metal, 4.0, some 4.2⟩, ⟨.cancelled, none, .plastic, 6.0, none⟩,
    ⟨.refunded, some 8, .paper, 7.0, none⟩]

/-- The place of a booking on the map, `index` steps away from the city centre. -/
def coordinate (centre : Float) (index : Nat) : Float :=
  centre + Number.ofWhole index * 0.002

/-- What the customer of a booking asked for. The customers take turns, and the bookings are spread
over the days around today. -/
def pickup (now : Instant) (date : Date) (index : Nat) (b : SampleBooking) : Pickup :=
  let (low, high) := b.waste.band.estimate b.quantity
  { user := customers.getD (index % customers.length) 0
    estimatedWeight := some (weightText b.quantity)
    estimatedMin := storedFloat low
    estimatedMax := storedFloat high
    addressLine1 := toString (12 + index) ++ " Galle Road"
    city := "Colombo"
    postalCode := "00300"
    phone := none
    specialInstructions := none
    scheduledDate := date
    scheduledTimeSlot := "09:00-12:00"
    lat := some (coordinate 6.9271 index)
    lng := some (coordinate 79.8612 index)
    createdAt := now }

/-- How far a booking has come; what has been weighed is priced. -/
def progress (now : Instant) (category : Int) (b : SampleBooking) : Progress where
  status := b.status.name
  driver := b.driver
  wasteCategory := category
  weight := b.weight
  amount := b.weight.map fun w => b.waste.band.amount (some w)
  cancelReason := if b.status = .cancelled then some "Customer not home" else none
  confirmedAt := if b.status = .completed then some now else none

/-- What is reported while the sample is stored. -/
def report : List String :=
  ["  Created 9 users", "  Created 3 drivers", "  Created 4 waste categories with pricing",
    "  Created 9 bookings", "", "Seed complete!"]

/-- What is reported when nothing is stored. -/
def refusal : List String :=
  ["Database already seeded. Skipping."]

end Sample

namespace Store

/-- Add the drivers, unless one of their numbers is taken. -/
def withSampleDrivers (s : Store) : Except Breakdown Store :=
  if Sample.drivers.any fun d => (s.drivers.find? d.id).isSome then .error .rowExists
  else .ok { s with users := Sample.users, drivers := Sample.drivers.foldl Table.append s.drivers }

/-- Add the kinds of waste with their bands, all of them active, unless one of their numbers has a
band already. -/
def withSampleWaste (s : Store) (now : Instant) : Except Breakdown Store :=
  SampleWaste.all.foldlM (fun s kind =>
    let category := s.categories.nextId
    if (s.pricing? category).isSome then .error .rowExists
    else
      .ok { s with
        categories := s.categories.append ⟨category, true⟩
        pricing := s.pricing.append
          ⟨s.pricing.nextId, category, kind.band.min, kind.band.max, true, now⟩ }) s

/-- Add the bookings; the kinds of waste begin at a given number. -/
def withSampleBookings (s : Store) (now : Instant) (firstCategory : Int) :
    Except Breakdown Store :=
  Sample.bookings.zipIdx.foldlM (fun s (b, index) =>
    match now.date.addDays? (index - 4) with
    | none => .error .dateOutOfRange
    | some date =>
      let row : Booking :=
        ⟨s.bookings.nextId, Sample.pickup now date index b,
          Sample.progress now (firstCategory + b.waste.place) b, now⟩
      .ok { s with bookings := s.bookings.append row }) s

/-- Fill an empty store with the sample, and report on it. -/
def seed (s : Store) (now : Instant) : Except Breakdown (Store × List String) :=
  if s.users > 0 then .ok (s, Sample.refusal)
  else do
    let peopled ← s.withSampleDrivers
    let stocked ← peopled.withSampleWaste now
    let booked ← stocked.withSampleBookings now s.categories.nextId
    return (booked, Sample.report)

end Store

end WastePickup
