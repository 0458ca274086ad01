import WastePickup.Refusal
import WastePickup.Store

/-!
# Metrics

Counters over all bookings: how many there are, how many stand in each status, and the revenue of
the completed ones. The store counts the bookings and adds up their amounts by the text under which
they are stored, and the counters are put together from these groups. A group whose text is no
status cannot be counted, and then there are no metrics.
-/

namespace WastePickup

/-- The counters. -/
structure Metrics where
  total : Nat
  byStatus : Status → Nat
  revenue : Float

namespace Metrics

/-! ## Groups -/

/-- The text under which each booking is stored. -/
def texts (rows : List Booking) : List String :=
  rows.map fun b => b.progress.status

/-- How many bookings are stored under each text. -/
def countByText (rows : List Booking) : List (String × Nat) :=
  (texts rows).eraseDups.map fun text => (text, (texts rows).count text)

/-- The amounts of bookings added up in order of their numbers; a sum that is not a number counts
as none. -/
def sumAmounts (bookings : List Booking) : Float :=
  let sum := (bookings.filterMap fun b => b.progress.amount).foldl (· + ·) 0.0
  if sum != sum then 0.0 else sum

/-- The amounts of the bookings stored under each text, added up. -/
def amountByText (rows : List Booking) : List (String × Float) :=
  (texts rows).eraseDups.map fun text =>
    (text, sumAmounts (rows.filter fun b => b.progress.status = text))

/-! ## Counters from groups -/

/-- How many bookings the groups hold together. -/
def totalOf (counts : List (String × Nat)) : Nat :=
  counts.foldl (fun total group => total + group.2) 0

/-- Add a number to the counter of a status. -/
def add (byStatus : Status → Nat) (status : Status) (count : Nat) : Status → Nat :=
  fun c => if c = status then byStatus c + count else byStatus c

/-- Add groups to the counters of the statuses, or refuse the first whose text is none. -/
def tally (byStatus : Status → Nat) : List (String × Nat) → Except Refusal (Status → Nat)
  | [] => .ok byStatus
  | (text, count) :: rest =>
    match Status.ofStored? text with
    | none => .error (.unknownStatus text)
    | some status => tally (add byStatus status count) rest

/-- The amounts of the groups of completed bookings, added up. -/
def revenueOf (amounts : List (String × Float)) : Float :=
  let completed := amounts.filter fun group =>
    (Status.ofStored? group.1).any Status.isCompleted
  completed.foldl (fun sum group => sum + group.2) 0.0

end Metrics

/-- The counters of a store. -/
def Store.metrics (s : Store) : Except Refusal Metrics := do
  let counts := Metrics.countByText s.bookings.rows
  let byStatus ← Metrics.tally (fun _ => 0) counts
  let revenue := Metrics.revenueOf (Metrics.amountByText s.bookings.rows)
  return ⟨Metrics.totalOf counts, byStatus, Number.floatCents revenue⟩

end WastePickup
