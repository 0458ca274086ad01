import WastePickup.Store.Lookup

/-!
# Listing bookings

Bookings are listed page by page, newest first; of two bookings created at the same time the one
with the greater number comes first. A filter may ask for a customer, a driver and a status, and a
status filter accepts every stored name that stands for the status. A driver's own list is in the
order in which the pickups are due.

* `mem_listed_iff`: a booking is listed exactly when it is stored and the filter accepts it.
* `length_listed`: the list is as long as the total says.
* `pageAndTotal_congr`: a page and its total depend on the list alone.
-/

namespace WastePickup

/-- Which bookings are asked for. -/
structure BookingFilter where
  user : Option Int
  driver : Option Int
  status : Option Status
  deriving DecidableEq

namespace BookingFilter

/-- Whether a booking is asked for. -/
def accepts (f : BookingFilter) (b : Booking) : Bool :=
  f.user.all (b.pickup.user = ·) && f.driver.all (b.progress.driver = some ·) &&
    f.status.all fun status => status.aliases.any fun s => s.name = b.progress.status

/-- Whether one booking comes before another, or may. -/
def newerFirst (a b : Booking) : Bool :=
  if a.pickup.createdAt = b.pickup.createdAt then b.id ≤ a.id
  else b.pickup.createdAt.micros ≤ a.pickup.createdAt.micros

/-- Whether the pickup of one booking is due before that of another, or may be. -/
def dueFirst (a b : Booking) : Bool :=
  if a.pickup.scheduledDate = b.pickup.scheduledDate then a.id ≤ b.id
  else a.pickup.scheduledDate.toDays ≤ b.pickup.scheduledDate.toDays

end BookingFilter

namespace Store

/-- All bookings that a filter accepts, newest first. -/
def listed (s : Store) (f : BookingFilter) : List Booking :=
  (s.bookings.rows.filter f.accepts).mergeSort BookingFilter.newerFirst

/-- How many bookings a filter accepts. -/
def total (s : Store) (f : BookingFilter) : Nat :=
  s.bookings.rows.countP f.accepts

/-- One page of the list, counted from 1. A page that starts before the list starts with it, and a
page of negative size has no end. -/
def page (s : Store) (f : BookingFilter) (page size : Int) : List Booking :=
  let rest := (s.listed f).drop ((page - 1) * size).toNat
  if size < 0 then rest else rest.take size.toNat

/-- One page of the list and the total, if all the numbers of the request fit the store. -/
def pageAndTotal (s : Store) (f : BookingFilter) (page size : Int) :
    Except Refusal (List Booking × Nat) := do
  requireAllFit (f.user.toList ++ f.driver.toList ++ [(page - 1) * size, size])
  return (s.page f page size, s.total f)

/-- The bookings of a driver, in the order in which their pickups are due. -/
def dutiesOf (s : Store) (driver : Int) : List Booking :=
  (s.bookings.rows.filter fun b => b.progress.driver = some driver).mergeSort
    BookingFilter.dueFirst

/-- A booking is listed exactly when it is stored and the filter accepts it. -/
theorem mem_listed_iff {s : Store} {f : BookingFilter} {b : Booking} :
    b ∈ s.listed f ↔ b ∈ s.bookings.rows ∧ f.accepts b = true := by
  simp [listed]

/-- The list is as long as the total says. -/
theorem length_listed (s : Store) (f : BookingFilter) : (s.listed f).length = s.total f := by
  simp [listed, total, List.countP_eq_length_filter]

/-- A page and its total depend on the list alone. -/
theorem pageAndTotal_congr {s t : Store} {f : BookingFilter} (h : t.listed f = s.listed f)
    (page size : Int) : t.pageAndTotal f page size = s.pageAndTotal f page size := by
  have htotal : t.total f = s.total f := by rw [← length_listed, ← length_listed, h]
  have hpage : t.page f page size = s.page f page size := by rw [Store.page, Store.page, h]
  rw [pageAndTotal, pageAndTotal, hpage, htotal]

end Store

end WastePickup
