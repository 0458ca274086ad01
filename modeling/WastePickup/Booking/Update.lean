import WastePickup.Booking.Work
import WastePickup.Lock

/-!
# Updating bookings

The only way in which a booking changes. A request takes the lock of the booking, reads the row,
does its work on it, commits what the work writes and releases the lock. If the lock is held, the
booking is missing or the work is refused or breaks down, nothing is written.

* `commit_history`: a commit records the move of the work and nothing else.
-/

namespace WastePickup

/-- Everything that requests share: the tables and the held locks. -/
structure World where
  store : Store
  locks : LockStore
  deriving DecidableEq

/-- A piece of work on a booking as it stands. -/
abbrev Work := Store → Progress → Except Refusal Writes

namespace Writes

variable {w : Writes} {id booking : Int} {now : Instant} {actor : Actor}

/-- The entry under a number that records the move of a piece of work on a booking, if there is
one. -/
def entries (w : Writes) (id booking : Int) (now : Instant) (actor : Actor) : List HistoryEntry :=
  (w.move.map fun m =>
    (⟨id, booking, m.source, m.target, m.action, actor.id, m.role, now⟩ : HistoryEntry)).toList

/-- The entry has the number and belongs to the booking. -/
theorem mem_entries {e : HistoryEntry} (h : e ∈ w.entries id booking now actor) :
    e.id = id ∧ e.booking = booking := by
  unfold entries at h
  cases hm : w.move with
  | none => simp [hm] at h
  | some m =>
    simp only [hm, Option.map_some, Option.toList_some, List.mem_singleton] at h
    rw [h]
    exact ⟨rfl, rfl⟩

/-- There is one entry at most. -/
theorem pairwise_entries : (w.entries id booking now actor).Pairwise fun a b => a.id < b.id := by
  unfold entries
  cases w.move with
  | none => exact .nil
  | some m => exact List.pairwise_singleton _ _

/-- The entry is found in the history of its booking. -/
theorem filter_entries_self :
    (w.entries id booking now actor).filter (fun e => e.booking = booking) =
      w.entries id booking now actor :=
  List.filter_eq_self.2 fun _ he => decide_eq_true (mem_entries he).2

/-- It is not found in the history of another booking. -/
theorem filter_entries_of_ne {other : Int} (h : other ≠ booking) :
    (w.entries id booking now actor).filter (fun e => e.booking = other) = [] := by
  refine List.filter_eq_nil_iff.2 fun e he hother => h ?_
  rw [← (mem_entries he).2]
  exact (of_decide_eq_true hother).symm

end Writes

namespace Store

/-- Commit what a piece of work on a booking writes. -/
def commit (s : Store) (now : Instant) (actor : Actor) (b : Booking) (writes : Writes) : Store :=
  let written : Store :=
    { s with
      bookings := s.bookings.replace (b.advance now writes.progress writes.rounded)
      drivers := match writes.driver with
        | none => s.drivers
        | some d => s.drivers.replace d }
  match writes.move with
  | none => written
  | some move => written.record now b.id actor.id move

section Commit

variable (s : Store) (now : Instant) (actor : Actor) (b : Booking) (writes : Writes)

/-- A commit replaces the booking that the work was done on. -/
@[simp] theorem commit_bookings : (s.commit now actor b writes).bookings =
    s.bookings.replace (b.advance now writes.progress writes.rounded) := by
  unfold commit
  cases writes.move <;> rfl

/-- A commit replaces at most the driver that the work is about. -/
@[simp] theorem commit_drivers : (s.commit now actor b writes).drivers =
    match writes.driver with
    | none => s.drivers
    | some d => s.drivers.replace d := by
  unfold commit
  cases writes.move <;> rfl

/-- A commit adds no users. -/
@[simp] theorem commit_users : (s.commit now actor b writes).users = s.users := by
  unfold commit
  cases writes.move <;> rfl

/-- A commit leaves the prices. -/
@[simp] theorem commit_pricing : (s.commit now actor b writes).pricing = s.pricing := by
  unfold commit
  cases writes.move <;> rfl

/-- A commit leaves the categories. -/
@[simp] theorem commit_categories : (s.commit now actor b writes).categories = s.categories := by
  unfold commit
  cases writes.move <;> rfl

/-- The history grows by the move, if there is one, and not otherwise. -/
theorem commit_history : (s.commit now actor b writes).history.rows =
    s.history.rows ++ writes.entries s.history.nextId b.id now actor := by
  unfold commit Writes.entries
  cases writes.move with
  | none => simp
  | some m => rfl

end Commit

/-- Do a piece of work on a booking, all or nothing; the answer is the booking as it is stored
afterwards. -/
def revise (s : Store) (now : Instant) (actor : Actor) (booking : Int) (work : Work) :
    Store × Except Refusal Booking :=
  match s.bookings.lookUp booking with
  | .error refusal => (s, .error refusal)
  | .ok none => (s, .error .bookingNotFound)
  | .ok (some b) =>
    match work s b.progress with
    | .error refusal => (s, .error refusal)
    | .ok writes =>
      (s.commit now actor b writes, .ok (b.advance now writes.progress writes.rounded))

end Store

namespace World

/-- The time to live of the lock that an update takes. -/
def updateTtl : Int := 10

/-- Do a piece of work on a booking under its lock. The token is the one of this request. -/
def lockedUpdate (w : World) (token : Token) (now : Instant) (actor : Actor) (booking : Int)
    (work : Work) : World × Except Refusal Booking :=
  let lock := Lock.forBooking booking updateTtl token
  match w.locks.acquire lock with
  | none => (w, .error (.bookingLocked booking))
  | some taken =>
    let (store, answer) := w.store.revise now actor booking work
    (⟨store, taken.release lock⟩, answer)

/-- Take an action on a booking. -/
def applyAction (w : World) (token : Token) (now : Instant) (actor : Actor) (booking : Int)
    (action : Action) (given : Particulars) : World × Except Refusal Booking :=
  w.lockedUpdate token now actor booking fun s p => s.perform now actor action given p

/-- Update a booking as an admin: an action, a driver, amounts, in one go. -/
def updateAsAdmin (w : World) (token : Token) (now : Instant) (actor : Actor) (booking : Int)
    (request : AdminRequest) : World × Except Refusal Booking :=
  if actor.role.isAdmin then
    w.lockedUpdate token now actor booking fun s p => s.adminWork now actor request p
  else (w, .error .adminsOnly)

end World

end WastePickup
