import WastePickup.Proofs.DriverRows

/-!
# Every pickup is counted once

How many pickups a driver has made stands in his row, and who has collected which booking stands in
the history. The two are written by the same work, and they agree: along any run, the count of a
driver grows by the number of collections that he is recorded with. A booking comes to one
collection at most, since none of the moves that follow leads back to where it is still to be
collected. Correcting a collection is no move and counts nothing.

* `Store.CountsPickups`: the accounts of what happens between two stores, which add up.
* `Event.Leaves.countsPickups`: what one event adds to the accounts.
* `pickups_are_counted`: what a run adds.
-/

namespace WastePickup

namespace HistoryEntry

/-- Whether an entry records a collection by somebody. -/
def isPickupBy (driver : Int) (e : HistoryEntry) : Bool :=
  e.action = .collect && e.changedBy = driver

/-- Whether an entry records the collection of a booking. -/
def isPickupOf (booking : Int) (e : HistoryEntry) : Bool :=
  e.action = .collect && e.booking = booking

end HistoryEntry

/-! ## Collections that are still to come -/

/-- How many times a booking in a status can still be collected. -/
def Status.pickupsLeft : Status → Nat
  | created | assigned | inProgress => 1
  | collected | completed | cancelled | refunded => 0

/-- A row of the table that moves a booking uses up a collection if it is one, and gives back none
if it is none. -/
theorem Rule.pickupsLeft_le (role : Role) (action : Action) :
    ∀ rule ∈ Rule.of role action, ∀ source ∈ rule.sources, source ≠ rule.target →
      (if action = .collect then 1 else 0) + rule.target.pickupsLeft ≤ source.pickupsLeft := by
  cases role <;> cases action <;> simp [Rule.of, Status.pickupsLeft]

namespace Store

/-- How many times a booking can still be collected. One that is not there yet may come in any
status; one whose status is not known stays as it is. -/
def pickupsLeft (s : Store) (booking : Int) : Nat :=
  match s.bookings.find? booking with
  | none => 1
  | some b => b.status?.elim 0 Status.pickupsLeft

/-- At most one pickup of a booking is still to come. -/
theorem pickupsLeft_le_one (s : Store) (booking : Int) : s.pickupsLeft booking ≤ 1 := by
  unfold pickupsLeft
  split
  · exact Nat.le_refl 1
  · rename_i b _
    cases b.status? with
    | none => exact Nat.zero_le 1
    | some status => cases status <;> simp [Status.pickupsLeft]

/-! ## The accounts -/

/-- The entries that are added between two stores account for the pickups: the count of every driver
grows by the collections that are recorded of him, and each collection of a booking is one that was
still to come. -/
structure CountsPickups (s t : Store) (added : List HistoryEntry) : Prop where
  rows : t.history.rows = s.history.rows ++ added
  counted : ∀ driver d, s.drivers.find? driver = some d →
    ∃ d', t.drivers.find? driver = some d' ∧
      d'.pickupCount = d.pickupCount + added.countP (·.isPickupBy driver)
  once : ∀ booking,
    added.countP (·.isPickupOf booking) + t.pickupsLeft booking ≤ s.pickupsLeft booking

namespace CountsPickups

variable {s t u : Store} {added more : List HistoryEntry}

/-- A store counts no pickups by itself. -/
theorem refl (s : Store) : s.CountsPickups s [] where
  rows := by simp
  counted driver d found := ⟨d, found, by simp⟩
  once booking := by simp

/-- Accounts of one stretch and of the next add up. -/
theorem trans (h : s.CountsPickups t added) (h' : t.CountsPickups u more) :
    s.CountsPickups u (added ++ more) where
  rows := by rw [h'.rows, h.rows, List.append_assoc]
  counted driver d found := by
    obtain ⟨d', found', hcount⟩ := h.counted driver d found
    obtain ⟨d'', found'', hcount'⟩ := h'.counted driver d' found'
    refine ⟨d'', found'', ?_⟩
    rw [hcount', hcount, List.countP_append]
    omega
  once booking := by
    have hfirst := h.once booking
    have hsecond := h'.once booking
    rw [List.countP_append]
    omega

/-- Where nothing is recorded, the counts stay, and bookings are at most added. -/
theorem of_grows {bookings : List Booking} (grows : s.Grows t bookings)
    (drivers : ∀ driver d, s.drivers.find? driver = some d →
      ∃ d', t.drivers.find? driver = some d' ∧ d'.pickupCount = d.pickupCount) :
    s.CountsPickups t [] where
  rows := by rw [grows.history, List.append_nil]
  counted driver d found := by
    obtain ⟨d', found', hcount⟩ := drivers driver d found
    exact ⟨d', found', by simpa using hcount⟩
  once booking := by
    have hle := t.pickupsLeft_le_one booking
    have hfind := grows.find?_eq booking
    unfold pickupsLeft at hle ⊢
    cases hb : s.bookings.find? booking with
    | none => simpa using hle
    | some b =>
      rw [hb, Option.some_or] at hfind
      simp [hfind]

end CountsPickups

end Store

/-! ## One event -/

namespace Order

variable {order : Order} {s : Store} {now : Instant} {actor : Actor} {b : Booking} {w : Writes}

/-- A driver's row counts the collection that the entry of a piece of work records of him, if it
records one. -/
theorem pickupCount_after (h : order.work now actor s b.progress = .ok w) (d : Driver) (id : Int) :
    (d.after actor w).pickupCount =
      d.pickupCount + (w.entries id b.id now actor).countP (·.isPickupBy d.id) := by
  cases follows_of_work h with
  | stays move => simp [Driver.after, Writes.ownMove?, Writes.entries, move]
  | moves m move lawful =>
    have howner := lawful.role_eq_driver
    by_cases hcollect : m.action = .collect
    · -- Only a driver collects, so the move is his own.
      have hrole := howner (.inr hcollect)
      by_cases hid : d.id = actor.id
      · simp [Driver.after, Writes.ownMove?, Writes.entries, move, hrole, hid, hcollect,
          HistoryEntry.isPickupBy, Action.pickups]
      · simp [Driver.after, Writes.ownMove?, Writes.entries, move, hrole, hid, hcollect,
          HistoryEntry.isPickupBy, Ne.symm hid]
    · have hpickups : m.action.pickups = 0 := by
        cases ha : m.action <;> simp_all [Action.pickups]
      have hcount : (d.after actor w).pickupCount = d.pickupCount := by
        unfold Driver.after
        split
        · rename_i m' hown
          rw [(Writes.ownMove?_eq_some_iff.1 hown).1] at move
          cases move
          split
          · simp [hpickups]
          · rfl
        · rfl
      simp [hcount, Writes.entries, move, HistoryEntry.isPickupBy, hcollect]

/-- A collection that the entry of a piece of work records was still to come, and it was the
last. -/
theorem pickupsLeft_le (h : order.work now actor s b.progress = .ok w)
    (found : s.bookings.find? b.id = some b) (id booking : Int) :
    (w.entries id b.id now actor).countP (·.isPickupOf booking) +
      (s.commit now actor b w).pickupsLeft booking ≤ s.pickupsLeft booking := by
  by_cases hb : booking = b.id
  · subst hb
    have follows := follows_of_work h
    simp only [Store.pickupsLeft, Store.find?_commit_self found, found, Booking.advance_status?]
    change _ ≤ b.progress.status?.elim 0 Status.pickupsLeft
    have hstays := follows.status_of_stays
    cases follows with
    | stays move =>
      rw [hstays move]
      simp [Writes.entries, move]
    | moves m move lawful role source changed target =>
      obtain ⟨rule, hrule, hmem, htarget⟩ := lawful
      rw [htarget] at changed target
      have hle := Rule.pickupsLeft_le m.role m.action rule hrule m.source hmem changed
      rw [Progress.status?, target, Status.ofStored?_name, source]
      simpa [Writes.entries, move, HistoryEntry.isPickupOf, List.countP_singleton] using hle
  · -- The entry is not one of another booking.
    have hcount : (w.entries id b.id now actor).countP (·.isPickupOf booking) = 0 := by
      refine List.countP_eq_zero.2 fun e he => ?_
      simp [HistoryEntry.isPickupOf, (Writes.mem_entries he).2, Ne.symm hb]
    rw [hcount, Nat.zero_add, Store.pickupsLeft, Store.find?_commit_of_ne hb]
    exact Nat.le_refl (s.pickupsLeft booking)

end Order

/-- Every event adds entries that account for the pickups. -/
theorem Event.Leaves.countsPickups {event : Event} {now : Instant} {s t : Store}
    (h : event.Leaves now s t) : ∃ added, s.CountsPickups t added := by
  cases h with
  | idle => exact ⟨[], .refl s⟩
  | @ordered actor booking order b w orders isOpen found work =>
    obtain rfl : b.id = booking := Table.id_of_find? found
    refine ⟨_, Store.commit_history s now actor b w, fun driver d hd => ?_,
      Order.pickupsLeft_le work found s.history.nextId⟩
    obtain rfl : d.id = driver := Table.id_of_find? hd
    refine ⟨d.after actor w, ?_, Order.pickupCount_after work d s.history.nextId⟩
    rw [Order.find?_drivers_commit work, hd]
    rfl
  | furnished _ h =>
    obtain ⟨more, grows, -⟩ := h.grows
    refine ⟨[], .of_grows grows fun driver d found => ?_⟩
    obtain ⟨status, found'⟩ := h.exists_driver found
    exact ⟨_, found', rfl⟩
  | seeded _ h =>
    obtain ⟨more, grows⟩ := Store.seed_grows h
    exact ⟨[], .of_grows grows fun driver d found =>
      ⟨d, Store.exists_driver_of_seed h found, rfl⟩⟩

/-! ## Runs -/

/-- Along any run, the count of every driver who is there at the beginning grows by the number of
collections that the run records of him, and no booking is recorded to be collected twice. -/
theorem pickups_are_counted (service : Service) (steps : List Step) :
    let before := service.world.store
    let after := (service.run steps).world.store
    ∃ added, after.history.rows = before.history.rows ++ added ∧
      (∀ driver d, before.drivers.find? driver = some d →
        ∃ d', after.drivers.find? driver = some d' ∧
          d'.pickupCount - d.pickupCount = added.countP (·.isPickupBy driver)) ∧
      ∀ booking, added.countP (·.isPickupOf booking) ≤ 1 := by
  intro before after
  obtain ⟨added, h⟩ : ∃ added, before.CountsPickups after added := by
    refine Service.run_induction (R := fun s t => ∃ added, s.CountsPickups t added) ?_ ?_ steps ?_
      service
    · exact fun s => ⟨[], .refl s⟩
    · rintro s t u ⟨added, h⟩ ⟨more, h'⟩
      exact ⟨added ++ more, h.trans h'⟩
    · exact fun s _ service => (service.step_leaves s).countsPickups
  refine ⟨added, h.rows, fun driver d found => ?_, fun booking => ?_⟩
  · obtain ⟨d', found', hcount⟩ := h.counted driver d found
    exact ⟨d', found', by omega⟩
  · have honce := h.once booking
    have hle := before.pickupsLeft_le_one booking
    omega

/-- A driver collects a booking and corrects the weight; the booking is called off afterwards. -/
theorem corrected_pickup_counted_once :
    let store := Store.single ⟨"IN_PROGRESS", some 7, 1, none, none, none, none⟩
    let service : Service :=
      ⟨⟨{ store with pricing := ⟨[⟨1, 1, 40.0, 60.0, true, ⟨0⟩⟩]⟩ }, .empty⟩, []⟩
    let collection (weight : Float) : Event :=
      .act ⟨7, .driver⟩ 1 .collect ⟨none, some (.float weight), none, none, none⟩
    let steps : List Step :=
      [⟨⟨1⟩, ⟨1⟩, collection 2.5⟩, ⟨⟨2⟩, ⟨2⟩, collection 4.0⟩,
        ⟨⟨3⟩, ⟨3⟩, .act ⟨3, .admin⟩ 1 .cancel .none⟩]
    let after := (service.run steps).world.store
    ∃ d, after.drivers.find? 7 = some d ∧ d.pickupCount = 1 ∧
      after.history.rows.map HistoryEntry.action = [.collect, .cancel] := by
  intro store service collection steps after
  obtain ⟨added, hrows, hcounted, -⟩ := pickups_are_counted service steps
  obtain ⟨d, found, hcount⟩ := hcounted 7 ⟨7, "Saman Kumara", true, "ONLINE", 0⟩ rfl
  have hadded : added = after.history.rows := hrows.symm
  have hpickups : after.history.rows.countP (·.isPickupBy 7) = 1 := by decide +kernel
  rw [hadded, hpickups] at hcount
  exact ⟨d, found, by simpa using hcount, by decide +kernel⟩

end WastePickup
