import WastePickup.Proofs.PathLimit
import WastePickup.Proofs.Twice

/-!
# Changes of two bookings commute

Each booking has a lock of its own, so changes of two bookings may come in either order. The order
does not matter: each change is answered in the same way, and both orders leave the same bookings,
the same counts of pickups and the same histories. What differs are times, the numbers of history
entries, and how available a driver is who has had both done.

The two share the rows of drivers. If one driver makes both pickups, both are counted; where there
is room in his row for one of them only, the first one is made, whichever that is
(`first_pickup_takes_the_room`). So the theorem asks that what both come to fits.

* `Service.step_of_change`: what a change of a booking leaves.
* `Service.alikeFor_step`: a service stays alike for the change of one booking when another one is
  changed.
* `Event.LeavesAlike.driver_rows`: what becomes of the rows of drivers.
* `changes_of_bookings_commute`: both orders come to the same.
-/

namespace WastePickup

/-! ## Paths -/

/-- Changes of different bookings are asked for under different paths. -/
theorem Event.IsChangeOf.path_ne {r r' : Request} {booking booking' : Int}
    (change : (Event.request r).IsChangeOf booking)
    (change' : (Event.request r').IsChangeOf booking') (distinct : booking ≠ booking') :
    (Target.ofText r.target).path ≠ (Target.ofText r'.target).path := by
  intro hpath
  obtain @⟨_, e, number, leads, changes, about⟩ := change
  obtain @⟨_, e', number', leads', changes', about'⟩ := change'
  have hmethod : r'.method = r.method := by
    rw [leads.method_eq, leads'.method_eq, Endpoint.method_of_changes changes,
      Endpoint.method_of_changes changes']
  have hsegments : (Target.ofText r'.target).segments = (Target.ofText r.target).segments := by
    rw [Target.segments, Target.segments, hpath]
  rw [Request.LeadsTo, hmethod, hsegments] at leads'
  obtain ⟨rfl, rfl⟩ := leads.unique leads'
  rw [about] at about'
  cases about'
  exact distinct rfl

/-! ## One change -/

namespace Service

variable {service : Service} {x y : Step} {booking booking' : Int}

/-- A service is alike to itself. -/
theorem alikeFor_refl (service : Service) (event : Event) (booking : Int) :
    service.AlikeFor event booking service where
  locks := rfl
  row := rfl
  terms := .refl service.world.store
  served _ _ := rfl

/-- What a change of a booking leaves: the locks, and either the tables as they are or the work of
an order on that booking. -/
theorem step_of_change (change : x.event.IsChangeOf booking) :
    (service.step x).1.world.locks = service.world.locks ∧
      ((service.step x).1.world.store = service.world.store ∨
        ∃ (actor : Actor) (order : Order) (b : Booking) (w : Writes),
          service.world.store.bookings.find? booking = some b ∧
          order.work x.now actor service.world.store b.progress = .ok w ∧
          (service.step x).1.world.store = service.world.store.commit x.now actor b w) := by
  cases step_comesAlike change rfl (service.alikeFor_refl x.event booking) with
  | idle world => exact ⟨by rw [world], .inl (by rw [world])⟩
  | @ordered actor order _ _ _ world =>
    rw [world]
    refine ⟨World.carryOut_locks .., ?_⟩
    rcases service.world.carryOut_cases x.token x.now booking actor order with
      ⟨refusal, h⟩ | ⟨b, w, -, found, work, h⟩
    · exact .inl (by rw [h])
    · exact .inr ⟨actor, order, b, w, found, work, by rw [h]⟩

end Service

namespace Driver

variable (d : Driver) (actor : Actor) (w : Writes)

/-- Work leaves the approval of a driver. -/
@[simp] theorem after_approved : (d.after actor w).approved = d.approved := by
  unfold after
  split
  · split <;> rfl
  · rfl

/-- Nobody's work takes pickups away. -/
theorem le_pickupCount_after : d.pickupCount ≤ (d.after actor w).pickupCount := by
  unfold after
  split
  · rename_i m _
    have hpickups := m.action.pickups_cases
    split
    · simp only
      omega
    · exact Int.le_refl _
  · exact Int.le_refl _

end Driver

/-- Work changes neither prices nor kinds of waste nor approvals. -/
theorem Order.sameTerms_commit {order : Order} {s : Store} {now : Instant} {actor : Actor}
    {b : Booking} {w : Writes} (work : order.work now actor s b.progress = .ok w) :
    s.SameTerms (s.commit now actor b w) where
  pricing := Store.commit_pricing ..
  categories := Store.commit_categories ..
  drivers driver := by
    rw [Order.find?_drivers_commit work, Option.map_map]
    congr 1
    funext d
    exact d.after_approved actor w

namespace Service

variable {service : Service} {x y : Step} {booking booking' : Int}

/-- A change of a booking leaves the terms of work. -/
theorem sameTerms_step (change : x.event.IsChangeOf booking) :
    service.world.store.SameTerms (service.step x).1.world.store := by
  rcases (step_of_change change).2 with h | ⟨actor, order, b, w, -, work, h⟩
  · rw [h]
    exact .refl service.world.store
  · rw [h]
    exact Order.sameTerms_commit work

/-- It takes no pickups away. -/
theorem pickupCount_step (change : x.event.IsChangeOf booking) {driver : Int} {d d' : Driver}
    (found : service.world.store.drivers.find? driver = some d)
    (found' : (service.step x).1.world.store.drivers.find? driver = some d') :
    d.pickupCount ≤ d'.pickupCount := by
  rcases (step_of_change change).2 with h | ⟨actor, order, b, w, -, work, h⟩
  · rw [h, found] at found'
    cases found'
    exact Int.le_refl _
  · rw [h, Order.find?_drivers_commit work, found] at found'
    cases found'
    exact d.le_pickupCount_after actor w

/-- When another booking is changed, a service stays alike for the change of one. -/
theorem alikeFor_step {event : Event} (change : event.IsChangeOf booking)
    (change' : y.event.IsChangeOf booking') (distinct : booking ≠ booking') :
    service.AlikeFor event booking (service.step y).1 where
  locks := (step_of_change change').1
  row := by
    rcases (step_of_change change').2 with h | ⟨actor, order, b, w, found, -, h⟩
    · rw [h]
    · have hid : b.id = booking' := Table.id_of_find? found
      rw [h, Store.find?_commit_of_ne (hid ▸ distinct)]
  terms := sameTerms_step change'
  served r hr := by
    apply servedAt_step_of_ne
    · intro r' hr'
      rw [hr] at change
      rw [hr'] at change'
      exact change.path_ne change' distinct
    · intro hforget
      rw [hforget] at change'
      cases change'

end Service

/-! ## What two stores are left with -/

/-- An entry of the history without its number and its time. -/
def HistoryEntry.bare (e : HistoryEntry) : HistoryEntry :=
  { e with id := 0, createdAt := ⟨0⟩ }

/-- What is recorded, but for numbers and times, depends on the move. -/
theorem Writes.bare_entries {w w' : Writes} (same : w'.outline = w.outline) (id id' booking : Int)
    (now now' : Instant) (actor : Actor) :
    (w'.entries id' booking now' actor).map HistoryEntry.bare =
      (w.entries id booking now actor).map HistoryEntry.bare := by
  unfold entries
  rw [move_eq_of_outline same]
  cases w.move with
  | none => rfl
  | some m => rfl

/-- What is done to the rows of drivers: each gets a number of pickups more, and may get another
availability. -/
def Driver.Counts (pickups : Int → Int) (f : Driver → Driver) : Prop :=
  ∀ d, ∃ status, f d = { d with status := status, pickupCount := d.pickupCount + pickups d.id }

namespace Driver.Counts

variable {pickups pickups' : Int → Int} {f g : Driver → Driver}

/-- A driver whose pickups are counted keeps his number. -/
theorem id_eq (hf : Counts pickups f) (d : Driver) : (f d).id = d.id := by
  obtain ⟨status, h⟩ := hf d
  rw [h]

/-- Pickups are counted in either order. -/
theorem comm (hf : Counts pickups f) (hg : Counts pickups' g) (d : Driver) :
    ({ f (g d) with status := "" } : Driver) = { g (f d) with status := "" } := by
  obtain ⟨_, hfg⟩ := hf (g d)
  obtain ⟨_, hgf⟩ := hg (f d)
  obtain ⟨_, hfd⟩ := hf d
  obtain ⟨_, hgd⟩ := hg d
  rw [hfg, hgf, hfd, hgd]
  simp only [Driver.mk.injEq, true_and]
  omega

end Driver.Counts

/-- A step writes the row of a driver: work on a booking is done, and the row is among what it
writes. -/
inductive Event.WritesRow (event : Event) (now : Instant) (s after : Store) (driver : Int) :
    Prop where
  | intro {actor : Actor} {booking : Int} {order : Order} {b : Booking} {w : Writes} {d : Driver}
      (orders : event.Orders s actor booking order) (found : s.bookings.find? booking = some b)
      (work : order.work now actor s b.progress = .ok w) (commits : after = s.commit now actor b w)
      (row : w.driver = some d) (id : d.id = driver) : WritesRow event now s after driver

/-- What work does to the drivers is to count pickups. -/
theorem Driver.exists_counts_after (actor : Actor) (w : Writes) :
    ∃ pickups, Counts pickups (·.after actor w) := by
  cases hown : w.ownMove? with
  | none => exact ⟨fun _ => 0, fun d => ⟨d.status, by simp [after, hown]⟩⟩
  | some m =>
    refine ⟨fun id => if id = actor.id then m.action.pickups else 0, fun d => ?_⟩
    by_cases hid : d.id = actor.id
    · exact ⟨m.action.availability.name, by simp [after, hown, hid]⟩
    · exact ⟨d.status, by simp [after, hown, hid]⟩

namespace Event.LeavesAlike

variable {event : Event} {booking : Int} {now now' : Instant} {s t s' t' : Store}
  (h : event.LeavesAlike booking now now' s t s' t')
include h

/-- All tables but those of bookings, drivers and history are as they were. -/
theorem fixed : (s'.users = s.users ∧ s'.categories = s.categories ∧ s'.pricing = s.pricing) ∧
    t'.users = t.users ∧ t'.categories = t.categories ∧ t'.pricing = t.pricing := by
  cases h with
  | idle => exact ⟨⟨rfl, rfl, rfl⟩, rfl, rfl, rfl⟩
  | done => simp

/-- So are all other bookings. -/
theorem find?_of_ne {other : Int} (ne : other ≠ booking) :
    s'.bookings.find? other = s.bookings.find? other ∧
      t'.bookings.find? other = t.bookings.find? other := by
  cases h with
  | idle => exact ⟨rfl, rfl⟩
  | @done _ _ b _ _ _ found =>
    have hid : b.id = booking := Table.id_of_find? found
    exact ⟨Store.find?_commit_of_ne (hid ▸ ne), Store.find?_commit_of_ne (hid ▸ ne)⟩

/-- The booking itself is the same up to times. -/
theorem find?_untimed (row : (t.bookings.find? booking).map Booking.untimed =
      (s.bookings.find? booking).map Booking.untimed) :
    (t'.bookings.find? booking).map Booking.untimed =
      (s'.bookings.find? booking).map Booking.untimed := by
  cases h with
  | idle => exact row
  | done orders found found' work work' same =>
    rw [Store.find?_commit_self found, Store.find?_commit_self found', Option.map_some,
      Option.map_some, Booking.untimed_advance, Booking.untimed_advance, same]

/-- Nothing is recorded of other bookings. -/
theorem historyOf_of_ne {other : Int} (ne : other ≠ booking) :
    s'.historyOf other = s.historyOf other ∧ t'.historyOf other = t.historyOf other := by
  cases h with
  | idle => exact ⟨rfl, rfl⟩
  | @done _ _ b _ _ _ found =>
    have hid : b.id = booking := Table.id_of_find? found
    exact ⟨Store.historyOf_commit_of_ne (hid ▸ ne), Store.historyOf_commit_of_ne (hid ▸ ne)⟩

/-- The same is recorded of the booking itself, but for numbers and times. -/
theorem historyOf_bare (history : (t.historyOf booking).map HistoryEntry.bare =
      (s.historyOf booking).map HistoryEntry.bare) :
    (t'.historyOf booking).map HistoryEntry.bare =
      (s'.historyOf booking).map HistoryEntry.bare := by
  cases h with
  | idle => exact history
  | @done _ _ b _ _ orders found found' work work' same =>
    obtain rfl : b.id = booking := Table.id_of_find? found
    rw [Store.historyOf_commit_self, Store.historyOf_commit_self, List.map_append,
      List.map_append, history, Writes.bare_entries same]

/-- The same is done to the rows of drivers in both stores; and a row that is not written would be
left as it is, whatever it says. -/
theorem driver_rows : ∃ pickups f, Driver.Counts pickups f ∧
    (∀ driver, s'.drivers.find? driver = (s.drivers.find? driver).map f ∧
      t'.drivers.find? driver = (t.drivers.find? driver).map f) ∧
    ∀ driver d, s.drivers.find? driver = some d →
      event.WritesRow now s s' driver ∨ ∀ d' : Driver, d'.id = driver → f d' = d' := by
  cases h with
  | idle =>
    refine ⟨fun _ => 0, id, fun d => ⟨d.status, by simp⟩, fun driver => ?_, fun _ _ _ => .inr ?_⟩
    · simp
    · exact fun _ _ => rfl
  | @done actor order b w w' orders found found' work work' same =>
    obtain ⟨pickups, counts⟩ := Driver.exists_counts_after actor w
    have hafter : ∀ d : Driver, d.after actor w' = d.after actor w := by
      intro d
      rw [Driver.after, Driver.after, Writes.ownMove?_eq_of_outline same]
    refine ⟨pickups, (·.after actor w), counts, fun driver => ?_, fun driver d hd => ?_⟩
    · rw [Order.find?_drivers_commit work, Order.find?_drivers_commit work']
      simp only [hafter]
      trivial
    · cases hown : w.ownMove? with
      | none => exact .inr fun d' _ => by simp [Driver.after, hown]
      | some m =>
        by_cases hid : driver = actor.id
        · -- The move is the driver's own, so his row is written.
          have hrow := Order.writes_driver work
          rw [hown, Option.bind_some, Order.driver_of_ownMove work hown, Store.driverWith,
            ← hid, hd, Option.map_some] at hrow
          exact .inl (.intro orders found work rfl hrow (Table.id_of_find? hd))
        · exact .inr fun d' hd' => d'.after_of_ne (hd' ▸ hid) w

end Event.LeavesAlike

/-! ## Both orders -/

/-- Two worlds are the same up to times, numbers of history entries, and how available drivers
are. -/
structure World.SameUpToTimes (w w' : World) : Prop where
  locks : w'.locks = w.locks
  fixed : w'.store.users = w.store.users ∧ w'.store.categories = w.store.categories ∧
    w'.store.pricing = w.store.pricing
  bookings : ∀ booking, (w'.store.bookings.find? booking).map Booking.untimed =
    (w.store.bookings.find? booking).map Booking.untimed
  drivers : ∀ driver, (w'.store.drivers.find? driver).map (fun d => { d with status := "" }) =
    (w.store.drivers.find? driver).map fun d => { d with status := "" }
  history : ∀ booking, (w'.store.historyOf booking).map HistoryEntry.bare =
    (w.store.historyOf booking).map HistoryEntry.bare

/-- Rows that are looked up by booking are the same after two changes in either order, if each
change does the same to its own booking in both orders and leaves the others. -/
theorem eq_of_changes {β : Type} {v : Store → Int → β} {booking booking' : Int}
    (distinct : booking ≠ booking') {s one other both both' : Store}
    (kept : ∀ z, z ≠ booking → v one z = v s z ∧ v both' z = v other z)
    (kept' : ∀ z, z ≠ booking' → v other z = v s z ∧ v both z = v one z)
    (same : v other booking = v s booking → v both' booking = v one booking)
    (same' : v one booking' = v s booking' → v both booking' = v other booking')
    (z : Int) : v both' z = v both z := by
  by_cases hz : z = booking
  · obtain ⟨hother, hboth⟩ := kept' booking distinct
    rw [hz, same hother, hboth]
  · obtain ⟨hone, hboth'⟩ := kept z hz
    by_cases hz' : z = booking'
    · rw [hboth', hz', same' (hz' ▸ hone)]
    · obtain ⟨hother, hboth⟩ := kept' z hz'
      rw [hboth', hother, hboth, hone]

/-- The pickups that two changes count together fit the rows of drivers, and so do those counted
before. -/
def Store.HasRoomFor (s one other : Store) : Prop :=
  ∀ driver d d₁ d₂, s.drivers.find? driver = some d → one.drivers.find? driver = some d₁ →
    other.drivers.find? driver = some d₂ →
    Number.fits64 d.pickupCount = true ∧
      Number.fits64 (d₁.pickupCount + d₂.pickupCount - d.pickupCount) = true

namespace Store.HasRoomFor

variable {s one other : Store}

/-- Room for both counts does not depend on their order. -/
theorem symm (room : s.HasRoomFor one other) : s.HasRoomFor other one := by
  intro driver d d₂ d₁ hs hother hone
  obtain ⟨hd, hboth⟩ := room driver d d₁ d₂ hs hone hother
  exact ⟨hd, Int.add_comm d₁.pickupCount d₂.pickupCount ▸ hboth⟩

/-- So each of the two leaves room for the other. -/
theorem leavesRoom (room : s.HasRoomFor one other) (terms : s.SameTerms one)
    (terms' : s.SameTerms other)
    (grown : ∀ driver d d', s.drivers.find? driver = some d →
      other.drivers.find? driver = some d' → d.pickupCount ≤ d'.pickupCount) :
    s.LeavesRoom one other where
  fits driver d hd := by
    rcases terms.driver_cases driver with ⟨hnone, -⟩ | ⟨-, d₁, -, hone, -⟩
    · rw [hnone] at hd
      cases hd
    · rcases terms'.driver_cases driver with ⟨hnone, -⟩ | ⟨-, d₂, -, hother, -⟩
      · rw [hnone] at hd
        cases hd
      · exact (room driver d d₁ d₂ hd hone hother).1
  grown := grown
  room driver d d₁ d₂ hs hone hother := by
    have hsum : d₂.pickupCount + (d₁.pickupCount - d.pickupCount) =
        d₁.pickupCount + d₂.pickupCount - d.pickupCount := by omega
    rw [hsum]
    exact (room driver d d₁ d₂ hs hone hother).2

end Store.HasRoomFor

namespace Service

variable {service : Service} {x x' y y' : Step} {booking booking' : Int}

/-- A change of one booking comes to the same after another booking has been changed. -/
theorem step_after (again : x'.event = x.event) (change : x.event.IsChangeOf booking)
    (change' : y.event.IsChangeOf booking') (distinct : booking ≠ booking')
    (room : service.world.store.HasRoomFor (service.step x).1.world.store
      (service.step y).1.world.store) :
    (service.step x).2.SameUpToTimes ((service.step y).1.step x').2 ∧
      x.event.LeavesAlike booking x.now x'.now service.world.store (service.step y).1.world.store
        (service.step x).1.world.store ((service.step y).1.step x').1.world.store := by
  apply step_alike change again (alikeFor_step change change' distinct)
  apply room.leavesRoom (sameTerms_step change) (sameTerms_step change')
  intro driver d d' found found'
  exact pickupCount_step change' found found'

end Service

/-- Changes of two bookings commute. Each is answered in the same way up to times, whichever is
first. Both orders leave the same bookings, the same counts of pickups and the same histories, up to
times and numbers of history entries; and they leave the same row of every driver, unless both write
it. -/
theorem changes_of_bookings_commute (service : Service) (x x' y y' : Step) (booking booking' : Int)
    (again : x'.event = x.event) (again' : y'.event = y.event)
    (change : x.event.IsChangeOf booking) (change' : y.event.IsChangeOf booking')
    (distinct : booking ≠ booking')
    (room : service.world.store.HasRoomFor (service.step x).1.world.store
      (service.step y).1.world.store) :
    let one := service.step x
    let both := one.1.step y'
    let other := service.step y
    let both' := other.1.step x'
    one.2.SameUpToTimes both'.2 ∧ other.2.SameUpToTimes both.2 ∧
      both.1.world.SameUpToTimes both'.1.world ∧
      ∀ driver,
        ¬(x.event.WritesRow x.now service.world.store one.1.world.store driver ∧
          y.event.WritesRow y.now service.world.store other.1.world.store driver) →
        both'.1.world.store.drivers.find? driver = both.1.world.store.drivers.find? driver := by
  intro one both other both'
  obtain ⟨hanswer, hx⟩ := Service.step_after again change change' distinct room
  obtain ⟨hanswer', hy⟩ := Service.step_after again' change' change (Ne.symm distinct) room.symm
  have hlocks : both'.1.world.locks = both.1.world.locks := by
    have hx' : x'.event.IsChangeOf booking := again ▸ change
    have hy' : y'.event.IsChangeOf booking' := again' ▸ change'
    rw [(Service.step_of_change hx').1, (Service.step_of_change hy').1,
      (Service.step_of_change change).1, (Service.step_of_change change').1]
  obtain ⟨pickups, f, hf, hrows, hwrites⟩ := hx.driver_rows
  obtain ⟨pickups', g, hg, hrows', hwrites'⟩ := hy.driver_rows
  have hboth : ∀ driver, both.1.world.store.drivers.find? driver =
      (service.world.store.drivers.find? driver).map fun d => g (f d) := by
    intro driver
    rw [(hrows' driver).2, (hrows driver).1, Option.map_map]
    rfl
  have hboth' : ∀ driver, both'.1.world.store.drivers.find? driver =
      (service.world.store.drivers.find? driver).map fun d => f (g d) := by
    intro driver
    rw [(hrows driver).2, (hrows' driver).1, Option.map_map]
    rfl
  refine ⟨hanswer, hanswer', ⟨hlocks, ?fixed, ?bookings, ?drivers, ?history⟩, ?written⟩
  case fixed =>
    obtain ⟨⟨husers, hcategories, hpricing⟩, husers₂, hcategories₂, hpricing₂⟩ := hx.fixed
    obtain ⟨⟨husers', hcategories', hpricing'⟩, husers₁, hcategories₁, hpricing₁⟩ := hy.fixed
    refine ⟨?_, ?_, ?_⟩
    · rw [husers₂, husers', husers₁, husers]
    · rw [hcategories₂, hcategories', hcategories₁, hcategories]
    · rw [hpricing₂, hpricing', hpricing₁, hpricing]
  case bookings =>
    apply eq_of_changes (v := fun s z => (s.bookings.find? z).map Booking.untimed) distinct
    · intro z hz
      obtain ⟨hone, hboth'⟩ := hx.find?_of_ne hz
      exact ⟨congrArg _ hone, congrArg _ hboth'⟩
    · intro z hz
      obtain ⟨hother, hboth⟩ := hy.find?_of_ne hz
      exact ⟨congrArg _ hother, congrArg _ hboth⟩
    · exact hx.find?_untimed
    · exact hy.find?_untimed
  case drivers =>
    intro driver
    rw [hboth, hboth', Option.map_map, Option.map_map]
    congr 1
    funext d
    exact hf.comm hg d
  case history =>
    apply eq_of_changes (v := fun s z => (s.historyOf z).map HistoryEntry.bare) distinct
    · intro z hz
      obtain ⟨hone, hboth'⟩ := hx.historyOf_of_ne hz
      exact ⟨congrArg _ hone, congrArg _ hboth'⟩
    · intro z hz
      obtain ⟨hother, hboth⟩ := hy.historyOf_of_ne hz
      exact ⟨congrArg _ hother, congrArg _ hboth⟩
    · exact hx.historyOf_bare
    · exact hy.historyOf_bare
  case written =>
    intro driver hnot
    rw [hboth, hboth']
    cases hd : service.world.store.drivers.find? driver with
    | none => rfl
    | some d =>
      have hid : d.id = driver := Table.id_of_find? hd
      rw [Option.map_some, Option.map_some]
      -- Whoever does not write the row would leave it as it is before and after the other.
      rcases hwrites driver d hd with writes | kept
      · rcases hwrites' driver d hd with writes' | kept'
        · exact absurd ⟨writes, writes'⟩ hnot
        · rw [kept' d hid, kept' (f d) ((hf.id_eq d).trans hid)]
      · rw [kept d hid, kept (g d) ((hg.id_eq d).trans hid)]

/-- A driver starts one of his bookings while an admin calls another one off, at either time. -/
theorem start_and_cancellation_commute :
    let duty (id : Int) : Booking :=
      { Booking.single ⟨"ASSIGNED", some 7, 1, none, none, none, none⟩ with id := id }
    let service : Service :=
      ⟨⟨{ Store.single (duty 1).progress with bookings := ⟨[duty 1, duty 2]⟩ }, .empty⟩, []⟩
    let start : Event := .act ⟨7, .driver⟩ 1 .start .none
    let cancel : Event := .request ⟨"PATCH", "/api/v1/admin/bookings/2/cancel",
      [("X-Actor-Id", "3"), ("X-Actor-Role", "ADMIN")], .absent⟩
    let both := (service.step ⟨⟨1⟩, ⟨1⟩, start⟩).1.step ⟨⟨2⟩, ⟨2⟩, cancel⟩
    let both' := (service.step ⟨⟨1⟩, ⟨1⟩, cancel⟩).1.step ⟨⟨2⟩, ⟨2⟩, start⟩
    both.1.world.SameUpToTimes both'.1.world ∧
      both.1.world.store.history.rows.map HistoryEntry.action = [.start, .cancel] ∧
      both'.1.world.store.history.rows.map HistoryEntry.action = [.cancel, .start] := by
  intro duty service start cancel both both'
  have change : start.IsChangeOf 1 := .act ..
  have change' : cancel.IsChangeOf 2 :=
    @Event.IsChangeOf.request 2 _ .cancelAsAdmin "2" (by decide +kernel) (by decide)
      (by decide +kernel)
  have hnone : ∀ d ∈ service.world.store.drivers.rows, d.pickupCount = 0 := by decide
  have hstart : ∀ d ∈ (service.step ⟨⟨1⟩, ⟨1⟩, start⟩).1.world.store.drivers.rows,
      d.pickupCount = 0 := by decide +kernel
  have hcancel : ∀ d ∈ (service.step ⟨⟨1⟩, ⟨1⟩, cancel⟩).1.world.store.drivers.rows,
      d.pickupCount = 0 := by decide +kernel
  have room : service.world.store.HasRoomFor
      (service.step ⟨⟨1⟩, ⟨1⟩, start⟩).1.world.store
      (service.step ⟨⟨1⟩, ⟨1⟩, cancel⟩).1.world.store := by
    intro driver d d₁ d₂ hd h₁ h₂
    rw [hnone d (Table.mem_of_find? hd), hstart d₁ (Table.mem_of_find? h₁),
      hcancel d₂ (Table.mem_of_find? h₂)]
    decide
  obtain ⟨-, -, same, -⟩ := changes_of_bookings_commute service ⟨⟨1⟩, ⟨1⟩, start⟩
    ⟨⟨2⟩, ⟨2⟩, start⟩ ⟨⟨1⟩, ⟨1⟩, cancel⟩ ⟨⟨2⟩, ⟨2⟩, cancel⟩ 1 2 rfl rfl change change' (by decide)
    room
  exact ⟨same, by decide +kernel, by decide +kernel⟩

/-- Where the row of a driver has room for one pickup more, two pickups of his do not commute: the
first one is made and the second one breaks down. -/
theorem first_pickup_takes_the_room :
    let duty (id : Int) : Booking :=
      { Booking.single ⟨"IN_PROGRESS", some 7, 1, none, none, none, none⟩ with id := id }
    let service : Service :=
      ⟨⟨{ Store.single (duty 1).progress with
          drivers := ⟨[⟨7, "Saman Kumara", true, "ON_PICKUP", 9223372036854775806⟩]⟩
          pricing := ⟨[⟨1, 1, 40.0, 60.0, true, ⟨0⟩⟩]⟩
          bookings := ⟨[duty 1, duty 2]⟩ }, .empty⟩, []⟩
    let collect (path : String) : Event := .request ⟨"PATCH", path,
      [("X-Actor-Id", "7"), ("X-Actor-Role", "DRIVER")], .value (.obj [("weight_kg", .float 2.0)])⟩
    let x : Step := ⟨⟨1⟩, ⟨1⟩, collect "/api/v1/driver/bookings/1/collect"⟩
    let y : Step := ⟨⟨2⟩, ⟨2⟩, collect "/api/v1/driver/bookings/2/collect"⟩
    let one := service.step x
    let both := one.1.step y
    let other := service.step y
    let both' := other.1.step x
    x.event.IsChangeOf 1 ∧ y.event.IsChangeOf 2 ∧ ¬one.2.SameUpToTimes both'.2 ∧
      ¬other.2.SameUpToTimes both.2 ∧ ¬both.1.world.SameUpToTimes both'.1.world := by
  intro duty service collect x y one both other both'
  have differ : ∀ o o' : Outcome, (o matches .response _) = true → (o' matches .broken _) = true →
      ¬o.SameUpToTimes o' := by
    intro o o' ho ho' same
    cases same with
    | same =>
      cases o with
      | response => cases ho'
      | _ => cases ho
    | booking => cases ho
    | shown => cases ho'
  refine ⟨@Event.IsChangeOf.request 1 _ .collect "1" (by decide +kernel) (by decide)
    (by decide +kernel), @Event.IsChangeOf.request 2 _ .collect "2" (by decide +kernel) (by decide)
    (by decide +kernel), ?_, ?_, ?_⟩
  · exact differ one.2 both'.2 (by decide +kernel) (by decide +kernel)
  · exact differ other.2 both.2 (by decide +kernel) (by decide +kernel)
  · intro same
    have hstatus := congrArg (Option.map fun b : Booking => b.progress.status) (same.bookings 1)
    rw [Option.map_map, Option.map_map] at hstatus
    have hdiffer : (both'.1.world.store.bookings.find? 1).map (fun b => b.progress.status) ≠
        (both.1.world.store.bookings.find? 1).map fun b => b.progress.status := by decide +kernel
    exact hdiffer hstatus

end WastePickup
