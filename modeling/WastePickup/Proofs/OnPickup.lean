import WastePickup.Proofs.Running

/-!
# Drivers who are on a pickup

A driver is shown to be on a pickup, and a booking of his is running. The two are meant to go
together, but nothing compares them: the row of a driver is written when he starts, collects or
calls off a booking of his own, and his other bookings are not looked at. An admin who calls off a
running booking or gives it to another driver writes no row at all.

So there are three ways in which the agreement is upset, and no others. A driver is done with one
booking while another one of his is running; an admin calls off the only running booking of a
driver; or an admin hands a running booking over, and it was the only one of its driver, or the new
driver has none. Otherwise every order keeps the agreement, and each of the three breaks it.

* `Order.Upsets`: the three ways.
* `Order.agrees_commit_iff`: an order keeps the agreement exactly if it does not upset it.
* `Service.step_proceeds`: an event leaves the rows of drivers to the work, unless one is set by
  hand.
* `availability_agrees_iff`: along a run, the agreement lasts exactly as long as no order upsets it.
-/

namespace WastePickup

/-! ## Drivers who are busy -/

namespace Store

/-- A booking of a driver is running. -/
def IsBusy (s : Store) (driver : Int) : Prop :=
  ∃ booking b, s.bookings.find? booking = some b ∧ b.progress.RunBy driver

/-- A booking of a driver is running besides a given one. -/
def IsBusyBesides (s : Store) (booking driver : Int) : Prop :=
  ∃ other b, other ≠ booking ∧ s.bookings.find? other = some b ∧ b.progress.RunBy driver

/-- There is a row for a driver. -/
def Lists (s : Store) (driver : Int) : Prop :=
  (s.drivers.find? driver).isSome = true

/-- The drivers who are shown to be on a pickup are those who have a booking that is running. -/
def Agrees (s : Store) : Prop :=
  ∀ driver d, s.drivers.find? driver = some d →
    (d.status = Availability.onPickup.name ↔ s.IsBusy driver)

variable {s : Store}

/-- Only the bookings that are there have to be looked through. -/
theorem isBusy_iff_any (driver : Int) :
    s.IsBusy driver ↔ (s.bookings.rows.any fun row =>
      (s.bookings.find? row.id).any fun b => decide (b.progress.RunBy driver)) = true := by
  simp only [List.any_eq_true, Option.any_eq_true, decide_eq_true_eq]
  constructor
  · rintro ⟨booking, b, found, running⟩
    obtain rfl : b.id = booking := Table.id_of_find? found
    exact ⟨b, Table.mem_of_find? found, b, found, running⟩
  · rintro ⟨row, -, b, found, running⟩
    exact ⟨row.id, b, found, running⟩

instance (s : Store) (driver : Int) : Decidable (s.IsBusy driver) :=
  decidable_of_iff _ (s.isBusy_iff_any driver).symm

/-- Only the drivers who are there have to be looked through. -/
theorem agrees_iff_all : s.Agrees ↔ ∀ row ∈ s.drivers.rows,
    ∀ d ∈ s.drivers.find? row.id,
      (d.status = Availability.onPickup.name ↔ s.IsBusy row.id) := by
  constructor
  · exact fun agrees row _ d hd => agrees row.id d hd
  · intro rows driver d hd
    obtain rfl : d.id = driver := Table.id_of_find? hd
    exact rows d (Table.mem_of_find? hd) d hd

instance (s : Store) : Decidable s.Agrees :=
  decidable_of_iff _ agrees_iff_all.symm

/-- A driver is busy with a given booking or besides it. -/
theorem isBusy_iff {b : Booking} (found : s.bookings.find? b.id = some b) (driver : Int) :
    s.IsBusy driver ↔ b.progress.RunBy driver ∨ s.IsBusyBesides b.id driver := by
  constructor
  · rintro ⟨booking, b', found', running⟩
    by_cases hb : booking = b.id
    · rw [hb, found] at found'
      cases found'
      exact .inl running
    · exact .inr ⟨booking, b', hb, found', running⟩
  · rintro (running | ⟨other, b', -, found', running⟩)
    · exact ⟨b.id, b, found, running⟩
    · exact ⟨other, b', found', running⟩

/-- Work on a booking leaves what a driver is busy with besides it. -/
theorem isBusyBesides_commit {now : Instant} {actor : Actor} {b : Booking} {w : Writes}
    (driver : Int) :
    (s.commit now actor b w).IsBusyBesides b.id driver ↔ s.IsBusyBesides b.id driver := by
  unfold IsBusyBesides
  constructor
  · rintro ⟨other, b', hne, found, running⟩
    rw [find?_commit_of_ne hne] at found
    exact ⟨other, b', hne, found, running⟩
  · rintro ⟨other, b', hne, found, running⟩
    refine ⟨other, b', hne, ?_, running⟩
    rw [find?_commit_of_ne hne]
    exact found

/-- After work on a booking, a driver is busy with it as it is then, or besides it. -/
theorem isBusy_commit {now : Instant} {actor : Actor} {b : Booking} {w : Writes}
    (found : s.bookings.find? b.id = some b) (driver : Int) :
    (s.commit now actor b w).IsBusy driver ↔
      w.progress.RunBy driver ∨ s.IsBusyBesides b.id driver := by
  have hfound : (s.commit now actor b w).bookings.find? (b.advance now w.progress w.rounded).id =
      some (b.advance now w.progress w.rounded) := by
    rw [Booking.advance_id]
    exact find?_commit_self found
  rw [isBusy_iff hfound, Booking.advance_id, isBusyBesides_commit, Booking.advance_progress,
    Progress.runBy_onto]

end Store

/-! ## Orders that upset the agreement -/

namespace Order

/-- The ways in which work on a booking upsets the agreement between the rows of the drivers and
the running bookings. -/
inductive Upsets (s : Store) (actor : Actor) (b : Booking) (order : Order) : Prop where
  /-- The driver is shown to be free while another booking of his is running. -/
  | finish (finishes : order.IsFinish actor b.progress) (listed : s.Lists actor.id)
      (busy : s.IsBusyBesides b.id actor.id) : Upsets s actor b order
  /-- The driver stays on a pickup although no booking of his is running. -/
  | callOff (callsOff : order.IsCallOff actor b.progress) {driver : Int}
      (has : b.progress.driver = some driver) (listed : s.Lists driver)
      (only : ¬s.IsBusyBesides b.id driver) : Upsets s actor b order
  /-- The old driver stays on a pickup although no booking of his is running, or the new driver has
  one that is running and is not shown to be on a pickup. -/
  | handover {taker : Int} (handsOver : order.IsHandover b.progress taker) {driver : Int}
      (either : b.progress.driver = some driver ∨ driver = taker) (listed : s.Lists driver)
      (only : ¬s.IsBusyBesides b.id driver) : Upsets s actor b order

section Ways

variable {order : Order} {s : Store} {actor : Actor} {b : Booking}

/-- Starting upsets nothing. -/
theorem not_upsets_of_start (asked : order.action? = some .start) : ¬order.Upsets s actor b := by
  rintro (⟨⟨-, hcancel | ⟨hcollect, -⟩⟩, -, -⟩ | ⟨⟨-, hcancel, -⟩, -, -, -⟩ | ⟨⟨hnone, -⟩, -, -, -⟩)
  · exact absurd (asked.symm.trans hcancel) (by simp)
  · exact absurd (asked.symm.trans hcollect) (by simp)
  · exact absurd (asked.symm.trans hcancel) (by simp)
  · exact absurd (asked.symm.trans hnone) (by simp)

/-- To finish a pickup is upsetting if the driver is busy with another one. -/
theorem upsets_iff_of_finish (h : order.IsFinish actor b.progress) :
    order.Upsets s actor b ↔ s.Lists actor.id ∧ s.IsBusyBesides b.id actor.id := by
  constructor
  · rintro (⟨-, listed, busy⟩ | ⟨callsOff, -, -, -⟩ | ⟨handsOver, -, -, -⟩)
    · exact ⟨listed, busy⟩
    · exact absurd h.1 callsOff.1
    · exact absurd handsOver.1 h.action?_ne_none
  · exact fun ⟨listed, busy⟩ => .finish h listed busy

/-- To call a pickup off is upsetting unless its driver is busy with another one. -/
theorem upsets_iff_of_callOff (h : order.IsCallOff actor b.progress) :
    order.Upsets s actor b ↔ ∃ driver, b.progress.driver = some driver ∧ s.Lists driver ∧
      ¬s.IsBusyBesides b.id driver := by
  constructor
  · rintro (⟨finishes, -, -⟩ | ⟨-, has, listed, only⟩ | ⟨handsOver, -, -, -⟩)
    · exact absurd finishes.1 h.1
    · exact ⟨_, has, listed, only⟩
    · exact absurd handsOver.1 h.action?_ne_none
  · exact fun ⟨driver, has, listed, only⟩ => .callOff h has listed only

/-- To hand a pickup over is upsetting if one of the two drivers is not busy with another one. -/
theorem upsets_iff_of_handover {taker : Int} (h : order.IsHandover b.progress taker) :
    order.Upsets s actor b ↔ ∃ driver, (b.progress.driver = some driver ∨ driver = taker) ∧
      s.Lists driver ∧ ¬s.IsBusyBesides b.id driver := by
  constructor
  · rintro (⟨finishes, -, -⟩ | ⟨callsOff, -, -, -⟩ | ⟨handsOver, either, listed, only⟩)
    · exact absurd h.1 finishes.action?_ne_none
    · exact absurd h.1 callsOff.action?_ne_none
    · obtain rfl := Option.some.inj (handsOver.2.1.symm.trans h.2.1)
      exact ⟨_, either, listed, only⟩
  · exact fun ⟨driver, either, listed, only⟩ => .handover h either listed only

end Ways

/-! ## What an order does to the agreement -/

section Agreement

variable {order : Order} {s : Store} {now : Instant} {actor : Actor} {b : Booking} {w : Writes}

/-- The drivers agree after work on a booking if the rows that it leaves do. -/
theorem agrees_commit (h : order.work now actor s b.progress = .ok w)
    (found : s.bookings.find? b.id = some b) :
    (s.commit now actor b w).Agrees ↔ ∀ driver d, s.drivers.find? driver = some d →
      ((d.after actor w).status = Availability.onPickup.name ↔
        w.progress.RunBy driver ∨ s.IsBusyBesides b.id driver) := by
  simp only [Store.Agrees, find?_drivers_commit h, Option.map_eq_some_iff,
    Store.isBusy_commit found]
  constructor
  · exact fun agrees driver d hd => agrees driver _ ⟨d, hd, rfl⟩
  · rintro rows driver _ ⟨d, hd, rfl⟩
    exact rows driver d hd

/-- Where the driver makes no move, the drivers agree afterwards if the booking is running for
whomever it was running for before, unless he is busy besides. -/
theorem agrees_commit_of_others (h : order.work now actor s b.progress = .ok w)
    (found : s.bookings.find? b.id = some b) (agrees : s.Agrees) (own : w.ownMove? = none) :
    (s.commit now actor b w).Agrees ↔ ∀ driver, s.Lists driver → ¬s.IsBusyBesides b.id driver →
      (w.progress.RunBy driver ↔ b.progress.RunBy driver) := by
  have hrow : ∀ d : Driver, d.after actor w = d := by simp [Driver.after, own]
  simp only [agrees_commit h found, hrow]
  have hbefore : ∀ driver d, s.drivers.find? driver = some d →
      (d.status = Availability.onPickup.name ↔
        b.progress.RunBy driver ∨ s.IsBusyBesides b.id driver) := by
    intro driver d hd
    rw [agrees driver d hd, Store.isBusy_iff found]
  constructor
  · intro rows driver listed only
    obtain ⟨d, hd⟩ := Option.isSome_iff_exists.1 listed
    have hafter := rows driver d hd
    rw [hbefore driver d hd] at hafter
    simpa [only] using hafter.symm
  · intro same driver d hd
    rw [hbefore driver d hd]
    by_cases besides : s.IsBusyBesides b.id driver
    · simp [besides]
    · rw [same driver (by simp [Store.Lists, hd]) besides]

/-- Where the driver makes a move, the drivers agree afterwards if he does. -/
theorem agrees_commit_of_own (h : order.work now actor s b.progress = .ok w)
    (found : s.bookings.find? b.id = some b) (agrees : s.Agrees) {m : Move}
    (own : w.ownMove? = some m) (has : ∀ driver, w.progress.RunBy driver → driver = actor.id) :
    (s.commit now actor b w).Agrees ↔ (s.Lists actor.id →
      (m.action = .start ↔ w.progress.RunBy actor.id ∨ s.IsBusyBesides b.id actor.id)) := by
  have hshown : ∀ action : Action,
      action.availability.name = Availability.onPickup.name ↔ action = .start := by
    intro action
    cases action <;> decide
  rw [agrees_commit h found]
  constructor
  · intro rows listed
    obtain ⟨d, hd⟩ := Option.isSome_iff_exists.1 listed
    obtain hid : d.id = actor.id := Table.id_of_find? hd
    have hafter := rows actor.id d hd
    simpa only [Driver.after, own, hid, if_true, hshown] using hafter
  · intro mine driver d hd
    obtain rfl : d.id = driver := Table.id_of_find? hd
    by_cases hid : d.id = actor.id
    · simp only [Driver.after, own, hid, if_true, hshown]
      exact mine (by rw [← hid, Store.Lists, hd]; rfl)
    · -- The booking is neither before nor afterwards in the hands of another driver.
      have hbefore : ¬b.progress.RunBy d.id := by
        rintro ⟨-, hdriver⟩
        rw [driver_of_ownMove h own] at hdriver
        exact hid (Option.some.inj hdriver).symm
      have hafter : ¬w.progress.RunBy d.id := fun running => hid (has d.id running)
      have hagrees := agrees d.id d hd
      rw [Store.isBusy_iff found] at hagrees
      simpa [Driver.after, own, hid, hbefore, hafter] using hagrees

/-- An order keeps the agreement exactly if it does not upset it. -/
theorem agrees_commit_iff (h : order.work now actor s b.progress = .ok w)
    (isOpen : order.IsOpenTo actor) (found : s.bookings.find? b.id = some b)
    (agrees : s.Agrees) :
    (s.commit now actor b w).Agrees ↔ ¬order.Upsets s actor b := by
  cases course_of_work h isOpen with
  | starts own action asked running =>
    have has : ∀ driver, w.progress.RunBy driver → driver = actor.id :=
      fun driver hdriver => hdriver.unique running
    rw [agrees_commit_of_own h found agrees own has]
    exact iff_of_true (fun _ => iff_of_true action (.inl running)) (not_upsets_of_start asked)
  | finishes own action finish idle =>
    have hnot := Progress.not_runBy idle
    rw [agrees_commit_of_own h found agrees own fun driver running => absurd running (hnot driver),
      upsets_iff_of_finish finish]
    simp only [action, hnot actor.id, false_or, false_iff, not_and]
  | callsOff own callOff idle =>
    rw [agrees_commit_of_others h found agrees own, upsets_iff_of_callOff callOff]
    simp only [Progress.not_runBy idle, false_iff, not_exists, not_and]
    constructor
    · exact fun free driver has listed only => free driver listed only ⟨callOff.2.2, has⟩
    · exact fun free driver listed only running => free driver running.2 listed only
  | @handsOver taker own handover running =>
    have hafter : ∀ driver, w.progress.RunBy driver ↔ driver = taker :=
      fun driver => ⟨fun h => h.unique running, fun h => h ▸ running⟩
    have hbefore : ∀ driver, b.progress.RunBy driver ↔ b.progress.driver = some driver :=
      fun driver => ⟨fun h => h.2, fun h => ⟨handover.2.2.1, h⟩⟩
    have hother : ∀ driver, b.progress.driver = some driver → driver ≠ taker :=
      fun driver has heq => handover.2.2.2 (heq ▸ has)
    rw [agrees_commit_of_others h found agrees own, upsets_iff_of_handover handover]
    simp only [hafter, hbefore, not_exists, not_and]
    constructor
    · rintro same driver (has | heq) listed only
      · exact hother driver has ((same driver listed only).2 has)
      · exact hother driver ((same driver listed only).1 heq) heq
    · intro free driver listed only
      refine iff_of_false (fun heq => ?_) fun has => ?_
      · exact free driver (.inr heq) listed only
      · exact free driver (.inl has) listed only
  | goesOn own finish callOff handover same =>
    rw [agrees_commit_of_others h found agrees own]
    refine iff_of_true (fun driver _ _ => same driver) ?_
    rintro (⟨finishes, -, -⟩ | ⟨callsOff, -, -, -⟩ | ⟨handsOver, -, -, -⟩)
    · exact finish finishes
    · exact callOff callsOff
    · exact handover _ handsOver

end Agreement

end Order

/-! ## Events that leave the rows of drivers to the work -/

/-- Whether a driver sets his availability by hand. -/
def Command.setsAvailability : Command → Bool
  | setAvailability _ => true
  | _ => false

/-- Whether an event writes rows of drivers without work: a driver sets his availability by hand, or
the sample is stored. -/
def Event.setsAvailability : Event → Bool
  | .request r => r.command?.any Command.setsAvailability
  | .seed => true
  | _ => false

/-- What becomes of a store if rows of drivers are written by work only: bookings may be added that
nothing has been done to, or one of the given orders is carried out by somebody whom it is open
to. -/
inductive Store.Proceeds (now : Instant) (s : Store) (Orders : Actor → Int → Order → Prop) :
    Store → Prop where
  | kept {t : Store} {more : List Booking} (drivers : t.drivers = s.drivers)
      (grows : s.Grows t more)
      (fresh : ∀ b ∈ more, ∃ category, b.progress = freshProgress category) :
      Proceeds now s Orders t
  | ordered {actor : Actor} {order : Order} {b : Booking} {w : Writes}
      (orders : Orders actor b.id order) (isOpen : order.IsOpenTo actor)
      (found : s.bookings.find? b.id = some b) (work : order.work now actor s b.progress = .ok w) :
      Proceeds now s Orders (s.commit now actor b w)

namespace Store.Proceeds

variable {now : Instant} {s t : Store} {Orders Others : Actor → Int → Order → Prop}

/-- A store proceeds to itself. -/
theorem refl (now : Instant) (s : Store) (Orders : Actor → Int → Order → Prop) :
    s.Proceeds now Orders s :=
  .kept rfl (.of_eq rfl rfl) (by simp)

/-- What proceeds on some orders proceeds on more. -/
theorem mono (h : s.Proceeds now Orders t)
    (le : ∀ actor booking order, Orders actor booking order → Others actor booking order) :
    s.Proceeds now Others t := by
  cases h with
  | kept drivers grows fresh => exact .kept drivers grows fresh
  | ordered orders isOpen found work => exact .ordered (le _ _ _ orders) isOpen found work

/-- An order that is carried out under the lock of its booking. -/
theorem of_carryOut (w : World) (token : Token) {actor : Actor} {booking : Int} {order : Order}
    (orders : Orders actor booking order) :
    w.store.Proceeds now Orders (w.carryOut token now actor booking order).1.store := by
  rcases w.carryOut_cases token now booking actor order with
    ⟨refusal, h⟩ | ⟨b, writes, isOpen, found, work, h⟩
  · rw [h]
    exact .refl ..
  · obtain rfl : b.id = booking := Table.id_of_find? found
    rw [h]
    exact .ordered orders isOpen found work

/-- What is stored without work, if no availability is. -/
theorem of_furnished {actor : Actor} {command : Command} (h : s.Furnished now actor command t)
    (manual : command.setsAvailability = false) : s.Proceeds now Orders t := by
  obtain ⟨more, grows, fresh⟩ := h.grows
  refine .kept ?_ grows fresh
  cases h with
  | booked h => rw [Store.createItems_store h]
  | available h => cases manual
  | priced h =>
    rcases Store.setPrice_eq_ok h with ⟨-, ⟨-, -, ht⟩ | ⟨old, -, -, ht⟩⟩
    · rw [ht]
    · rw [ht]

end Store.Proceeds

/-- A command that does not set an availability leaves the rows of drivers to the work that it
orders. -/
theorem Command.run_proceeds (w : World) (token : Token) (now : Instant) (actor : Actor)
    (command : Command) (manual : command.setsAvailability = false) :
    w.store.Proceeds now
      (fun author booking order => author = actor ∧ command.order? w.store = some (booking, order))
      (command.run w token now actor).1.store := by
  rcases command.run_cases w.store now actor with
    ⟨booking, order, order?, h⟩ | ⟨-, result, furnishes, h⟩
  · rw [h w.locks token, World.shown_fst]
    exact Store.Proceeds.of_carryOut ⟨w.store, w.locks⟩ token ⟨rfl, order?⟩
  · rw [h w.locks token]
    rcases result with refusal | ⟨t, answer⟩
    · exact .refl ..
    · rcases furnishes t answer rfl with rfl | furnished
      · exact .refl ..
      · exact .of_furnished furnished manual

namespace Service

variable (service : Service)

/-- So does an event in which no availability is set. -/
theorem step_proceeds (s : Step) (manual : s.event.setsAvailability = false) :
    service.world.store.Proceeds s.now (s.event.Orders service.world.store)
      (service.step s).1.world.store := by
  obtain ⟨token, now, event⟩ := s
  cases event with
  | request r =>
    have h := service.serve_runs token now r
    simp only [step]
    generalize service.serve token now r = result at h ⊢
    cases h with
    | idle h =>
      rw [h]
      exact .refl ..
    | @ran next reply actor command asks h =>
      have hmanual : command.setsAvailability = false := by
        simpa [Event.setsAvailability, asks.command?_eq] using manual
      rw [h]
      refine (command.run_proceeds service.world token now actor hmanual).mono ?_
      rintro _ booking order ⟨rfl, order?⟩
      exact .request asks.caller asks.command?_eq order?
  | act actor booking action given =>
    show service.world.store.Proceeds now _
      (service.world.carryOut token now actor booking (.act action given)).1.store
    exact .of_carryOut service.world token .act
  | adminUpdate actor booking request =>
    show service.world.store.Proceeds now _
      (service.world.carryOut token now actor booking (.update request)).1.store
    exact .of_carryOut service.world token .update
  | list filter page size => exact .refl ..
  | seed => cases manual
  | hold booking => exact .refl ..
  | drop booking => exact .refl ..
  | forget path => exact .refl ..

/-- A step carries out an order on a booking as it stands. -/
inductive CarriesOut (s : Step) (actor : Actor) (b : Booking) (order : Order) : Prop where
  | intro {w : Writes} (orders : s.event.Orders service.world.store actor b.id order)
      (isOpen : order.IsOpenTo actor) (found : service.world.store.bookings.find? b.id = some b)
      (work : order.work s.now actor service.world.store b.progress = .ok w)
      (result : (service.step s).1.world.store = service.world.store.commit s.now actor b w) :
      CarriesOut s actor b order

/-- A step carries out an order that upsets the agreement. -/
def IsUpsetBy (s : Step) : Prop :=
  ∃ actor b order, service.CarriesOut s actor b order ∧
    order.Upsets service.world.store actor b

end Service

/-! ## Runs -/

/-- New bookings make nobody busy. -/
theorem Store.Grows.isBusy_iff {s t : Store} {more : List Booking} (h : s.Grows t more)
    (fresh : ∀ b ∈ more, ∃ category, b.progress = freshProgress category) (driver : Int) :
    t.IsBusy driver ↔ s.IsBusy driver := by
  constructor
  · rintro ⟨booking, b, found, running⟩
    rw [h.find?_eq, Option.or_eq_some_iff] at found
    rcases found with found | ⟨-, found⟩
    · exact ⟨booking, b, found, running⟩
    · obtain ⟨category, hfresh⟩ := fresh b (Table.mem_of_find? found)
      rw [hfresh] at running
      cases running.1
  · rintro ⟨booking, b, found, running⟩
    exact ⟨booking, b, by rw [h.find?_eq, found]; rfl, running⟩

/-- A step in which no availability is set keeps the agreement exactly if it does not upset it. -/
theorem Service.agrees_step_iff (service : Service) (s : Step)
    (manual : s.event.setsAvailability = false) (agrees : service.world.store.Agrees) :
    (service.step s).1.world.store.Agrees ↔ ¬service.IsUpsetBy s := by
  constructor
  · rintro hafter ⟨actor, b, order, ⟨orders, isOpen, found, work, result⟩, upsets⟩
    rw [result, Order.agrees_commit_iff work isOpen found agrees] at hafter
    exact hafter upsets
  · intro upset
    have h := service.step_proceeds s manual
    generalize hresult : (service.step s).1.world.store = t at h ⊢
    cases h with
    | kept drivers grows fresh =>
      intro driver d hd
      rw [drivers] at hd
      rw [agrees driver d hd, grows.isBusy_iff fresh]
    | @ordered actor order b w orders isOpen found work =>
      rw [Order.agrees_commit_iff work isOpen found agrees]
      exact fun upsets => upset ⟨actor, b, order, .intro orders isOpen found work hresult, upsets⟩

/-- As long as no driver sets his availability by hand, the drivers who are shown to be on a pickup
are those who have a running booking throughout a run, exactly if no step upsets it. -/
theorem availability_agrees_iff (service : Service) (steps : List Step)
    (manual : ∀ s ∈ steps, s.event.setsAvailability = false)
    (agrees : service.world.store.Agrees) :
    (∀ earlier later, steps = earlier ++ later → (service.run earlier).world.store.Agrees) ↔
      ∀ earlier s later, steps = earlier ++ s :: later → ¬(service.run earlier).IsUpsetBy s := by
  constructor
  · rintro throughout earlier s later rfl
    have hbefore := throughout earlier (s :: later) rfl
    have hafter := throughout (earlier ++ [s]) later (by simp)
    rw [Service.run_append] at hafter
    exact ((service.run earlier).agrees_step_iff s (manual s (by simp)) hbefore).1 hafter
  · intro undisturbed earlier later heq
    subst heq
    -- The induction is on the steps that have been taken; the service moves on with them.
    induction earlier generalizing service with
    | nil => exact agrees
    | cons s rest ih =>
      rw [Service.run_cons]
      refine ih (service.step s).1 ?_ (fun s' hs' => manual s' (List.mem_cons_of_mem s hs')) ?_
      · exact (service.agrees_step_iff s (manual s (by simp)) agrees).2
          (undisturbed [] s (rest ++ later) rfl)
      · intro earlier s' later' heq
        exact undisturbed (s :: earlier) s' later' (by rw [List.cons_append, heq, List.cons_append])

/-- A driver with one booking starts it and collects it. -/
theorem pickup_keeps_agreement :
    let store := Store.single ⟨"ASSIGNED", some 7, 1, none, none, none, none⟩
    let service : Service :=
      ⟨⟨{ store with pricing := ⟨[⟨1, 1, 40.0, 60.0, true, ⟨0⟩⟩]⟩ }, .empty⟩, []⟩
    let steps : List Step :=
      [⟨⟨1⟩, ⟨1⟩, .act ⟨7, .driver⟩ 1 .start .none⟩,
        ⟨⟨2⟩, ⟨2⟩, .act ⟨7, .driver⟩ 1 .collect ⟨none, some (.float 2.5), none, none, none⟩⟩]
    (∀ s ∈ steps, s.event.setsAvailability = false) ∧ service.world.store.Agrees ∧
      ∀ earlier later, steps = earlier ++ later → (service.run earlier).world.store.Agrees := by
  intro store service steps
  have manual : ∀ s ∈ steps, s.event.setsAvailability = false := by
    simp [steps, Event.setsAvailability]
  have agrees : service.world.store.Agrees := by decide +kernel
  refine ⟨manual, agrees, (availability_agrees_iff service steps manual agrees).2 ?_⟩
  rintro earlier s later heq ⟨actor, b, order, ⟨orders, isOpen, found, work, result⟩, upsets⟩
  generalize hid : b.id = booking at orders
  obtain - | ⟨first, - | ⟨second, rest⟩⟩ := earlier
  · obtain ⟨rfl, -⟩ := List.cons.inj heq
    cases orders
    exact Order.not_upsets_of_start rfl upsets
  · obtain ⟨rfl, -⟩ := List.cons.inj (List.cons.inj heq).2
    obtain rfl := (List.cons.inj heq).1
    have hids : ∀ row ∈ (service.run [steps[0]]).world.store.bookings.rows, row.id = 1 := by
      decide +kernel
    cases orders
    cases upsets with
    | finish finishes listed busy =>
      obtain ⟨other, b', hne, found', -⟩ := busy
      have hother : b'.id = other := Table.id_of_find? found'
      exact hne (by rw [hid, ← hother, hids b' (Table.mem_of_find? found')])
    | callOff callsOff => exact nomatch callsOff.2.1
    | handover handsOver => exact nomatch handsOver.1
  · simp [steps] at heq

/-- The agreement is lost. A driver has two bookings that are running and collects one: he is shown
to be online. He has one, and an admin calls it off or gives it to another driver: he is still shown
to be on a pickup. -/
theorem availability_disagrees :
    let running : Progress := ⟨"IN_PROGRESS", some 7, 1, none, none, none, none⟩
    let one : Store :=
      { Store.single running with
        drivers := ⟨[⟨7, "Saman Kumara", true, "ON_PICKUP", 0⟩,
          ⟨8, "Chamara Rathnayake", true, "ONLINE", 0⟩]⟩
        pricing := ⟨[⟨1, 1, 40.0, 60.0, true, ⟨0⟩⟩]⟩ }
    let two : Store :=
      { one with bookings := one.bookings.append { Booking.single running with id := 2 } }
    let after (s : Store) (path id role : String) (body : Json) : Store :=
      ((⟨⟨s, .empty⟩, []⟩ : Service).step ⟨⟨1⟩, ⟨1⟩, .request ⟨"PATCH", path,
        [("X-Actor-Id", id), ("X-Actor-Role", role)], .value body⟩⟩).1.world.store
    one.Agrees ∧ two.Agrees ∧
      ¬(after two "/api/v1/driver/bookings/1/collect" "7" "DRIVER"
        (.obj [("weight_kg", .int 2)])).Agrees ∧
      ¬(after one "/api/v1/admin/bookings/1/cancel" "3" "ADMIN" (.obj [])).Agrees ∧
      ¬(after one "/api/v1/admin/bookings/1" "3" "ADMIN"
        (.obj [("driver_id", .int 8)])).Agrees := by
  decide +kernel

end WastePickup
