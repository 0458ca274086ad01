import WastePickup.Proofs.Bookings

/-!
# What happens to the rows of drivers

The row of a driver says how available he is and how many pickups he has made. Work on a booking
writes it in one case only: the driver himself moves the booking. Then his availability is the one
that the move leaves him in, and a collection counts one pickup. Other work, whoever has it done,
and new bookings and price bands leave all rows of drivers as they are.

* `Order.writes_driver`: the row that an order writes is given by the driver's own move.
* `Order.find?_drivers_commit`: the row of any driver after an order has been carried out.
* `Store.Furnished.exists_driver`, `Store.exists_driver_of_seed`: what becomes of the row of a
  driver without work.
-/

namespace WastePickup

/-! ## Moves of drivers -/

/-- A driver acts as a driver, and nobody else does. -/
@[simp] theorem Role.acting_eq_driver {role : Role} : role.acting = .driver ↔ role = .driver := by
  cases role <;> simp [acting]

/-- The availability that a driver's move leaves him in: he is under way once he has started. -/
def Action.availability : Action → Availability
  | start => .onPickup
  | _ => .online

/-- The pickups that a driver's move counts. -/
def Action.pickups : Action → Int
  | collect => 1
  | _ => 0

/-- The move of a piece of work, if a driver makes it. -/
def Writes.ownMove? (w : Writes) : Option Move :=
  match w.move with
  | some m => if m.role = .driver then some m else none
  | none => none

/-- A move is made by a driver if it is the move of the work, in the role of a driver. -/
theorem Writes.ownMove?_eq_some_iff {w : Writes} {m : Move} :
    w.ownMove? = some m ↔ w.move = some m ∧ m.role = .driver := by
  unfold ownMove?
  cases w.move with
  | none => simp
  | some m' =>
    by_cases hr : m'.role = .driver
    · simp only [hr, if_true, Option.some.injEq]
      exact ⟨fun h => ⟨h, h ▸ hr⟩, fun h => h.1⟩
    · simp only [hr, if_false, Option.some.injEq, reduceCtorEq, false_iff]
      exact fun h => hr (h.1 ▸ h.2)

/-- What becomes of the row of a driver in a piece of work that somebody does. -/
def Driver.after (d : Driver) (actor : Actor) (w : Writes) : Driver :=
  match w.ownMove? with
  | some m =>
    if d.id = actor.id then
      { d with
        status := m.action.availability.name
        pickupCount := d.pickupCount + m.action.pickups }
    else d
  | none => d

/-- Nobody's work writes the row of another driver. -/
theorem Driver.after_of_ne {d : Driver} {actor : Actor} (h : d.id ≠ actor.id) (w : Writes) :
    d.after actor w = d := by
  unfold after
  split
  · exact if_neg h
  · rfl

/-- Every action but the collection leaves the statuses it may start from. -/
theorem Rule.target_not_mem (role : Role) (action : Action) :
    ∀ rule ∈ Rule.of role action, action ≠ .collect → rule.target ∉ rule.sources := by
  cases role <;> cases action <;> simp [Rule.of]

/-- Starting and collecting are for drivers, and a driver has besides these only the
cancellation. -/
theorem Rule.action_of_driver (role : Role) (action : Action) :
    ∀ rule ∈ Rule.of role action,
      (action = .start ∨ action = .collect → role = .driver) ∧
        (role = .driver → action = .start ∨ action = .collect ∨ action = .cancel) := by
  cases role <;> cases action <;> simp [Rule.of]

namespace Move.Lawful

variable {m : Move}

/-- A move that leaves its source out is a collection that corrects an earlier one. -/
theorem changed_of_ne_collect (h : m.Lawful) (action : m.action ≠ .collect) : m.changed = true := by
  obtain ⟨rule, hr, hmem, ht⟩ := h
  have hnot := Rule.target_not_mem m.role m.action rule hr action
  rw [← ht] at hnot
  simpa [Move.changed] using fun heq : m.source = m.target => hnot (heq ▸ hmem)

/-- Only a driver starts and collects. -/
theorem role_eq_driver (h : m.Lawful) (action : m.action = .start ∨ m.action = .collect) :
    m.role = .driver := by
  obtain ⟨rule, hr, -⟩ := h
  exact (Rule.action_of_driver m.role m.action rule hr).1 action

/-- A driver starts, collects and cancels. -/
theorem action_of_driver (h : m.Lawful) (role : m.role = .driver) :
    m.action = .start ∨ m.action = .collect ∨ m.action = .cancel := by
  obtain ⟨rule, hr, -⟩ := h
  exact (Rule.action_of_driver m.role m.action rule hr).2 role

end Move.Lawful

/-! ## What an order writes -/

namespace Store

variable {s : Store} {now : Instant} {actor : Actor} {p : Progress} {w : Writes}

/-- The row that the side effects of an action write: that of the booking's driver, if the driver
starts, collects for the first time or cancels. -/
theorem effect_driver {role : Role} {m : Move} {given : Particulars} {e : Effect}
    (h : s.effect now role m given p = .ok e) :
    e.driver =
      match m.action with
      | .start => s.driverWith p.driver .onPickup 0
      | .collect => if m.changed then s.driverWith p.driver .online 1 else none
      | .cancel => if role = .driver then s.driverWith p.driver .online 0 else none
      | _ => none := by
  obtain ⟨source, target, action, acting⟩ := m
  cases action with
  | assign =>
    replace h : s.assignEffect given p = .ok e := h
    unfold assignEffect at h
    split at h
    · cases h
    · obtain ⟨⟨⟩, -, h⟩ := bind_eq_ok_iff.1 h
      cases h
      rfl
  | start =>
    cases h
    rfl
  | collect =>
    replace h : s.collectEffect _ given p = .ok e := h
    unfold collectEffect at h
    split at h
    · cases h
    · obtain ⟨⟨⟩, -, h⟩ := bind_eq_ok_iff.1 h
      split at h
      · cases h
      · obtain ⟨x, -, h⟩ := bind_eq_ok_iff.1 h
        cases h
        rfl
  | complete =>
    replace h : s.completeEffect now given p = .ok e := h
    unfold completeEffect at h
    split at h
    · cases h
    · split at h
      · cases h
      · obtain ⟨q, -, h⟩ := bind_eq_ok_iff.1 h
        split at h
        · cases h
        · cases h
          rfl
  | cancel =>
    obtain ⟨reason, -, h⟩ := bind_eq_ok_iff.1 h
    cases h
    rfl
  | refund =>
    cases h
    rfl

/-- The row that an action writes: that of the booking's driver, if the driver moves the booking. -/
theorem effect_driver_of_move {role : Role} {action : Action} {m : Move} {given : Particulars}
    {e : Effect} (hm : planMove role action p = .ok m) (he : s.effect now role m given p = .ok e) :
    e.driver =
      if role = .driver ∧ m.changed = true then
        s.driverWith p.driver m.action.availability m.action.pickups
      else none := by
  obtain ⟨-, -, hrole, lawful⟩ := planMove_eq_ok_iff.1 hm
  have hdriver : role = .driver ↔ m.role = .driver := by
    rw [hrole, Role.acting_eq_driver]
  rw [effect_driver he]
  by_cases hr : m.role = .driver
  · -- The driver starts, collects or cancels; only the collection may leave the status.
    rcases lawful.action_of_driver hr with ha | ha | ha
    · have hc := lawful.changed_of_ne_collect (by simp [ha])
      simp [hdriver, hr, hc, ha, Action.availability, Action.pickups]
    · simp [hdriver, hr, ha, Action.availability, Action.pickups]
    · have hc := lawful.changed_of_ne_collect (by simp [ha])
      simp [hdriver, hr, hc, ha, Action.availability, Action.pickups]
  · -- An admin neither starts nor collects, and leaves the driver's row alone.
    have hstart : m.action ≠ .start := fun ha => hr (lawful.role_eq_driver (.inl ha))
    have hcollect : m.action ≠ .collect := fun ha => hr (lawful.role_eq_driver (.inr ha))
    cases ha : m.action with
    | start => exact absurd ha hstart
    | collect => exact absurd ha hcollect
    | cancel | assign | complete | refund => simp [hdriver, hr]

/-- It is given by the driver's own move. -/
theorem perform_driver {action : Action} {given : Particulars}
    (h : s.perform now actor action given p = .ok w) :
    w.driver = w.ownMove?.bind fun m =>
      s.driverWith p.driver m.action.availability m.action.pickups := by
  obtain ⟨-, m, e, hm, he, -, rfl⟩ := perform_eq_ok_iff.1 h
  obtain ⟨-, -, hrole, -⟩ := planMove_eq_ok_iff.1 hm
  have hdriver : actor.role = .driver ↔ m.role = .driver := by
    rw [hrole, Role.acting_eq_driver]
  simp only [effect_driver_of_move hm he, hdriver]
  by_cases hc : m.changed = true
  · by_cases hr : m.role = .driver
    · simp [Writes.ownMove?, hc, hr]
    · simp [Writes.ownMove?, hc, hr]
  · simp [Writes.ownMove?, hc]

end Store

namespace Order

variable {order : Order} {s : Store} {now : Instant} {actor : Actor} {p : Progress} {w : Writes}

/-- The row that an order writes is given by the driver's own move. -/
theorem writes_driver (h : order.work now actor s p = .ok w) :
    w.driver = w.ownMove?.bind fun m =>
      s.driverWith p.driver m.action.availability m.action.pickups := by
  cases order with
  | act action given => exact Store.perform_driver h
  | update request =>
    obtain ⟨v, swapped, corrected, hv, -, -, rfl⟩ := Store.adminWork_eq_ok_iff.1 h
    change v.driver = v.ownMove?.bind _
    unfold Store.adminAction at hv
    split at hv
    · cases hv
      rfl
    · exact Store.perform_driver hv

/-- A driver moves bookings of his own only. -/
theorem driver_of_ownMove (h : order.work now actor s p = .ok w) {m : Move}
    (own : w.ownMove? = some m) : p.driver = some actor.id := by
  obtain ⟨hmove, hrole⟩ := Writes.ownMove?_eq_some_iff.1 own
  have hactor : actor.role = .driver := by
    cases follows_of_work h with
    | stays move => rw [hmove] at move; cases move
    | moves m' move lawful role source changed target =>
      rw [hmove] at move
      cases move
      rwa [hrole, eq_comm, Role.acting_eq_driver] at role
  cases order with
  | act action given => exact (Store.perform_eq_ok_iff.1 h).1 hactor
  | update request =>
    obtain ⟨v, swapped, corrected, hv, -, -, rfl⟩ := Store.adminWork_eq_ok_iff.1 h
    unfold Store.adminAction at hv
    split at hv
    · cases hv
      cases hmove
    · exact (Store.perform_eq_ok_iff.1 hv).1 hactor

/-- The row of any driver after an order has been carried out. -/
theorem find?_drivers_commit {b : Booking} (h : order.work now actor s b.progress = .ok w)
    (driver : Int) :
    (s.commit now actor b w).drivers.find? driver =
      (s.drivers.find? driver).map fun d => d.after actor w := by
  rw [Store.commit_drivers, writes_driver h]
  cases hown : w.ownMove? with
  | none => simp [Driver.after, hown]
  | some m =>
    rw [Option.bind_some, driver_of_ownMove h hown]
    cases hrow : s.drivers.find? actor.id with
    | none =>
      -- There is no row to be written, so the driver asked for is somebody else.
      have hother : ∀ d, s.drivers.find? driver = some d → d.after actor w = d := by
        intro d hd
        have hne : d.id ≠ actor.id := by
          intro heq
          have hid : d.id = driver := Table.id_of_find? hd
          rw [← heq, hid, hd] at hrow
          cases hrow
        exact Driver.after_of_ne hne w
      simp only [Store.driverWith, hrow, Option.map_none]
      cases hd : s.drivers.find? driver with
      | none => rfl
      | some d => rw [Option.map_some, hother d hd]
    | some old =>
      have hid : old.id = actor.id := Table.id_of_find? hrow
      simp only [Store.driverWith, hrow, Option.map_some, Table.find?_replace]
      change (if driver = old.id then _ else _) = _
      cases hd : s.drivers.find? driver with
      | none => simp
      | some d =>
        have hdid : d.id = driver := Table.id_of_find? hd
        by_cases heq : driver = old.id
        · rw [heq, hid, hrow] at hd
          cases hd
          simp [heq, Driver.after, hown, hid]
        · have hne : d.id ≠ actor.id := by rwa [hdid, ← hid]
          simp [heq, Driver.after, hown, hne]

end Order

/-! ## Rows of drivers without work -/

namespace Store

variable {s t : Store} {now : Instant} {actor : Actor}

/-- Without work, the row of a driver keeps its count of pickups. -/
theorem Furnished.exists_driver {command : Command} (h : s.Furnished now actor command t)
    {driver : Int} {d : Driver} (found : s.drivers.find? driver = some d) :
    ∃ status, t.drivers.find? driver = some { d with status := status } := by
  cases h with
  | booked h => exact ⟨d.status, by rw [createItems_store h]; exact found⟩
  | priced h =>
    rcases setPrice_eq_ok h with ⟨-, ⟨-, -, rfl⟩ | ⟨old, -, -, rfl⟩⟩
    · exact ⟨d.status, found⟩
    · exact ⟨d.status, found⟩
  | @available form _ _ h =>
    obtain ⟨-, old, hold, rfl⟩ := setAvailability_eq_ok h
    by_cases heq : driver = old.id
    · have hid : old.id = actor.id := Table.id_of_find? hold
      rw [heq, hid, hold] at found
      cases found
      refine ⟨form.status.name, ?_⟩
      rw [Table.find?_replace, heq, hid, hold]
      exact if_pos rfl
    · refine ⟨d.status, ?_⟩
      rw [Table.find?_replace, found]
      exact if_neg heq

/-- The sample leaves the rows of drivers who are there. -/
theorem exists_driver_of_seed {report : List String} (h : s.seed now = .ok (t, report))
    {driver : Int} {d : Driver} (found : s.drivers.find? driver = some d) :
    t.drivers.find? driver = some d := by
  rcases seed_eq_ok h with rfl | filled
  · exact found
  · rw [filled.drivers, Table.find?_rows_append, found]
    rfl

end Store

end WastePickup
