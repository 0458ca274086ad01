import WastePickup.Proofs.Bookings

/-!
# Drivers are put on new bookings by assigning them

A booking that has not been assigned has no driver. A driver comes onto it by the action that
assigns it, which moves it on and is recorded.

There is a second stage that writes a driver, the swap, and it looks only for a booking that is not
closed. What keeps it away from new bookings is the way in which an admin's form is decided on: a
driver alone on a new booking is an assignment. But a form that names the status `CREATED` beside
the driver asks for no action, so that the swap puts the driver on a booking that stays as it is
(`driver_on_created_booking`). A run without such a form is safe.

* `Order.created_of_work`, `Order.driver_of_created`: what an order does to the driver of a new
  booking.
* `drivers_come_by_assignment`: new bookings have no driver along any run of requests without such a
  form, and lose that state by an assignment only.
-/

namespace WastePickup

/-! ## Forms that put a driver on a new booking -/

/-- Whether a form names the status `CREATED` and a driver beside it. -/
def AdminForm.placesDriver (form : AdminForm) : Bool :=
  form.status = some .created && form.driver.isSome

/-- Whether a command is such a form. -/
def Command.placesDriver : Command → Bool
  | updateAsAdmin _ form => form.placesDriver
  | _ => false

/-- Whether a request is read as such a form. -/
def Request.placesDriver (r : Request) : Bool :=
  r.command?.any Command.placesDriver

namespace AdminForm

variable {form : AdminForm}

/-- A form asks for no action when it names the status that the booking has, or when it names none
and does not bring a driver to a new booking. -/
theorem action?_eq_none_iff {current : Status} :
    form.action? current = .ok none ↔
      (∃ named, form.status = some named ∧ named.canonical = current) ∨
        (form.status = none ∧ (form.driver.isSome = true → current ≠ .created)) := by
  unfold action?
  cases form.status with
  | none =>
    by_cases h : form.driver.isSome = true ∧ current = .created
    · simp [h.1, h.2]
    · simp only [Bool.and_eq_true, decide_eq_true_eq, h, if_false, reduceCtorEq, false_and,
        exists_false, false_or, true_and, true_iff]
      exact fun hdriver hcreated => h ⟨hdriver, hcreated⟩
  | some named =>
    by_cases h : named.canonical = current
    · simp [h]
    · cases hto : named.canonical.adminActionTo? with
      | none => simp [h, hto]
      | some action => simp [h, hto]

/-- On a new booking, a form that asks for no action brings no driver, unless it names the status
beside the driver. -/
theorem driver_eq_none (name : requireCurrentName form.status = .ok ())
    (action : form.action? .created = .ok none) (places : form.placesDriver = false) :
    form.driver = none := by
  rcases action?_eq_none_iff.1 action with ⟨named, hstatus, hnamed⟩ | ⟨-, hdriver⟩
  · rw [hstatus] at name
    -- Of the two names of the status, the older one is turned down at once.
    have hcreated : named = .created := by
      cases named with
      | created => rfl
      | scheduled => cases name
      | assigned | inProgress | collected | paid | completed | cancelled | refunded =>
        cases hnamed
    simpa [placesDriver, hstatus, hcreated] using places
  · exact Option.not_isSome_iff_eq_none.1 fun hsome => hdriver hsome rfl

end AdminForm

/-! ## What an order does to a new booking -/

/-- No action leads to a new booking. -/
theorem Action.target_ne_created (action : Action) : action.target ≠ .created := by
  cases action <;> simp [target]

/-- The only row of the table that leads to `ASSIGNED` is the assignment. -/
theorem Rule.of_assigned (role : Role) (action : Action) :
    ∀ rule ∈ Rule.of role action, rule.target = .assigned → role = .admin ∧ action = .assign := by
  cases role <;> cases action <;> simp [Rule.of]

namespace Order

variable {order : Order} {s : Store} {now : Instant} {actor : Actor} {p : Progress} {w : Writes}

/-- No order makes a booking a new one. -/
theorem created_of_work (h : order.work now actor s p = .ok w)
    (created : w.progress.status? = some .created) : p.status? = some .created := by
  have follows := follows_of_work h
  cases hm : w.move with
  | none => rw [← follows.status_of_stays hm, created]
  | some m =>
    cases follows with
    | stays move => rw [hm] at move; cases move
    | moves m' move lawful role source changed target =>
      rw [Progress.status?, target, Status.ofStored?_name, lawful.target_eq] at created
      exact absurd (Option.some.inj created) m'.action.target_ne_created

/-- An action on a new booking assigns it, or calls it off and leaves the driver alone. -/
theorem acted_of_created {q : Progress} (h : s.Acted now order p q)
    (created : p.status? = some .created) :
    q.status? = some .assigned ∨ (q.status? = some .cancelled ∧ q.driver = p.driver) := by
  obtain ⟨asked, known, mem, effected⟩ := h
  rw [created] at known
  cases known
  cases effected with
  | assigned named approved => exact .inl (Status.ofStored?_name .assigned)
  | cancelled kept => exact .inr ⟨Status.ofStored?_name .cancelled, rfl⟩
  | started => simp [Action.sources] at mem
  | collected named value found => simp [Action.sources] at mem
  | completed driver weight amounts amount => simp [Action.sources] at mem
  | refunded => simp [Action.sources] at mem

/-- An order that brings no driver without an action puts one on a new booking only by assigning it:
afterwards the booking is `ASSIGNED`, or its driver is what it was. -/
theorem driver_of_created (h : order.work now actor s p = .ok w)
    (created : p.status? = some .created)
    (brings : order.action? = none → order.given.driver = none) :
    w.progress.status? = some .assigned ∨ w.progress.driver = p.driver := by
  obtain ⟨q, q', hacted, hswapped, hcorrected, -⟩ := work_eq_ok h
  rcases hacted with ⟨hnone, rfl⟩ | hacted
  · -- Without an action there is no driver to be swapped in.
    have hq' : q' = q := by
      rcases hswapped with hq' | hswapped
      · exact hq'
      · obtain ⟨driver, named, -⟩ := hswapped.frame
        rw [brings hnone] at named
        cases named
    rw [hq'] at hcorrected
    rcases hcorrected with hw | hcorrected
    · exact .inr (by rw [hw])
    · exact .inr hcorrected.driver_eq
  · rcases acted_of_created hacted created with hassigned | ⟨hcancelled, hdriver⟩
    · -- What comes after the assignment leaves the status alone.
      have hq' : q'.status? = some .assigned := by
        rcases hswapped with rfl | hswapped
        · exact hassigned
        · rw [hswapped.status?_eq, hassigned]
      rcases hcorrected with hw | hcorrected
      · exact .inl (by rw [hw, hq'])
      · exact .inl (by rw [hcorrected.status?_eq, hq'])
    · -- Once the booking is called off, there is nothing more to be done.
      have hq' : q' = q := by
        rcases hswapped with hq' | hswapped
        · exact hq'
        · cases hswapped.isOpen hcancelled
      rw [hq'] at hcorrected
      rcases hcorrected with hw | hcorrected
      · exact .inr (by rw [hw, hdriver])
      · cases hcorrected.isOpen hcancelled

/-- Where an order assigns a new booking, the assignment is recorded. -/
theorem move_of_assigned (h : order.work now actor s p = .ok w)
    (created : p.status? = some .created) (assigned : w.progress.status? = some .assigned) :
    w.move = some ⟨.created, .assigned, .assign, .admin⟩ := by
  cases follows_of_work h with
  | stays move =>
    have hsame := (follows_of_work h).status_of_stays move
    rw [assigned, created] at hsame
    cases hsame
  | moves m move lawful role source changed target =>
    obtain ⟨source', target', action, acting⟩ := m
    rw [created] at source
    rw [Progress.status?, target, Status.ofStored?_name] at assigned
    obtain rfl : Status.created = source' := Option.some.inj source
    obtain rfl : target' = .assigned := Option.some.inj assigned
    obtain ⟨rule, hrule, -, htarget⟩ := lawful
    obtain ⟨rfl, rfl⟩ := Rule.of_assigned acting action rule hrule htarget.symm
    exact move

end Order

/-! ## Runs of requests -/

/-- No booking that has not been assigned has a driver. -/
def Store.CreatedUnassigned (s : Store) : Prop :=
  ∀ b ∈ s.bookings.rows, b.status? = some .created → b.progress.driver = none

instance (s : Store) : Decidable s.CreatedUnassigned :=
  inferInstanceAs (Decidable (∀ b ∈ s.bookings.rows, b.status? = some .created →
    b.progress.driver = none))

/-- The order of a request that names no driver beside `CREATED` brings no driver to a new booking
without an action. -/
theorem Event.Orders.brings_no_driver {r : Request} {s : Store} {actor : Actor} {booking : Int}
    {order : Order} {b : Booking} (orders : (Event.request r).Orders s actor booking order)
    (places : r.placesDriver = false) (found : s.bookings.find? booking = some b)
    (created : b.status? = some .created) (noAction : order.action? = none) :
    order.given.driver = none := by
  cases orders with
  | @request _ _ command _ _ caller read order? =>
    have hplaces : command.placesDriver = false := by
      simpa [Request.placesDriver, read] using places
    cases order with
    | act action given => cases noAction
    | update request =>
      obtain ⟨form, rfl, hdecide⟩ := Command.order?_eq_update order?
      obtain ⟨name, b', status, action, hfound, known, haction, rfl⟩ :=
        AdminForm.decide_eq_ok_iff.1 hdecide
      have hb : b' = b := Option.some.inj ((Table.lookUp_eq_ok_iff.1 hfound).2.symm.trans found)
      rw [hb, created] at known
      cases known
      cases noAction
      exact AdminForm.driver_eq_none name haction hplaces

section Requests

variable {r : Request} {now : Instant} {s t : Store}

/-- A request leaves new bookings without a driver. -/
theorem Event.Leaves.createdUnassigned (h : (Event.request r).Leaves now s t)
    (places : r.placesDriver = false) (unassigned : s.CreatedUnassigned) :
    t.CreatedUnassigned := by
  intro b hb created
  cases h.origin hb with
  | kept mem => exact unassigned b mem created
  | @worked old actor order w orders found work eq_advance =>
    rw [eq_advance, Booking.advance_status?] at created
    have hold : old.status? = some .created := Order.created_of_work work created
    have brings := orders.brings_no_driver places found hold
    rw [eq_advance, Booking.advance_progress, Progress.onto_driver]
    rcases Order.driver_of_created work hold brings with hassigned | hdriver
    · rw [created] at hassigned
      cases hassigned
    · rw [hdriver]
      exact unassigned old (Table.mem_of_find? found) hold
  | booked fresh => rw [fresh]; rfl
  | sampled filled sample =>
    have hnew : ∀ sample ∈ Sample.bookings, sample.status.canonical = .created →
        sample.driver = none := by
      decide
    obtain ⟨sample, mem, hstatus, category, hprogress⟩ := sample.exists_of_status created
    rw [hprogress]
    exact hnew sample mem hstatus

/-- Where a request leaves a driver on a booking that was new and had none, it has assigned the
booking, and the assignment is recorded. -/
theorem Event.Leaves.assigned (h : (Event.request r).Leaves now s t)
    (places : r.placesDriver = false) {booking : Int} {b b' : Booking}
    (found : s.bookings.find? booking = some b) (created : b.status? = some .created)
    (unassigned : b.progress.driver = none) (found' : t.bookings.find? booking = some b')
    (driver : b'.progress.driver ≠ none) :
    b'.status? = some .assigned ∧ ∃ id actor, Service.readActor r.headers = .ok actor ∧
      t.historyOf booking = s.historyOf booking ++
        [⟨id, booking, .created, .assigned, .assign, actor.id, .admin, now⟩] := by
  rcases h.continues found with ⟨hkept, -⟩ | ⟨actor, order, w, orders, work, rfl⟩
  · rw [hkept] at found'
    cases found'
    exact absurd unassigned driver
  · rw [Store.find?_commit_self found] at found'
    cases found'
    rw [Booking.advance_progress, Progress.onto_driver] at driver
    have brings := orders.brings_no_driver places found created
    have hassigned : w.progress.status? = some .assigned := by
      rcases Order.driver_of_created work created brings with hassigned | hdriver
      · exact hassigned
      · rw [hdriver] at driver
        exact absurd unassigned driver
    have hmove := Order.move_of_assigned work created hassigned
    refine ⟨(Booking.advance_status? ..).trans hassigned, s.history.nextId, actor, ?_, ?_⟩
    · cases orders with
      | request caller => exact caller
    · obtain rfl : b.id = booking := Table.id_of_find? found
      rw [Store.historyOf_commit_self, Writes.entries, hmove]
      rfl

end Requests

/-- Along a run of requests, none of which names a driver beside `CREATED`, bookings that have not
been assigned have no driver, if none had one before. A driver comes onto a new booking only by an
assignment, which moves it to `ASSIGNED` and is recorded in the name of the caller. -/
theorem drivers_come_by_assignment (service : Service) (calls : List Call)
    (places : ∀ c ∈ calls, c.request.placesDriver = false)
    (unassigned : service.world.store.CreatedUnassigned) :
    (service.run (calls.map Call.step)).world.store.CreatedUnassigned ∧
      ∀ earlier c later, calls = earlier ++ c :: later →
        let before := (service.run (earlier.map Call.step)).world.store
        let after := (service.run ((earlier ++ [c]).map Call.step)).world.store
        ∀ booking b b', before.bookings.find? booking = some b → b.status? = some .created →
          after.bookings.find? booking = some b' → b'.progress.driver ≠ none →
            b'.status? = some .assigned ∧ ∃ id actor,
              Service.readActor c.request.headers = .ok actor ∧
              after.historyOf booking = before.historyOf booking ++
                [⟨id, booking, .created, .assigned, .assign, actor.id, .admin, c.now⟩] := by
  have hrun : ∀ calls : List Call, (∀ c ∈ calls, c.request.placesDriver = false) →
      (service.run (calls.map Call.step)).world.store.CreatedUnassigned := by
    intro calls places
    refine Service.run_induction (R := fun s t => s.CreatedUnassigned → t.CreatedUnassigned)
      (fun _ => id) (fun h h' hs => h' (h hs)) _ ?_ service unassigned
    intro step hstep service
    obtain ⟨c, hc, rfl⟩ := List.mem_map.1 hstep
    exact (service.step_leaves c.step).createdUnassigned (places c hc)
  refine ⟨hrun calls places, ?_⟩
  rintro earlier c later rfl before after booking b b' found created found' driver
  have hbefore : before.CreatedUnassigned :=
    hrun earlier fun c hc => places c (List.mem_append_left _ hc)
  have hleaves : (Event.request c.request).Leaves c.now before after := by
    simp only [after, List.map_append, Service.run_append]
    exact (service.run (earlier.map Call.step)).step_leaves c.step
  exact hleaves.assigned (places c (by simp)) found created
    (hbefore b (Table.mem_of_find? found) created) found' driver

/-- A form that brings a driver alone to a new booking assigns it. -/
theorem new_booking_assigned :
    let service := Service.single ⟨"CREATED", none, 1, none, none, none, none⟩
    let c : Call := ⟨⟨1⟩, ⟨1⟩, ⟨"PATCH", "/api/v1/admin/bookings/1",
      [("X-Actor-Id", "3"), ("X-Actor-Role", "ADMIN")],
      .value (.obj [("driver_id", .int 7)])⟩⟩
    let after := (service.run [c.step]).world.store
    after.CreatedUnassigned ∧ ∃ b id, after.bookings.find? 1 = some b ∧
      b.status? = some .assigned ∧
      after.historyOf 1 = [⟨id, 1, .created, .assigned, .assign, 3, .admin, ⟨1⟩⟩] := by
  intro service c after
  have places : ∀ c' ∈ [c], c'.request.placesDriver = false := by decide +kernel
  obtain ⟨hafter, hassigned⟩ := drivers_come_by_assignment service [c] places (by decide)
  have hdriver : ((after.bookings.find? 1).bind fun b => b.progress.driver) = some 7 := by
    decide +kernel
  obtain ⟨b, found, driver⟩ := Option.bind_eq_some_iff.1 hdriver
  obtain ⟨status, id, actor, hactor, hhistory⟩ :=
    hassigned [] c [] rfl 1 _ b rfl (by decide) found (by simp [driver])
  have hcaller : Service.readActor c.request.headers = .ok ⟨3, .admin⟩ := by decide +kernel
  rw [hcaller] at hactor
  cases hactor
  exact ⟨hafter, b, id, found, status, hhistory⟩

/-- A form that names `CREATED` beside the driver puts the driver on a new booking that stays new,
and nothing is recorded. -/
theorem driver_on_created_booking :
    let service := Service.single ⟨"CREATED", none, 1, none, none, none, none⟩
    let c : Call := ⟨⟨1⟩, ⟨1⟩, ⟨"PATCH", "/api/v1/admin/bookings/1",
      [("X-Actor-Id", "3"), ("X-Actor-Role", "ADMIN")],
      .value (.obj [("status", .str "CREATED"), ("driver_id", .int 7)])⟩⟩
    let after := (service.run [c.step]).world.store
    service.world.store.CreatedUnassigned ∧ ¬after.CreatedUnassigned ∧ after.historyOf 1 = [] := by
  decide +kernel

end WastePickup
