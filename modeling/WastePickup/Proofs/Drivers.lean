import WastePickup.Proofs.Bookings

/-!
# Work is done by approved drivers

From its assignment to its completion, a booking is in the hands of a driver who is there and is
approved. Only two stages of an order write the driver, the assignment and the swap, and both look
for the approval; all other stages leave the driver alone, and those that lead on from the
assignment start only where the driver is in place already. Nothing ever takes an approval back.

* `Event.Leaves.approved`: drivers who are approved stay approved.
* `Order.staffed_of_work`, `Order.driver_of_work`: what an order keeps.
* `work_has_approved_driver`: what a run keeps.
-/

namespace WastePickup

/-- Whether a booking has been given to a driver and is not called off. -/
def Status.isWork : Status → Bool
  | assigned | inProgress | collected | completed => true
  | created | cancelled | refunded => false

/-! ## Approvals stay -/

/-- Whatever row of a number is there, one like it is there after a replacement by a row that is
like the one it replaces. -/
theorem Table.exists_find?_replace {α : Type} [Row α] {P : α → Prop} {t : Table α} {id : Int}
    {old new : α} (h : ∃ row, t.find? id = some row ∧ P row)
    (found : t.find? (Row.id new) = some old) (keeps : P old → P new) :
    ∃ row, (t.replace new).find? id = some row ∧ P row := by
  obtain ⟨row, hrow, hP⟩ := h
  rw [Table.find?_replace]
  by_cases hid : id = Row.id new
  · rw [hid, found] at hrow
    obtain rfl : old = row := Option.some.inj hrow
    exact ⟨new, by rw [if_pos hid, hid, found]; rfl, keeps hP⟩
  · exact ⟨row, by rw [if_neg hid, hrow], hP⟩

namespace Store

variable {s t : Store} {driver : Int}

/-- A driver row that is written over leaves all approvals. -/
theorem Approved.of_onlyUpdates {d : Driver} (h : s.Approved driver)
    (updates : s.OnlyUpdates (some d)) (drivers : t.drivers = s.drivers.replace d) :
    t.Approved driver := by
  obtain ⟨id, old, status, pickups, hold, rfl⟩ := updates d rfl
  obtain rfl : old.id = id := Table.id_of_find? hold
  unfold Approved
  rw [drivers]
  exact Table.exists_find?_replace h hold fun approved => approved

/-- Rows that are added leave all approvals. -/
theorem Approved.of_append {more : List Driver} (h : s.Approved driver)
    (drivers : t.drivers = ⟨s.drivers.rows ++ more⟩) : t.Approved driver := by
  obtain ⟨row, hrow, happroved⟩ := h
  refine ⟨row, ?_, happroved⟩
  rw [drivers, Table.find?_rows_append, hrow]
  rfl

/-- An approved driver is approved as long as the rows of drivers stay. -/
theorem Approved.of_eq (h : s.Approved driver) (drivers : t.drivers = s.drivers) :
    t.Approved driver := by
  unfold Approved
  rw [drivers]
  exact h

/-- The approved drivers of the sample are approved once it is stored. -/
theorem Filled.approved {now : Instant} (h : Filled now s t) {d : Driver} (hd : d ∈ Sample.drivers)
    (approved : d.approved = true) : t.Approved d.id := by
  have hown : ∀ d ∈ Sample.drivers, (⟨Sample.drivers⟩ : Table Driver).find? d.id = some d := by
    decide
  refine ⟨d, ?_, approved⟩
  rw [h.drivers, Table.find?_rows_append, h.free d hd, hown d hd]
  rfl

end Store

/-- Drivers who are approved stay approved, whatever happens. -/
theorem Event.Leaves.approved {event : Event} {now : Instant} {s t : Store} {driver : Int}
    (h : event.Leaves now s t) (approved : s.Approved driver) : t.Approved driver := by
  cases h with
  | idle => exact approved
  | @ordered actor booking order b w orders isOpen found work =>
    obtain ⟨-, -, -, -, -, updates⟩ := Order.work_eq_ok work
    cases hd : w.driver with
    | none => exact approved.of_eq (by rw [Store.commit_drivers, hd])
    | some d => exact approved.of_onlyUpdates (hd ▸ updates) (by rw [Store.commit_drivers, hd])
  | furnished _ h =>
    cases h with
    | booked h => exact approved.of_eq (by rw [Store.createItems_store h])
    | available h =>
      obtain ⟨-, d, hd, rfl⟩ := Store.setAvailability_eq_ok h
      refine approved.of_onlyUpdates (fun row hrow => ?_) rfl
      exact ⟨_, d, _, d.pickupCount, hd, (Option.mem_some.1 hrow).symm⟩
    | priced h =>
      rcases Store.setPrice_eq_ok h with ⟨-, ⟨-, -, rfl⟩ | ⟨old, -, -, rfl⟩⟩
      · exact approved.of_eq rfl
      · exact approved.of_eq rfl
  | seeded _ h =>
    rcases Store.seed_eq_ok h with rfl | filled
    · exact approved
    · exact approved.of_append filled.drivers

/-! ## Orders keep the driver in place -/

namespace Store

variable {s t : Store} {now : Instant} {p q : Progress}

/-- Where work has been given out, an approved driver has it. -/
def Staffed (s : Store) (p : Progress) : Prop :=
  ∀ status, p.status? = some status → status.isWork = true →
    ∃ driver, p.driver = some driver ∧ s.Approved driver

/-- Whether work has been given out depends on the status and the driver alone. -/
theorem staffed_onto {old : Progress} : s.Staffed (p.onto old) ↔ s.Staffed p := Iff.rfl

/-- A booking stays staffed as long as no approval is lost. -/
theorem Staffed.of_approved (h : s.Staffed p)
    (approved : ∀ driver, s.Approved driver → t.Approved driver) : t.Staffed p := by
  intro status hstatus hwork
  obtain ⟨driver, hdriver, happroved⟩ := h status hstatus hwork
  exact ⟨driver, hdriver, approved driver happroved⟩

end Store

/-- Work that goes on has been given out: only the assignment leads to a status of work from one
that is none. -/
theorem Action.isWork_source (action : Action) (assigned : action ≠ .assign)
    (work : action.target.isWork = true) : ∀ source ∈ action.sources, source.isWork = true := by
  cases action <;> simp_all [target, sources, Status.isWork]

namespace Store

variable {s : Store} {now : Instant} {order : Order} {p q : Progress}

/-- An action writes no driver, unless it is the assignment, which writes an approved one. -/
theorem Effected.driver {given : Particulars} {action : Action}
    (h : s.Effected now given p action q) :
    (action = .assign ∧ ∃ driver, q.driver = some driver ∧ s.Approved driver) ∨
      (action ≠ .assign ∧ q.driver = p.driver) := by
  cases h with
  | assigned named approved => exact .inl ⟨rfl, _, rfl, approved⟩
  | started => exact .inr ⟨by simp, rfl⟩
  | collected named value found => exact .inr ⟨by simp, rfl⟩
  | completed driver weight amounts amount =>
    obtain ⟨w, a, rfl⟩ := withAmounts_eq_ok amounts
    exact .inr ⟨by simp, rfl⟩
  | cancelled kept => exact .inr ⟨by simp, rfl⟩
  | refunded => exact .inr ⟨by simp, rfl⟩

/-- An action leaves an approved driver in place. -/
theorem Acted.staffed (h : s.Acted now order p q) (staffed : s.Staffed p) : s.Staffed q := by
  obtain ⟨asked, known, mem, effected⟩ := h
  rename_i action source q
  intro status hstatus hwork
  rcases effected.driver with ⟨-, hdriver⟩ | ⟨hassign, hdriver⟩
  · exact hdriver
  · have htarget : action.target = status := by
      simpa [Progress.status?] using hstatus
    rw [← htarget] at hwork
    obtain ⟨driver, hp, approved⟩ :=
      staffed source known (action.isWork_source hassign hwork source mem)
    exact ⟨driver, hdriver.trans hp, approved⟩

/-- No action takes the driver off a booking. -/
theorem Acted.driver_ne_none (h : s.Acted now order p q) (hp : p.driver ≠ none) :
    q.driver ≠ none := by
  obtain ⟨asked, known, mem, effected⟩ := h
  rcases effected.driver with ⟨-, driver, hdriver, -⟩ | ⟨-, hdriver⟩
  · simp [hdriver]
  · simpa [hdriver] using hp

/-- A swap puts an approved driver in place. -/
theorem Swapped.staffed (h : s.Swapped order p q) : s.Staffed q := by
  obtain ⟨-, named, known, isOpen, approved⟩ := h
  intro status _ _
  exact ⟨_, rfl, approved⟩

/-- A booking has a driver after a swap. -/
theorem Swapped.driver_ne_none (h : s.Swapped order p q) : q.driver ≠ none := by
  obtain ⟨driver, -, rfl⟩ := h.frame
  simp

/-- A correction of amounts leaves the status and the driver alone. -/
theorem Corrected.staffed (h : s.Corrected order p q) (staffed : s.Staffed p) : s.Staffed q := by
  obtain ⟨w, a, rfl⟩ := h.frame
  exact staffed

end Store

namespace Order

variable {order : Order} {s : Store} {now : Instant} {actor : Actor} {p : Progress} {w : Writes}

/-- Whatever is ordered, work that is given out is in the hands of an approved driver. -/
theorem staffed_of_work (h : order.work now actor s p = .ok w) (staffed : s.Staffed p) :
    s.Staffed w.progress :=
  work_induction h Store.Acted.staffed (fun swapped _ => swapped.staffed) Store.Corrected.staffed
    staffed

/-- Whatever is ordered, a driver is not taken away. -/
theorem driver_of_work (h : order.work now actor s p = .ok w) (hp : p.driver ≠ none) :
    w.progress.driver ≠ none :=
  work_induction (I := fun p => p.driver ≠ none) h Store.Acted.driver_ne_none
    (fun swapped _ => swapped.driver_ne_none)
    (fun corrected hp => by rw [corrected.driver_eq]; exact hp) hp

end Order

/-! ## Runs -/

namespace Store

variable {s t : Store}

/-- In all bookings that work has been given out for, an approved driver has it. -/
def AllStaffed (s : Store) : Prop :=
  ∀ b ∈ s.bookings.rows, s.Staffed b.progress

/-- The work of the sample has been given to its approved drivers. -/
theorem Filled.staffed {now : Instant} {b : Booking} (h : Filled now s t)
    (sample : b.IsSample now) : t.Staffed b.progress := by
  have hwork : ∀ sample ∈ Sample.bookings, sample.status.canonical.isWork = true →
      ∃ d ∈ Sample.drivers, sample.driver = some d.id ∧ d.approved = true := by
    decide
  intro status hstatus hstatusWork
  obtain ⟨sample, mem, rfl, category, hprogress⟩ := sample.exists_of_status hstatus
  obtain ⟨d, hd, hdriver, approved⟩ := hwork sample mem hstatusWork
  exact ⟨d.id, by rw [hprogress]; exact hdriver, h.approved hd approved⟩

end Store

/-- Every event leaves all work with approved drivers, if it was so before. -/
theorem Event.Leaves.allStaffed {event : Event} {now : Instant} {s t : Store}
    (h : event.Leaves now s t) (staffed : s.AllStaffed) : t.AllStaffed := by
  intro b hb
  cases h.origin hb with
  | kept mem => exact (staffed b mem).of_approved fun _ => h.approved
  | @worked old actor order w orders found work eq_advance =>
    have hw : s.Staffed w.progress :=
      Order.staffed_of_work work (staffed old (Table.mem_of_find? found))
    rw [eq_advance, Booking.advance_progress, Store.staffed_onto]
    exact hw.of_approved fun _ => h.approved
  | booked fresh =>
    intro status hstatus hwork
    rw [fresh] at hstatus
    cases hstatus
    cases hwork
  | sampled filled sample => exact filled.staffed sample

/-- Every event leaves a booking that has a driver with one. -/
theorem Event.Leaves.driver_ne_none {event : Event} {now : Instant} {s t : Store}
    (h : event.Leaves now s t) {booking : Int} {b : Booking}
    (found : s.bookings.find? booking = some b) (driver : b.progress.driver ≠ none) :
    ∃ b', t.bookings.find? booking = some b' ∧ b'.progress.driver ≠ none := by
  rcases h.continues found with ⟨hkept, -⟩ | ⟨actor, order, w, -, work, rfl⟩
  · exact ⟨b, hkept, driver⟩
  · refine ⟨_, Store.find?_commit_self found, ?_⟩
    rw [Booking.advance_progress]
    exact Order.driver_of_work work driver

/-- If all work is in the hands of approved drivers, it stays so along any run. And along any run
whatever, a booking that has a driver has one ever after. -/
theorem work_has_approved_driver (service : Service) (steps : List Step) :
    let before := service.world.store
    let after := (service.run steps).world.store
    (before.AllStaffed → after.AllStaffed) ∧
      ∀ booking b, before.bookings.find? booking = some b → b.progress.driver ≠ none →
        ∃ b', after.bookings.find? booking = some b' ∧ b'.progress.driver ≠ none := by
  refine Service.run_induction (R := fun s t => (s.AllStaffed → t.AllStaffed) ∧
    ∀ booking b, s.bookings.find? booking = some b → b.progress.driver ≠ none →
      ∃ b', t.bookings.find? booking = some b' ∧ b'.progress.driver ≠ none) ?_ ?_ steps ?_ service
  · exact fun s => ⟨id, fun booking b found driver => ⟨b, found, driver⟩⟩
  · rintro s t u ⟨hstaffed, hkept⟩ ⟨hstaffed', hkept'⟩
    refine ⟨fun staffed => hstaffed' (hstaffed staffed), fun booking b found driver => ?_⟩
    obtain ⟨b', found', driver'⟩ := hkept booking b found driver
    exact hkept' booking b' found' driver'
  · intro s _ service
    have h := service.step_leaves s
    exact ⟨h.allStaffed, fun booking b found driver => h.driver_ne_none found driver⟩

/-- A booking under an older name is assigned; a driver who is not there is not swapped in; the one
it has starts. -/
theorem duty_has_approved_driver :
    let service := Service.single ⟨"SCHEDULED", none, 1, none, none, none, none⟩
    let steps : List Step :=
      [⟨⟨1⟩, ⟨1⟩, .act ⟨3, .superAdmin⟩ 1 .assign ⟨some 7, none, none, none, none⟩⟩,
        ⟨⟨2⟩, ⟨2⟩, .adminUpdate ⟨3, .admin⟩ 1 ⟨none, some 9, none, none⟩⟩,
        ⟨⟨3⟩, ⟨3⟩, .act ⟨7, .driver⟩ 1 .start .none⟩, ⟨⟨4⟩, ⟨4⟩, .seed⟩]
    let after := (service.run steps).world.store
    ∃ b driver, after.bookings.find? 1 = some b ∧ b.status? = some .inProgress ∧
      b.progress.driver = some driver ∧ after.Approved driver := by
  intro service steps after
  have staffed : service.world.store.AllStaffed := by
    intro b hb status hstatus hwork
    obtain rfl := List.mem_singleton.1 hb
    cases hstatus
    cases hwork
  have hstatus : (after.bookings.find? 1).bind Booking.status? = some .inProgress := by
    decide +kernel
  obtain ⟨b, found, known⟩ := Option.bind_eq_some_iff.1 hstatus
  obtain ⟨driver, hdriver, approved⟩ :=
    (work_has_approved_driver service steps).1 staffed b (Table.mem_of_find? found) .inProgress
      known rfl
  exact ⟨b, driver, found, known, hdriver, approved⟩

end WastePickup
