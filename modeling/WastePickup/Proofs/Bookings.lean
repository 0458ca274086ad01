import WastePickup.Proofs.Orders

/-!
# Where bookings come from and what becomes of them

A property of all bookings holds along a run if it holds of every booking that an event can leave
behind. Such a booking was there before, has been worked on, has just been made, or belongs to the
sample (`Booking.Origin`). What happens to one booking along a run is followed from event to event:
it is found again as it was, or as somebody's order has left it.

* `Event.Leaves.origin`: where a booking that is there after an event comes from.
* `Event.Leaves.continues`: what becomes of a booking that is there before, and of its history.
-/

namespace WastePickup

namespace Table

variable {α : Type}

/-- Rows that are added one by one stand at the end in their order. -/
theorem foldl_append (rows : List α) (t : Table α) :
    rows.foldl Table.append t = ⟨t.rows ++ rows⟩ := by
  induction rows generalizing t with
  | nil => simp
  | cons row rest ih => rw [List.foldl_cons, ih]; simp [append]

/-- A row that is there after a replacement is the new one, or was there before. -/
theorem mem_replace [Row α] {t : Table α} {row new : α} (h : row ∈ (t.replace new).rows) :
    row = new ∨ row ∈ t.rows := by
  obtain ⟨old, hold, hrow⟩ := List.mem_map.1 h
  split at hrow
  · exact .inl hrow.symm
  · exact .inr (hrow ▸ hold)

end Table

/-! ## The sample -/

/-- A booking of the sample stands at the status that its text stands for. -/
theorem Sample.status?_progress (now : Instant) (category : Int) (sample : SampleBooking) :
    (Sample.progress now category sample).status? = some sample.status.canonical := by
  change Status.ofStored? (Named.name sample.status) = _
  rw [Status.ofStored?, Named.ofName?_name, Option.map_some]

/-- A booking stands where one of the sample begins. -/
def Booking.IsSample (now : Instant) (b : Booking) : Prop :=
  ∃ sample ∈ Sample.bookings, ∃ category, b.progress = Sample.progress now category sample

/-- A booking that stands where one of the sample begins has its status. -/
theorem Booking.IsSample.exists_of_status {now : Instant} {b : Booking} {status : Status}
    (h : b.IsSample now) (hstatus : b.progress.status? = some status) :
    ∃ sample ∈ Sample.bookings, sample.status.canonical = status ∧
      ∃ category, b.progress = Sample.progress now category sample := by
  obtain ⟨sample, mem, category, hprogress⟩ := h
  rw [hprogress, Sample.status?_progress] at hstatus
  exact ⟨sample, mem, Option.some.inj hstatus, category, hprogress⟩

namespace Store

variable {s t : Store} {now : Instant}

/-- The bookings that are there in `t` and not in `s` are those of the sample, and the drivers are
the same. -/
def Sampled (now : Instant) (s t : Store) : Prop :=
  t.drivers = s.drivers ∧
    ∃ more, t.bookings.rows = s.bookings.rows ++ more ∧ ∀ b ∈ more, b.IsSample now

/-- To a store itself nothing has been added. -/
theorem Sampled.refl (s : Store) : Sampled now s s :=
  ⟨rfl, [], by simp, by simp⟩

/-- What has been added in two parts is of the sample if both parts are. -/
theorem Sampled.trans {u : Store} (h : Sampled now s t) (h' : Sampled now t u) :
    Sampled now s u := by
  obtain ⟨hdrivers, more, hrows, hmore⟩ := h
  obtain ⟨hdrivers', others, hrows', hothers⟩ := h'
  refine ⟨hdrivers'.trans hdrivers, more ++ others, by rw [hrows', hrows, List.append_assoc], ?_⟩
  intro b hb
  rcases List.mem_append.1 hb with hb | hb
  · exact hmore b hb
  · exact hothers b hb

/-- The drivers of the sample are added behind those that are there, under numbers that were
free. -/
theorem withSampleDrivers_eq_ok (h : s.withSampleDrivers = .ok t) :
    (∀ d ∈ Sample.drivers, s.drivers.find? d.id = none) ∧
      t = { s with users := Sample.users, drivers := ⟨s.drivers.rows ++ Sample.drivers⟩ } := by
  unfold withSampleDrivers at h
  split at h
  · cases h
  · rename_i hfree
    cases h
    refine ⟨fun d hd => ?_, by rw [Table.foldl_append]⟩
    simp only [List.any_eq_true, not_exists, not_and] at hfree
    exact Option.not_isSome_iff_eq_none.1 (hfree d hd)

/-- With the categories and prices of the sample no bookings are added. -/
theorem withSampleWaste_sampled (h : s.withSampleWaste now = .ok t) : Sampled now s t := by
  refine foldlM_induction (R := Sampled now) .refl .trans _ ?_ h
  intro kind _ s t h
  simp only at h
  split at h
  · cases h
  · cases h
    exact ⟨rfl, [], by simp, by simp⟩

/-- The bookings that are added then are those of the sample. -/
theorem withSampleBookings_sampled {firstCategory : Int}
    (h : s.withSampleBookings now firstCategory = .ok t) : Sampled now s t := by
  refine foldlM_induction (R := Sampled now) .refl .trans _ ?_ h
  rintro ⟨b, index⟩ hb s t h
  simp only at h
  split at h
  · cases h
  · cases h
    refine ⟨rfl, [_], rfl, ?_⟩
    intro row hrow
    rw [List.mem_singleton.1 hrow]
    exact ⟨b, List.fst_mem_of_mem_zipIdx hb, _, rfl⟩

/-- The drivers and the bookings of the sample come behind those that were there, the drivers under
numbers that were free. -/
structure Filled (now : Instant) (s t : Store) : Prop where
  free : ∀ d ∈ Sample.drivers, s.drivers.find? d.id = none
  drivers : t.drivers = ⟨s.drivers.rows ++ Sample.drivers⟩
  bookings : ∃ more, t.bookings.rows = s.bookings.rows ++ more ∧ ∀ b ∈ more, b.IsSample now

/-- A store that is to be filled is left alone or filled. -/
theorem seed_eq_ok {report : List String} (h : s.seed now = .ok (t, report)) :
    t = s ∨ Filled now s t := by
  unfold seed at h
  split at h
  · cases h
    exact .inl rfl
  · obtain ⟨peopled, hpeopled, h⟩ := bind_eq_ok_iff.1 h
    obtain ⟨stocked, hstocked, h⟩ := bind_eq_ok_iff.1 h
    obtain ⟨booked, hbooked, h⟩ := bind_eq_ok_iff.1 h
    cases h
    obtain ⟨hfree, rfl⟩ := withSampleDrivers_eq_ok hpeopled
    obtain ⟨hdrivers, hbookings⟩ :=
      (withSampleWaste_sampled hstocked).trans (withSampleBookings_sampled hbooked)
    exact .inr { free := hfree, drivers := hdrivers, bookings := hbookings }

end Store

/-! ## One event -/

/-- Where a booking that is there after an event comes from: it was there, it has been worked on, it
has been made, or it belongs to the sample. -/
inductive Booking.Origin (event : Event) (now : Instant) (s t : Store) (b : Booking) : Prop where
  | kept (mem : b ∈ s.bookings.rows) : Origin event now s t b
  | worked {old : Booking} {actor : Actor} {order : Order} {w : Writes}
      (orders : event.Orders s actor old.id order) (found : s.bookings.find? old.id = some old)
      (work : order.work now actor s old.progress = .ok w)
      (eq_advance : b = old.advance now w.progress w.rounded) : Origin event now s t b
  | booked {category : Int} (fresh : b.progress = Store.freshProgress category) :
      Origin event now s t b
  | sampled (filled : Store.Filled now s t) (sample : b.IsSample now) : Origin event now s t b

namespace Event.Leaves

variable {event : Event} {now : Instant} {s t : Store}

/-- Where a booking that is there after an event comes from. -/
theorem origin (h : event.Leaves now s t) {b : Booking} (hb : b ∈ t.bookings.rows) :
    b.Origin event now s t := by
  cases h with
  | idle => exact .kept hb
  | @ordered actor booking order old w orders isOpen found work =>
    rw [Store.commit_bookings] at hb
    rcases Table.mem_replace hb with rfl | hb
    · have hid : old.id = booking := Table.id_of_find? found
      exact .worked (hid ▸ orders) (hid ▸ found) work rfl
    · exact .kept hb
  | furnished _ h =>
    obtain ⟨more, grows, fresh⟩ := h.grows
    rw [grows.bookings] at hb
    rcases List.mem_append.1 hb with hb | hb
    · exact .kept hb
    · obtain ⟨category, hfresh⟩ := fresh b hb
      exact .booked hfresh
  | seeded _ h =>
    rcases Store.seed_eq_ok h with rfl | filled
    · exact .kept hb
    · obtain ⟨more, hrows, hmore⟩ := filled.bookings
      rw [hrows] at hb
      rcases List.mem_append.1 hb with hb | hb
      · exact .kept hb
      · exact .sampled filled (hmore b hb)

/-- What becomes of a booking in an event: it and its history are found as they were, or as an order
on it has left them. -/
theorem continues (h : event.Leaves now s t) {booking : Int} {b : Booking}
    (found : s.bookings.find? booking = some b) :
    (t.bookings.find? booking = some b ∧ t.historyOf booking = s.historyOf booking) ∨
      ∃ actor order w, event.Orders s actor booking order ∧
        order.work now actor s b.progress = .ok w ∧ t = s.commit now actor b w := by
  have hgrown : ∀ {more}, s.Grows t more →
      t.bookings.find? booking = some b ∧ t.historyOf booking = s.historyOf booking := by
    intro more grows
    refine ⟨?_, grows.historyOf_eq booking⟩
    rw [grows.find?_eq, found]
    rfl
  cases h with
  | idle => exact .inl ⟨found, rfl⟩
  | @ordered actor booking' order b' w orders isOpen found' work =>
    obtain rfl : b'.id = booking' := Table.id_of_find? found'
    rcases Store.find?_commit_cases found' found with ⟨rfl, rfl, -⟩ | ⟨hb, kept⟩
    · exact .inr ⟨actor, order, w, orders, work, rfl⟩
    · exact .inl ⟨kept, Store.historyOf_commit_of_ne hb⟩
  | furnished _ h =>
    obtain ⟨more, grows, -⟩ := h.grows
    exact .inl (hgrown grows)
  | seeded _ h =>
    obtain ⟨more, grows⟩ := Store.seed_grows h
    exact .inl (hgrown grows)

end Event.Leaves

end WastePickup
