import WastePickup.Api.Event
import WastePickup.Proofs.Work

/-!
# What an event changes

Everything that can happen to the service leaves the tables alone, fills them with the sample, or
makes one change in them in somebody's name. `Store.Change` lists the four kinds of change. For the
bookings there are only two: one of them is worked on, or more of them are there (`Store.Grows`). A
fact about all runs is proved by going through these.

* `Change.worked_or_grows`: a change works on a booking, or adds bookings that nothing has been done
  to.
* `World.lockedUpdate_cases`: what work under the lock of a booking comes to.
* `Service.run_induction`: a relation between stores that every step keeps holds along every run.
-/

namespace WastePickup

/-- One change of the tables, made at an instant in somebody's name: work on a booking that was
found, new bookings, an availability, or a price band. -/
inductive Store.Change (now : Instant) (actor : Actor) (s : Store) : Store → Prop where
  | worked {booking : Int} {b : Booking} {w : Writes} (found : s.bookings.find? booking = some b)
      (worked : s.Worked now actor b.progress w) : Change now actor s (s.commit now actor b w)
  | booked {form : BookingForm} {t : Store} {made : List Booking}
      (h : s.create now actor.id form = .ok (t, made)) : Change now actor s t
  | available {form : AvailabilityForm} {t : Store} {answer : Answer}
      (h : s.setAvailability actor.id form = .ok (t, answer)) : Change now actor s t
  | priced {category : Int} {form : PricingForm} {t : Store} {row : Pricing}
      (h : s.setPrice now category form = .ok (t, row)) : Change now actor s t

/-- A change by a command that works on no booking: new bookings, an availability, or a price
band. -/
inductive Store.Furnished (now : Instant) (actor : Actor) (s : Store) : Command → Store → Prop where
  | booked {form : BookingForm} {t : Store} {made : List Booking}
      (h : s.create now actor.id form = .ok (t, made)) :
      Furnished now actor s (.createBookings form) t
  | available {form : AvailabilityForm} {t : Store} {answer : Answer}
      (h : s.setAvailability actor.id form = .ok (t, answer)) :
      Furnished now actor s (.setAvailability form) t
  | priced {category : Int} {form : PricingForm} {t : Store} {row : Pricing}
      (h : s.setPrice now category form = .ok (t, row)) :
      Furnished now actor s (.setPrice category form) t

namespace Store

variable {s t : Store} {now : Instant} {actor : Actor}

/-- A change without work is a change. -/
theorem Furnished.change {command : Command} (h : s.Furnished now actor command t) :
    s.Change now actor t := by
  cases h with
  | booked h => exact .booked h
  | available h => exact .available h
  | priced h => exact .priced h

/-! ## The changes one by one -/

/-- After a commit, the booking that was worked on is found as it was advanced. -/
theorem find?_commit_self {booking : Int} {b : Booking} {w : Writes}
    (found : s.bookings.find? booking = some b) :
    (s.commit now actor b w).bookings.find? booking =
      some (b.advance now w.progress w.rounded) := by
  have hid : booking = (b.advance now w.progress w.rounded).id := by
    rw [Booking.advance_id]
    exact (Table.id_of_find? found).symm
  rw [commit_bookings, Table.find?_replace, Booking.row_id, if_pos hid, found]
  rfl

/-- After a commit, all other bookings are found as they were. -/
theorem find?_commit_of_ne {booking : Int} {b : Booking} {w : Writes} (h : booking ≠ b.id) :
    (s.commit now actor b w).bookings.find? booking = s.bookings.find? booking := by
  rw [commit_bookings, Table.find?_replace, Booking.row_id, Booking.advance_id, if_neg h]

/-- A booking that is there before a commit is the one that was worked on, and is found as it was
advanced, or it is found as it was. -/
theorem find?_commit_cases {b : Booking} {w : Writes} (found : s.bookings.find? b.id = some b)
    {booking : Int} {old : Booking} (found' : s.bookings.find? booking = some old) :
    (booking = b.id ∧ old = b ∧ (s.commit now actor b w).bookings.find? booking =
        some (b.advance now w.progress w.rounded)) ∨
      (booking ≠ b.id ∧ (s.commit now actor b w).bookings.find? booking = some old) := by
  by_cases hid : booking = b.id
  · subst hid
    rw [found] at found'
    cases found'
    exact .inl ⟨rfl, rfl, find?_commit_self found⟩
  · exact .inr ⟨hid, by rw [find?_commit_of_ne hid, found']⟩

/-- A commit adds its move to the history of the booking that was worked on. -/
theorem historyOf_commit_self {b : Booking} {w : Writes} :
    (s.commit now actor b w).historyOf b.id =
      s.historyOf b.id ++ w.entries s.history.nextId b.id now actor := by
  rw [historyOf, commit_history, List.filter_append, Writes.filter_entries_self]
  rfl

/-- A commit adds nothing to the history of all other bookings. -/
theorem historyOf_commit_of_ne {booking : Int} {b : Booking} {w : Writes} (h : booking ≠ b.id) :
    (s.commit now actor b w).historyOf booking = s.historyOf booking := by
  rw [historyOf, commit_history, List.filter_append, Writes.filter_entries_of_ne h,
    List.append_nil]
  rfl

/-- Setting an availability writes the row of a driver who is there, and nothing else. -/
theorem setAvailability_eq_ok {driver : Int} {form : AvailabilityForm} {answer : Answer}
    (h : s.setAvailability driver form = .ok (t, answer)) :
    form.status.isManual = true ∧ ∃ d, s.drivers.find? driver = some d ∧
      t = { s with drivers := s.drivers.replace { d with status := form.status.name } } := by
  unfold setAvailability at h
  split at h
  · rename_i hmanual
    obtain ⟨found, hfound, h⟩ := bind_eq_ok_iff.1 h
    cases found with
    | none => cases h
    | some d =>
      cases h
      exact ⟨hmanual, d, (Table.lookUp_eq_ok_iff.1 hfound).2, rfl⟩
  · cases h

/-- Setting a price band writes or adds the row of a category that is there, and nothing else. -/
theorem setPrice_eq_ok {category : Int} {form : PricingForm} {row : Pricing}
    (h : s.setPrice now category form = .ok (t, row)) :
    (∃ c, s.categories.find? category = some c) ∧
      ((s.pricing? category = none ∧ row = s.newPricing now category form ∧
          t = { s with pricing := s.pricing.append row }) ∨
        ∃ old, s.pricing? category = some old ∧ row = old.set now form ∧
          t = { s with pricing := s.pricing.replace row }) := by
  unfold setPrice at h
  split at h
  · cases h
  · cases h
  · rename_i c hc
    refine ⟨⟨c, (Table.lookUp_eq_ok_iff.1 hc).2⟩, ?_⟩
    split at h
    · rename_i hnone
      cases h
      exact .inl ⟨hnone, rfl, rfl⟩
    · rename_i old hold
      cases h
      exact .inr ⟨old, hold, rfl, rfl⟩

/-- What each step of a fold keeps, a fold that goes through keeps. -/
theorem foldlM_induction {α ε : Type} {f : Store → α → Except ε Store} {R : Store → Store → Prop}
    (refl : ∀ s, R s s) (trans : ∀ {s t u}, R s t → R t u → R s u) (as : List α)
    (step : ∀ a ∈ as, ∀ {s t}, f s a = .ok t → R s t) {s t : Store}
    (h : as.foldlM f s = .ok t) : R s t := by
  induction as generalizing s with
  | nil =>
    cases h
    exact refl _
  | cons a rest ih =>
    rw [List.foldlM_cons] at h
    obtain ⟨u, hu, h⟩ := bind_eq_ok_iff.1 h
    have hrest := ih (fun a ha => step a (List.mem_cons_of_mem _ ha)) h
    exact trans (step a List.mem_cons_self hu) hrest

end Store

/-! ## What is added -/

/-- Bookings are added behind those that are there, and the history stays as it is. -/
structure Store.Grows (s t : Store) (more : List Booking) : Prop where
  bookings : t.bookings.rows = s.bookings.rows ++ more
  history : t.history = s.history

namespace Store.Grows

variable {s t u : Store} {more others : List Booking}

/-- Where neither a booking nor the history changes, nothing is added. -/
theorem of_eq (bookings : t.bookings = s.bookings) (history : t.history = s.history) :
    s.Grows t [] where
  bookings := by rw [bookings, List.append_nil]
  history := history

/-- A store that grows twice has grown by what came first and by what came then. -/
theorem trans (h : s.Grows t more) (h' : t.Grows u others) : s.Grows u (more ++ others) where
  bookings := by rw [h'.bookings, h.bookings, List.append_assoc]
  history := h'.history.trans h.history

/-- A store that grows twice has grown. -/
theorem exists_trans (h : ∃ more, s.Grows t more) (h' : ∃ more, t.Grows u more) :
    ∃ more, s.Grows u more := by
  obtain ⟨more, h⟩ := h
  obtain ⟨others, h'⟩ := h'
  exact ⟨more ++ others, h.trans h'⟩

/-- A booking is there before others are added, or it is one of those. -/
theorem find?_eq (h : s.Grows t more) (booking : Int) :
    t.bookings.find? booking =
      (s.bookings.find? booking).or ((⟨more⟩ : Table Booking).find? booking) := by
  have hrows : t.bookings = ⟨s.bookings.rows ++ more⟩ := congrArg Table.mk h.bookings
  rw [hrows]
  exact Table.find?_rows_append s.bookings more booking

/-- A store that grows keeps the history of every booking. -/
theorem historyOf_eq (h : s.Grows t more) (booking : Int) :
    t.historyOf booking = s.historyOf booking := by
  rw [historyOf, historyOf, h.history]

end Store.Grows

namespace Store

variable {s t : Store} {now : Instant} {actor : Actor}

/-- A change without work adds bookings that nothing has been done to, if any. -/
theorem Furnished.grows {command : Command} (h : s.Furnished now actor command t) :
    ∃ more, s.Grows t more ∧ ∀ b ∈ more, ∃ category, b.progress = freshProgress category := by
  cases h with
  | booked h =>
    refine ⟨_, ?_, fun b hb => (createItems_made h b hb).2⟩
    rw [createItems_store h]
    exact ⟨rfl, rfl⟩
  | available h =>
    obtain ⟨-, d, -, rfl⟩ := setAvailability_eq_ok h
    exact ⟨[], .of_eq rfl rfl, by simp⟩
  | priced h =>
    rcases setPrice_eq_ok h with ⟨-, ⟨-, -, rfl⟩ | ⟨old, -, -, rfl⟩⟩
    · exact ⟨[], .of_eq rfl rfl, by simp⟩
    · exact ⟨[], .of_eq rfl rfl, by simp⟩

/-- A change is work on a booking, or it adds bookings that nothing has been done to. -/
theorem Change.worked_or_grows (h : s.Change now actor t) :
    (∃ b w, s.bookings.find? b.id = some b ∧ s.Worked now actor b.progress w ∧
        t = s.commit now actor b w) ∨
      ∃ more, s.Grows t more ∧ ∀ b ∈ more, ∃ category, b.progress = freshProgress category := by
  cases h with
  | @worked booking b w found worked =>
    have hid : b.id = booking := Table.id_of_find? found
    exact .inl ⟨b, w, hid ▸ found, worked, rfl⟩
  | booked h =>
    have furnished : s.Furnished now actor _ t := .booked h
    exact .inr furnished.grows
  | available h =>
    have furnished : s.Furnished now actor _ t := .available h
    exact .inr furnished.grows
  | priced h =>
    have furnished : s.Furnished now actor _ t := .priced h
    exact .inr furnished.grows

/-- The drivers of the sample are no bookings. -/
theorem withSampleDrivers_grows (h : s.withSampleDrivers = .ok t) : ∃ more, s.Grows t more := by
  unfold withSampleDrivers at h
  split at h
  · cases h
  · cases h
    exact ⟨[], .of_eq rfl rfl⟩

/-- Neither are its kinds of waste. -/
theorem withSampleWaste_grows (h : s.withSampleWaste now = .ok t) : ∃ more, s.Grows t more := by
  refine foldlM_induction (R := fun s t => ∃ more, s.Grows t more)
    (fun s => ⟨[], .of_eq rfl rfl⟩) Grows.exists_trans _ ?_ h
  intro kind _ s t h
  simp only at h
  split at h
  · cases h
  · cases h
    exact ⟨[], .of_eq rfl rfl⟩

/-- Its bookings are added one by one. -/
theorem withSampleBookings_grows {firstCategory : Int}
    (h : s.withSampleBookings now firstCategory = .ok t) : ∃ more, s.Grows t more := by
  refine foldlM_induction (R := fun s t => ∃ more, s.Grows t more)
    (fun s => ⟨[], .of_eq rfl rfl⟩) Grows.exists_trans _ ?_ h
  rintro ⟨b, index⟩ _ s t h
  simp only at h
  split at h
  · cases h
  · cases h
    exact ⟨_, rfl, rfl⟩

/-- The sample adds bookings behind those that are there, and no history. -/
theorem seed_grows {report : List String} (h : s.seed now = .ok (t, report)) :
    ∃ more, s.Grows t more := by
  unfold seed at h
  split at h
  · cases h
    exact ⟨[], .of_eq rfl rfl⟩
  · obtain ⟨peopled, hpeopled, h⟩ := bind_eq_ok_iff.1 h
    obtain ⟨stocked, hstocked, h⟩ := bind_eq_ok_iff.1 h
    obtain ⟨booked, hbooked, h⟩ := bind_eq_ok_iff.1 h
    cases h
    have hstock : ∃ more, s.Grows stocked more :=
      Grows.exists_trans (withSampleDrivers_grows hpeopled) (withSampleWaste_grows hstocked)
    exact Grows.exists_trans hstock (withSampleBookings_grows hbooked)

end Store

/-! ## Updates of bookings -/

/-- A piece of work is turned down and nothing happens, or it is done on the booking that is found
and its writes are committed. -/
theorem Store.revise_cases (s : Store) (now : Instant) (actor : Actor) (booking : Int)
    (work : Work) :
    (∃ refusal, s.revise now actor booking work = (s, .error refusal)) ∨
      ∃ b w, s.bookings.find? booking = some b ∧ work s b.progress = .ok w ∧
        s.revise now actor booking work =
          (s.commit now actor b w, .ok (b.advance now w.progress w.rounded)) := by
  unfold revise
  split
  · rename_i refusal _
    exact .inl ⟨refusal, rfl⟩
  · exact .inl ⟨.bookingNotFound, rfl⟩
  · rename_i b hb
    split
    · rename_i refusal _
      exact .inl ⟨refusal, rfl⟩
    · rename_i w hw
      exact .inr ⟨b, w, (Table.lookUp_eq_ok_iff.1 hb).2, hw, rfl⟩

/-- Nobody holds the lock of a booking. -/
def World.LockIsFree (w : World) (booking : Int) : Prop :=
  ∀ ttl token, w.locks.holder? (Lock.forBooking booking ttl token).key = none

/-- Under a free lock, an update comes to its revision. -/
theorem World.lockedUpdate_of_free {w : World} {token : Token} {now : Instant} {actor : Actor}
    {booking : Int} (free : w.LockIsFree booking) (work : Work) :
    w.lockedUpdate token now actor booking work =
      (⟨(w.store.revise now actor booking work).1, w.locks⟩,
        (w.store.revise now actor booking work).2) := by
  have htaken := LockStore.acquire_isSome_iff.2 (free updateTtl token)
  obtain ⟨taken, htaken⟩ := Option.isSome_iff_exists.1 htaken
  simp only [lockedUpdate, htaken, LockStore.release_acquire htaken]

/-- Under a lock that is held, nothing is done. -/
theorem World.lockedUpdate_of_held {w : World} {token : Token} {now : Instant} {actor : Actor}
    {booking : Int} (held : ¬w.LockIsFree booking) (work : Work) :
    w.lockedUpdate token now actor booking work = (w, .error (.bookingLocked booking)) := by
  have hnone : w.locks.acquire (Lock.forBooking booking updateTtl token) = none := by
    apply Option.eq_none_iff_forall_ne_some.2
    intro taken htaken
    have hfree := LockStore.acquire_isSome_iff.1 (Option.isSome_of_eq_some htaken)
    exact held fun _ _ => hfree
  simp only [lockedUpdate, hnone]

/-- An update under the lock of the booking is turned down and nothing happens, or its work is
committed. -/
theorem World.lockedUpdate_cases (w : World) (token : Token) (now : Instant) (actor : Actor)
    (booking : Int) (work : Work) :
    (∃ refusal, w.lockedUpdate token now actor booking work = (w, .error refusal)) ∨
      ∃ b writes, w.store.bookings.find? booking = some b ∧ work w.store b.progress = .ok writes ∧
        w.lockedUpdate token now actor booking work =
          (⟨w.store.commit now actor b writes, w.locks⟩,
            .ok (b.advance now writes.progress writes.rounded)) := by
  by_cases free : w.LockIsFree booking
  · rw [lockedUpdate_of_free free]
    rcases w.store.revise_cases now actor booking work with ⟨refusal, h⟩ | ⟨b, writes, hb, hw, h⟩
    · exact .inl ⟨refusal, by rw [h]⟩
    · exact .inr ⟨b, writes, hb, hw, by rw [h]⟩
  · exact .inl ⟨.bookingLocked booking, lockedUpdate_of_held free work⟩

/-! ## Forms of admins -/

/-- An admin's form is decided on when its status is a present name, the booking is there and its
status is known; the action is that of the form, and the driver and the amounts go along. -/
theorem AdminForm.decide_eq_ok_iff {s : Store} {booking : Int} {form : AdminForm}
    {request : AdminRequest} :
    form.decide s booking = .ok request ↔
      requireCurrentName form.status = .ok () ∧ ∃ b status action,
        s.bookings.lookUp booking = .ok (some b) ∧ b.status? = some status ∧
        form.action? status = .ok action ∧
        request = ⟨action, form.driver, form.weight.map .float, form.amount.map .float⟩ := by
  unfold decide
  simp only [bind_eq_ok_iff]
  constructor
  · rintro ⟨⟨⟩, hname, found, hfound, h⟩
    cases found with
    | none => cases h
    | some b =>
      cases hs : b.status? with
      | none => simp only [hs] at h; cases h
      | some status =>
        simp only [hs] at h
        obtain ⟨action, haction, h⟩ := bind_eq_ok_iff.1 h
        cases h
        exact ⟨hname, b, status, action, hfound, hs, haction, rfl⟩
  · rintro ⟨hname, b, status, action, hfound, hs, haction, rfl⟩
    refine ⟨(), hname, some b, hfound, ?_⟩
    simp only [hs]
    exact bind_eq_ok_iff.2 ⟨action, haction, rfl⟩

/-- What an admin's form is decided on: a booking that is there and whose status is known. -/
theorem AdminForm.decide_eq_ok {s : Store} {booking : Int} {form : AdminForm}
    {request : AdminRequest} (h : form.decide s booking = .ok request) :
    ∃ b status, s.bookings.find? booking = some b ∧ b.status? = some status := by
  obtain ⟨-, b, status, action, hfound, hs, -, -⟩ := AdminForm.decide_eq_ok_iff.1 h
  exact ⟨b, status, (Table.lookUp_eq_ok_iff.1 hfound).2, hs⟩

/-! ## Events -/

/-- In whose name an event happens: the caller of a request, or whoever makes a call that does
without one. -/
def Event.author? : Event → Option Actor
  | .request r =>
    match Service.readActor r.headers with
    | .ok actor => some actor
    | .failed _ _ => none
  | .act actor _ _ _ | .adminUpdate actor _ _ => some actor
  | _ => none

namespace Service

/-- What every step of a run keeps, from one store to the next, holds from its beginning to its
end. -/
theorem run_induction {R : Store → Store → Prop} (refl : ∀ s, R s s)
    (trans : ∀ {s t u}, R s t → R t u → R s u) (steps : List Step)
    (step : ∀ s ∈ steps, ∀ service : Service,
      R service.world.store (service.step s).1.world.store) (service : Service) :
    R service.world.store (service.run steps).world.store := by
  induction steps generalizing service with
  | nil => exact refl _
  | cons s rest ih =>
    rw [run_cons]
    refine trans (step s List.mem_cons_self service) ?_
    exact ih (fun s' hs' => step s' (List.mem_cons_of_mem s hs')) _

end Service

/-! ## Requests on their own -/

/-- A request, when it arrives, and the token under which its locks are taken. -/
structure Call where
  token : Token
  now : Instant
  request : Request

/-- The arrival of a request. -/
def Call.step (c : Call) : Step :=
  ⟨c.token, c.now, .request c.request⟩

/-- The service after a request has arrived, and what the request is answered. -/
theorem Service.step_call (service : Service) (c : Call) :
    service.step c.step =
      ((service.serve c.token c.now c.request).1,
        .ofReply (service.serve c.token c.now c.request).2) := by
  simp only [step, Call.step]

/-! ## A service with one booking -/

/-- A booking of the second user in a given progress. -/
def Booking.single (p : Progress) : Booking :=
  ⟨1, ⟨2, none, none, none, "12 Galle Road", "Colombo", "00300", none, none, ⟨2026, 11, 2⟩,
    "09:00-12:00", none, none, ⟨0⟩⟩, p, ⟨0⟩⟩

/-- A store with one approved driver, one kind of waste and that booking. -/
def Store.single (p : Progress) : Store where
  users := 1
  drivers := ⟨[⟨7, "Saman Kumara", true, Availability.online.name, 0⟩]⟩
  categories := ⟨[⟨1, true⟩]⟩
  pricing := .empty
  bookings := ⟨[.single p]⟩
  history := .empty

/-- A service over that store, with all locks free. -/
def Service.single (p : Progress) : Service :=
  ⟨⟨.single p, .empty⟩, []⟩

end WastePickup
