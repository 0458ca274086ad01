import Mathlib.Data.List.Nodup
import WastePickup.Proofs.Asking
import WastePickup.Proofs.Drivers
import WastePickup.Proofs.Running

/-!
# How far a request can reach

Whatever a request says, it writes only what is within reach of its path and of its caller. Its path
names the one booking or the one category that it may change; its caller bounds the rest. A customer
only adds bookings of his own. A driver works on bookings that are in his hands and stay there, and
his own row is the only one of a driver that is written. An admin writes no driver at all. The
history only grows, and each new row says whose change of which booking it is.

Rows are found by their numbers. Only prices are looked up by something else, their category, and
written by number; so for them the numbers are asked to tell the rows apart (`Table.ids`).

* `Request.StaysInReach`: all that a request of somebody leaves alone.
* `StaysInReach.of_commit`, `of_booked`, `of_available`, `of_priced`: each kind of change is within
  reach of the commands that make it.
* `request_stays_in_reach`: whatever the request, it stays within reach of its caller.
-/

namespace WastePickup

/-! ## Tables by their numbers -/

namespace Table

variable {α : Type} [Row α]

/-- The numbers of the rows, one after the other. -/
def ids (t : Table α) : List Int :=
  t.rows.map Row.id

/-- A replacement leaves the numbers as they are. -/
theorem ids_replace (t : Table α) (row : α) : (t.replace row).ids = t.ids := by
  simp only [ids, replace, List.map_map]
  apply List.map_congr_left
  intro old _
  show Row.id (if Row.id old = Row.id row then row else old) = Row.id old
  split
  · rename_i h
    exact h.symm
  · rfl

/-- Where numbers tell rows apart, a replacement among rows that are left out leaves the others as
they are. -/
theorem filter_replace {t : Table α} (keys : t.ids.Nodup) {old new : α} (mem : old ∈ t.rows)
    (id_eq : Row.id new = Row.id old) {p : α → Bool} (hold : p old = false)
    (hnew : p new = false) : (t.replace new).rows.filter p = t.rows.filter p := by
  have hkept : ∀ row ∈ t.rows, p row = true → Row.id row ≠ Row.id new := by
    intro row hrow hp hid
    rw [List.inj_on_of_nodup_map keys hrow mem (hid.trans id_eq), hold] at hp
    cases hp
  simp only [replace, List.filter_map]
  have hfilter : t.rows.filter (p ∘ fun row => if Row.id row = Row.id new then new else row) =
      t.rows.filter p := by
    apply List.filter_congr
    intro row hrow
    show p (if Row.id row = Row.id new then new else row) = p row
    split
    · rename_i hid
      rw [List.inj_on_of_nodup_map keys hrow mem (hid.trans id_eq), hold, hnew]
    · rfl
  rw [hfilter]
  refine (List.map_congr_left fun row hrow => ?_).trans (List.map_id _)
  obtain ⟨hmem, hp⟩ := List.mem_filter.1 hrow
  exact if_neg (hkept row hmem hp)

end Table

/-! ## Reach -/

/-- A request of somebody stays within reach: all that is not for it to write is as it was. -/
structure Request.StaysInReach (r : Request) (actor : Actor) (s t : Store) : Prop where
  /-- Users and waste categories are not written at all, nor is a driver added or taken away. -/
  fixed : t.users = s.users ∧ t.categories = s.categories ∧ t.drivers.ids = s.drivers.ids
  /-- All bookings but the one that the path names are as they were. -/
  others : ∀ booking b, s.bookings.find? booking = some b →
    r.subject? ≠ some (.booking booking) → t.bookings.find? booking = some b
  /-- That one is there too, and what its customer asked for stands. -/
  pickup : ∀ booking b, s.bookings.find? booking = some b →
    ∃ b', t.bookings.find? booking = some b' ∧ b'.pickup = b.pickup
  /-- The history is what it was, and the caller's changes of that booking behind it. -/
  history : ∃ added, t.history.rows = s.history.rows ++ added ∧ ∀ e ∈ added,
    r.subject? = some (.booking e.booking) ∧ e.changedBy = actor.id ∧ e.role = actor.role.acting
  /-- Prices are written only where the path names a category, and then nothing else is. -/
  pricing : t.pricing ≠ s.pricing →
    t = { s with pricing := t.pricing } ∧ ∃ category, r.subject? = some (.category category)
  /-- The rows of all other categories are as they were, if numbers tell the price rows apart. -/
  prices : s.pricing.ids.Nodup → ∀ category, r.subject? ≠ some (.category category) →
    t.pricing.rows.filter (fun row => row.wasteCategory = category) =
      s.pricing.rows.filter fun row => row.wasteCategory = category
  /-- Only customers add bookings. -/
  bookings : actor.role ≠ .customer → t.bookings.ids = s.bookings.ids
  /-- A driver changes bookings that are his own before and after, no driver's row but his, and no
  price. -/
  driver : actor.role = .driver → t.pricing = s.pricing ∧
    (∀ booking b, s.bookings.find? booking = some b → t.bookings.find? booking ≠ some b →
      b.progress.driver = some actor.id ∧ ∃ b', t.bookings.find? booking = some b' ∧
        b'.progress.driver = some actor.id) ∧
    ∀ driver, driver ≠ actor.id → t.drivers.find? driver = s.drivers.find? driver
  /-- An admin changes no driver's row. -/
  admin : actor.role.isAdmin = true → t.drivers = s.drivers
  /-- A customer only adds bookings, which are his own, created, and nobody's work. -/
  customer : actor.role = .customer →
    ∃ made, t = { s with bookings := ⟨s.bookings.rows ++ made⟩ } ∧ ∀ b ∈ made,
      b.pickup.user = actor.id ∧ b.progress.status = Status.created.name ∧ b.progress.driver = none

namespace Order

variable {order : Order} {s : Store} {now : Instant} {actor : Actor} {p : Progress} {w : Writes}

/-- A driver works on what is in his hands, and leaves it there. -/
theorem driver_of_driver (h : order.work now actor s p = .ok w) (isOpen : order.IsOpenTo actor)
    (role : actor.role = .driver) :
    p.driver = some actor.id ∧ w.progress.driver = some actor.id := by
  cases order with
  | update request =>
    rw [IsOpenTo, role] at isOpen
    cases isOpen
  | act action given =>
    obtain ⟨own, m, e, hm, he, -, rfl⟩ := Store.perform_eq_ok_iff.1 h
    obtain ⟨-, -, hrole, lawful⟩ := Store.planMove_eq_ok_iff.1 hm
    rw [role] at hrole
    have hassign : m.action ≠ .assign := by
      rcases lawful.action_of_driver hrole with ha | ha | ha
      · simp [ha]
      · simp [ha]
      · simp [ha]
    rcases (Store.effect_eq_ok he).1.driver with ⟨ha, -⟩ | ⟨-, hkept⟩
    · exact absurd ha hassign
    · exact ⟨own role, hkept.trans (own role)⟩

/-- Work leaves the rows of all drivers but the one who has it done. -/
theorem find?_drivers_of_ne {b : Booking} (h : order.work now actor s b.progress = .ok w)
    {driver : Int} (other : driver ≠ actor.id) :
    (s.commit now actor b w).drivers.find? driver = s.drivers.find? driver := by
  rw [find?_drivers_commit h]
  cases hd : s.drivers.find? driver with
  | none => rfl
  | some d =>
    have hid : d.id = driver := Table.id_of_find? hd
    rw [Option.map_some, d.after_of_ne (hid ▸ other)]

/-- Work that no driver has done leaves all of them. -/
theorem drivers_of_ne_driver {b : Booking} (h : order.work now actor s b.progress = .ok w)
    (role : actor.role ≠ .driver) : (s.commit now actor b w).drivers = s.drivers := by
  rw [Store.commit_drivers, writes_driver h, ownMove?_eq_none h role]
  rfl

end Order

namespace Request.StaysInReach

variable {r : Request} {actor : Actor} {s t : Store} {now : Instant} {command : Command}

/-- A request that changes nothing stays within reach. -/
theorem refl (r : Request) (actor : Actor) (s : Store) : r.StaysInReach actor s s where
  fixed := ⟨rfl, rfl, rfl⟩
  others _ _ found _ := found
  pickup _ b found := ⟨b, found, rfl⟩
  history := ⟨[], by simp, by simp⟩
  pricing changed := absurd rfl changed
  prices _ _ _ := rfl
  bookings _ := rfl
  driver _ := ⟨rfl, fun _ _ found changed => absurd found changed, fun _ _ => rfl⟩
  admin _ := rfl
  customer _ := ⟨[], by simp, by simp⟩

/-- Work that a command orders stays within reach. -/
theorem of_commit (asks : r.Asks actor command) {booking : Int} {order : Order} {b : Booking}
    {w : Writes} (order? : command.order? s = some (booking, order))
    (isOpen : order.IsOpenTo actor) (found : s.bookings.find? booking = some b)
    (work : order.work now actor s b.progress = .ok w) :
    r.StaysInReach actor s (s.commit now actor b w) := by
  obtain ⟨about, -, notCustomer⟩ := Command.order?_endpoint order?
  obtain rfl : b.id = booking := Table.id_of_find? found
  have hsubject := asks.subject?_eq about
  refine
    { fixed := ⟨Store.commit_users .., Store.commit_categories .., ?fixed⟩
      others := ?others
      pickup := ?pickup
      history := ⟨_, Store.commit_history .., ?history⟩
      pricing := fun changed => absurd (Store.commit_pricing ..) changed
      prices := fun _ _ _ => by rw [Store.commit_pricing]
      bookings := fun _ => by rw [Store.commit_bookings, Table.ids_replace]
      driver := fun role => ⟨Store.commit_pricing .., ?driver, fun driver other =>
        Order.find?_drivers_of_ne work other⟩
      admin := fun isAdmin => Order.drivers_of_ne_driver work ?admin
      customer := fun role => absurd (role ▸ asks.admits) notCustomer }
  case fixed =>
    rw [Store.commit_drivers]
    cases w.driver with
    | none => rfl
    | some d => exact Table.ids_replace s.drivers d
  case others =>
    intro other old found' hother
    rcases Store.find?_commit_cases found found' with ⟨rfl, -, -⟩ | ⟨-, kept⟩
    · exact absurd hsubject hother
    · exact kept
  case pickup =>
    intro other old found'
    rcases Store.find?_commit_cases found found' with ⟨-, rfl, advanced⟩ | ⟨-, kept⟩
    · exact ⟨_, advanced, Booking.advance_pickup ..⟩
    · exact ⟨old, kept, rfl⟩
  case history =>
    intro e he
    obtain ⟨m, hmove, rfl⟩ := Option.map_eq_some_iff.1 (Option.mem_toList.1 he)
    cases Order.follows_of_work work with
    | stays move => rw [hmove] at move; cases move
    | moves m' move lawful acting =>
      rw [hmove] at move
      cases move
      exact ⟨hsubject, rfl, acting⟩
  case driver =>
    obtain ⟨hbefore, hafter⟩ := Order.driver_of_driver work isOpen role
    intro other old found' changed
    rcases Store.find?_commit_cases found found' with ⟨-, rfl, advanced⟩ | ⟨-, kept⟩
    · exact ⟨hbefore, _, advanced,
        by rw [Booking.advance_progress, Progress.onto_driver, hafter]⟩
    · exact absurd kept changed
  case admin =>
    intro hrole
    rw [hrole] at isAdmin
    cases isAdmin

/-- New bookings are for customers, and stay within their reach. -/
theorem of_booked {form : BookingForm} {made : List Booking}
    (asks : r.Asks actor (.createBookings form))
    (h : s.create now actor.id form = .ok (t, made)) : r.StaysInReach actor s t := by
  have role : actor.role = .customer := List.mem_singleton.1 asks.admits
  have hmade := Store.createItems_made h
  obtain rfl := Store.createItems_store h
  have grows : s.Grows { s with bookings := ⟨s.bookings.rows ++ made⟩ } made := ⟨rfl, rfl⟩
  have kept : ∀ booking b, s.bookings.find? booking = some b →
      (⟨s.bookings.rows ++ made⟩ : Table Booking).find? booking = some b := by
    intro booking b found
    rw [grows.find?_eq, found]
    rfl
  exact
    { fixed := ⟨rfl, rfl, rfl⟩
      others := fun booking b found _ => kept booking b found
      pickup := fun booking b found => ⟨b, kept booking b found, rfl⟩
      history := (refl r actor s).history
      pricing := fun changed => absurd rfl changed
      prices := fun _ _ _ => rfl
      bookings := fun other => absurd role other
      driver := fun other => by rw [role] at other; cases other
      admin := fun _ => rfl
      customer := fun _ => ⟨made, rfl, fun b hb => by
        obtain ⟨user, category, fresh⟩ := hmade b hb
        rw [fresh]
        exact ⟨user, rfl, rfl⟩⟩ }

/-- Setting an availability is for drivers, and stays within their reach. -/
theorem of_available {form : AvailabilityForm} {answer : Answer}
    (asks : r.Asks actor (.setAvailability form))
    (h : s.setAvailability actor.id form = .ok (t, answer)) : r.StaysInReach actor s t := by
  have role : actor.role = .driver := List.mem_singleton.1 asks.admits
  obtain ⟨-, d, found, rfl⟩ := Store.setAvailability_eq_ok h
  have hid : d.id = actor.id := Table.id_of_find? found
  exact
    { fixed := ⟨rfl, rfl, Table.ids_replace ..⟩
      others := (refl r actor s).others
      pickup := (refl r actor s).pickup
      history := (refl r actor s).history
      pricing := fun changed => absurd rfl changed
      prices := fun _ _ _ => rfl
      bookings := fun _ => rfl
      driver := fun _ =>
        ⟨rfl, fun _ _ found changed => absurd found changed, fun driver other => by
          rw [Table.find?_replace]
          exact if_neg fun heq => other (heq.trans hid)⟩
      admin := fun other => by rw [role] at other; cases other
      customer := fun other => by rw [role] at other; cases other }

/-- Setting a price band is for admins, and stays within their reach. -/
theorem of_priced {category : Int} {form : PricingForm} {row : Pricing}
    (asks : r.Asks actor (.setPrice category form))
    (h : s.setPrice now category form = .ok (t, row)) : r.StaysInReach actor s t := by
  have role : actor.role = .admin ∨ actor.role = .superAdmin := by
    simpa [Command.endpoint, Endpoint.roles] using asks.admits
  have hsubject : r.subject? = some (.category category) := asks.subject?_eq rfl
  obtain ⟨table, rfl, hothers⟩ : ∃ table, t = { s with pricing := table } ∧
      (s.pricing.ids.Nodup → ∀ other, other ≠ category →
        table.rows.filter (fun row => row.wasteCategory = other) =
          s.pricing.rows.filter fun row => row.wasteCategory = other) := by
    rcases (Store.setPrice_eq_ok h).2 with ⟨-, rfl, rfl⟩ | ⟨old, hold, rfl, rfl⟩
    · refine ⟨_, rfl, fun keys other hother => ?_⟩
      have hnew : ¬(s.newPricing now category form).wasteCategory = other := Ne.symm hother
      simp [Table.append, List.filter_append, hnew]
    · refine ⟨_, rfl, fun keys other hother => ?_⟩
      have hcategory : old.wasteCategory = category := by simpa using List.find?_some hold
      have hne : ¬old.wasteCategory = other := fun heq => hother (heq ▸ hcategory)
      apply Table.filter_replace keys (List.mem_of_find?_eq_some hold) (Pricing.set_id now old form)
      · simp [hne]
      · simp [hne, Pricing.set_wasteCategory]
  exact
    { fixed := ⟨rfl, rfl, rfl⟩
      others := (refl r actor s).others
      pickup := (refl r actor s).pickup
      history := (refl r actor s).history
      pricing := fun _ => ⟨rfl, category, hsubject⟩
      prices := fun keys other hother =>
        hothers keys other fun heq => hother (heq ▸ hsubject)
      bookings := fun _ => rfl
      driver := fun other => by rcases role with role | role <;> rw [role] at other <;> cases other
      admin := fun _ => rfl
      customer := fun other => by
        rcases role with role | role <;> rw [role] at other <;> cases other }

end Request.StaysInReach

/-! ## Requests -/

/-- Whatever a request asks for stays within reach of the caller. -/
theorem Request.Asks.staysInReach {r : Request} {actor : Actor} {command : Command} (w : World)
    (token : Token) (now : Instant) (asks : r.Asks actor command) :
    r.StaysInReach actor w.store (command.run w token now actor).1.store := by
  have h := command.run_leaves w token now actor
  generalize (command.run w token now actor).1.store = t at h ⊢
  cases h with
  | idle => exact .refl r actor w.store
  | ordered order? isOpen found work => exact .of_commit asks order? isOpen found work
  | furnished h =>
    cases h with
    | booked h => exact .of_booked asks h
    | available h => exact .of_available asks h
    | priced h => exact .of_priced asks h

/-- A command that is asked for by `GET` changes nothing. -/
theorem Command.run_of_get {command : Command} (w : World) (token : Token) (now : Instant)
    (actor : Actor) (get : command.endpoint.method = "GET") :
    (command.run w token now actor).1 = w := by
  have hlocks := command.run_locks w token now actor
  have hleaves := command.run_leaves w token now actor
  generalize (command.run w token now actor).1 = next at hlocks hleaves ⊢
  obtain ⟨store, locks⟩ := next
  have hstore : store = w.store := by
    cases hleaves with
    | idle => rfl
    | ordered order? =>
      rw [(Command.order?_endpoint order?).2.1] at get
      exact absurd get (by decide)
    | furnished h =>
      cases h with
      | booked => simp [endpoint, Endpoint.method] at get
      | available => simp [endpoint, Endpoint.method] at get
      | priced => simp [endpoint, Endpoint.method] at get
  rw [hstore, show locks = w.locks from hlocks]

/-- A request by `GET` changes nothing, nor does one that does not say who asks; and whatever the
request, it stays within reach of its caller. -/
theorem request_stays_in_reach (service : Service) (token : Token) (now : Instant) (r : Request) :
    let next := (service.serve token now r).1
    (r.method = "GET" → next.world = service.world) ∧
      ((∀ actor, Service.readActor r.headers ≠ .ok actor) → next.world = service.world) ∧
      ∀ actor, Service.readActor r.headers = .ok actor →
        r.StaysInReach actor service.world.store next.world.store := by
  intro next
  have h := service.serve_runs token now r
  simp only [next]
  generalize service.serve token now r = result at h ⊢
  cases h with
  | idle h =>
    rw [h]
    exact ⟨fun _ => rfl, fun _ => rfl, fun actor _ => .refl r actor service.world.store⟩
  | @ran next reply actor command asks h =>
    rw [h]
    refine ⟨fun get => ?_, fun nobody => absurd asks.caller (nobody actor), ?_⟩
    · exact command.run_of_get service.world token now actor (asks.method_eq ▸ get)
    · intro caller hcaller
      obtain rfl := asks.actor_eq hcaller
      exact asks.staysInReach service.world token now

end WastePickup
