import Mathlib.Data.List.Forall2
import WastePickup.Proofs.Asking
import WastePickup.Proofs.Conditions
import WastePickup.Proofs.Reading
import WastePickup.Proofs.Written

/-!
# All items of a request, or none

A customer's request is for several items, and each of them becomes a booking of its own. The items
are booked one after the other, and what stands in the way of a later one is found only after the
earlier ones have been booked. All the same no request is carried out in part: what is kept is the
store with all bookings, or the one from before.

* `Store.createItems_answers`: booking items answers to the conditions of one item after the other.
* `Store.createItems_areMadeOf`: what is made is one booking of each item.
* `Command.run_createBookings`: a request for bookings is refused for nothing else.
* `all_items_are_booked_or_none`: what a request for bookings leaves, and how it is answered.
-/

namespace WastePickup

/-! ## What is asked for, and what is made -/

namespace Store

/-- A category that can be booked: it exists and is active. -/
def Available (s : Store) (category : Int) : Prop :=
  ∃ c, s.categories.find? category = some c ∧ c.isActive = true

/-- What booking an item of a request asks for. The category comes first; the number of the user and
the instructions are the same for all items, but are written with each of them. -/
def itemConditions (s : Store) (user : Int) (form : BookingForm) (item : ItemForm) :
    List Condition :=
  [⟨Number.fits64 item.wasteCategory = true, .broken .numberTooLarge⟩,
    ⟨s.Available item.wasteCategory, .categoryUnavailable item.wasteCategory⟩,
    ⟨Number.fits64 user = true, .broken .numberTooLarge⟩,
    ⟨∀ text ∈ form.specialInstructions, ∃ proper, text = .proper proper,
      .broken .textNotEncodable⟩]

/-- What a request for bookings asks for, item by item. -/
def bookingConditions (s : Store) (user : Int) (form : BookingForm) : List Condition :=
  form.items.flatMap (s.itemConditions user form)

end Store

/-- A booking is made of an item of a request: it carries what the request says and an estimate by
the band of the category, and nothing has been done to it. -/
structure Booking.IsMadeOf (b : Booking) (bands : Int → Option (Band Float)) (user : Int)
    (form : BookingForm) (item : ItemForm) : Prop where
  user : b.pickup.user = user
  address : b.pickup.addressLine1 = form.addressLine1 ∧ b.pickup.city = form.city ∧
    b.pickup.postalCode = form.postalCode
  contact : b.pickup.phone = some form.phone ∧
    b.pickup.specialInstructions.map .proper = form.specialInstructions
  schedule : b.pickup.scheduledDate = form.scheduledDate ∧
    b.pickup.scheduledTimeSlot = form.scheduledTimeSlot
  position : sameFloat b.pickup.lat form.lat = true ∧ sameFloat b.pickup.lng form.lng = true
  quantity : b.pickup.estimatedWeight = some (weightText item.quantity)
  /-- The estimate is by the two ends of the band, as a store keeps numbers. -/
  priced : ∀ band, bands item.wasteCategory = some band →
    b.pickup.estimatedMin = storedFloat (band.estimate item.quantity).1 ∧
      b.pickup.estimatedMax = storedFloat (band.estimate item.quantity).2
  unpriced : bands item.wasteCategory = none →
    b.pickup.estimatedMin = some 0.0 ∧ b.pickup.estimatedMax = some 0.0
  untouched : b.progress =
    { status := Status.created.name, driver := none, wasteCategory := item.wasteCategory,
      weight := none, amount := none, cancelReason := none, confirmedAt := none }

/-- Bookings are made of items of a request, one of each and in their order, under numbers that
increase and are above all numbers in use. -/
structure Store.AreMadeOf (s : Store) (user : Int) (form : BookingForm) (items : List ItemForm)
    (made : List Booking) : Prop where
  items : List.Forall₂ (fun item b => b.IsMadeOf s.band? user form item) items made
  unused : ∀ b ∈ made, ∀ old ∈ s.bookings.rows, old.id < b.id
  increasing : made.Pairwise fun a b => a.id < b.id

/-! ## Checks -/

/-- Instructions that are there have to be a string. -/
theorem Store.requireStorable_answers (form : BookingForm) :
    AnswersTo [⟨∀ text ∈ form.specialInstructions, ∃ proper, text = .proper proper,
      .broken .textNotEncodable⟩] (requireStorable form) := by
  unfold requireStorable
  cases form.specialInstructions with
  | none => exact .holds (by simp) (.done ())
  | some text =>
    cases text with
    | broken codes => exact .fails (by simp)
    | proper proper => exact .holds (by simp) (.done ())

/-- What has to hold for an item to be booked, spelled out. -/
theorem Store.itemConditions_hold_iff {s : Store} {user : Int} {form : BookingForm}
    {item : ItemForm} : (∀ c ∈ s.itemConditions user form item, c.holds) ↔
      Number.fits64 item.wasteCategory = true ∧ s.Available item.wasteCategory ∧
        Number.fits64 user = true ∧ ∀ text ∈ form.specialInstructions, ∃ proper,
          text = .proper proper := by
  simp [itemConditions]

/-- The first item that cannot be booked for its category is what a request fails for. -/
theorem Store.failsFirst_of_unavailable {s : Store} {user : Int} {form : BookingForm}
    {before after : List ItemForm} {item : ItemForm} (items : form.items = before ++ item :: after)
    (earlier : ∀ i ∈ before, ∀ c ∈ s.itemConditions user form i, c.holds)
    (fits : Number.fits64 item.wasteCategory = true)
    (unavailable : ¬s.Available item.wasteCategory) :
    FailsFirst (s.bookingConditions user form) (.categoryUnavailable item.wasteCategory) := by
  refine ⟨before.flatMap (s.itemConditions user form) ++
      [⟨Number.fits64 item.wasteCategory = true, .broken .numberTooLarge⟩],
    ⟨s.Available item.wasteCategory, .categoryUnavailable item.wasteCategory⟩,
    (s.itemConditions user form item).drop 2 ++ after.flatMap (s.itemConditions user form),
    ?_, ?_, unavailable, rfl⟩
  · simp [bookingConditions, items, itemConditions]
  · intro c hc
    rcases List.mem_append.1 hc with hc | hc
    · obtain ⟨i, hi, hc⟩ := List.mem_flatMap.1 hc
      exact earlier i hi c hc
    · rw [List.mem_singleton.1 hc]
      exact fits

/-- A position that has been read is made of numbers, as far as it is given. -/
theorem BookingForm.isNaN_position {notObject : Fault} {o : Json.Object} {form : BookingForm}
    (h : Form.read notObject o = .ok form) :
    ∀ x ∈ form.lat.toList ++ form.lng.toList, x.isNaN = false := by
  obtain ⟨_, lng, toLng, hlng, rfl⟩ := Checked.seq_eq_ok_iff.1 h
  obtain ⟨_, lat, toLat, hlat, rfl⟩ := Checked.seq_eq_ok_iff.1 toLng
  obtain ⟨_, slot, toSlot, -, rfl⟩ := Checked.seq_eq_ok_iff.1 toLat
  obtain ⟨_, date, toDate, -, rfl⟩ := Checked.seq_eq_ok_iff.1 toSlot
  obtain ⟨_, instructions, toInstructions, -, rfl⟩ := Checked.seq_eq_ok_iff.1 toDate
  obtain ⟨_, phone, toPhone, -, rfl⟩ := Checked.seq_eq_ok_iff.1 toInstructions
  obtain ⟨_, postalCode, toPostalCode, -, rfl⟩ := Checked.seq_eq_ok_iff.1 toPhone
  obtain ⟨_, city, toCity, -, rfl⟩ := Checked.seq_eq_ok_iff.1 toPostalCode
  obtain ⟨items, address, -, -, rfl⟩ := Checked.map_seq_eq_ok_iff.1 toCity
  exact Field.isNaN_optionals hlat hlng

/-! ## Booking items -/

namespace Store

variable (s : Store) (now : Instant) (user : Int) (form : BookingForm)

/-- A category that is to be booked has to be there and in use. -/
theorem requireAvailable_answers (category : Int) :
    AnswersTo [⟨Number.fits64 category = true, .broken .numberTooLarge⟩,
      ⟨s.Available category, .categoryUnavailable category⟩] (s.requireAvailable category) := by
  unfold requireAvailable
  by_cases fits : Number.fits64 category = true
  · rw [Table.lookUp_of_fits fits]
    refine .holds fits ?_
    have hfound : s.Available category ↔
        (s.categories.find? category).any WasteCategory.isActive = true := by
      unfold Available
      cases s.categories.find? category <;> simp
    simp only [hfound]
    exact .ite fun _ => .done ()
  · rw [Table.lookUp_of_not_fits fits]
    exact .fails fits

/-- An item can be booked exactly on its conditions. -/
theorem requireBookable_answers (item : ItemForm) :
    AnswersTo (s.itemConditions user form item) (s.requireBookable user form item) :=
  (s.requireAvailable_answers item.wasteCategory).bind fun _ _ =>
    (requireFits_answers user).bind fun _ _ => requireStorable_answers form

/-- Booking items answers to the conditions of one item after the other. -/
theorem createItems_answers (items : List ItemForm) :
    AnswersTo (items.flatMap (s.itemConditions user form)) (s.createItems now user form items) := by
  induction items generalizing s with
  | nil => exact .done _
  | cons item rest ih =>
    rw [createItems_eq_bind, List.flatMap_cons]
    -- The bookings that have been made are not among the conditions of the rest.
    exact (s.requireBookable_answers user form item).bind fun _ _ =>
      (ih { s with bookings := s.bookings.append (s.bookingOf now user form item) }).map _

variable {s now user form} {item : ItemForm} {items : List ItemForm} {t : Store}
  {made : List Booking}

/-- The booking of an item that can be booked is made of it. -/
theorem bookingOf_isMadeOf
    (position : ∀ x ∈ form.lat.toList ++ form.lng.toList, x.isNaN = false)
    (h : s.requireBookable user form item = .ok ()) :
    (s.bookingOf now user form item).IsMadeOf s.band? user form item := by
  obtain ⟨-, -, -, hproper⟩ := itemConditions_hold_iff.1
    ((s.requireBookable_answers user form item).ok_iff.1 ⟨(), h⟩)
  refine
    { user := rfl
      address := ⟨rfl, rfl, rfl⟩
      contact := ⟨rfl, ?contact⟩
      schedule := ⟨rfl, rfl⟩
      position :=
        ⟨sameFloat_storedFloat?_self fun x hx => position x (by simp [Option.mem_def.1 hx]),
          sameFloat_storedFloat?_self fun x hx => position x (by simp [Option.mem_def.1 hx])⟩
      quantity := rfl
      priced := fun band hband => ?priced
      unpriced := fun hnone => ?unpriced
      untouched := rfl }
  case contact =>
    show (form.specialInstructions.bind Json.Text.string?).map .proper = form.specialInstructions
    cases hinstructions : form.specialInstructions with
    | none => rfl
    | some text =>
      obtain ⟨proper, rfl⟩ := hproper text hinstructions
      rfl
  case priced => simp only [bookingOf, pickupOf, estimate, hband, and_self]
  case unpriced =>
    simp only [bookingOf, pickupOf, estimate, hnone]
    decide

/-- What is made of the items of a request is one booking of each. -/
theorem createItems_areMadeOf
    (position : ∀ x ∈ form.lat.toList ++ form.lng.toList, x.isNaN = false)
    (h : s.createItems now user form items = .ok (t, made)) :
    s.AreMadeOf user form items made := by
  induction items generalizing s made with
  | nil =>
    cases h
    exact ⟨.nil, by simp, .nil⟩
  | cons item rest ih =>
    obtain ⟨bookable, others, rfl, hrest⟩ := createItems_cons.1 h
    obtain ⟨hitems, hunused, hincreasing⟩ := ih hrest
    refine ⟨.cons (bookingOf_isMadeOf position bookable) hitems, ?unused, ?increasing⟩
    case unused =>
      intro b hb old hold
      rcases List.mem_cons.1 hb with rfl | hb
      · exact Table.lt_nextId hold
      · exact hunused b hb old (List.mem_append_left _ hold)
    case increasing =>
      refine List.pairwise_cons.2 ⟨fun b hb => ?_, hincreasing⟩
      exact hunused b hb _ (List.mem_append_right _ (List.mem_singleton_self _))

end Store

/-! ## Requests -/

/-- Bookings in one status are all shown in it. -/
theorem BookingView.ofList_of_status (viewer : Role) {status : Status} {bookings : List Booking}
    (h : ∀ b ∈ bookings, b.status? = some status) :
    ofList viewer bookings = .ok (bookings.map (ofStatus viewer · status)) := by
  induction bookings with
  | nil => rfl
  | cons b rest ih =>
    rw [List.forall_mem_cons] at h
    simp only [ofList, of, h.1, ih h.2, Except.map, List.map_cons]

/-- A request for bookings is refused if the bookings are, and answered with the bookings. -/
theorem Command.run_createBookings (w : World) (token : Token) (now : Instant) (actor : Actor)
    (form : BookingForm) :
    (Command.createBookings form).run w token now actor =
      w.storing ((w.store.create now actor.id form).map fun (t, made) =>
        (t, .created (made.map (BookingView.ofStatus actor.role · .created)))) := by
  simp only [run]
  cases hcreate : w.store.create now actor.id form with
  | error refusal => rfl
  | ok result =>
    obtain ⟨t, made⟩ := result
    have hcreated : ∀ b ∈ made, b.status? = some .created := by
      intro b hb
      obtain ⟨-, category, hprogress⟩ := Store.createItems_made hcreate b hb
      rw [Booking.status?, hprogress]
      rfl
    have hviews := BookingView.ofList_of_status actor.role hcreated
    simp only [bind, Except.bind, hviews, Except.map, pure, Except.pure]

/-- What a request for bookings says has been read. -/
theorem Request.Asks.isNaN_position {r : Request} {actor : Actor} {form : BookingForm}
    (asks : r.Asks actor (.createBookings form)) :
    ∀ x ∈ form.lat.toList ++ form.lng.toList, x.isNaN = false := by
  obtain @⟨e, number, -, -, -, read⟩ := asks
  obtain rfl : Endpoint.createBookings = e := (Endpoint.read_eq_ok read).1
  obtain ⟨form', hbody, heq⟩ := Checked.map_eq_ok_iff.1 read
  cases heq
  obtain ⟨o, hform⟩ := Endpoint.inBody_eq_ok hbody
  exact BookingForm.isNaN_position hform

/-- If the bookings are refused, the request is refused for the same, and changes nothing. -/
theorem Service.serve_of_not_created {service : Service} {r : Request} {actor : Actor}
    {form : BookingForm} {now : Instant} {refusal : Refusal}
    (asks : r.Asks actor (.createBookings form))
    (unlimited : ¬limit ≤ service.servedAt (Target.ofText r.target).path)
    (h : service.world.store.create now actor.id form = .error refusal) (token : Token) :
    (service.serve token now r).1.world = service.world ∧
      (service.serve token now r).2 = .ofOutcome (.error refusal) := by
  rw [serve_eq_runLimited token now asks nofun, runLimited, if_neg unlimited,
    Command.run_createBookings, h]
  exact ⟨rfl, rfl⟩

/-- A request for bookings whose path has not been served too often is carried out exactly if all
conditions of all its items hold. Then there is one more booking of each item, and nothing else is
changed; the answer is these bookings, in the order of the items. Otherwise nothing is changed at
all, and the request is refused for the first condition that fails; if that is the category of an
item, the answer names it. -/
theorem all_items_are_booked_or_none (service : Service) {r : Request} {actor : Actor}
    {form : BookingForm} (asks : r.Asks actor (.createBookings form)) (token : Token)
    (now : Instant) :
    let s := service.world.store
    let conditions := s.bookingConditions actor.id form
    let next := (service.serve token now r).1.world
    let reply := (service.serve token now r).2
    let limited := Service.limit ≤ service.servedAt (Target.ofText r.target).path
    (limited → next = service.world ∧ reply = .ok .tooMany) ∧
    (¬limited → (∀ c ∈ conditions, c.holds) → ∃ made, s.AreMadeOf actor.id form form.items made ∧
      next = ⟨{ s with bookings := ⟨s.bookings.rows ++ made⟩ }, service.world.locks⟩ ∧
      reply = .ok ⟨201, some (.arr (made.map fun b =>
        (BookingView.ofStatus actor.role b .created).toJson))⟩) ∧
    (¬limited → (¬∀ c ∈ conditions, c.holds) → next = service.world ∧
      ∃ refusal, FailsFirst conditions refusal ∧ reply = .ofOutcome (.error refusal)) ∧
    (¬limited → ∀ before item after, form.items = before ++ item :: after →
      (∀ earlier ∈ before, ∀ c ∈ s.itemConditions actor.id form earlier, c.holds) →
      Number.fits64 item.wasteCategory = true → ¬s.Available item.wasteCategory →
      next = service.world ∧ reply = .ok (.detail 400
        ("Waste category " ++ toString item.wasteCategory ++ " is not available"))) := by
  intro s conditions next reply limited
  have answers : AnswersTo conditions (s.create now actor.id form) :=
    s.createItems_answers now actor.id form form.items
  have hserve : service.serve token now r = _ := Service.serve_eq_runLimited token now asks nofun
  rw [Service.runLimited, Command.run_createBookings] at hserve
  refine ⟨fun hlimited => ?limited, fun unlimited hold => ?booked, fun unlimited fail => ?refused,
    fun unlimited before item after hitems hearlier fits unavailable => ?unavailable⟩
  case limited =>
    rw [if_pos hlimited] at hserve
    exact ⟨congrArg (·.1.world) hserve, congrArg Prod.snd hserve⟩
  case booked =>
    obtain ⟨⟨t, made⟩, hcreate⟩ := answers.ok_iff.2 hold
    rw [if_neg unlimited, hcreate, Store.createItems_store hcreate] at hserve
    refine ⟨made, Store.createItems_areMadeOf asks.isNaN_position hcreate,
      congrArg (·.1.world) hserve, (congrArg Prod.snd hserve).trans ?_⟩
    show Except.ok _ = _
    rw [Answer.toJson, List.map_map]
    rfl
  case refused =>
    cases hcreate : s.create now actor.id form with
    | ok result => exact absurd (answers.ok_iff.1 ⟨result, hcreate⟩) fail
    | error refusal =>
      obtain ⟨hnext, hreply⟩ := Service.serve_of_not_created asks unlimited hcreate token
      exact ⟨hnext, refusal, answers.error_iff.1 hcreate, hreply⟩
  case unavailable =>
    have hfirst := Store.failsFirst_of_unavailable hitems hearlier fits unavailable
    exact Service.serve_of_not_created asks unlimited (answers.error_iff.2 hfirst) token

/-- The form for two and a half kilograms of each of some kinds of waste. -/
def BookingForm.ofKinds (kinds : List Int) : BookingForm where
  items := kinds.map fun category => ⟨category, 2.5⟩
  addressLine1 := "12 Galle Road"
  city := "Colombo"
  postalCode := "00300"
  phone := "+94771234567"
  specialInstructions := none
  scheduledDate := ⟨2026, 11, 2⟩
  scheduledTimeSlot := "09:00-12:00"
  lat := none
  lng := none

/-- The request of a customer for it. -/
def Request.ofKinds (customer : String) (kinds : List Int) : Request :=
  ⟨"POST", "/api/v1/bookings", [("X-Actor-Id", customer), ("X-Actor-Role", "CUSTOMER")],
    .value (.obj (Form.write (BookingForm.ofKinds kinds)))⟩

/-- A service that picks up two kinds of waste, and a third one no more. -/
def Service.ofKinds : Service :=
  ⟨⟨{ Store.single ⟨"CREATED", none, 1, none, none, none, none⟩ with
      categories := ⟨[⟨1, true⟩, ⟨2, true⟩, ⟨4, false⟩]⟩
      pricing := ⟨[⟨1, 1, 40.0, 60.0, true, ⟨0⟩⟩]⟩ }, .empty⟩, []⟩

/-- The request for items of some kinds asks for their bookings. -/
theorem Request.asks_ofKinds {customer : String} {id : Int} (kinds : List Int)
    (caller : Service.readActor [("X-Actor-Id", customer), ("X-Actor-Role", "CUSTOMER")] =
      .ok ⟨id, .customer⟩)
    (read : Form.read .bodyObjectType (Form.write (BookingForm.ofKinds kinds)) =
      .ok (BookingForm.ofKinds kinds)) :
    (Request.ofKinds customer kinds).Asks ⟨id, .customer⟩ (.createBookings (.ofKinds kinds)) := by
  have leads : Service.route "POST" (Target.ofText "/api/v1/bookings").segments =
      .endpoint .createBookings "" := by decide +kernel
  have hbody : Endpoint.inBody BookingForm (Request.ofKinds customer kinds).body =
      .ok (.ofKinds kinds) := Checked.under_eq_ok_iff.2 read
  exact .intro leads caller (List.mem_singleton.2 rfl) (Checked.map_eq_ok_iff.2 ⟨_, hbody, rfl⟩)

/-- Two kinds of waste are booked together; where one of them is not picked up any more, neither is.
-/
theorem two_kinds_are_booked_together :
    let service := Service.ofKinds
    let both := service.serve ⟨1⟩ ⟨1⟩ (.ofKinds "2" [1, 2])
    let retired := service.serve ⟨1⟩ ⟨1⟩ (.ofKinds "2" [1, 4])
    (∃ made, made.length = 2 ∧
      both.1.world.store.bookings.rows = service.world.store.bookings.rows ++ made) ∧
    retired.1.world = service.world ∧
      retired.2 = .ok (.detail 400 "Waste category 4 is not available") := by
  intro service both retired
  have caller : Service.readActor [("X-Actor-Id", "2"), ("X-Actor-Role", "CUSTOMER")] =
      .ok ⟨2, .customer⟩ := by decide +kernel
  have asks := Request.asks_ofKinds [1, 2] caller (by decide +kernel)
  have asks' := Request.asks_ofKinds [1, 4] caller (by decide +kernel)
  have unlimited : ¬Service.limit ≤ service.servedAt (Target.ofText "/api/v1/bookings").path := by
    decide +kernel
  have proper : ∀ {kinds}, ∀ text ∈ (BookingForm.ofKinds kinds).specialInstructions,
      ∃ proper, text = .proper proper := fun _ h => by cases h
  have first : ∀ second, ∀ c ∈ service.world.store.itemConditions 2 (.ofKinds [1, second])
      ⟨1, 2.5⟩, c.holds :=
    fun _ => Store.itemConditions_hold_iff.2 ⟨by decide, ⟨⟨1, true⟩, rfl, rfl⟩, by decide, proper⟩
  constructor
  · have hall : ∀ c ∈ service.world.store.bookingConditions 2 (.ofKinds [1, 2]), c.holds := by
      intro c hc
      obtain ⟨item, hitem, hc⟩ := List.mem_flatMap.1 hc
      rcases List.mem_cons.1 hitem with rfl | hitem
      · exact first 2 c hc
      · obtain rfl := List.mem_singleton.1 hitem
        exact Store.itemConditions_hold_iff.2
          ⟨by decide, ⟨⟨2, true⟩, rfl, rfl⟩, by decide, proper⟩ c hc
    obtain ⟨made, hmade, hnext, -⟩ :=
      (all_items_are_booked_or_none service asks ⟨1⟩ ⟨1⟩).2.1 unlimited hall
    exact ⟨made, hmade.items.length_eq.symm, congrArg (·.store.bookings.rows) hnext⟩
  · refine (all_items_are_booked_or_none service asks' ⟨1⟩ ⟨1⟩).2.2.2 unlimited
      [⟨1, 2.5⟩] ⟨4, 2.5⟩ [] rfl ?_ (by decide) ?_
    · intro earlier hearlier
      rw [List.mem_singleton.1 hearlier]
      exact first 4
    · rintro ⟨c, hc, hactive⟩
      cases hc
      cases hactive

/-- A category under a number beyond the store is not refused as unavailable, and a customer under
such a number gets no bookings although the categories are available: both requests break down. -/
theorem booking_with_large_number_breaks_down :
    let service := Service.ofKinds
    let s := service.world.store
    let large : Int := 9223372036854775808
    let ofLargeKind := service.serve ⟨1⟩ ⟨1⟩ (.ofKinds "2" [large, 1])
    let ofLargeCustomer := service.serve ⟨1⟩ ⟨1⟩ (.ofKinds "9223372036854775808" [1, 2])
    (¬s.Available large ∧ ofLargeKind.2 = .error .numberTooLarge) ∧
      (s.Available 1 ∧ s.Available 2) ∧ ofLargeCustomer.1.world = service.world ∧
      ofLargeCustomer.2 = .error .numberTooLarge := by
  intro service s large ofLargeKind ofLargeCustomer
  have unlimited : ¬Service.limit ≤ service.servedAt (Target.ofText "/api/v1/bookings").path := by
    decide +kernel
  have caller : Service.readActor [("X-Actor-Id", "2"), ("X-Actor-Role", "CUSTOMER")] =
      .ok ⟨2, .customer⟩ := by decide +kernel
  have largeCaller : Service.readActor [("X-Actor-Id", "9223372036854775808"),
      ("X-Actor-Role", "CUSTOMER")] = .ok ⟨large, .customer⟩ := by decide +kernel
  have asks := Request.asks_ofKinds [large, 1] caller (by decide +kernel)
  have largeAsks := Request.asks_ofKinds [1, 2] largeCaller (by decide +kernel)
  have hkind : s.create ⟨1⟩ 2 (.ofKinds [large, 1]) = .error (.broken .numberTooLarge) := by
    decide +kernel
  have hcustomer : s.create ⟨1⟩ large (.ofKinds [1, 2]) = .error (.broken .numberTooLarge) := by
    decide +kernel
  refine ⟨⟨?_, (Service.serve_of_not_created asks unlimited hkind ⟨1⟩).2⟩,
    ⟨⟨⟨1, true⟩, rfl, rfl⟩, ⟨⟨2, true⟩, rfl, rfl⟩⟩,
    Service.serve_of_not_created largeAsks unlimited hcustomer ⟨1⟩⟩
  rintro ⟨c, hc, -⟩
  cases hc

end WastePickup
