import WastePickup.Form.Customer
import WastePickup.Number.Digits
import WastePickup.Store.Lookup

/-!
# Creating bookings

A customer's request becomes one booking for every item, in the order of the items. Every category
has to exist and to be active; the first one that is not refuses the whole request. The estimate is
the category's band times the quantity, and zero for a category without a band.

* `createItems_cons`: the bookings of a request are the booking of its first item, followed by those
  of the rest in the store that the first one leaves.
* `createItems_store`: what was made is added at the end of the bookings, and nothing else changes.
-/

namespace WastePickup

/-- A quantity as it is shown on the booking. -/
def weightText (quantity : Float) : String :=
  Number.compactText quantity ++ " kg"

namespace Store

/-- What a quantity of a category is worth at the least and at the most. -/
def estimate (s : Store) (category : Int) (quantity : Float) : Float × Float :=
  match s.band? category with
  | none => (0.0, 0.0)
  | some band => band.estimate quantity

/-- The pickup of one item. -/
def pickupOf (s : Store) (now : Instant) (user : Int) (form : BookingForm) (item : ItemForm) :
    Pickup :=
  let (low, high) := s.estimate item.wasteCategory item.quantity
  { user
    estimatedWeight := some (weightText item.quantity)
    estimatedMin := storedFloat low
    estimatedMax := storedFloat high
    addressLine1 := form.addressLine1
    city := form.city
    postalCode := form.postalCode
    phone := some form.phone
    specialInstructions := form.specialInstructions.bind Json.Text.string?
    scheduledDate := form.scheduledDate
    scheduledTimeSlot := form.scheduledTimeSlot
    lat := storedFloat? form.lat
    lng := storedFloat? form.lng
    createdAt := now }

/-- A booking that nothing has been done to yet. -/
def freshProgress (category : Int) : Progress :=
  ⟨Status.created.name, none, category, none, none, none, none⟩

/-- The booking of one item, under the next free number. -/
def bookingOf (s : Store) (now : Instant) (user : Int) (form : BookingForm) (item : ItemForm) :
    Booking :=
  ⟨s.bookings.nextId, s.pickupOf now user form item, freshProgress item.wasteCategory, now⟩

/-- A category that is booked has to exist and to be active. -/
def requireAvailable (s : Store) (category : Int) : Except Refusal Unit :=
  match s.categories.lookUp category with
  | .error refusal => .error refusal
  | .ok found =>
    if found.any WasteCategory.isActive then .ok () else .error (.categoryUnavailable category)

/-- Instructions that are no string cannot be stored. -/
def requireStorable (form : BookingForm) : Except Refusal Unit :=
  match form.specialInstructions with
  | some (.broken _) => .error (.broken .textNotEncodable)
  | _ => .ok ()

/-- What has to hold before an item is booked for a user. -/
def requireBookable (s : Store) (user : Int) (form : BookingForm) (item : ItemForm) :
    Except Refusal Unit := do
  s.requireAvailable item.wasteCategory
  requireFits user
  requireStorable form

/-- Book the items one after the other. -/
def createItems (s : Store) (now : Instant) (user : Int) (form : BookingForm) :
    List ItemForm → Except Refusal (Store × List Booking)
  | [] => .ok (s, [])
  | item :: rest =>
    match s.requireBookable user form item with
    | .error refusal => .error refusal
    | .ok () =>
      let b := s.bookingOf now user form item
      match createItems { s with bookings := s.bookings.append b } now user form rest with
      | .error refusal => .error refusal
      | .ok (stored, others) => .ok (stored, b :: others)

/-- Book all items of a request, or none. -/
def create (s : Store) (now : Instant) (user : Int) (form : BookingForm) :
    Except Refusal (Store × List Booking) :=
  s.createItems now user form form.items

/-- Booking the items of a request one after the other, as one chain of steps. -/
theorem createItems_eq_bind (s : Store) (now : Instant) (user : Int) (form : BookingForm)
    (item : ItemForm) (rest : List ItemForm) :
    s.createItems now user form (item :: rest) =
      s.requireBookable user form item >>= fun _ =>
        (({ s with bookings := s.bookings.append (s.bookingOf now user form item) } :
          Store).createItems now user form rest).map
            (Prod.map id (s.bookingOf now user form item :: ·)) := by
  rw [createItems]
  cases s.requireBookable user form item with
  | error refusal => rfl
  | ok bookable =>
    simp only [bind, Except.bind]
    split
    · rename_i refusal h
      rw [h]
      rfl
    · rename_i stored others h
      rw [h]
      rfl

/-- The bookings of a request are the booking of its first item, followed by those of the rest. -/
theorem createItems_cons {s : Store} {now : Instant} {user : Int} {form : BookingForm}
    {item : ItemForm} {rest : List ItemForm} {stored : Store} {made : List Booking} :
    s.createItems now user form (item :: rest) = .ok (stored, made) ↔
      s.requireBookable user form item = .ok () ∧
        ∃ others, made = s.bookingOf now user form item :: others ∧
          ({ s with bookings := s.bookings.append (s.bookingOf now user form item) } :
            Store).createItems now user form rest = .ok (stored, others) := by
  simp only [createItems]
  split
  · rename_i refusal h
    simp [h]
  · rename_i h
    split
    · rename_i refusal he
      simp [he]
    · rename_i stored' others he
      simp only [he, Except.ok.injEq, Prod.mk.injEq, h, true_and]
      constructor
      · rintro ⟨rfl, rfl⟩
        exact ⟨others, rfl, rfl, rfl⟩
      · rintro ⟨others', rfl, rfl, rfl⟩
        exact ⟨rfl, rfl⟩

/-- What was made is added at the end of the bookings, and nothing else changes. -/
theorem createItems_store {s : Store} {now : Instant} {user : Int} {form : BookingForm}
    {items : List ItemForm} {stored : Store} {made : List Booking}
    (h : s.createItems now user form items = .ok (stored, made)) :
    stored = { s with bookings := ⟨s.bookings.rows ++ made⟩ } := by
  induction items generalizing s made with
  | nil =>
    simp only [createItems, Except.ok.injEq, Prod.mk.injEq] at h
    obtain ⟨rfl, rfl⟩ := h
    simp
  | cons item rest ih =>
    obtain ⟨-, others, rfl, hrest⟩ := createItems_cons.1 h
    rw [ih hrest]
    simp [Table.append]

/-- A booking that was made has been asked for by the user, and nothing has been done to it. -/
theorem createItems_made {s : Store} {now : Instant} {user : Int} {form : BookingForm}
    {items : List ItemForm} {stored : Store} {made : List Booking}
    (h : s.createItems now user form items = .ok (stored, made)) :
    ∀ b ∈ made, b.pickup.user = user ∧ ∃ category, b.progress = freshProgress category := by
  induction items generalizing s made with
  | nil =>
    simp only [createItems, Except.ok.injEq, Prod.mk.injEq] at h
    obtain ⟨-, rfl⟩ := h
    simp
  | cons item rest ih =>
    obtain ⟨-, others, rfl, hrest⟩ := createItems_cons.1 h
    intro b hb
    rcases List.mem_cons.1 hb with rfl | hb
    · exact ⟨rfl, item.wasteCategory, rfl⟩
    · exact ih hrest b hb

end Store

end WastePickup
