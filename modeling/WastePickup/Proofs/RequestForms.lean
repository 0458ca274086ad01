import WastePickup.Form.Admin
import WastePickup.Form.Customer
import WastePickup.Form.Driver
import WastePickup.Number.Order
import WastePickup.Proofs.ReadBack

/-!
# The forms of requests are read back

Every form of a request has its bounds, written out here form by form. What a form gives is within
them, and is read back from what it is written as (`Form.ReadsBack`). For most forms this is only
that it holds of every field. A price band has a rule between two fields besides: two prices that
are numbers and are not in the wrong order are in order, and then the rule passes once more.

* `BookingForm.IsWithinBounds` and so on: the bounds of the forms.
* `BookingForm.readsBack` and so on: each form with its bounds.
* `RequestForm`: the forms, to say something of all of them.
* `form_is_read_back`: every form gives values within its bounds, and gives them again.
-/

namespace WastePickup

/-! ## Reading a form back -/

/-- A form gives only values within bounds, and gives each of them from what it is written as. -/
structure Form.ReadsBack (α : Type) [Form α] (Within : α → Prop) : Prop where
  within {notObject : Fault} {o : Json.Object} {a : α} (h : Form.read notObject o = .ok a) :
    Within a
  again {a : α} (h : Within a) (notObject : Fault) : Form.read notObject (Form.write a) = .ok a

/-- As a value, a form is read back too. -/
theorem Form.ReadsBack.kind {α : Type} [Form α] {Within : α → Prop} (h : Form.ReadsBack α Within)
    (notObject : Fault) : (Form.kind α notObject).ReadsBack Within where
  within {j a} hread := by
    cases j with
    | obj o => exact h.within hread
    | _ => cases hread
  again hwithin := h.again hwithin notObject

variable {notObject : Fault} {o : Json.Object}

/-! ## The forms of a customer -/

/-- The bounds of an item. -/
structure ItemForm.IsWithinBounds (f : ItemForm) : Prop where
  quantity : 0.1 ≤ f.quantity

namespace ItemForm

/-- An item is read if its two fields are. -/
theorem read_eq_ok_iff {f : ItemForm} : Form.read notObject o = .ok f ↔
    wasteCategoryField.read o = .ok f.wasteCategory ∧ quantityField.read o = .ok f.quantity := by
  constructor
  · intro h
    obtain ⟨category, quantity, hcategory, hquantity, rfl⟩ := Checked.map_seq_eq_ok_iff.1 h
    exact ⟨hcategory, hquantity⟩
  · rintro ⟨hcategory, hquantity⟩
    exact Checked.map_seq_eq_ok_iff.2 ⟨_, _, hcategory, hquantity, rfl⟩

/-- An item reads back as it is written. -/
theorem readsBack : Form.ReadsBack ItemForm IsWithinBounds := by
  have category : wasteCategoryField.ReadsBack _ := Field.readsBack_required _ Kind.readsBack_whole
  have quantity : quantityField.ReadsBack _ :=
    Field.readsBack_required _ (Kind.readsBack_decimal _)
  constructor
  · intro notObject o f h
    obtain ⟨-, hquantity⟩ := read_eq_ok_iff.1 h
    exact ⟨quantity.within hquantity⟩
  · intro f h notObject
    exact read_eq_ok_iff.2 ⟨category.again trivial rfl, quantity.again h.quantity rfl⟩

end ItemForm

/-- The bounds of a request for a pickup. -/
structure BookingForm.IsWithinBounds (f : BookingForm) : Prop where
  items : f.items ≠ [] ∧ ∀ item ∈ f.items, item.IsWithinBounds
  addressLine1 : 1 ≤ f.addressLine1.length ∧ f.addressLine1.length ≤ 255
  city : 1 ≤ f.city.length ∧ f.city.length ≤ 120
  postalCode : 1 ≤ f.postalCode.length ∧ f.postalCode.length ≤ 20
  phone : 1 ≤ f.phone.length ∧ f.phone.length ≤ 32
  scheduledDate : f.scheduledDate.isValid = true
  scheduledTimeSlot : 1 ≤ f.scheduledTimeSlot.length ∧ f.scheduledTimeSlot.length ≤ 40
  lat : ∀ x ∈ f.lat, -90.0 ≤ x ∧ x ≤ 90.0
  lng : ∀ x ∈ f.lng, -180.0 ≤ x ∧ x ≤ 180.0

namespace BookingForm

/-- The form of a booking is read if its ten fields are. -/
theorem read_eq_ok_iff {f : BookingForm} : Form.read notObject o = .ok f ↔
    (itemsField notObject).read o = .ok f.items ∧
      addressLine1Field.read o = .ok f.addressLine1 ∧ cityField.read o = .ok f.city ∧
      postalCodeField.read o = .ok f.postalCode ∧ phoneField.read o = .ok f.phone ∧
      specialInstructionsField.read o = .ok f.specialInstructions ∧
      scheduledDateField.read o = .ok f.scheduledDate ∧
      scheduledTimeSlotField.read o = .ok f.scheduledTimeSlot ∧ latField.read o = .ok f.lat ∧
      lngField.read o = .ok f.lng := by
  constructor
  · intro h
    obtain ⟨f₁, lng, h₁, hlng, rfl⟩ := Checked.seq_eq_ok_iff.1 h
    obtain ⟨f₂, lat, h₂, hlat, rfl⟩ := Checked.seq_eq_ok_iff.1 h₁
    obtain ⟨f₃, slot, h₃, hslot, rfl⟩ := Checked.seq_eq_ok_iff.1 h₂
    obtain ⟨f₄, date, h₄, hdate, rfl⟩ := Checked.seq_eq_ok_iff.1 h₃
    obtain ⟨f₅, instructions, h₅, hinstructions, rfl⟩ := Checked.seq_eq_ok_iff.1 h₄
    obtain ⟨f₆, phone, h₆, hphone, rfl⟩ := Checked.seq_eq_ok_iff.1 h₅
    obtain ⟨f₇, postalCode, h₇, hpostalCode, rfl⟩ := Checked.seq_eq_ok_iff.1 h₆
    obtain ⟨f₈, city, h₈, hcity, rfl⟩ := Checked.seq_eq_ok_iff.1 h₇
    obtain ⟨items, address, hitems, haddress, rfl⟩ := Checked.map_seq_eq_ok_iff.1 h₈
    exact ⟨hitems, haddress, hcity, hpostalCode, hphone, hinstructions, hdate, hslot, hlat, hlng⟩
  · rintro ⟨hitems, haddress, hcity, hpostalCode, hphone, hinstructions, hdate, hslot, hlat, hlng⟩
    simp only [Form.read, hitems, haddress, hcity, hpostalCode, hphone, hinstructions, hdate,
      hslot, hlat, hlng]
    rfl

/-- The form of a booking reads back as it is written. -/
theorem readsBack : Form.ReadsBack BookingForm IsWithinBounds := by
  have items (notObject : Fault) : (itemsField notObject).ReadsBack _ :=
    Field.readsBack_required _ (ItemForm.readsBack.kind notObject).listOf
  have address : addressLine1Field.ReadsBack _ :=
    Field.readsBack_required _ (Kind.readsBack_text 1 255)
  have city : cityField.ReadsBack _ := Field.readsBack_required _ (Kind.readsBack_text 1 120)
  have postalCode : postalCodeField.ReadsBack _ :=
    Field.readsBack_required _ (Kind.readsBack_text 1 20)
  have phone : phoneField.ReadsBack _ := Field.readsBack_required _ (Kind.readsBack_text 1 32)
  have instructions : specialInstructionsField.ReadsBack _ :=
    Field.readsBack_optional _ Kind.readsBack_anyText nofun
  have date : scheduledDateField.ReadsBack _ := Field.readsBack_required _ Kind.readsBack_date
  have slot : scheduledTimeSlotField.ReadsBack _ :=
    Field.readsBack_required _ (Kind.readsBack_text 1 40)
  have lat : latField.ReadsBack _ :=
    Field.readsBack_optional _ (Kind.readsBack_between (-90.0) 90.0) nofun
  have lng : lngField.ReadsBack _ :=
    Field.readsBack_optional _ (Kind.readsBack_between (-180.0) 180.0) nofun
  constructor
  · intro notObject o f h
    obtain ⟨hitems, haddress, hcity, hpostalCode, hphone, -, hdate, hslot, hlat, hlng⟩ :=
      read_eq_ok_iff.1 h
    exact ⟨(items notObject).within hitems, address.within haddress, city.within hcity,
      postalCode.within hpostalCode, phone.within hphone, date.within hdate, slot.within hslot,
      lat.within hlat, lng.within hlng⟩
  · intro f h notObject
    exact read_eq_ok_iff.2 ⟨(items notObject).again h.items rfl, address.again h.addressLine1 rfl,
      city.again h.city rfl, postalCode.again h.postalCode rfl, phone.again h.phone rfl,
      instructions.again (fun _ _ => trivial) rfl, date.again h.scheduledDate rfl,
      slot.again h.scheduledTimeSlot rfl, lat.again h.lat rfl, lng.again h.lng rfl⟩

end BookingForm

/-! ## The forms of a driver -/

/-- The bounds of a collection. -/
structure CollectForm.IsWithinBounds (f : CollectForm) : Prop where
  weight : 0.01 ≤ f.weight

namespace CollectForm

/-- The form of a collection is read if its two fields are. -/
theorem read_eq_ok_iff {f : CollectForm} : Form.read notObject o = .ok f ↔
    weightField.read o = .ok f.weight ∧ wasteCategoryField.read o = .ok f.wasteCategory := by
  constructor
  · intro h
    obtain ⟨weight, category, hweight, hcategory, rfl⟩ := Checked.map_seq_eq_ok_iff.1 h
    exact ⟨hweight, hcategory⟩
  · rintro ⟨hweight, hcategory⟩
    exact Checked.map_seq_eq_ok_iff.2 ⟨_, _, hweight, hcategory, rfl⟩

/-- The form of a collection reads back as it is written. -/
theorem readsBack : Form.ReadsBack CollectForm IsWithinBounds := by
  have weight : weightField.ReadsBack _ := Field.readsBack_required _ (Kind.readsBack_decimal _)
  have category : wasteCategoryField.ReadsBack _ :=
    Field.readsBack_optional _ Kind.readsBack_whole nofun
  constructor
  · intro notObject o f h
    exact ⟨weight.within (read_eq_ok_iff.1 h).1⟩
  · intro f h notObject
    exact read_eq_ok_iff.2 ⟨weight.again h.weight rfl, category.again (fun _ _ => trivial) rfl⟩

end CollectForm

/-- The bounds of a change by a driver. -/
structure DriverForm.IsWithinBounds (f : DriverForm) : Prop where
  weight : ∀ x ∈ f.weight, 0.0 ≤ x
  amount : ∀ x ∈ f.amount, 0.0 ≤ x

namespace DriverForm

/-- The form of a driver is read if its four fields are. -/
theorem read_eq_ok_iff {f : DriverForm} : Form.read notObject o = .ok f ↔
    statusField.read o = .ok f.status ∧ wasteCategoryField.read o = .ok f.wasteCategory ∧
      weightField.read o = .ok f.weight ∧ amountField.read o = .ok f.amount := by
  constructor
  · intro h
    obtain ⟨f₁, amount, h₁, hamount, rfl⟩ := Checked.seq_eq_ok_iff.1 h
    obtain ⟨f₂, weight, h₂, hweight, rfl⟩ := Checked.seq_eq_ok_iff.1 h₁
    obtain ⟨status, category, hstatus, hcategory, rfl⟩ := Checked.map_seq_eq_ok_iff.1 h₂
    exact ⟨hstatus, hcategory, hweight, hamount⟩
  · rintro ⟨hstatus, hcategory, hweight, hamount⟩
    simp only [Form.read, hstatus, hcategory, hweight, hamount]
    rfl

/-- The form of a driver reads back as it is written. -/
theorem readsBack : Form.ReadsBack DriverForm IsWithinBounds := by
  have status : statusField.ReadsBack _ :=
    Field.readsBack_optional _ (Kind.readsBack_choice StoredStatus) nofun
  have category : wasteCategoryField.ReadsBack _ :=
    Field.readsBack_optional _ Kind.readsBack_whole nofun
  have weight : weightField.ReadsBack _ :=
    Field.readsBack_optional _ (Kind.readsBack_decimal _) nofun
  have amount : amountField.ReadsBack _ :=
    Field.readsBack_optional _ (Kind.readsBack_decimal _) nofun
  constructor
  · intro notObject o f h
    obtain ⟨-, -, hweight, hamount⟩ := read_eq_ok_iff.1 h
    exact ⟨weight.within hweight, amount.within hamount⟩
  · intro f h notObject
    exact read_eq_ok_iff.2 ⟨status.again (fun _ _ => trivial) rfl,
      category.again (fun _ _ => trivial) rfl, weight.again h.weight rfl,
      amount.again h.amount rfl⟩

end DriverForm

/-- An availability has no bounds. -/
theorem AvailabilityForm.readsBack : Form.ReadsBack AvailabilityForm fun _ => True := by
  have status : statusField.ReadsBack _ :=
    Field.readsBack_required _ (Kind.readsBack_choice Availability)
  exact ⟨fun _ => trivial, fun _ _ => Checked.map_eq_ok_iff.2 ⟨_, status.again trivial rfl, rfl⟩⟩

/-! ## The forms of an admin -/

/-- Neither has an assignment. -/
theorem AssignForm.readsBack : Form.ReadsBack AssignForm fun _ => True := by
  have driver : driverField.ReadsBack _ := Field.readsBack_required _ Kind.readsBack_whole
  exact ⟨fun _ => trivial, fun _ _ => Checked.map_eq_ok_iff.2 ⟨_, driver.again trivial rfl, rfl⟩⟩

/-- The bounds of a settlement. -/
structure SettleForm.IsWithinBounds (f : SettleForm) : Prop where
  weight : ∀ x ∈ f.weight, 0.0 ≤ x
  amount : ∀ x ∈ f.amount, 0.0 ≤ x

namespace SettleForm

/-- The form of a completion is read if its two fields are. -/
theorem read_eq_ok_iff {f : SettleForm} : Form.read notObject o = .ok f ↔
    weightField.read o = .ok f.weight ∧ amountField.read o = .ok f.amount := by
  constructor
  · intro h
    obtain ⟨weight, amount, hweight, hamount, rfl⟩ := Checked.map_seq_eq_ok_iff.1 h
    exact ⟨hweight, hamount⟩
  · rintro ⟨hweight, hamount⟩
    exact Checked.map_seq_eq_ok_iff.2 ⟨_, _, hweight, hamount, rfl⟩

/-- The form of a completion reads back as it is written. -/
theorem readsBack : Form.ReadsBack SettleForm IsWithinBounds := by
  have weight : weightField.ReadsBack _ :=
    Field.readsBack_optional _ (Kind.readsBack_decimal _) nofun
  have amount : amountField.ReadsBack _ :=
    Field.readsBack_optional _ (Kind.readsBack_decimal _) nofun
  constructor
  · intro notObject o f h
    obtain ⟨hweight, hamount⟩ := read_eq_ok_iff.1 h
    exact ⟨weight.within hweight, amount.within hamount⟩
  · intro f h notObject
    exact read_eq_ok_iff.2 ⟨weight.again h.weight rfl, amount.again h.amount rfl⟩

end SettleForm

/-- The bounds of a cancellation. -/
structure CancelForm.IsWithinBounds (f : CancelForm) : Prop where
  reason : ∀ s ∈ f.reason, s.length ≤ 240

/-- The form of a cancellation reads back as it is written. -/
theorem CancelForm.readsBack : Form.ReadsBack CancelForm IsWithinBounds := by
  have reason : reasonField.ReadsBack _ :=
    Field.readsBack_optional _ (Kind.readsBack_text 0 240) nofun
  constructor
  · intro notObject o f h
    obtain ⟨r, hreason, rfl⟩ := Checked.map_eq_ok_iff.1 h
    exact ⟨fun s hs => (reason.within hreason s hs).2⟩
  · intro f h notObject
    have hwithin : ∀ s ∈ f.reason, 0 ≤ s.length ∧ s.length ≤ 240 :=
      fun s hs => ⟨Nat.zero_le _, h.reason s hs⟩
    exact Checked.map_eq_ok_iff.2 ⟨_, reason.again hwithin rfl, rfl⟩

/-- The bounds of a change by an admin. -/
structure AdminForm.IsWithinBounds (f : AdminForm) : Prop where
  weight : ∀ x ∈ f.weight, 0.0 ≤ x
  amount : ∀ x ∈ f.amount, 0.0 ≤ x

namespace AdminForm

/-- The form of an admin is read if its four fields are. -/
theorem read_eq_ok_iff {f : AdminForm} : Form.read notObject o = .ok f ↔
    statusField.read o = .ok f.status ∧ driverField.read o = .ok f.driver ∧
      weightField.read o = .ok f.weight ∧ amountField.read o = .ok f.amount := by
  constructor
  · intro h
    obtain ⟨f₁, amount, h₁, hamount, rfl⟩ := Checked.seq_eq_ok_iff.1 h
    obtain ⟨f₂, weight, h₂, hweight, rfl⟩ := Checked.seq_eq_ok_iff.1 h₁
    obtain ⟨status, driver, hstatus, hdriver, rfl⟩ := Checked.map_seq_eq_ok_iff.1 h₂
    exact ⟨hstatus, hdriver, hweight, hamount⟩
  · rintro ⟨hstatus, hdriver, hweight, hamount⟩
    simp only [Form.read, hstatus, hdriver, hweight, hamount]
    rfl

/-- The form of an admin reads back as it is written. -/
theorem readsBack : Form.ReadsBack AdminForm IsWithinBounds := by
  have status : statusField.ReadsBack _ :=
    Field.readsBack_optional _ (Kind.readsBack_choice StoredStatus) nofun
  have driver : driverField.ReadsBack _ :=
    Field.readsBack_optional _ Kind.readsBack_whole nofun
  have weight : weightField.ReadsBack _ :=
    Field.readsBack_optional _ (Kind.readsBack_decimal _) nofun
  have amount : amountField.ReadsBack _ :=
    Field.readsBack_optional _ (Kind.readsBack_decimal _) nofun
  constructor
  · intro notObject o f h
    obtain ⟨-, -, hweight, hamount⟩ := read_eq_ok_iff.1 h
    exact ⟨weight.within hweight, amount.within hamount⟩
  · intro f h notObject
    exact read_eq_ok_iff.2 ⟨status.again (fun _ _ => trivial) rfl,
      driver.again (fun _ _ => trivial) rfl, weight.again h.weight rfl,
      amount.again h.amount rfl⟩

end AdminForm

/-- The bounds of a price band. -/
structure PricingForm.IsWithinBounds (f : PricingForm) : Prop where
  min : 0.0 ≤ f.min
  max : 0.0 ≤ f.max
  inOrder : f.min ≤ f.max

namespace PricingForm

/-- The fields of the form of a band are read one by one. -/
theorem readFields_eq_ok_iff {f : PricingForm} : readFields o = .ok f ↔
    minField.read o = .ok f.min ∧ maxField.read o = .ok f.max ∧
      isActiveField.read o = .ok f.isActive := by
  constructor
  · intro h
    obtain ⟨f₁, isActive, h₁, hisActive, rfl⟩ := Checked.seq_eq_ok_iff.1 h
    obtain ⟨min, max, hmin, hmax, rfl⟩ := Checked.map_seq_eq_ok_iff.1 h₁
    exact ⟨hmin, hmax, hisActive⟩
  · rintro ⟨hmin, hmax, hisActive⟩
    simp only [readFields, hmin, hmax, hisActive]
    rfl

/-- The rule passes what is not in the wrong order. -/
theorem inOrder_eq_ok_iff {f g : PricingForm} : inOrder f = .ok g ↔ f = g ∧ ¬f.max < f.min := by
  unfold inOrder
  split
  · rename_i reversed
    exact iff_of_false nofun fun h => h.2 reversed
  · rename_i reversed
    simp [reversed]

/-- The form of a band reads back as it is written. -/
theorem readsBack : Form.ReadsBack PricingForm IsWithinBounds := by
  have min : minField.ReadsBack _ := Field.readsBack_required _ (Kind.readsBack_decimal _)
  have max : maxField.ReadsBack _ := Field.readsBack_required _ (Kind.readsBack_decimal _)
  have isActive : isActiveField.ReadsBack _ :=
    Field.readsBack Kind.readsBack_flag fun _ _ => trivial
  constructor
  · intro notObject o f h
    obtain ⟨g, hfields, hinOrder⟩ := Checked.andThen_eq_ok_iff.1 h
    obtain ⟨rfl, reversed⟩ := inOrder_eq_ok_iff.1 hinOrder
    obtain ⟨hmin, hmax, -⟩ := readFields_eq_ok_iff.1 hfields
    have hmin := min.within hmin
    have hmax := max.within hmax
    exact ⟨hmin, hmax,
      Number.le_of_not_lt (Number.isNaN_of_le hmin) (Number.isNaN_of_le hmax) reversed⟩
  · intro f h notObject
    refine Checked.andThen_eq_ok_iff.2 ⟨f, readFields_eq_ok_iff.2 ?_, inOrder_eq_ok_iff.2 ?_⟩
    · exact ⟨min.again h.min rfl, max.again h.max rfl, isActive.again trivial rfl⟩
    · exact ⟨rfl, Number.not_lt_of_le h.inOrder⟩

end PricingForm

/-! ## All forms -/

/-- The forms of requests. -/
inductive RequestForm where
  | item
  | booking
  | collect
  | driverUpdate
  | availability
  | assign
  | settle
  | cancel
  | adminUpdate
  | pricing
  deriving DecidableEq

namespace RequestForm

/-- What is given by a form. -/
abbrev Value : RequestForm → Type
  | item => ItemForm
  | booking => BookingForm
  | collect => CollectForm
  | driverUpdate => DriverForm
  | availability => AvailabilityForm
  | assign => AssignForm
  | settle => SettleForm
  | cancel => CancelForm
  | adminUpdate => AdminForm
  | pricing => PricingForm

instance (form : RequestForm) : Form form.Value :=
  match form with
  | item => (inferInstance : Form ItemForm)
  | booking => (inferInstance : Form BookingForm)
  | collect => (inferInstance : Form CollectForm)
  | driverUpdate => (inferInstance : Form DriverForm)
  | availability => (inferInstance : Form AvailabilityForm)
  | assign => (inferInstance : Form AssignForm)
  | settle => (inferInstance : Form SettleForm)
  | cancel => (inferInstance : Form CancelForm)
  | adminUpdate => (inferInstance : Form AdminForm)
  | pricing => (inferInstance : Form PricingForm)

/-- A form as the kind of a value. -/
def kind (form : RequestForm) (notObject : Fault) : Kind form.Value :=
  Form.kind form.Value notObject

/-- The bounds of a form. An availability and an assignment have none. -/
def IsWithinBounds : (form : RequestForm) → form.Value → Prop
  | item => ItemForm.IsWithinBounds
  | booking => BookingForm.IsWithinBounds
  | collect => CollectForm.IsWithinBounds
  | driverUpdate => DriverForm.IsWithinBounds
  | availability => fun _ => True
  | assign => fun _ => True
  | settle => SettleForm.IsWithinBounds
  | cancel => CancelForm.IsWithinBounds
  | adminUpdate => AdminForm.IsWithinBounds
  | pricing => PricingForm.IsWithinBounds

/-- Every form is read back. -/
theorem readsBack (form : RequestForm) : Form.ReadsBack form.Value form.IsWithinBounds := by
  cases form with
  | item => exact ItemForm.readsBack
  | booking => exact BookingForm.readsBack
  | collect => exact CollectForm.readsBack
  | driverUpdate => exact DriverForm.readsBack
  | availability => exact AvailabilityForm.readsBack
  | assign => exact AssignForm.readsBack
  | settle => exact SettleForm.readsBack
  | cancel => exact CancelForm.readsBack
  | adminUpdate => exact AdminForm.readsBack
  | pricing => exact PricingForm.readsBack

end RequestForm

/-- What a form gives is within its bounds, whatever it was read from. Written down and read again,
it is the same. -/
theorem form_is_read_back (form : RequestForm) (notObject : Fault) {j : Json} {value : form.Value}
    (h : (form.kind notObject).read j = .ok value) :
    form.IsWithinBounds value ∧
      (form.kind notObject).read ((form.kind notObject).write value) = .ok value := by
  have hform := form.readsBack.kind notObject
  have hwithin := hform.within h
  exact ⟨hwithin, hform.again hwithin⟩

/-- A pickup whose numbers are given by texts and whose date is given by a number is read, and is
the same once it has been written plainly. -/
theorem forgiven_pickup_is_read_back :
    let given : Json := .obj [
      ("items", .arr [.obj [("waste_category_id", .str "2"), ("quantity_kg", .str " 2.5 ")]]),
      ("address_line1", .str "12 Galle Road"), ("city", .str "Colombo"),
      ("postal_code", .str "00300"), ("phone", .str "+94771234567"),
      ("scheduled_date", .int 1793577600), ("scheduled_time_slot", .str "09:00-12:00"),
      ("lat", .str "6.9"), ("lng", .null)]
    let value : BookingForm :=
      ⟨[⟨2, 2.5⟩], "12 Galle Road", "Colombo", "00300", "+94771234567", none, ⟨2026, 11, 2⟩,
        "09:00-12:00", some 6.9, none⟩
    let kind := RequestForm.booking.kind .bodyObjectType
    kind.read given = .ok value ∧ RequestForm.booking.IsWithinBounds value ∧
      kind.read (kind.write value) = .ok value := by
  intro given value kind
  have read : (Form.kind BookingForm .bodyObjectType).read given = .ok value := by decide +kernel
  exact ⟨read, form_is_read_back .booking .bodyObjectType read⟩

end WastePickup
