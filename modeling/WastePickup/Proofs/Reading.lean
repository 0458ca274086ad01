import WastePickup.Number.NaN
import WastePickup.Proofs.Orders

/-!
# Weights and amounts of requests are numbers

JSON as it is read here has a word for what is not a number, and a text may say it too. A weight or
an amount that is given in a request is a number all the same: every field for one has a least
value, and nothing that is not a number is at least that. It may be infinite.

* `Kind.isNaN_boundDecimal`: what is within a lower bound is a number.
* `Endpoint.read_numbers`: the numbers of a command that has been read are numbers.
* `Event.Orders.numbers`: so are those that the order of a request puts in.
-/

namespace WastePickup

/-! ## Fields and bodies -/

/-- What is within a lower bound is a number. -/
theorem Kind.isNaN_boundDecimal {least : Float} {greatest : Option Float} {x y : Float}
    (h : boundDecimal (some least) greatest x = .ok y) : y.isNaN = false := by
  unfold boundDecimal at h
  split at h
  · cases h
  · split at h
    · cases h
    · rename_i hleast
      cases h
      have hle : least ≤ x := by simpa using hleast
      exact Number.isNaN_of_le hle

namespace Field

variable {α : Type} {o : Json.Object} {name : String}

/-- What a field gives has been read, or stands for the field where it is absent. -/
theorem read_eq_ok {field : Field α} {a : α} (h : field.read o = .ok a) :
    (∃ j, field.kind.read j = .ok a) ∨ field.absent = some a := by
  replace h := Checked.under_eq_ok_iff.1 h
  split at h
  · exact .inl ⟨_, h⟩
  · rename_i habsent
    cases h
    exact .inr habsent
  · cases h

/-- A decimal with a lower bound is a number. -/
theorem isNaN_required {least : Float} {greatest : Option Float} {x : Float}
    (h : (required name (.decimal (some least) greatest)).read o = .ok x) : x.isNaN = false := by
  rcases read_eq_ok h with ⟨j, hread⟩ | habsent
  · obtain ⟨y, -, hbound⟩ := Checked.andThen_eq_ok_iff.1 hread
    exact Kind.isNaN_boundDecimal hbound
  · cases habsent

/-- A decimal with a lower bound is a number, if it is there. -/
theorem isNaN_optional {least : Float} {greatest : Option Float} {x? : Option Float}
    (h : (optional name (.decimal (some least) greatest)).read o = .ok x?) :
    ∀ x ∈ x?, x.isNaN = false := by
  rintro x rfl
  rcases read_eq_ok h with ⟨j, hread⟩ | habsent
  · simp only [optional, Kind.optional] at hread
    split at hread
    · cases hread
    · obtain ⟨y, hread, hsome⟩ := Checked.map_eq_ok_iff.1 hread
      obtain ⟨z, -, hbound⟩ := Checked.andThen_eq_ok_iff.1 hread
      cases hsome
      exact Kind.isNaN_boundDecimal hbound
  · cases habsent

/-- Two of them are numbers, as far as they are there. -/
theorem isNaN_optionals {name' : String} {least least' : Float} {greatest greatest' : Option Float}
    {x? y? : Option Float} (hx : (optional name (.decimal (some least) greatest)).read o = .ok x?)
    (hy : (optional name' (.decimal (some least') greatest')).read o = .ok y?) :
    ∀ z ∈ x?.toList ++ y?.toList, z.isNaN = false := by
  intro z hz
  rcases List.mem_append.1 hz with hz | hz
  · exact isNaN_optional hx z (Option.mem_toList.1 hz)
  · exact isNaN_optional hy z (Option.mem_toList.1 hz)

end Field

namespace Endpoint

variable {α : Type} [Form α] {body : Body}

/-- A form that is read from a body is read from an object. -/
theorem inBody_eq_ok {form : α} (h : inBody α body = .ok form) :
    ∃ o, Form.read .bodyObjectType o = .ok form := by
  replace h := Checked.under_eq_ok_iff.1 h
  split at h
  · cases h
  · cases h
  · cases h
  · rename_i j
    cases j with
    | obj o => exact ⟨o, h⟩
    | _ => cases h

/-- So is one that may be missing, if it is there. -/
theorem inOptionalBody_eq_ok {form? : Option α} (h : inOptionalBody α body = .ok form?) :
    ∀ form ∈ form?, ∃ o, Form.read .bodyObjectType o = .ok form := by
  rintro form rfl
  unfold inOptionalBody at h
  split at h
  · cases h
  · cases h
  · obtain ⟨form', hbody, hsome⟩ := Checked.map_eq_ok_iff.1 h
    cases hsome
    exact inBody_eq_ok hbody

end Endpoint

/-! ## Numbers of commands -/

/-- The weight and the amount of particulars, as the floats that they are kept as. -/
def Particulars.numbers (given : Particulars) : List Float :=
  (given.weight.bind Number.Given.value?).toList ++ (given.amount.bind Number.Given.value?).toList

/-- The weights and the amounts that a command carries for a booking. -/
def Command.numbers : Command → List Float
  | collect _ form => [form.weight]
  | updateAsDriver _ form => form.weight.toList ++ form.amount.toList
  | complete _ form => (form.bind SettleForm.weight).toList ++ (form.bind SettleForm.amount).toList
  | updateAsAdmin _ form => form.weight.toList ++ form.amount.toList
  | _ => []

section Forms

variable {fault : Fault} {o : Json.Object}

/-- A form for a collection carries a number. -/
theorem CollectForm.isNaN_weight {form : CollectForm} (h : Form.read fault o = .ok form) :
    form.weight.isNaN = false := by
  obtain ⟨weight, category, hweight, -, rfl⟩ := Checked.map_seq_eq_ok_iff.1 h
  exact Field.isNaN_required hweight

/-- The numbers of the form of a driver are numbers. -/
theorem DriverForm.isNaN_numbers {form : DriverForm} (h : Form.read fault o = .ok form) :
    ∀ x ∈ form.weight.toList ++ form.amount.toList, x.isNaN = false := by
  obtain ⟨f, amount, hf, hamount, rfl⟩ := Checked.seq_eq_ok_iff.1 h
  obtain ⟨g, weight, hg, hweight, rfl⟩ := Checked.seq_eq_ok_iff.1 hf
  obtain ⟨status, category, -, -, rfl⟩ := Checked.map_seq_eq_ok_iff.1 hg
  exact Field.isNaN_optionals hweight hamount

/-- The numbers of the form of a completion are numbers. -/
theorem SettleForm.isNaN_numbers {form : SettleForm} (h : Form.read fault o = .ok form) :
    ∀ x ∈ form.weight.toList ++ form.amount.toList, x.isNaN = false := by
  obtain ⟨weight, amount, hweight, hamount, rfl⟩ := Checked.map_seq_eq_ok_iff.1 h
  exact Field.isNaN_optionals hweight hamount

/-- The numbers of the form of an admin are numbers. -/
theorem AdminForm.isNaN_numbers {form : AdminForm} (h : Form.read fault o = .ok form) :
    ∀ x ∈ form.weight.toList ++ form.amount.toList, x.isNaN = false := by
  obtain ⟨f, amount, hf, hamount, rfl⟩ := Checked.seq_eq_ok_iff.1 h
  obtain ⟨g, weight, hg, hweight, rfl⟩ := Checked.seq_eq_ok_iff.1 hf
  obtain ⟨status, driver, -, -, rfl⟩ := Checked.map_seq_eq_ok_iff.1 hg
  exact Field.isNaN_optionals hweight hamount

end Forms

namespace Endpoint

variable {number : String} {query : Json.Object} {body : Body} {command : Command}

/-- The weights and the amounts of a command that has been read are numbers. -/
theorem read_numbers {e : Endpoint} (h : e.read number query body = .ok command) :
    ∀ x ∈ command.numbers, x.isNaN = false := by
  cases e with
  | collect =>
    obtain ⟨booking, form, -, hbody, rfl⟩ := Checked.map_seq_eq_ok_iff.1 h
    obtain ⟨o, hread⟩ := inBody_eq_ok hbody
    simpa [Command.numbers] using CollectForm.isNaN_weight hread
  | updateAsDriver =>
    obtain ⟨booking, form, -, hbody, rfl⟩ := Checked.map_seq_eq_ok_iff.1 h
    obtain ⟨o, hread⟩ := inBody_eq_ok hbody
    exact DriverForm.isNaN_numbers hread
  | complete =>
    obtain ⟨booking, form?, -, hbody, rfl⟩ := Checked.map_seq_eq_ok_iff.1 h
    cases form? with
    | none => simp [Command.numbers]
    | some form =>
      obtain ⟨o, hread⟩ := inOptionalBody_eq_ok hbody form rfl
      exact SettleForm.isNaN_numbers hread
  | updateAsAdmin =>
    obtain ⟨booking, form, -, hbody, rfl⟩ := Checked.map_seq_eq_ok_iff.1 h
    obtain ⟨o, hread⟩ := inBody_eq_ok hbody
    exact AdminForm.isNaN_numbers hread
  | ownBookings | allBookings =>
    obtain ⟨g, size, hg, -, rfl⟩ := Checked.seq_eq_ok_iff.1 h
    obtain ⟨status, page, -, -, rfl⟩ := Checked.map_seq_eq_ok_iff.1 hg
    simp [Command.numbers]
  | cancelAsDriver | cancelAsAdmin | assign | setPrice =>
    obtain ⟨number, form, -, -, rfl⟩ := Checked.map_seq_eq_ok_iff.1 h
    simp [Command.numbers]
  | createBookings | oneBooking | oneDuty | start | setAvailability | refund | history =>
    obtain ⟨_, -, rfl⟩ := Checked.map_eq_ok_iff.1 h
    simp [Command.numbers]
  | duties | metrics | priceList | health =>
    cases h
    simp [Command.numbers]

end Endpoint

/-- The weights and the amounts of a request are numbers. -/
theorem Request.command?_numbers {r : Request} {command : Command}
    (h : r.command? = some command) : ∀ x ∈ command.numbers, x.isNaN = false := by
  unfold Request.command? at h
  simp only at h
  split at h
  · split at h
    · rename_i hread
      cases h
      exact Endpoint.read_numbers hread
    · cases h
  all_goals cases h

/-- Numbers that are given as floats are kept as they are. -/
@[simp] theorem Number.Given.bind_value?_float (x? : Option Float) :
    (x?.map float).bind value? = x? := by
  cases x? <;> rfl

/-- A driver's form puts in no more than it carries. -/
theorem DriverForm.numbers_of_toAction {form : DriverForm} {action : Action} {given : Particulars}
    (h : form.toAction = .ok (action, given)) :
    given.numbers ⊆ form.weight.toList ++ form.amount.toList := by
  obtain ⟨⟨⟩, -, h⟩ := bind_eq_ok_iff.1 h
  have hcollect : ∀ w, form.weight = some w →
      (⟨none, some (.float w), none, form.wasteCategory, none⟩ : Particulars).numbers ⊆
        form.weight.toList ++ form.amount.toList := by
    intro w hw
    simp [Particulars.numbers, hw, Number.Given.value?_float]
  split at h
  · cases h
  · cases h
    simp [Particulars.numbers, Particulars.none]
  · cases h
    simp [Particulars.numbers, Particulars.none]
  · split at h
    · cases h
    · rename_i w hw
      cases h
      exact hcollect w hw
  · split at h
    · cases h
    · rename_i w hw
      cases h
      exact hcollect w hw
  · cases h

/-- An order puts in numbers that its command carries. -/
theorem Command.order?_numbers {s : Store} {command : Command} {booking : Int} {order : Order}
    (h : command.order? s = some (booking, order)) : order.given.numbers ⊆ command.numbers := by
  cases command with
  | start | cancelAsDriver | cancelAsAdmin | assign | refund =>
    cases h
    simp [Order.given, Particulars.numbers, Particulars.none]
  | collect booking form =>
    cases h
    simp [Order.given, Particulars.numbers, numbers, Number.Given.value?_float]
  | complete booking form =>
    cases h
    cases form <;> simp [Order.given, Particulars.numbers, numbers]
  | updateAsDriver booking form =>
    simp only [order?] at h
    split at h
    · cases h
    · rename_i hform
      cases h
      exact DriverForm.numbers_of_toAction hform
  | updateAsAdmin booking form =>
    simp only [order?] at h
    split at h
    · cases h
    · rename_i hform
      cases h
      obtain ⟨-, b, status, action, -, -, -, rfl⟩ := AdminForm.decide_eq_ok_iff.1 hform
      simp [Order.given, Particulars.numbers, numbers]
  | _ => cases h

/-- The weight and the amount that the order of a request puts in are numbers. -/
theorem Event.Orders.numbers {r : Request} {s : Store} {actor : Actor} {booking : Int}
    {order : Order} (orders : (Event.request r).Orders s actor booking order) :
    ∀ x ∈ order.given.numbers, x.isNaN = false := by
  cases orders with
  | request caller read order? =>
    exact fun x hx => Request.command?_numbers read x (Command.order?_numbers order? hx)

end WastePickup
