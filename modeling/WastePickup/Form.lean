import WastePickup.Form.Kind

/-!
# Forms

A form is a JSON object with declared fields. Every declared field is checked, in declared order,
and the issues of all of them are reported together; members that are not declared are ignored.
Writing a form gives every declared field.
-/

namespace WastePickup

/-- A type whose values are given by a JSON object. The fault is what a nested value is reported
with that should have been an object. -/
class Form (α : Type) where
  read : Fault → Json.Object → Checked α
  write : α → Json.Object

namespace Form

variable {α : Type} [Form α]

/-- A form as the kind of a value. -/
def kind (α : Type) [Form α] (notObject : Fault) : Kind α where
  read
    | .obj members => read notObject members
    | _ => .fault notObject
  write a := .obj (write a)

/-- Check a value that stands alone. -/
def check (α : Type) [Form α] (j : Json) : Checked α :=
  (kind α .objectType).read j

/-- Check the body of a request. -/
def checkBody (α : Type) [Form α] (j : Json) : Checked α :=
  (kind α .bodyObjectType).read j

end Form

end WastePickup
