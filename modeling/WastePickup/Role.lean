import WastePickup.Named

/-!
# Roles

Every request is made by someone in one of four roles. A super admin acts with the rights of an
admin, so a decision about what may be done is taken on the acting role, and the acting role is
what the history records.
-/

namespace WastePickup

/-- The role in which a request is made. -/
inductive Role where
  | customer
  | driver
  | admin
  | superAdmin
  deriving DecidableEq

namespace Role

/-- The written form of a role. -/
def name : Role → String
  | customer => "CUSTOMER"
  | driver => "DRIVER"
  | admin => "ADMIN"
  | superAdmin => "SUPER_ADMIN"

instance : Named Role where
  all := [customer, driver, admin, superAdmin]
  name := name
  mem_all a := by cases a <;> simp
  name_injective a b := by cases a <;> cases b <;> simp [name]

/-- The role whose rights are used: a super admin acts as an admin. -/
def acting : Role → Role
  | superAdmin => admin
  | role => role

/-- Whether the role has the rights of an admin. -/
def isAdmin (role : Role) : Bool :=
  role.acting = admin

/-- Acting rights are settled in one step. -/
@[simp] theorem acting_acting (role : Role) : role.acting.acting = role.acting := by
  cases role <;> rfl

end Role

/-- Who makes a request: an identity and the role it was made in. -/
structure Actor where
  id : Int
  role : Role
  deriving DecidableEq

end WastePickup
