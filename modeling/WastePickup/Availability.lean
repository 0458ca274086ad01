import WastePickup.Named

/-!
# Availability of drivers

A driver is online, offline or on a pickup. A driver sets the first two by hand; the third is set
by starting a pickup.
-/

namespace WastePickup

/-- Whether a driver can be given work. -/
inductive Availability where
  | online
  | offline
  | onPickup
  deriving DecidableEq

namespace Availability

/-- The written form. -/
def name : Availability → String
  | online => "ONLINE"
  | offline => "OFFLINE"
  | onPickup => "ON_PICKUP"

instance : Named Availability where
  all := [online, offline, onPickup]
  name := name
  mem_all a := by cases a <;> simp
  name_injective a b := by cases a <;> cases b <;> simp [name]

/-- Whether a driver may choose it by hand. -/
def isManual : Availability → Bool
  | onPickup => false
  | _ => true

end Availability

end WastePickup
