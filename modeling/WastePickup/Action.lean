import WastePickup.Named

/-!
# Actions

The six things that can be done to a booking once it exists. Which of them is open to whom, and
when, is the business of the transition table.
-/

namespace WastePickup

/-- A step that someone takes on a booking. -/
inductive Action where
  | assign
  | start
  | collect
  | complete
  | cancel
  | refund
  deriving DecidableEq

namespace Action

/-- The written form of an action. -/
def name : Action → String
  | assign => "ASSIGN"
  | start => "START"
  | collect => "COLLECT"
  | complete => "COMPLETE"
  | cancel => "CANCEL"
  | refund => "REFUND"

/-- The action as a verb inside a sentence. -/
def verb : Action → String
  | assign => "assign"
  | start => "start"
  | collect => "collect"
  | complete => "complete"
  | cancel => "cancel"
  | refund => "refund"

instance : Named Action where
  all := [assign, start, collect, complete, cancel, refund]
  name := name
  mem_all a := by cases a <;> simp
  name_injective a b := by cases a <;> cases b <;> simp [name]

end Action

end WastePickup
