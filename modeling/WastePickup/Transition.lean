import WastePickup.Action
import WastePickup.Role
import WastePickup.Status

/-!
# The transition table

Every status change is one row of a table: an acting role and an action give the statuses from
which the action is open and the status in which it ends. All permissions, the list of open
actions, the reverse look-up of an admin's action and the terminal statuses are read off this one
table (`Rule.of`).

* `canPerform_eq_true_iff`: an action is open exactly when its rule lists the current status.
* `mem_allowedActions_iff`: the advertised actions are the open ones.
* `Move.plan_isOk_iff`: a move can be planned exactly when its action is open.

Collecting is open on a collected booking too: that corrects the weight and does not move the
status.
-/

namespace WastePickup

/-- One row of the table: where an action may start, and where it ends. -/
structure Rule where
  sources : List Status
  target : Status
  deriving DecidableEq

/-- The rule for an acting role and an action, if the role has that action at all. -/
def Rule.of : Role → Action → Option Rule
  | .admin, .assign => some ⟨[.created], .assigned⟩
  | .admin, .complete => some ⟨[.collected], .completed⟩
  | .admin, .cancel => some ⟨[.created, .assigned, .inProgress, .collected], .cancelled⟩
  | .admin, .refund => some ⟨[.cancelled], .refunded⟩
  | .driver, .start => some ⟨[.assigned], .inProgress⟩
  | .driver, .collect => some ⟨[.inProgress, .collected], .collected⟩
  | .driver, .cancel => some ⟨[.assigned, .inProgress, .collected], .cancelled⟩
  | _, _ => none

namespace Status

/-- Whether someone in a role may take an action now. -/
def canPerform (status : Status) (role : Role) (action : Action) : Bool :=
  match Rule.of role.acting action with
  | none => false
  | some rule => decide (status ∈ rule.sources)

/-- The actions open to a role now, in declared order. -/
def allowedActions (status : Status) (role : Role) : List Action :=
  Named.all.filter fun action => status.canPerform role action

/-- No rule leads out of a terminal status. -/
def isTerminal (status : Status) : Bool :=
  (Named.all : List Role).all fun role => (Named.all : List Action).all fun action =>
    match Rule.of role action with
    | none => true
    | some rule => !decide (status ∈ rule.sources)

/-- The admin action whose rule ends in a status. -/
def adminActionTo? (target : Status) : Option Action :=
  (Named.all : List Action).find? fun action =>
    (Rule.of .admin action).any fun rule => rule.target = target

/-- An action is open exactly when its rule lists the current status. -/
theorem canPerform_eq_true_iff {status : Status} {role : Role} {action : Action} :
    status.canPerform role action = true ↔
      ∃ rule, Rule.of role.acting action = some rule ∧ status ∈ rule.sources := by
  unfold canPerform
  cases Rule.of role.acting action <;> simp

/-- The advertised actions are the open ones. -/
theorem mem_allowedActions_iff {status : Status} {role : Role} {action : Action} :
    action ∈ status.allowedActions role ↔ status.canPerform role action = true := by
  simp [allowedActions, Named.mem_all]

end Status

/-! ## Rows whose status may not read -/

section Unread

variable {ε : Type}

/-- Whether someone in a role may take an action, given the reading of a row's status. A role that
never has the action is turned down whatever the row holds. -/
def canPerformRead (read : Except ε Status) (role : Role) (action : Action) : Except ε Bool :=
  match Rule.of role.acting action with
  | none => .ok false
  | some _ => read.map fun status => status.canPerform role action

/-- The actions open to a role, given the reading of a row's status. -/
def allowedActionsRead (read : Except ε Status) (role : Role) : Except ε (List Action) :=
  (Named.all : List Action).filterM fun action => canPerformRead read role action

end Unread

/-- Why an action was turned down. -/
structure TransitionRefusal where
  current : Status
  /-- The acting role. -/
  role : Role
  action : Action
  deriving DecidableEq

/-- The refusal in words: a role that never has the action is told so, all others are told which
move is not in the table. -/
def TransitionRefusal.message (r : TransitionRefusal) : String :=
  match Rule.of r.role r.action with
  | none => r.role.name ++ " cannot " ++ r.action.verb ++ " bookings."
  | some rule =>
    "Invalid status transition from " ++ r.current.name ++ " to " ++ rule.target.name ++ "."

/-- A planned move along the table. -/
structure Move where
  source : Status
  target : Status
  action : Action
  /-- The acting role. -/
  role : Role
  deriving DecidableEq

namespace Move

/-- Whether the move leaves its source. -/
def changed (m : Move) : Bool :=
  m.source ≠ m.target

/-- Plan an action from the current status, or say why it is not open. -/
def plan (status : Status) (role : Role) (action : Action) : Except TransitionRefusal Move :=
  match Rule.of role.acting action with
  | none => .error ⟨status, role.acting, action⟩
  | some rule =>
    if status ∈ rule.sources then .ok ⟨status, rule.target, action, role.acting⟩
    else .error ⟨status, role.acting, action⟩

/-- A move can be planned exactly when its action is open. -/
theorem plan_isOk_iff {status : Status} {role : Role} {action : Action} :
    (∃ m, plan status role action = .ok m) ↔ status.canPerform role action = true := by
  rw [Status.canPerform_eq_true_iff]
  unfold plan
  cases Rule.of role.acting action with
  | none => simp
  | some rule => by_cases h : status ∈ rule.sources <;> simp [h]

/-- A planned move is an instance of its rule. -/
theorem plan_eq_ok_iff {status : Status} {role : Role} {action : Action} {m : Move} :
    plan status role action = .ok m ↔
      ∃ rule, Rule.of role.acting action = some rule ∧ status ∈ rule.sources ∧
        m = ⟨status, rule.target, action, role.acting⟩ := by
  unfold plan
  cases Rule.of role.acting action with
  | none => simp
  | some rule => by_cases h : status ∈ rule.sources <;> simp [h, eq_comm]

end Move

end WastePickup
