import WastePickup.Booking.Update
import WastePickup.Proofs.Work

/-!
# The stages of a piece of work

A piece of work carries out an order on one booking: an action with its particulars, or an update by
an admin. It goes through three stages at most. An action is taken, a driver is swapped, amounts are
corrected. For each stage there is one relation that says all it can do to a progress and what it
has checked before: `Store.Acted`, `Store.Swapped`, `Store.Corrected`.

* `Order.work_eq_ok`: the stages that an order goes through, one after the other.
* `Order.work_induction`: what every stage keeps, the whole work keeps.
-/

namespace WastePickup

/-! ## Orders -/

/-- What somebody asks to be done with one booking: an action, or an update by an admin. -/
inductive Order where
  | act (action : Action) (given : Particulars)
  | update (request : AdminRequest)
  deriving DecidableEq

namespace Order

/-- The action that is asked for, if one is. -/
def action? : Order → Option Action
  | act action _ => some action
  | update request => request.action

/-- The particulars that come with an order. -/
def given : Order → Particulars
  | act _ given => given
  | update request => ⟨request.driver, request.weight, request.amount, none, none⟩

/-- The work that carries out an order. -/
def work (now : Instant) (actor : Actor) : Order → Work
  | act action given => fun s p => s.perform now actor action given p
  | update request => fun s p => s.adminWork now actor request p

end Order

/-! ## The table by actions -/

/-- Where an action leads, whoever takes it. -/
def Action.target : Action → Status
  | assign => .assigned
  | start => .inProgress
  | collect => .collected
  | complete => .completed
  | cancel => .cancelled
  | refund => .refunded

/-- Where an action may start, if the right person takes it. -/
def Action.sources : Action → List Status
  | assign => [.created]
  | start => [.assigned]
  | collect => [.inProgress, .collected]
  | complete => [.collected]
  | cancel => [.created, .assigned, .inProgress, .collected]
  | refund => [.cancelled]

/-- The rows of the table for one action lead to the same status. -/
theorem Rule.of_action (role : Role) (action : Action) :
    ∀ rule ∈ Rule.of role action, rule.target = action.target ∧ rule.sources ⊆ action.sources := by
  cases role <;> cases action <;> simp [Rule.of, Action.target, Action.sources]

namespace Move.Lawful

variable {m : Move}

/-- A lawful move ends where its action does. -/
theorem target_eq (h : m.Lawful) : m.target = m.action.target := by
  obtain ⟨rule, hr, -, ht⟩ := h
  exact ht.trans (Rule.of_action m.role m.action rule hr).1

/-- A lawful move begins where its action may. -/
theorem source_mem (h : m.Lawful) : m.source ∈ m.action.sources := by
  obtain ⟨rule, hr, hmem, -⟩ := h
  exact (Rule.of_action m.role m.action rule hr).2 hmem

end Move.Lawful

namespace Store

variable {s : Store} {now : Instant} {actor : Actor} {p q : Progress} {w : Writes}

/-! ## What is checked -/

/-- A driver is there and is approved. -/
def Approved (s : Store) (driver : Int) : Prop :=
  ∃ d, s.drivers.find? driver = some d ∧ d.approved = true

/-- Work is given to approved drivers. -/
theorem approved_of_requireApproved {driver : Int} (h : s.requireApproved driver = .ok ()) :
    s.Approved driver := by
  unfold requireApproved at h
  split at h
  · cases h
  · cases h
  · rename_i d hd
    split at h
    · rename_i happroved
      exact ⟨d, (Table.lookUp_eq_ok_iff.1 hd).2, happroved⟩
    · cases h

/-- The driver rows that are written, if any, are those of drivers who are there, with another
availability and another count of pickups. -/
def OnlyUpdates (s : Store) (written : Option Driver) : Prop :=
  ∀ d ∈ written, ∃ id old status pickups, s.drivers.find? id = some old ∧
    d = { old with status := status, pickupCount := pickups }

/-- No row of a driver is written where there is none to write. -/
theorem onlyUpdates_none : s.OnlyUpdates none := by
  simp [OnlyUpdates]

/-- A driver who gets another availability and another count is one who is there. -/
theorem onlyUpdates_driverWith (driver : Option Int) (status : Availability) (pickups : Int) :
    s.OnlyUpdates (s.driverWith driver status pickups) := by
  intro d hd
  unfold driverWith at hd
  cases driver with
  | none => cases hd
  | some id =>
    obtain ⟨old, hold, rfl⟩ := Option.map_eq_some_iff.1 hd
    exact ⟨id, old, _, _, hold, rfl⟩

/-- A weight that is priced is the float that it is kept as. -/
theorem value?_of_pricedWeight {given : Number.Given} {x : Float}
    (h : pricedWeight given = .ok x) : given.value? = some x := by
  unfold pricedWeight at h
  split at h
  · rename_i y hy
    cases h
    exact hy
  · cases h

/-! ## The stages -/

/-- The side effects of an action with its particulars: the progress, with its status still the old
one. -/
inductive Effected (s : Store) (now : Instant) (given : Particulars) (p : Progress) :
    Action → Progress → Prop where
  | assigned {driver : Int} (named : given.driver = some driver) (approved : s.Approved driver) :
      Effected s now given p .assign { p with driver := some driver }
  | started : Effected s now given p .start p
  | collected {weight : Number.Given} {x : Float} {band : Band Float}
      (named : given.weight = some weight) (value : weight.value? = some x)
      (found : s.band? (collectedCategory given p) = some band) :
      Effected s now given p .collect { p with
        weight := some x
        amount := some (band.amount (some x))
        wasteCategory := collectedCategory given p }
  | completed {q : Progress} (driver : p.driver ≠ none)
      (weight : given.weight ≠ none ∨ p.weight ≠ none)
      (amounts : s.withAmounts given.weight given.amount p = .ok q) (amount : q.amount ≠ none) :
      Effected s now given p .complete { q with confirmedAt := some (q.confirmedAt.getD now) }
  | cancelled {reason : Option String} (kept : keptReason given p = .ok reason) :
      Effected s now given p .cancel { p with cancelReason := reason }
  | refunded : Effected s now given p .refund p

/-- The action of an order is taken: it may start where the booking stands, has its side effects and
moves the status. -/
inductive Acted (s : Store) (now : Instant) (order : Order) (p : Progress) : Progress → Prop where
  | intro {action : Action} {source : Status} {q : Progress} (asked : order.action? = some action)
      (known : p.status? = some source) (mem : source ∈ action.sources)
      (effected : s.Effected now order.given p action q) :
      Acted s now order p { q with status := action.target.name }

/-- The driver of an update is swapped in, on a booking that is open. -/
inductive Swapped (s : Store) (order : Order) (p : Progress) : Progress → Prop where
  | intro {request : AdminRequest} {status : Status} {driver : Int}
      (isUpdate : order = .update request) (named : order.given.driver = some driver)
      (known : p.status? = some status) (isOpen : status.isClosed = false)
      (approved : s.Approved driver) :
      Swapped s order p { p with driver := some driver }

/-- The amounts of an update are put in, on a booking that is open, unless completing it has put
them in. -/
inductive Corrected (s : Store) (order : Order) (p : Progress) : Progress → Prop where
  | intro {request : AdminRequest} {status : Status} {q : Progress}
      (isUpdate : order = .update request) (incomplete : request.action ≠ some .complete)
      (known : p.status? = some status) (isOpen : status.isClosed = false)
      (amounts : s.withAmounts order.given.weight order.given.amount p = .ok q) :
      Corrected s order p q

/-! ## What the stages leave alone -/

/-- A swap writes the driver only. -/
theorem Swapped.frame {order : Order} (h : s.Swapped order p q) :
    ∃ driver, order.given.driver = some driver ∧ q = { p with driver := some driver } := by
  obtain ⟨-, named, -, -, -⟩ := h
  exact ⟨_, named, rfl⟩

/-- A correction writes the amounts only. -/
theorem Corrected.frame {order : Order} (h : s.Corrected order p q) :
    ∃ w a, q = { p with weight := w, amount := a } := by
  obtain ⟨-, -, -, -, amounts⟩ := h
  exact withAmounts_eq_ok amounts

/-- A swap leaves the status. -/
theorem Swapped.status?_eq {order : Order} (h : s.Swapped order p q) : q.status? = p.status? := by
  obtain ⟨driver, -, rfl⟩ := h.frame
  rfl

/-- A correction leaves the status. -/
theorem Corrected.status?_eq {order : Order} (h : s.Corrected order p q) :
    q.status? = p.status? := by
  obtain ⟨w, a, rfl⟩ := h.frame
  rfl

/-- A correction leaves the driver. -/
theorem Corrected.driver_eq {order : Order} (h : s.Corrected order p q) : q.driver = p.driver := by
  obtain ⟨w, a, rfl⟩ := h.frame
  rfl

/-- Neither a swap nor a correction is made on a closed booking. -/
theorem Swapped.isOpen {order : Order} {status : Status} (h : s.Swapped order p q)
    (known : p.status? = some status) : status.isClosed = false := by
  obtain ⟨-, -, known', isOpen, -⟩ := h
  rw [known] at known'
  cases known'
  exact isOpen

/-- Only an open booking is corrected. -/
theorem Corrected.isOpen {order : Order} {status : Status} (h : s.Corrected order p q)
    (known : p.status? = some status) : status.isClosed = false := by
  obtain ⟨-, -, known', isOpen, -⟩ := h
  rw [known] at known'
  cases known'
  exact isOpen

/-! ## Each stage goes through as it says -/

section Effects

variable {given : Particulars} {e : Effect}

/-- What an assignment does, if it goes through. -/
theorem assignEffect_eq_ok (h : s.assignEffect given p = .ok e) :
    s.Effected now given p .assign e.progress ∧ s.OnlyUpdates e.driver := by
  unfold assignEffect at h
  split at h
  · cases h
  · rename_i driver hdriver
    obtain ⟨⟨⟩, happroved, h⟩ := bind_eq_ok_iff.1 h
    cases h
    exact ⟨.assigned hdriver (approved_of_requireApproved happroved), onlyUpdates_none⟩

/-- What a collection does, if it goes through. -/
theorem collectEffect_eq_ok {m : Move} (h : s.collectEffect m given p = .ok e) :
    s.Effected now given p .collect e.progress ∧ s.OnlyUpdates e.driver := by
  unfold collectEffect at h
  split at h
  · cases h
  · rename_i weight hweight
    obtain ⟨⟨⟩, -, h⟩ := bind_eq_ok_iff.1 h
    split at h
    · cases h
    · rename_i band hband
      obtain ⟨x, hx, h⟩ := bind_eq_ok_iff.1 h
      cases h
      refine ⟨.collected hweight (value?_of_pricedWeight hx) hband, ?_⟩
      -- A collection that only corrects the weight leaves the driver alone.
      change s.OnlyUpdates (if m.changed then s.driverWith p.driver .online 1 else none)
      split
      · exact onlyUpdates_driverWith _ _ _
      · exact onlyUpdates_none

/-- What a completion does, if it goes through. -/
theorem completeEffect_eq_ok (h : s.completeEffect now given p = .ok e) :
    s.Effected now given p .complete e.progress ∧ s.OnlyUpdates e.driver := by
  unfold completeEffect at h
  split at h
  · cases h
  · rename_i hdriver
    split at h
    · cases h
    · rename_i hweight
      obtain ⟨q, hq, h⟩ := bind_eq_ok_iff.1 h
      split at h
      · cases h
      · rename_i hamount
        cases h
        have hweights : given.weight ≠ none ∨ p.weight ≠ none :=
          Decidable.not_and_iff_not_or_not.1 hweight
        exact ⟨.completed hdriver hweights hq hamount, onlyUpdates_none⟩

/-- What a cancellation does, if it goes through. -/
theorem cancelEffect_eq_ok {role : Role} (h : s.cancelEffect role given p = .ok e) :
    s.Effected now given p .cancel e.progress ∧ s.OnlyUpdates e.driver := by
  obtain ⟨reason, hreason, h⟩ := bind_eq_ok_iff.1 h
  cases h
  refine ⟨.cancelled hreason, ?_⟩
  change s.OnlyUpdates (if role = .driver then s.driverWith p.driver .online 0 else none)
  split
  · exact onlyUpdates_driverWith _ _ _
  · exact onlyUpdates_none

/-- The side effects of an action are those that its relation allows, and they write the row of a
driver who is there, if any. -/
theorem effect_eq_ok {role : Role} {m : Move} (h : s.effect now role m given p = .ok e) :
    s.Effected now given p m.action e.progress ∧ s.OnlyUpdates e.driver := by
  obtain ⟨source, target, action, acting⟩ := m
  cases action with
  | assign => exact assignEffect_eq_ok h
  | start =>
    cases h
    exact ⟨.started, onlyUpdates_driverWith _ _ _⟩
  | collect => exact collectEffect_eq_ok h
  | complete => exact completeEffect_eq_ok h
  | cancel => exact cancelEffect_eq_ok h
  | refund =>
    cases h
    exact ⟨.refunded, onlyUpdates_none⟩

end Effects

/-- An action that goes through is taken as its relation says. -/
theorem acted_of_perform (order : Order) {action : Action} (asked : order.action? = some action)
    (h : s.perform now actor action order.given p = .ok w) :
    s.Acted now order p w.progress ∧ s.OnlyUpdates w.driver := by
  obtain ⟨-, m, e, hm, he, -, rfl⟩ := perform_eq_ok_iff.1 h
  obtain ⟨hsource, rfl, -, lawful⟩ := planMove_eq_ok_iff.1 hm
  obtain ⟨heffected, hdriver⟩ := effect_eq_ok he
  rw [lawful.target_eq]
  exact ⟨.intro asked hsource lawful.source_mem heffected, hdriver⟩

/-- A swap that goes through leaves the progress alone, or swaps the driver in. -/
theorem swapped_of_swapDriver {request : AdminRequest}
    (h : s.swapDriver request.driver p = .ok q) : q = p ∨ s.Swapped (.update request) p q := by
  rcases swapDriver_eq_ok_iff.1 h with ⟨-, rfl⟩ | ⟨id, hid, -, hopen, happroved, rfl⟩
  · exact .inl rfl
  · obtain ⟨status, known, isOpen⟩ := requireOpen_eq_ok_iff.1 hopen
    exact .inr (.intro rfl hid known isOpen (approved_of_requireApproved happroved))

/-- A correction that goes through leaves the progress alone, or puts the amounts in. -/
theorem corrected_of_correctAmounts {request : AdminRequest}
    (incomplete : request.action ≠ some .complete)
    (h : s.correctAmounts request.weight request.amount p = .ok q) :
    q = p ∨ s.Corrected (.update request) p q := by
  rcases correctAmounts_eq_ok_iff.1 h with ⟨-, -, rfl⟩ | ⟨-, hopen, hamounts⟩
  · exact .inl rfl
  · obtain ⟨status, known, isOpen⟩ := requireOpen_eq_ok_iff.1 hopen
    exact .inr (.intro rfl incomplete known isOpen hamounts)

end Store

/-! ## Orders that are carried out -/

namespace Order

variable {order : Order} {s : Store} {now : Instant} {actor : Actor} {p : Progress} {w : Writes}

/-- The stages that an order goes through: its action, if it has one; a swap of the driver; a
correction of the amounts. Only the action writes a driver row. -/
theorem work_eq_ok (h : order.work now actor s p = .ok w) :
    ∃ q q', (order.action? = none ∧ q = p ∨ s.Acted now order p q) ∧
      (q' = q ∨ s.Swapped order q q') ∧ (w.progress = q' ∨ s.Corrected order q' w.progress) ∧
      s.OnlyUpdates w.driver := by
  cases order with
  | act action given =>
    obtain ⟨hacted, hdriver⟩ := Store.acted_of_perform (.act action given) rfl h
    exact ⟨_, _, .inr hacted, .inl rfl, .inl rfl, hdriver⟩
  | update request =>
    obtain ⟨v, swapped, corrected, hv, hswap, hcorrect, rfl⟩ := Store.adminWork_eq_ok_iff.1 h
    have hfirst : ((Order.update request).action? = none ∧ v.progress = p ∨
        s.Acted now (.update request) p v.progress) ∧ s.OnlyUpdates v.driver := by
      unfold Store.adminAction at hv
      split at hv
      · rename_i hnone
        cases hv
        exact ⟨.inl ⟨hnone, rfl⟩, Store.onlyUpdates_none⟩
      · rename_i action hsome
        obtain ⟨hacted, hdriver⟩ := Store.acted_of_perform (.update request) hsome hv
        exact ⟨.inr hacted, hdriver⟩
    refine ⟨v.progress, swapped, hfirst.1, ?_, ?_, hfirst.2⟩
    · exact Store.swapped_of_swapDriver hswap
    · split at hcorrect
      · exact .inl hcorrect
      · rename_i hincomplete
        exact Store.corrected_of_correctAmounts hincomplete hcorrect

/-- What every stage keeps, the whole work keeps. -/
theorem work_induction {I : Progress → Prop} (h : order.work now actor s p = .ok w)
    (acted : ∀ {p q}, s.Acted now order p q → I p → I q)
    (swapped : ∀ {p q}, s.Swapped order p q → I p → I q)
    (corrected : ∀ {p q}, s.Corrected order p q → I p → I q) (start : I p) : I w.progress := by
  obtain ⟨q, q', hacted, hswapped, hcorrected, -⟩ := work_eq_ok h
  have hq : I q := by
    rcases hacted with ⟨-, rfl⟩ | hacted
    · exact start
    · exact acted hacted start
  have hq' : I q' := by
    rcases hswapped with rfl | hswapped
    · exact hq
    · exact swapped hswapped hq
  rcases hcorrected with hcorrected | hcorrected
  · rw [hcorrected]
    exact hq'
  · exact corrected hcorrected hq'

/-- Whatever the order, the status stays or moves along the table. -/
theorem follows_of_work (h : order.work now actor s p = .ok w) : w.Follows actor p := by
  cases order with
  | act action given => exact Store.perform_follows h
  | update request => exact Store.adminWork_follows h

end Order

end WastePickup
