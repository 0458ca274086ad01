import WastePickup.Proofs.Conditions
import WastePickup.Proofs.Amounts
import WastePickup.Proofs.DriverRows

/-!
# When an action is accepted

An action on a booking is accepted or refused for what can be said beforehand: who asks, where the
booking stands, what is given with the action, and which drivers, kinds of waste and prices there
are. `World.conditions` lists all of it in the order in which it is looked at. Three kinds of
conditions come one behind the other: those of everybody who acts on a booking, those of the action
itself (`Store.dataConditions`), and those of the record (`Store.recordConditions`), which only has
to be made if the status moves. Neither the time nor the token of the lock is among them.

* `Store.effect_answers`: the side effects of an action answer to the conditions of its data.
* `Store.perform_answers`: the work of an action answers to its conditions.
* `World.applyAction_answers`: so does a call for an action.
* `action_taken_iff_conditions_hold`: an action is taken exactly if all its conditions hold, and is
  refused for the first that does not.
-/

namespace WastePickup

/-! ## Conditions -/

namespace Store

/-- What an action asks of what is given with it. -/
def dataConditions (s : Store) (given : Particulars) (p : Progress) : Action → List Condition
  | .assign =>
    match given.driver with
    | none => [⟨False, .driverRequired⟩]
    | some driver =>
      [⟨Number.fits64 driver = true, .broken .numberTooLarge⟩,
        ⟨∃ d, s.drivers.find? driver = some d, .driverNotFound⟩,
        ⟨s.Approved driver, .driverNotApproved⟩]
  | .collect =>
    match given.weight with
    | none => [⟨False, .weightRequired⟩]
    | some weight =>
      let category := collectedCategory given p
      [⟨category = p.wasteCategory ∨ Number.fits64 category = true, .broken .numberTooLarge⟩,
        ⟨category = p.wasteCategory ∨ ∃ c, s.categories.find? category = some c,
          .categoryNotFound⟩,
        ⟨∃ row, s.pricing? category = some row, .pricingMissing⟩,
        ⟨∃ x, weight.value? = some x,
          .broken (if weight.isAboveZero then .numberTooLarge else .amountTooLarge)⟩]
  | .complete =>
    [⟨∃ driver, p.driver = some driver, .driverMissing⟩,
      ⟨given.weight ≠ none ∨ p.weight ≠ none, .amountMissing⟩,
      ⟨∀ weight ∈ given.weight, ∃ x, weight.value? = some x, .broken .amountTooLarge⟩,
      ⟨∀ amount ∈ given.amount, ∃ x, amount.value? = some x, .broken .amountTooLarge⟩,
      ⟨given.amount ≠ none ∨
          (given.weight ≠ none ∧ ∃ row, s.pricing? p.wasteCategory = some row) ∨ p.amount ≠ none,
        .amountMissing⟩]
  | .cancel => [⟨∀ reason ∈ given.reason, ∃ text, reason = .proper text, .broken .textNotEncodable⟩]
  | .start | .refund => []

/-- What the record of an action asks for, if there is one: the number of whoever acts fits, and so
does the count of a driver who acts. -/
def recordConditions (s : Store) (actor : Actor) (action : Action) (status : Status) :
    List Condition :=
  if status = action.target then []
  else
    [⟨Number.fits64 actor.id = true, .broken .numberTooLarge⟩,
      ⟨actor.role = .driver → ∀ d, s.drivers.find? actor.id = some d →
        Number.fits64 (d.pickupCount + action.pickups) = true, .broken .numberTooLarge⟩]

/-- What an action on a booking asks for: it is in the hands of the driver who acts, its status is
known and among those from which the role may take the action, and what is given with the action and
what is recorded of it is in order. -/
def actionConditions (s : Store) (actor : Actor) (action : Action) (given : Particulars)
    (p : Progress) : List Condition :=
  ⟨actor.role = .driver → p.driver = some actor.id, .notAssignedToDriver⟩ ::
    match p.status? with
    | none => [⟨False, .unknownStatus p.status⟩]
    | some status =>
      ⟨∃ rule, Rule.of actor.role.acting action = some rule ∧ status ∈ rule.sources,
          .transition ⟨status, actor.role.acting, action⟩⟩ ::
        (s.dataConditions given p action ++ s.recordConditions actor action status)

end Store

/-- What a call for an action asks for: the lock is free, the number of the booking fits, the
booking is there, and the action may be taken on it. -/
def World.conditions (w : World) (actor : Actor) (booking : Int) (action : Action)
    (given : Particulars) : List Condition :=
  ⟨w.LockIsFree booking, .bookingLocked booking⟩ ::
    ⟨Number.fits64 booking = true, .broken .numberTooLarge⟩ ::
      match w.store.bookings.find? booking with
      | none => [⟨False, .bookingNotFound⟩]
      | some b => w.store.actionConditions actor action given b.progress

/-! ## Checks -/

namespace Store

variable (s : Store) (given : Particulars) (p : Progress)

/-- A driver who is to be assigned has to be there and to be approved. -/
theorem requireApproved_answers (driver : Int) :
    AnswersTo [⟨Number.fits64 driver = true, .broken .numberTooLarge⟩,
      ⟨∃ d, s.drivers.find? driver = some d, .driverNotFound⟩,
      ⟨s.Approved driver, .driverNotApproved⟩] (s.requireApproved driver) := by
  unfold requireApproved
  by_cases fits : Number.fits64 driver = true
  · rw [Table.lookUp_of_fits fits]
    refine .holds fits ?_
    cases found : s.drivers.find? driver with
    | none => exact .fails (by simp)
    | some d =>
      refine .holds ⟨d, rfl⟩ ?_
      have happroved : s.Approved driver ↔ d.approved = true := by simp [Approved, found]
      simp only [happroved]
      exact .ite fun _ => .done ()
  · rw [Table.lookUp_of_not_fits fits]
    exact .fails fits

/-- A category other than the booking's is looked up. -/
theorem requireCategory_answers (category : Int) :
    AnswersTo [⟨category = p.wasteCategory ∨ Number.fits64 category = true,
        .broken .numberTooLarge⟩,
      ⟨category = p.wasteCategory ∨ ∃ c, s.categories.find? category = some c,
        .categoryNotFound⟩] (s.requireCategory category p) := by
  unfold requireCategory
  by_cases same : category = p.wasteCategory
  · rw [if_pos same]
    exact .holds (.inl same) (.holds (.inl same) (.done ()))
  · rw [if_neg same]
    by_cases fits : Number.fits64 category = true
    · rw [Table.lookUp_of_fits fits]
      refine .holds (.inr fits) ?_
      cases found : s.categories.find? category with
      | none => exact .fails (by simp [same])
      | some c => exact .holds (.inr ⟨c, rfl⟩) (.done ())
    · rw [Table.lookUp_of_not_fits fits]
      exact .fails (by simp [same, fits])

/-- A category has a band if it has a price row. -/
theorem band?_eq_none_iff {category : Int} :
    s.band? category = none ↔ ¬∃ row, s.pricing? category = some row := by
  rw [band?, Option.map_eq_none_iff, Option.eq_none_iff_forall_ne_some, not_exists]

/-- A weight that is to be priced has to be one that a float can hold. -/
theorem pricedWeight_answers (weight : Number.Given) :
    AnswersTo [⟨∃ x, weight.value? = some x,
      .broken (if weight.isAboveZero then .numberTooLarge else .amountTooLarge)⟩]
      (pricedWeight weight) := by
  unfold pricedWeight
  cases value : weight.value? with
  | none => exact .fails (by simp)
  | some x => exact .holds ⟨x, rfl⟩ (.done x)

/-- A number that is to be written has to be one that a float can hold. -/
theorem written?_answers (number : Option Number.Given) :
    AnswersTo [⟨∀ g ∈ number, ∃ x, g.value? = some x, .broken .amountTooLarge⟩]
      (written? number) := by
  cases number with
  | none => exact .holds (by simp) (.done none)
  | some g =>
    simp only [written?, written]
    cases value : g.value? with
    | none => exact .fails (by simp [value])
    | some x => exact .holds (by simp [value]) (.done (some x))

/-- A weight and an amount are put in if both can be written. -/
theorem withAmounts_answers (weight amount : Option Number.Given) :
    AnswersTo [⟨∀ g ∈ weight, ∃ x, g.value? = some x, .broken .amountTooLarge⟩,
      ⟨∀ g ∈ amount, ∃ x, g.value? = some x, .broken .amountTooLarge⟩]
      (s.withAmounts weight amount p) := by
  unfold withAmounts
  exact (written?_answers weight).bind fun _ _ => (written?_answers amount).bind fun _ _ => .done _

/-- Then there is an amount if one is given, or is there, or the weight is priced. -/
theorem amount_of_withAmounts {weight amount : Option Number.Given} {p q : Progress}
    (h : s.withAmounts weight amount p = .ok q) :
    q.amount ≠ none ↔ amount ≠ none ∨
      (weight ≠ none ∧ ∃ row, s.pricing? p.wasteCategory = some row) ∨ p.amount ≠ none := by
  have hwritten : ∀ {number : Option Number.Given} {x? : Option Float},
      written? number = .ok x? → (x? ≠ none ↔ number ≠ none) := by
    intro number x? h
    refine not_congr ⟨(written?_eq_ok h).2, ?_⟩
    rintro rfl
    exact (written?_eq_ok h).1
  obtain ⟨w, hw, h⟩ := bind_eq_ok_iff.1 h
  obtain ⟨a, ha, h⟩ := bind_eq_ok_iff.1 h
  cases h
  rw [← hwritten hw, ← hwritten ha]
  cases a with
  | some a => simp
  | none =>
    cases w with
    | none => simp
    | some w =>
      cases hband : s.band? p.wasteCategory with
      | none =>
        have hrow := s.band?_eq_none_iff.1 hband
        simp [Band.amount?, hrow]
      | some band =>
        have hrow : ∃ row, s.pricing? p.wasteCategory = some row :=
          not_not.1 fun hno => by simp [s.band?_eq_none_iff.2 hno] at hband
        simp [Band.amount?, hrow]

/-! ## Side effects -/

/-- Assigning goes through exactly on its conditions. -/
theorem assignEffect_answers :
    AnswersTo (s.dataConditions given p .assign) (s.assignEffect given p) := by
  unfold assignEffect dataConditions
  cases given.driver with
  | none => exact .refused _
  | some driver => exact (s.requireApproved_answers driver).bind fun _ _ => .done _

/-- Collecting goes through exactly on its conditions. -/
theorem collectEffect_answers (move : Move) :
    AnswersTo (s.dataConditions given p .collect) (s.collectEffect move given p) := by
  unfold collectEffect dataConditions
  cases given.weight with
  | none => exact .refused _
  | some weight =>
    refine (s.requireCategory_answers p _).bind fun _ _ => ?_
    cases hband : s.band? (collectedCategory given p) with
    | none => exact .fails (s.band?_eq_none_iff.1 hband)
    | some band =>
      refine .holds ?_ ((pricedWeight_answers weight).bind fun _ _ => .done _)
      exact not_not.1 fun hno => by simp [s.band?_eq_none_iff.2 hno] at hband

/-- Completing goes through exactly on its conditions. -/
theorem completeEffect_answers (now : Instant) :
    AnswersTo (s.dataConditions given p .complete) (s.completeEffect now given p) := by
  unfold completeEffect dataConditions
  by_cases driver : p.driver = none
  · rw [if_pos driver]
    exact .fails (by simp [driver])
  · rw [if_neg driver]
    refine .holds (Option.ne_none_iff_exists'.1 driver) ?_
    by_cases weight : given.weight = none ∧ p.weight = none
    · rw [if_pos weight]
      exact .fails (by simp [weight])
    · rw [if_neg weight]
      refine .holds (Decidable.not_and_iff_not_or_not.1 weight) ?_
      refine (s.withAmounts_answers p given.weight given.amount).bind fun q hq => ?_
      rw [← s.amount_of_withAmounts hq]
      by_cases amount : q.amount = none
      · rw [if_pos amount]
        exact .fails (by simp [amount])
      · rw [if_neg amount]
        exact .holds amount (.done _)

/-- A reason that is to be kept has to be a string. -/
theorem keptReason_answers :
    AnswersTo [⟨∀ reason ∈ given.reason, ∃ text, reason = .proper text,
      .broken .textNotEncodable⟩] (keptReason given p) := by
  unfold keptReason
  cases given.reason with
  | none => exact .holds (by simp) (.done _)
  | some reason =>
    cases reason with
    | broken text => exact .fails (by simp)
    | proper text => exact .holds (by simp) (.done _)

/-- The side effects of an action answer to the conditions of its data. -/
theorem effect_answers (now : Instant) (role : Role) (move : Move) :
    AnswersTo (s.dataConditions given p move.action) (s.effect now role move given p) := by
  obtain ⟨source, target, action, acting⟩ := move
  cases action with
  | assign => exact s.assignEffect_answers given p
  | start => exact .done _
  | collect => exact s.collectEffect_answers given p _
  | complete => exact s.completeEffect_answers given p now
  | cancel => exact (keptReason_answers given p).bind fun _ _ => .done _
  | refund => exact .done _

/-! ## Work -/

variable {s given p} {now : Instant} {actor : Actor} {action : Action} {status : Status}

/-- Under a known status, an action is planned if its rule lists the status. -/
theorem planMove_answers (role : Role) (action : Action) (known : p.status? = some status) :
    AnswersTo [⟨∃ rule, Rule.of role.acting action = some rule ∧ status ∈ rule.sources,
      .transition ⟨status, role.acting, action⟩⟩] (planMove role action p) := by
  unfold planMove Move.plan
  simp only [known]
  cases hrule : Rule.of role.acting action with
  | none => exact .fails (by simp)
  | some rule =>
    by_cases mem : status ∈ rule.sources
    · simp only [if_pos mem]
      exact .holds ⟨rule, rfl, mem⟩ (.done _)
    · simp only [if_neg mem]
      exact .fails (by simpa using mem)

/-- The record of a move answers to its conditions. -/
theorem requireRecordable_answers {move : Move} {effect : Effect}
    (own : actor.role = .driver → p.driver = some actor.id) (known : p.status? = some status)
    (hmove : planMove actor.role action p = .ok move)
    (heffect : s.effect now actor.role move given p = .ok effect) :
    AnswersTo (s.recordConditions actor action status) (requireRecordable actor move effect) := by
  obtain ⟨source, rfl, -, lawful⟩ := planMove_eq_ok_iff.1 hmove
  obtain rfl : status = move.source := Option.some.inj (known.symm.trans source)
  have hdriver := effect_driver_of_move hmove heffect
  unfold recordConditions requireRecordable
  rw [← lawful.target_eq]
  by_cases same : move.source = move.target
  · rw [if_pos same, if_neg (by simp [Move.changed, same])]
    exact .done ()
  · have changed : move.changed = true := by simp [Move.changed, same]
    rw [if_neg same, if_pos changed]
    refine (requireFits_answers actor.id).bind fun _ _ => ?_
    by_cases role : actor.role = .driver
    · rw [if_pos ⟨role, changed⟩, own role, driverWith] at hdriver
      cases found : s.drivers.find? actor.id with
      | none =>
        rw [found, Option.map_none] at hdriver
        rw [hdriver]
        exact .holds (by simp) (.done ())
      | some d =>
        rw [found, Option.map_some] at hdriver
        rw [hdriver]
        simpa [role] using requireFits_answers (d.pickupCount + move.action.pickups)
    · rw [if_neg fun h => role h.1] at hdriver
      rw [hdriver]
      exact .holds (by simp [role]) (.done ())

/-- The work of an action answers to its conditions, whenever it is done. -/
theorem perform_answers (s : Store) (now : Instant) (actor : Actor) (action : Action)
    (given : Particulars) (p : Progress) :
    AnswersTo (s.actionConditions actor action given p) (s.perform now actor action given p) := by
  unfold perform actionConditions
  by_cases other : actor.role = .driver ∧ p.driver ≠ some actor.id
  · rw [if_pos other]
    exact .fails fun own => other.2 (own other.1)
  · have own : actor.role = .driver → p.driver = some actor.id := by
      intro role
      exact Decidable.byContradiction fun hne => other ⟨role, hne⟩
    rw [if_neg other]
    refine .holds own ?_
    cases known : p.status? with
    | none =>
      have hplan : planMove actor.role action p = .error (.unknownStatus p.status) := by
        simp only [planMove, known]
      rw [hplan]
      exact .refused _
    | some status =>
      refine (planMove_answers actor.role action known).bind fun move hmove => ?_
      obtain rfl : move.action = action := (planMove_eq_ok_iff.1 hmove).2.1
      refine (s.effect_answers given p now actor.role move).bind fun effect heffect => ?_
      exact (requireRecordable_answers own known hmove heffect).bind_pure _

end Store

/-! ## Calls -/

/-- A call for an action answers to its conditions. -/
theorem World.applyAction_answers (w : World) (token : Token) (now : Instant) (actor : Actor)
    (booking : Int) (action : Action) (given : Particulars) :
    AnswersTo (w.conditions actor booking action given)
      (w.applyAction token now actor booking action given).2 := by
  unfold conditions applyAction
  by_cases free : w.LockIsFree booking
  · rw [lockedUpdate_of_free free]
    refine .holds free ?_
    unfold Store.revise
    by_cases fits : Number.fits64 booking = true
    · rw [Table.lookUp_of_fits fits]
      refine .holds fits ?_
      cases found : w.store.bookings.find? booking with
      | none => exact .refused _
      | some b =>
        have hwork := (w.store.perform_answers now actor action given b.progress).map
          fun writes => b.advance now writes.progress writes.rounded
        simp only
        generalize w.store.perform now actor action given b.progress = result at hwork ⊢
        cases result <;> exact hwork
    · rw [Table.lookUp_of_not_fits fits]
      exact .fails fits
  · rw [lockedUpdate_of_held free]
    exact .fails free

/-- An action on a booking is taken exactly if all its conditions hold, and otherwise it is refused
for the first of them that does not. -/
theorem action_taken_iff_conditions_hold (w : World) (token : Token) (now : Instant) (actor : Actor)
    (booking : Int) (action : Action) (given : Particulars) :
    let answer := (w.applyAction token now actor booking action given).2
    let conditions := w.conditions actor booking action given
    ((∃ b, answer = .ok b) ↔ ∀ c ∈ conditions, c.holds) ∧
      ∀ refusal, answer = .error refusal ↔ FailsFirst conditions refusal := by
  intro answer conditions
  have h : AnswersTo conditions answer := w.applyAction_answers token now actor booking action given
  exact ⟨h.ok_iff, fun _ => h.error_iff⟩

/-- A booking under a number beyond the store is not refused as missing, and an admin under such a
number cannot call off a booking although nothing but its record stands in the way: both break
down. -/
theorem action_with_large_number_breaks_down :
    let w := (Service.single ⟨"CREATED", none, 1, none, none, none, none⟩).world
    let large : Int := 9223372036854775808
    let admin : Actor := ⟨large, .admin⟩
    w.LockIsFree large ∧ w.store.bookings.find? large = none ∧
      (w.applyAction ⟨1⟩ ⟨1⟩ ⟨3, .admin⟩ large .cancel .none).2 =
        .error (.broken .numberTooLarge) ∧
      (∀ c ∈ w.conditions admin 1 .cancel .none, c.refusal.breakdown? = none → c.holds) ∧
      (w.applyAction ⟨1⟩ ⟨1⟩ admin 1 .cancel .none).2 = .error (.broken .numberTooLarge) := by
  intro w large admin
  have free : ∀ booking, w.LockIsFree booking := fun _ _ _ => rfl
  refine ⟨free large, by decide +kernel, by decide +kernel, ?_, by decide +kernel⟩
  have found : w.store.bookings.find? 1 =
      some (.single ⟨"CREATED", none, 1, none, none, none, none⟩) := by decide +kernel
  have known : (Booking.single ⟨"CREATED", none, 1, none, none, none, none⟩).progress.status? =
      some .created := by decide
  have moves : Status.created ≠ Action.target .cancel := by decide
  simp only [World.conditions, found, Store.actionConditions, known, Store.dataConditions,
    Store.recordConditions, if_neg moves, List.forall_mem_cons, List.cons_append, List.nil_append]
  exact ⟨fun _ => free 1, nofun, nofun, fun _ => ⟨_, rfl, by decide⟩, nofun, nofun, nofun, nofun⟩

end WastePickup
