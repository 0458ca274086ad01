import WastePickup.Proofs.Isolation

/-!
# What is advertised is accepted

A reader of a booking is told which actions are open to him. This list is read off the status when
the booking is shown; an action is checked later, under the lock, against the status of the row as
it stands then. As long as nobody changes the booking in between, the two agree for every reader and
whatever the particulars of the action are: an action that is not in the list is refused for the
status, an action that is in the list never is.

* `Action.dataRefusals`: what may be wrong with an action whose status is right.
* `perform_of_not_open`, `mem_dataRefusals_of_perform`: the two halves, for the work on a booking.
* `advertised_actions_are_accepted`: the same for whoever reads a booking and then acts on it.
-/

namespace WastePickup

/-! ## What may be wrong with the data -/

/-- The refusals of an action that do not concern the status: its driver, its weight, its category,
its price or its amounts do not do, or a number or a text cannot be kept. Whoever acts is recorded,
so that his number has to fit for every action. -/
def Action.dataRefusals : Action → List Refusal
  | assign => [.driverRequired, .driverNotFound, .driverNotApproved, .broken .numberTooLarge]
  | start | refund => [.broken .numberTooLarge]
  | collect => [.weightRequired, .categoryNotFound, .pricingMissing, .broken .amountTooLarge,
      .broken .numberTooLarge]
  | complete => [.driverMissing, .amountMissing, .broken .amountTooLarge, .broken .numberTooLarge]
  | cancel => [.broken .textNotEncodable, .broken .numberTooLarge]

/-- None of them concerns the status. -/
theorem Action.transition_notMem_dataRefusals (action : Action) (refusal : TransitionRefusal) :
    .transition refusal ∉ action.dataRefusals := by
  cases action <;> simp [dataRefusals]

/-- Any action may break down over a number that is too large. -/
theorem Action.numberTooLarge_mem_dataRefusals (action : Action) :
    .broken .numberTooLarge ∈ action.dataRefusals := by
  cases action <;> simp [dataRefusals]

namespace Store

variable {s : Store} {now : Instant} {actor : Actor} {given : Particulars} {p : Progress}
  {refusal : Refusal}

/-- A number that is to be written breaks down only if it is beyond all floats. -/
theorem written?_eq_error {number : Option Number.Given} (h : written? number = .error refusal) :
    refusal = .broken .amountTooLarge := by
  unfold written? at h
  split at h
  · cases h
  · rename_i g
    unfold written at h
    split at h
    · cases h
      rfl
    · cases h

/-- So do amounts that are to be written. -/
theorem withAmounts_eq_error {weight amount : Option Number.Given}
    (h : s.withAmounts weight amount p = .error refusal) : refusal = .broken .amountTooLarge := by
  unfold withAmounts at h
  rcases bind_eq_error_iff.1 h with hw | ⟨w, -, h⟩
  · exact written?_eq_error hw
  · rcases bind_eq_error_iff.1 h with ha | ⟨a, -, h⟩
    · exact written?_eq_error ha
    · cases h

/-- A driver who cannot be assigned is refused for what an assignment is refused for. -/
theorem requireApproved_eq_error {driver : Int} (h : s.requireApproved driver = .error refusal) :
    refusal ∈ Action.assign.dataRefusals := by
  unfold requireApproved at h
  split at h
  · rename_i hlook
    cases h
    rw [Table.lookUp_eq_error hlook]
    exact Action.numberTooLarge_mem_dataRefusals .assign
  · cases h
    simp [Action.dataRefusals]
  · split at h
    · cases h
    · cases h
      simp [Action.dataRefusals]

/-- An assignment is refused only for its data. -/
theorem assignEffect_eq_error (h : s.assignEffect given p = .error refusal) :
    refusal ∈ Action.assign.dataRefusals := by
  unfold assignEffect at h
  split at h
  · cases h
    simp [Action.dataRefusals]
  · rcases bind_eq_error_iff.1 h with happroved | ⟨-, -, h⟩
    · exact requireApproved_eq_error happroved
    · cases h

/-- A category that cannot be priced is refused for what a collection is refused for. -/
theorem requireCategory_eq_error {category : Int}
    (h : s.requireCategory category p = .error refusal) :
    refusal ∈ Action.collect.dataRefusals := by
  unfold requireCategory at h
  split at h
  · cases h
  · split at h
    · rename_i hlook
      cases h
      rw [Table.lookUp_eq_error hlook]
      exact Action.numberTooLarge_mem_dataRefusals .collect
    · cases h
      simp [Action.dataRefusals]
    · cases h

/-- So is a weight that cannot be priced. -/
theorem pricedWeight_eq_error {weight : Number.Given} (h : pricedWeight weight = .error refusal) :
    refusal ∈ Action.collect.dataRefusals := by
  unfold pricedWeight at h
  split at h
  · cases h
  · cases h
    split <;> simp [Action.dataRefusals]

/-- A collection is refused only for its data. -/
theorem collectEffect_eq_error {m : Move} (h : s.collectEffect m given p = .error refusal) :
    refusal ∈ Action.collect.dataRefusals := by
  unfold collectEffect at h
  split at h
  · cases h
    simp [Action.dataRefusals]
  · rcases bind_eq_error_iff.1 h with hcategory | ⟨-, -, h⟩
    · exact requireCategory_eq_error hcategory
    · split at h
      · cases h
        simp [Action.dataRefusals]
      · rcases bind_eq_error_iff.1 h with hweight | ⟨w, -, h⟩
        · exact pricedWeight_eq_error hweight
        · cases h

/-- A completion is refused only for its data. -/
theorem completeEffect_eq_error (h : s.completeEffect now given p = .error refusal) :
    refusal ∈ Action.complete.dataRefusals := by
  unfold completeEffect at h
  split at h
  · cases h
    simp [Action.dataRefusals]
  · split at h
    · cases h
      simp [Action.dataRefusals]
    · rcases bind_eq_error_iff.1 h with hamounts | ⟨q, -, h⟩
      · rw [withAmounts_eq_error hamounts]
        simp [Action.dataRefusals]
      · split at h
        · cases h
          simp [Action.dataRefusals]
        · cases h

/-- A reason breaks down only if it is no string. -/
theorem keptReason_eq_error (h : keptReason given p = .error refusal) :
    refusal = .broken .textNotEncodable := by
  unfold keptReason at h
  split at h
  · cases h
  · cases h
    rfl
  · cases h

/-- A cancellation is refused only for its data. -/
theorem cancelEffect_eq_error {role : Role} (h : s.cancelEffect role given p = .error refusal) :
    refusal ∈ Action.cancel.dataRefusals := by
  rcases bind_eq_error_iff.1 h with hreason | ⟨reason, -, h⟩
  · rw [keptReason_eq_error hreason]
    simp [Action.dataRefusals]
  · cases h

/-- The side effects of an action fail for its data only. -/
theorem effect_eq_error {role : Role} {m : Move}
    (h : s.effect now role m given p = .error refusal) :
    refusal ∈ m.action.dataRefusals := by
  obtain ⟨source, target, action, acting⟩ := m
  cases action with
  | assign => exact assignEffect_eq_error h
  | start => cases h
  | collect => exact collectEffect_eq_error h
  | complete => exact completeEffect_eq_error h
  | cancel => exact cancelEffect_eq_error h
  | refund => cases h

/-- What cannot be recorded holds a number that does not fit. -/
theorem requireRecordable_eq_error {m : Move} {e : Effect}
    (h : requireRecordable actor m e = .error refusal) : refusal = .broken .numberTooLarge := by
  unfold requireRecordable at h
  split at h
  · rcases bind_eq_error_iff.1 h with hactor | ⟨-, -, h⟩
    · exact requireFits_eq_error hactor
    · split at h
      · cases h
      · exact requireFits_eq_error h
  · cases h

/-! ## The two halves -/

section Halves

variable {status : Status} {action : Action}

/-- An action that is not open is refused for the status, whatever its particulars are. -/
theorem perform_of_not_open (mine : actor.role = .driver → p.driver = some actor.id)
    (known : p.status? = some status) (closed : action ∉ status.allowedActions actor.role) :
    s.perform now actor action given p =
      .error (.transition ⟨status, actor.role.acting, action⟩) := by
  have hplan : Move.plan status actor.role action =
      .error ⟨status, actor.role.acting, action⟩ := by
    have hnone : ¬∃ m, Move.plan status actor.role action = .ok m := by
      rw [Move.plan_isOk_iff, ← Status.mem_allowedActions_iff]
      exact closed
    unfold Move.plan at hnone ⊢
    split
    · rfl
    · rename_i rule hrule
      rw [if_neg]
      intro hmem
      exact hnone ⟨_, by rw [hrule]; exact if_pos hmem⟩
  have hmine : ¬(actor.role = .driver ∧ p.driver ≠ some actor.id) := fun h => h.2 (mine h.1)
  unfold perform planMove
  rw [if_neg hmine, known]
  simp only [hplan]
  rfl

/-- An action that is open is refused for its data only. -/
theorem mem_dataRefusals_of_perform (mine : actor.role = .driver → p.driver = some actor.id)
    (known : p.status? = some status) (isOpen : action ∈ status.allowedActions actor.role)
    (h : s.perform now actor action given p = .error refusal) : refusal ∈ action.dataRefusals := by
  obtain ⟨m, hm⟩ := Move.plan_isOk_iff.2 (Status.mem_allowedActions_iff.1 isOpen)
  have hplan : planMove actor.role action p = .ok m := by
    unfold planMove
    rw [known]
    simp only [hm]
    rfl
  have haction : m.action = action := (planMove_eq_ok_iff.1 hplan).2.1
  have hmine : ¬(actor.role = .driver ∧ p.driver ≠ some actor.id) := fun h => h.2 (mine h.1)
  unfold perform at h
  rw [if_neg hmine] at h
  rcases bind_eq_error_iff.1 h with hrefused | ⟨m', hm', h⟩
  · rw [hplan] at hrefused
    cases hrefused
  obtain rfl : m = m' := Except.ok.inj (hplan.symm.trans hm')
  rcases bind_eq_error_iff.1 h with heffect | ⟨e, -, h⟩
  · exact haction ▸ effect_eq_error heffect
  rcases bind_eq_error_iff.1 h with hrecord | ⟨-, -, h⟩
  · rw [requireRecordable_eq_error hrecord]
    exact action.numberTooLarge_mem_dataRefusals
  · cases h

end Halves

end Store

/-! ## Readers who act -/

/-- The command with which somebody looks at one booking: drivers have one of their own. -/
def Actor.looksAt (actor : Actor) (booking : Int) : Command :=
  if actor.role = .driver then .oneDuty booking else .oneBooking booking

namespace Booking

variable {b : Booking} {actor : Actor}

/-- The bookings of a driver are those in his hands. -/
theorem driver_of_isOf (own : b.isOf actor = true) (isDriver : actor.role = .driver) :
    b.progress.driver = some actor.id := by
  simpa [isOf, isDriver] using own

end Booking

/-- Whoever a booking is open to is shown it in his role. -/
theorem Command.run_looksAt {w : World} {token : Token} {now : Instant} {actor : Actor}
    {booking : Int} {b : Booking} {status : Status}
    (found : w.store.bookings.lookUp booking = .ok (some b)) (known : b.status? = some status)
    (own : b.isOf actor = true) :
    (actor.looksAt booking).run w token now actor =
      (w, .ok (.booking (.ofStatus actor.role b status))) := by
  have hview : (BookingView.of actor.role b).map Answer.booking =
      .ok (.booking (.ofStatus actor.role b status)) := by
    rw [BookingView.of, known]
    rfl
  unfold Actor.looksAt
  split
  · rename_i isDriver
    have hmine := Booking.driver_of_isOf own isDriver
    simp only [run, World.reading, Store.bookingView, found]
    simp only [bind, Except.bind, hmine, decide_true, if_true, hview]
  · rename_i notDriver
    have hsees : (actor.role.isAdmin || decide (b.pickup.user = actor.id)) = true := by
      obtain ⟨id, role⟩ := actor
      cases role with
      | customer =>
        have hcustomer : b.pickup.user = id := by simpa [Booking.isOf] using own
        simp [hcustomer]
      | driver => exact absurd rfl notDriver
      | admin => rfl
      | superAdmin => rfl
    simp only [run, World.reading, Store.bookingView, found]
    simp only [bind, Except.bind, hsees, if_true, hview]

/-- Somebody who may see a booking in a known status is told which actions are open to him. Under a
free lock, exactly the other actions are refused for the status, whatever is given with them, and
nothing is stored then. An action that he is told of is refused for its data only, if at all. -/
theorem advertised_actions_are_accepted (w : World) (actor : Actor) {booking : Int} {b : Booking}
    {status : Status} (found : w.store.bookings.lookUp booking = .ok (some b))
    (known : b.status? = some status) (free : w.LockIsFree booking) (own : b.isOf actor = true) :
    let view := BookingView.ofStatus actor.role b status
    (∀ token now, (actor.looksAt booking).run w token now actor = (w, .ok (.booking view))) ∧
      ∀ token now action given,
        let result := w.applyAction token now actor booking action given
        ((∃ refusal, result.2 = .error (.transition refusal)) ↔ action ∉ view.allowedActions) ∧
          (action ∉ view.allowedActions →
            result = (w, .error (.transition ⟨status, actor.role.acting, action⟩))) ∧
          (action ∈ view.allowedActions →
            ∀ refusal, result.2 = .error refusal → refusal ∈ action.dataRefusals) := by
  intro view
  refine ⟨fun token now => Command.run_looksAt found known own, ?_⟩
  intro token now action given result
  have hresult : result = w.lockedUpdate token now actor booking
      fun s p => s.perform now actor action given p := rfl
  rw [World.lockedUpdate_of_free free] at hresult
  have mine := Booking.driver_of_isOf own
  have hrefused : action ∉ view.allowedActions →
      result = (w, .error (.transition ⟨status, actor.role.acting, action⟩)) := by
    intro closed
    have hwork : w.store.perform now actor action given b.progress =
        .error (.transition ⟨status, actor.role.acting, action⟩) :=
      Store.perform_of_not_open mine known closed
    simp only [hresult, Store.revise, found, hwork]
  have hopen : action ∈ view.allowedActions →
      ∀ refusal, result.2 = .error refusal → refusal ∈ action.dataRefusals := by
    intro isOpen refusal h
    simp only [hresult, Store.revise, found] at h
    split at h
    · rename_i hwork
      cases h
      exact Store.mem_dataRefusals_of_perform mine known isOpen hwork
    · cases h
  refine ⟨⟨?_, ?_⟩, hrefused, hopen⟩
  · rintro ⟨refusal, h⟩ isOpen
    exact action.transition_notMem_dataRefusals refusal (hopen isOpen _ h)
  · intro closed
    exact ⟨_, by rw [hrefused closed]⟩

/-- A driver whose booking has just been assigned to him is told that he may start and cancel it. He
cannot collect it, whatever he gives. -/
theorem assigned_booking_is_started_first :
    let b := Booking.single ⟨"ASSIGNED", some 7, 1, none, none, none, none⟩
    let w := (Service.single b.progress).world
    let driver : Actor := ⟨7, .driver⟩
    (BookingView.ofStatus .driver b .assigned).allowedActions = [.start, .cancel] ∧
      ∀ token now given, w.applyAction token now driver 1 .collect given =
        (w, .error (.transition ⟨.assigned, .driver, .collect⟩)) := by
  intro b w driver
  have told : (BookingView.ofStatus .driver b .assigned).allowedActions = [.start, .cancel] := by
    decide
  refine ⟨told, fun token now given => ?_⟩
  have found : w.store.bookings.lookUp 1 = .ok (some b) := rfl
  have known : b.status? = some .assigned := by decide
  have free : w.LockIsFree 1 := fun _ _ => rfl
  have h := (advertised_actions_are_accepted w driver found known free (by decide)).2
  obtain ⟨-, refused, -⟩ := h token now .collect given
  apply refused
  rw [show driver.role = .driver from rfl, told]
  decide

end WastePickup
