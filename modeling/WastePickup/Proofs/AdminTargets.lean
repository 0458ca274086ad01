import WastePickup.Proofs.Alike
import WastePickup.Proofs.Change

/-!
# An admin's form and the endpoints for single actions

An admin may name the status that a booking should have instead of the action. The form is decided
on before the lock is taken, and carried out in three stages. Still it comes to the same as the
endpoint of the action: whatever is in the way of the action is found with the same words, if not in
the same place, and where the action goes through, nothing is left for the later stages. The driver
that the form names has been assigned, and completing has put the amounts in.

* `Store.adminWork_eq_perform`: after its action, an update has nothing left to do.
* `Command.run_updateAsAdmin`: deciding on a form and carrying it out comes to its action.
* `admin_form_agrees`: the form and the endpoint of its action are answered alike.
-/

namespace WastePickup

/-! ## The later stages have nothing to do -/

namespace Store

variable {s : Store} {now : Instant} {actor : Actor} {p : Progress} {v : Writes}
  {given : Particulars}

/-- An assignment leaves the driver that it was given. -/
theorem perform_assign_driver (h : s.perform now actor .assign given p = .ok v) :
    v.progress.driver = given.driver := by
  obtain ⟨-, m, e, hm, he, -, rfl⟩ := perform_eq_ok_iff.1 h
  obtain ⟨-, haction, -, -⟩ := planMove_eq_ok_iff.1 hm
  rw [effect, haction] at he
  replace he : s.assignEffect given p = .ok e := he
  unfold assignEffect at he
  split at he
  · cases he
  · rename_i driver hdriver
    obtain ⟨⟨⟩, -, he⟩ := bind_eq_ok_iff.1 he
    cases he
    exact hdriver.symm

/-- Only weights and amounts are rounded. -/
theorem perform_rounded {action : Action} (h : s.perform now actor action given p = .ok v)
    (collects : action ≠ .collect) (amounts : action = .complete ∨
      given.weight = none ∧ given.amount = none) :
    v.rounded = (isRounded given.weight || isRounded given.amount) := by
  obtain ⟨-, m, e, hm, he, -, rfl⟩ := perform_eq_ok_iff.1 h
  obtain ⟨-, haction, -, -⟩ := planMove_eq_ok_iff.1 hm
  rw [effect, haction] at he
  have hnone : action ≠ .complete → (isRounded given.weight || isRounded given.amount) = false := by
    intro incomplete
    obtain ⟨hweight, hamount⟩ := amounts.resolve_left incomplete
    simp [hweight, hamount, isRounded]
  cases action with
  | collect => exact absurd rfl collects
  | complete =>
    replace he : s.completeEffect now given p = .ok e := he
    unfold completeEffect at he
    split at he
    · cases he
    · split at he
      · cases he
      · obtain ⟨q, -, he⟩ := bind_eq_ok_iff.1 he
        split at he
        · cases he
        · cases he
          rfl
  | assign =>
    replace he : s.assignEffect given p = .ok e := he
    unfold assignEffect at he
    split at he
    · cases he
    · obtain ⟨⟨⟩, -, he⟩ := bind_eq_ok_iff.1 he
      cases he
      exact (hnone (by simp)).symm
  | cancel =>
    obtain ⟨reason, -, he⟩ := bind_eq_ok_iff.1 he
    cases he
    exact (hnone (by simp)).symm
  | start | refund =>
    cases he
    exact (hnone (by simp)).symm

/-- After its action, an update has nothing left to do if the driver that it names is there and the
amounts have been put in. -/
theorem adminWork_eq_perform {request : AdminRequest} {action : Action}
    (asked : request.action = some action) (given_eq : given =
      ⟨request.driver, request.weight, request.amount, none, none⟩)
    (driver : request.driver = none ∨ action = .assign) (collects : action ≠ .collect)
    (amounts : action = .complete ∨ request.weight = none ∧ request.amount = none) :
    s.adminWork now actor request p = s.perform now actor action given p := by
  subst given_eq
  cases hv : s.perform now actor action
      ⟨request.driver, request.weight, request.amount, none, none⟩ p with
  | error refusal => simp [adminWork, adminAction, asked, hv, bind, Except.bind]
  | ok v =>
    rw [adminWork_eq_ok_iff]
    refine ⟨v, v.progress, v.progress, by simpa only [adminAction, asked], ?_, ?_, ?_⟩
    · refine swapDriver_eq_ok_iff.2 (.inl ⟨?_, rfl⟩)
      rcases driver with hnone | rfl
      · exact .inl hnone
      · exact .inr (perform_assign_driver hv)
    · split
      · rfl
      · rename_i incomplete
        refine correctAmounts_eq_ok_iff.2 (.inl ?_)
        rcases amounts with rfl | ⟨hweight, hamount⟩
        · exact absurd asked incomplete
        · exact ⟨hweight, hamount, rfl⟩
    · rw [← perform_rounded hv collects amounts]

end Store

/-! ## Deciding on a form and carrying it out -/

namespace World

variable {w : World} {token : Token} {now : Instant} {actor : Actor} {booking : Int}

/-- An update depends on what its work comes to on the booking as it stands. -/
theorem lockedUpdate_congr {work work' : Work}
    (h : ∀ b, w.store.bookings.find? booking = some b →
      work w.store b.progress = work' w.store b.progress) :
    w.lockedUpdate token now actor booking work =
      w.lockedUpdate token now actor booking work' := by
  have hrevise : w.store.revise now actor booking work =
      w.store.revise now actor booking work' := by
    unfold Store.revise
    split
    · rfl
    · rfl
    · rename_i b hb
      rw [h b (Table.lookUp_eq_ok_iff.1 hb).2]
  simp only [lockedUpdate, hrevise]

end World

/-- Before the lock is taken, a form is refused for what stands in the way of its action. -/
theorem AdminForm.revise_of_decide_error {s : Store} (now : Instant) {actor : Actor} {booking : Int}
    {form : AdminForm} {refusal : Refusal} (h : form.decide s booking = .error refusal)
    (name : requireCurrentName form.status = .ok ())
    (decided : ∀ b status, s.bookings.find? booking = some b → b.status? = some status →
      ∃ action, form.action? status = .ok action)
    (role : actor.role ≠ .driver) (action : Action) (given : Particulars) :
    s.revise now actor booking (fun s p => s.perform now actor action given p) =
      (s, .error refusal) := by
  unfold Store.revise
  simp only [decide, name, bind, Except.bind] at h
  cases hb : s.bookings.lookUp booking with
  | error other =>
    rw [hb] at h
    cases h
    rfl
  | ok found =>
    rw [hb] at h
    cases found with
    | none =>
      cases h
      rfl
    | some b =>
      cases hs : b.status? with
      | none =>
        simp only [hs] at h
        cases h
        have hplan : Store.planMove actor.role action b.progress =
            .error (.unknownStatus b.progress.status) := by
          simp only [Store.planMove, show b.progress.status? = none from hs]
        simp only [Store.perform, role, false_and, if_false, hplan, bind, Except.bind]
      | some status =>
        obtain ⟨chosen, hchosen⟩ := decided b status (Table.lookUp_eq_ok_iff.1 hb).2 hs
        simp only [hs, hchosen] at h
        cases h

/-- Deciding on a form and carrying it out comes to its action, under a lock that is free. -/
theorem Command.run_updateAsAdmin {w : World} {token : Token} {now : Instant} {actor : Actor}
    {booking : Int} {form : AdminForm} {action : Action} (free : w.LockIsFree booking)
    (isAdmin : actor.role.isAdmin = true) (name : requireCurrentName form.status = .ok ())
    (decided : ∀ b status, w.store.bookings.find? booking = some b → b.status? = some status →
      form.action? status = .ok (some action))
    (driver : form.driver = none ∨ action = .assign) (collects : action ≠ .collect)
    (amounts : action = .complete ∨ form.weight = none ∧ form.amount = none) :
    (updateAsAdmin booking form).run w token now actor =
      World.shown actor.role (w.applyAction token now actor booking action
        ⟨form.driver, form.weight.map .float, form.amount.map .float, none, none⟩) := by
  have role : actor.role ≠ .driver := by
    rintro hrole
    rw [hrole] at isAdmin
    cases isAdmin
  simp only [run]
  cases hdecide : form.decide w.store booking with
  | error refusal =>
    have hrevise := AdminForm.revise_of_decide_error now hdecide name
      (fun b status found known => ⟨some action, decided b status found known⟩) role action
      ⟨form.driver, form.weight.map .float, form.amount.map .float, none, none⟩
    rw [World.applyAction, World.lockedUpdate_of_free free, hrevise]
    rfl
  | ok request =>
    obtain ⟨-, b, status, chosen, hb, known, hchosen, rfl⟩ :=
      AdminForm.decide_eq_ok_iff.1 hdecide
    have hfound := (Table.lookUp_eq_ok_iff.1 hb).2
    obtain rfl : some action = chosen :=
      Except.ok.inj ((decided b status hfound known).symm.trans hchosen)
    simp only [World.updateAsAdmin, isAdmin, if_true]
    refine congrArg _ (World.lockedUpdate_congr fun b' _ => ?_)
    refine Store.adminWork_eq_perform rfl rfl driver collects ?_
    rcases amounts with hcomplete | ⟨hweight, hamount⟩
    · exact .inl hcomplete
    · exact .inr ⟨by simp [hweight], by simp [hamount]⟩

/-! ## What a form stands for -/

/-- The members of an admin's form that an object has. -/
structure AdminForm.Members (o : Json.Object) (status driver weight amount : Option Json) :
    Prop where
  status : o.get? "status" = status
  driver : o.get? "driver_id" = driver
  weight : o.get? "actual_weight_kg" = weight
  amount : o.get? "final_amount_lkr" = amount

/-- A booking is not in a status: it is in another one, in none that is known, or not there. -/
def Store.IsAwayFrom (s : Store) (booking : Int) (status : Status) : Prop :=
  ∀ b, s.bookings.find? booking = some b → b.status? ≠ some status

/-- The endpoint of a single action that an admin's form stands for, and the bodies for it that say
the same as the form. -/
inductive Store.StandsFor (s : Store) (booking : Int) : Json.Object → Endpoint → Body → Prop where
  | assign {o o' : Json.Object} {driver : Json}
      (form : AdminForm.Members o (some (.str "ASSIGNED")) (some driver) none none)
      (given : driver ≠ .null) (same : o'.get? "driver_id" = some driver)
      (away : s.IsAwayFrom booking .assigned) : StandsFor s booking o .assign (.value (.obj o'))
  /-- On a new booking, a driver alone is an assignment. -/
  | assignNew {o o' : Json.Object} {driver : Json} {b : Booking}
      (form : AdminForm.Members o none (some driver) none none)
      (given : driver ≠ .null) (same : o'.get? "driver_id" = some driver)
      (found : s.bookings.find? booking = some b) (created : b.status? = some .created) :
      StandsFor s booking o .assign (.value (.obj o'))
  | complete {o o' : Json.Object} {weight amount : Option Json}
      (form : AdminForm.Members o (some (.str "COMPLETED")) none weight amount)
      (sameWeight : o'.get? "actual_weight_kg" = weight)
      (sameAmount : o'.get? "final_amount_lkr" = amount)
      (away : s.IsAwayFrom booking .completed) :
      StandsFor s booking o .complete (.value (.obj o'))
  /-- A form gives no reason. -/
  | cancel {o : Json.Object} {body : Body} {given : Option CancelForm}
      (form : AdminForm.Members o (some (.str "CANCELLED")) none none none)
      (reads : Endpoint.inOptionalBody CancelForm body = .ok given)
      (silent : given.bind CancelForm.reason = none) (away : s.IsAwayFrom booking .cancelled) :
      StandsFor s booking o .cancelAsAdmin body
  /-- Nothing is asked of the body of a refund. -/
  | refund {o : Json.Object} {body : Body}
      (form : AdminForm.Members o (some (.str "REFUNDED")) none none none)
      (away : s.IsAwayFrom booking .refunded) : StandsFor s booking o .refund body

/-! ## Reading the form -/

namespace AdminForm

variable {o o' : Json.Object}

/-- The form that a body gives, once its status has been read. -/
theorem inBody_eq {status : Option StoredStatus} (h : statusField.read o = .ok status) :
    Endpoint.inBody AdminForm (.value (.obj o)) =
      ((((driverField.read o).map (mk status)).seq (weightField.read o)).seq
        (amountField.read o)).under (.field "body") := by
  change Checked.under _ ((((statusField.read o).map mk).seq (driverField.read o)).seq
    (weightField.read o) |>.seq (amountField.read o)) = _
  rw [h]
  rfl

/-- A form that names another status than the booking has asks for the action that leads there. -/
theorem action?_of_target {form : AdminForm} {status : StoredStatus} {current : Status}
    {action : Action} {b : Booking} (leads : status.canonical.adminActionTo? = some action)
    (away : b.status? ≠ some status.canonical) (known : b.status? = some current)
    (named : form.status = some status) : form.action? current = .ok (some action) := by
  have hne : status.canonical ≠ current := fun heq => away (heq ▸ known)
  simp only [action?, named, hne, if_false, leads]

/-- A form that names a driver beside a status, or a driver alone. -/
theorem inBody_of_driver {status : Option StoredStatus} {driver : Json}
    (read : statusField.read o = .ok status) (given : driver ≠ .null)
    (hdriver : o.get? "driver_id" = some driver) (hweight : o.get? "actual_weight_kg" = none)
    (hamount : o.get? "final_amount_lkr" = none) (same : o'.get? "driver_id" = some driver) :
    Endpoint.inBody AdminForm (.value (.obj o)) =
      ((AssignForm.driverField.read o').under (.field "body")).map fun id =>
        ⟨status, some id, none, none⟩ := by
  have hread : driverField.read o = (AssignForm.driverField.read o').map some :=
    Field.read_optional_of_some hdriver same given
  have hweight : weightField.read o = .ok none := Field.read_optional_of_none hweight
  have hamount : amountField.read o = .ok none := Field.read_optional_of_none hamount
  rw [inBody_eq read, hread, hweight, hamount, Checked.seq_ok, Checked.seq_ok]
  cases AssignForm.driverField.read o' <;> rfl

/-- A form that names a status beside the amounts. -/
theorem inBody_of_amounts {status : Option StoredStatus}
    (read : statusField.read o = .ok status) (hdriver : o.get? "driver_id" = none)
    (hweight : o'.get? "actual_weight_kg" = o.get? "actual_weight_kg")
    (hamount : o'.get? "final_amount_lkr" = o.get? "final_amount_lkr") :
    Endpoint.inBody AdminForm (.value (.obj o)) =
      (Endpoint.inBody SettleForm (.value (.obj o'))).map fun form =>
        ⟨status, none, form.weight, form.amount⟩ := by
  have hread : driverField.read o = .ok none := Field.read_optional_of_none hdriver
  have hweight : weightField.read o = SettleForm.weightField.read o' :=
    Field.read_congr hweight.symm
  have hamount : amountField.read o = SettleForm.amountField.read o' :=
    Field.read_congr hamount.symm
  rw [inBody_eq read, hread, hweight, hamount]
  change _ = (Checked.under _ (((SettleForm.weightField.read o').map SettleForm.mk).seq
    (SettleForm.amountField.read o'))).map _
  cases SettleForm.weightField.read o' <;> cases SettleForm.amountField.read o' <;> rfl

end AdminForm

/-! ## Reading the commands -/

namespace Endpoint

variable {number : String} {booking : Int} {query : Json.Object} {body : Body}

/-- The form of an admin is read from the body alone, once the booking is. -/
theorem read_updateAsAdmin (reads : inPath bookingField number = .ok booking) :
    updateAsAdmin.read number query body =
      (inBody AdminForm body).map (Command.updateAsAdmin booking) :=
  Checked.map_seq_of_ok reads Command.updateAsAdmin (inBody AdminForm body)

/-- The form of an assignment is read from the body alone, once the booking is. -/
theorem read_assign (reads : inPath bookingField number = .ok booking) :
    assign.read number query body = (inBody AssignForm body).map (Command.assign booking) :=
  Checked.map_seq_of_ok reads Command.assign (inBody AssignForm body)

/-- The form of a completion may be missing. -/
theorem read_complete (reads : inPath bookingField number = .ok booking) :
    complete.read number query body =
      (inOptionalBody SettleForm body).map (Command.complete booking) :=
  Checked.map_seq_of_ok reads Command.complete (inOptionalBody SettleForm body)

/-- The form of an admin's cancellation may be missing. -/
theorem read_cancelAsAdmin (reads : inPath bookingField number = .ok booking) :
    cancelAsAdmin.read number query body =
      (inOptionalBody CancelForm body).map (Command.cancelAsAdmin booking) :=
  Checked.map_seq_of_ok reads Command.cancelAsAdmin (inOptionalBody CancelForm body)

/-- A refund needs no more than the booking. -/
theorem read_refund (reads : inPath bookingField number = .ok booking) :
    refund.read number query body = .ok (.refund booking) := by
  change (inPath bookingField number).map Command.refund = _
  rw [reads]
  rfl

end Endpoint

namespace Service

variable {world : World} {token : Token} {now : Instant} {actor : Actor} {number : String}
  {booking : Int} {query query' : Json.Object} {o o' : Json.Object} {body : Body}

/-- A form that assigns a driver and the assignment are concluded alike. -/
theorem conclude_assign {driver : Json} {named : Option Json} {status : Option StoredStatus}
    (reads : Endpoint.inPath Endpoint.bookingField number = .ok booking)
    (free : world.LockIsFree booking) (isAdmin : actor.role.isAdmin = true)
    (form : AdminForm.Members o named (some driver) none none) (given : driver ≠ .null)
    (same : o'.get? "driver_id" = some driver) (read : AdminForm.statusField.read o = .ok status)
    (name : requireCurrentName status = .ok ())
    (decided : ∀ b current, world.store.bookings.find? booking = some b →
      b.status? = some current → ∀ id, (⟨status, some id, none, none⟩ : AdminForm).action? current =
        .ok (some .assign)) :
    conclude world token now actor (.value (.obj o))
        (Endpoint.updateAsAdmin.read number query (.value (.obj o))) =
      conclude world token now actor (.value (.obj o'))
        (Endpoint.assign.read number query' (.value (.obj o'))) := by
  have hassign : Endpoint.inBody AssignForm (.value (.obj o')) =
      ((AssignForm.driverField.read o').under (.field "body")).map AssignForm.mk :=
    Checked.under_map AssignForm.mk (AssignForm.driverField.read o') (.field "body")
  rw [Endpoint.read_updateAsAdmin reads, Endpoint.read_assign reads, hassign,
    AdminForm.inBody_of_driver read given form.driver form.weight form.amount same,
    Checked.map_map, Checked.map_map]
  refine conclude_map_congr (fun id _ => ?_) (Checked.repeats_under_body fun issue hissue => ?_)
  · exact Command.run_updateAsAdmin free isAdmin name
      (fun b current found known => decided b current found known id) (.inr rfl) (by simp)
      (.inr ⟨rfl, rfl⟩)
  · have hplace := Field.place_of_issue (Kind.isPlain_whole none none)
      (.inl (by rw [AssignForm.driverField, Field.required, same]; rfl)) hissue
    exact ⟨"driver_id", hplace.1, hplace.2, form.driver.trans same.symm⟩

/-- A form that completes a booking and the completion are concluded alike. -/
theorem conclude_complete {weight amount : Option Json}
    (reads : Endpoint.inPath Endpoint.bookingField number = .ok booking)
    (free : world.LockIsFree booking) (isAdmin : actor.role.isAdmin = true)
    (form : AdminForm.Members o (some (.str "COMPLETED")) none weight amount)
    (sameWeight : o'.get? "actual_weight_kg" = weight)
    (sameAmount : o'.get? "final_amount_lkr" = amount)
    (away : world.store.IsAwayFrom booking .completed) :
    conclude world token now actor (.value (.obj o))
        (Endpoint.updateAsAdmin.read number query (.value (.obj o))) =
      conclude world token now actor (.value (.obj o'))
        (Endpoint.complete.read number query' (.value (.obj o'))) := by
  have hread : AdminForm.statusField.read o = .ok (some .completed) :=
    Field.read_optional_choice form.status (by decide)
  have hweight := sameWeight.trans form.weight.symm
  have hamount := sameAmount.trans form.amount.symm
  have hsettle : Endpoint.inOptionalBody SettleForm (.value (.obj o')) =
      (Endpoint.inBody SettleForm (.value (.obj o'))).map some := rfl
  rw [Endpoint.read_updateAsAdmin reads, Endpoint.read_complete reads, hsettle,
    AdminForm.inBody_of_amounts hread form.driver hweight hamount, Checked.map_map,
    Checked.map_map]
  refine conclude_map_congr (fun settle _ => ?_) (Checked.repeats_under_body fun issue hissue => ?_)
  · exact Command.run_updateAsAdmin free isAdmin rfl
      (fun b current found known => AdminForm.action?_of_target rfl (away b found) known rfl)
      (.inl rfl) (by simp) (.inl rfl)
  · replace hissue : issue ∈ (((SettleForm.weightField.read o').map SettleForm.mk).seq
      (SettleForm.amountField.read o')).issues := hissue
    rw [Checked.issues_seq, Checked.issues_map, List.mem_append] at hissue
    rcases hissue with hissue | hissue
    · have hplace := Field.place_of_issue (Kind.isPlain_decimal (some 0.0) none).optional
        (.inr rfl) hissue
      exact ⟨"actual_weight_kg", hplace.1, hplace.2, hweight.symm⟩
    · have hplace := Field.place_of_issue (Kind.isPlain_decimal (some 0.0) none).optional
        (.inr rfl) hissue
      exact ⟨"final_amount_lkr", hplace.1, hplace.2, hamount.symm⟩

/-- A form that names a status alone is concluded like the action that leads there, taken without
particulars. -/
theorem conclude_target (status : StoredStatus) {text : String} {action : Action}
    (reads : Endpoint.inPath Endpoint.bookingField number = .ok booking)
    (free : world.LockIsFree booking) (isAdmin : actor.role.isAdmin = true)
    (form : AdminForm.Members o (some (.str text)) none none none)
    (named : Named.ofName? text = some status) (current : status.isLegacy = false)
    (leads : status.canonical.adminActionTo? = some action) (collects : action ≠ .collect)
    (away : world.store.IsAwayFrom booking status.canonical) {command : Command}
    (run : command.run world token now actor =
      World.shown actor.role (world.applyAction token now actor booking action .none)) :
    conclude world token now actor (.value (.obj o))
        (Endpoint.updateAsAdmin.read number query (.value (.obj o))) =
      conclude world token now actor body (.ok command) := by
  have hread : AdminForm.statusField.read o = .ok (some status) :=
    Field.read_optional_choice form.status named
  have hform : Endpoint.inBody AdminForm (.value (.obj o)) =
      .ok ⟨some status, none, none, none⟩ := by
    have hdriver : AdminForm.driverField.read o = .ok none :=
      Field.read_optional_of_none form.driver
    have hweight : AdminForm.weightField.read o = .ok none :=
      Field.read_optional_of_none form.weight
    have hamount : AdminForm.amountField.read o = .ok none :=
      Field.read_optional_of_none form.amount
    rw [AdminForm.inBody_eq hread, hdriver, hweight, hamount]
    rfl
  have hrun : (Command.updateAsAdmin booking ⟨some status, none, none, none⟩).run world token now
      actor = command.run world token now actor := by
    rw [run]
    refine Command.run_updateAsAdmin free isAdmin (by simp [requireCurrentName, current])
      (fun b current found known => AdminForm.action?_of_target leads (away b found) known rfl)
      (.inl rfl) collects (.inr ⟨rfl, rfl⟩)
  rw [Endpoint.read_updateAsAdmin reads, hform]
  simp only [Checked.map, conclude, hrun]

end Service

/-- Whoever is admitted to the form is an admin. -/
theorem Service.Reaches.isAdmin {service : Service} {r : Request} {number : String} {actor : Actor}
    (h : service.Reaches r .updateAsAdmin number actor) : actor.role.isAdmin = true := by
  have hadmits := h.admits
  cases hrole : actor.role with
  | customer => simp [hrole, Endpoint.roles] at hadmits
  | driver => simp [hrole, Endpoint.roles] at hadmits
  | admin => rfl
  | superAdmin => rfl

/-- An admin's form that names a status, or a driver for a new booking, and the endpoint of the
action that it stands for are answered alike, and leave the same world behind, whether the booking
is there or not and whatever is in the way. -/
theorem admin_form_agrees {service : Service} (token : Token) (now : Instant)
    (form other : Request) {o : Json.Object} {e : Endpoint} {number : String} {booking : Int}
    {actor : Actor} (reads : Endpoint.inPath Endpoint.bookingField number = .ok booking)
    (free : service.world.LockIsFree booking) (body : form.body = .value (.obj o))
    (stands : service.world.store.StandsFor booking o e other.body)
    (reaches : service.Reaches form .updateAsAdmin number actor)
    (reaches' : service.Reaches other e number actor) :
    service.AnswersAlike token now form other := by
  have isAdmin := reaches.isAdmin
  have hform := Service.result_of_reaches token now reaches (by simp) fun _ => .inl ⟨_, body⟩
  unfold Service.AnswersAlike
  generalize hother : other.body = body' at stands
  cases stands with
  | assign members given same away =>
    have hread : AdminForm.statusField.read o = .ok (some .assigned) :=
      Field.read_optional_choice members.status (by decide)
    rw [hform, Service.result_of_reaches token now reaches' (by simp) fun _ => .inl ⟨_, hother⟩,
      body, hother]
    exact Service.conclude_assign reads free isAdmin members given same hread rfl
      fun b current found known id => AdminForm.action?_of_target rfl (away b found) known rfl
  | assignNew members given same found created =>
    have hread : AdminForm.statusField.read o = .ok none :=
      Field.read_optional_of_none members.status
    rw [hform, Service.result_of_reaches token now reaches' (by simp) fun _ => .inl ⟨_, hother⟩,
      body, hother]
    refine Service.conclude_assign reads free isAdmin members given same hread rfl
      fun b current found' known id => ?_
    rw [found] at found'
    cases found'
    rw [created] at known
    cases known
    rfl
  | complete members sameWeight sameAmount away =>
    rw [hform, Service.result_of_reaches token now reaches' (by simp) fun _ => .inl ⟨_, hother⟩,
      body, hother]
    exact Service.conclude_complete reads free isAdmin members sameWeight sameAmount away
  | cancel members readsBody silent away =>
    have canRead : Endpoint.cancelAsAdmin.CanRead other.body := by
      intro _
      rw [hother]
      exact Endpoint.canRead_of_inOptionalBody readsBody
    rw [hform, Service.result_of_reaches token now reaches' (by simp) canRead, body, hother,
      Endpoint.read_cancelAsAdmin reads, readsBody]
    refine Service.conclude_target .cancelled reads free isAdmin members (by decide) rfl rfl
      (by simp) away ?_
    simp only [Command.run, silent]
    rfl
  | refund members away =>
    rw [hform, Service.result_of_reaches token now reaches' (by simp) (by simp [Endpoint.CanRead,
      Endpoint.takesBody]), body, hother, Endpoint.read_refund reads]
    exact Service.conclude_target .refunded reads free isAdmin members (by decide) rfl rfl
      (by simp) away rfl

/-- A new booking is assigned by a form, or at the endpoint. -/
theorem assigned_by_form_or_endpoint :
    let service := Service.single ⟨"SCHEDULED", none, 1, none, none, none, none⟩
    let headers := [("X-Actor-Id", "3"), ("X-Actor-Role", "SUPER_ADMIN")]
    let form : Request := ⟨"PATCH", "/api/v1/admin/bookings/1", headers,
      .value (.obj [("status", .str "ASSIGNED"), ("driver_id", .int 7)])⟩
    let other : Request := ⟨"PATCH", "/api/v1/admin/bookings/1/assign", headers,
      .value (.obj [("driver_id", .int 7)])⟩
    service.AnswersAlike ⟨1⟩ ⟨1⟩ form other ∧
      (service.serve ⟨1⟩ ⟨1⟩ other).2.toOption.map Response.code = some 200 := by
  intro service headers form other
  have caller : Service.readActor headers = .ok ⟨3, .superAdmin⟩ := by decide +kernel
  have reaches : service.Reaches form .updateAsAdmin "1" ⟨3, .superAdmin⟩ :=
    ⟨by decide +kernel, caller, by decide, by decide +kernel⟩
  have reaches' : service.Reaches other .assign "1" ⟨3, .superAdmin⟩ :=
    ⟨by decide +kernel, caller, by decide, by decide +kernel⟩
  have stands : service.world.store.StandsFor 1
      [("status", .str "ASSIGNED"), ("driver_id", .int 7)] .assign other.body := by
    refine .assign ⟨rfl, rfl, rfl, rfl⟩ (by simp) rfl fun b found => ?_
    cases found
    decide
  have reads : Endpoint.inPath Endpoint.bookingField "1" = .ok 1 := by decide
  exact ⟨admin_form_agrees ⟨1⟩ ⟨1⟩ form other reads (fun _ _ => rfl) rfl stands reaches reaches',
    by decide +kernel⟩

end WastePickup
