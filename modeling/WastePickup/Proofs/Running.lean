import WastePickup.Proofs.DriverRows

/-!
# What becomes of a running booking

A booking runs from the moment in which its driver starts it. It stops running when the driver is
done with it or when it is called off, and until then an admin may hand it over to another driver.
Nothing else that is ordered makes a booking run or stop, or changes for whom it is running.

* `Order.IsFinish`, `Order.IsCallOff`, `Order.IsHandover`: the orders that a running booking feels.
* `Order.course_of_work`: what an order can do to a running booking.
-/

namespace WastePickup

/-! ## Running bookings -/

/-- A booking is running in the hands of a driver. -/
def Progress.RunBy (p : Progress) (driver : Int) : Prop :=
  p.status? = some .inProgress ∧ p.driver = some driver

instance (p : Progress) (driver : Int) : Decidable (p.RunBy driver) :=
  inferInstanceAs (Decidable (_ ∧ _))

/-- Nobody runs a booking that is not in progress. -/
theorem Progress.not_runBy {p : Progress} (h : p.status? ≠ some .inProgress) (driver : Int) :
    ¬p.RunBy driver :=
  fun running => h running.1

/-- A booking is running for one driver at most. -/
theorem Progress.RunBy.unique {p : Progress} {driver other : Int} (h : p.RunBy driver)
    (h' : p.RunBy other) : driver = other :=
  Option.some.inj (h.2.symm.trans h'.2)

/-- Whether a booking is running depends on the status and the driver alone. -/
theorem Progress.runBy_onto {p old : Progress} {driver : Int} :
    (p.onto old).RunBy driver ↔ p.RunBy driver := Iff.rfl

/-! ## Orders on a running booking -/

namespace Order

/-- A driver is done with a booking: he collects it while it is running, or calls it off. -/
def IsFinish (order : Order) (actor : Actor) (p : Progress) : Prop :=
  actor.role = .driver ∧ (order.action? = some .cancel ∨
    order.action? = some .collect ∧ p.status? = some .inProgress)

/-- A running booking is called off, and not by its driver. -/
def IsCallOff (order : Order) (actor : Actor) (p : Progress) : Prop :=
  actor.role ≠ .driver ∧ order.action? = some .cancel ∧ p.status? = some .inProgress

/-- A running booking is given to a driver who did not have it. -/
def IsHandover (order : Order) (p : Progress) (driver : Int) : Prop :=
  order.action? = none ∧ order.given.driver = some driver ∧ p.status? = some .inProgress ∧
    p.driver ≠ some driver

section Exclusion

variable {order : Order} {actor : Actor} {p : Progress}

/-- To finish a pickup is to take an action. -/
theorem IsFinish.action?_ne_none (h : order.IsFinish actor p) : order.action? ≠ none := by
  rcases h.2 with hcancel | ⟨hcollect, -⟩
  · simp [hcancel]
  · simp [hcollect]

/-- So is to call one off. -/
theorem IsCallOff.action?_ne_none (h : order.IsCallOff actor p) : order.action? ≠ none := by
  simp [h.2.1]

end Exclusion

/-- What work on a booking can do to its running: its driver starts it or is done with it, it is
called off or handed over, or it goes on as it was, running or not. -/
inductive Course (order : Order) (actor : Actor) (p : Progress) (w : Writes) : Prop where
  | starts {m : Move} (own : w.ownMove? = some m) (action : m.action = .start)
      (asked : order.action? = some .start) (running : w.progress.RunBy actor.id) :
      Course order actor p w
  | finishes {m : Move} (own : w.ownMove? = some m) (action : m.action ≠ .start)
      (finish : order.IsFinish actor p) (idle : w.progress.status? ≠ some .inProgress) :
      Course order actor p w
  | callsOff (own : w.ownMove? = none) (callOff : order.IsCallOff actor p)
      (idle : w.progress.status? ≠ some .inProgress) : Course order actor p w
  | handsOver {taker : Int} (own : w.ownMove? = none) (handover : order.IsHandover p taker)
      (running : w.progress.RunBy taker) : Course order actor p w
  | goesOn (own : w.ownMove? = none) (finish : ¬order.IsFinish actor p)
      (callOff : ¬order.IsCallOff actor p) (handover : ∀ taker, ¬order.IsHandover p taker)
      (same : ∀ driver, w.progress.RunBy driver ↔ p.RunBy driver) : Course order actor p w

/-! ### Courses -/

section Course

variable {order : Order} {s : Store} {now : Instant} {actor : Actor} {p : Progress} {w : Writes}

/-- The action that is asked for is open where the booking stands, and settles its status. -/
theorem status?_of_asked (h : order.work now actor s p = .ok w) {action : Action}
    (asked : order.action? = some action) :
    (∃ source ∈ action.sources, p.status? = some source) ∧
      w.progress.status? = some action.target := by
  obtain ⟨q, q', hacted, hswapped, hcorrected, -⟩ := work_eq_ok h
  rcases hacted with ⟨hnone, -⟩ | hacted
  · rw [hnone] at asked
    cases asked
  · obtain ⟨asked', known, mem, -⟩ := hacted
    rename_i action' source q
    rw [asked] at asked'
    cases asked'
    refine ⟨⟨source, mem, known⟩, ?_⟩
    have hq' : q'.status? = some action.target := by
      rcases hswapped with rfl | hswapped
      · exact Status.ofStored?_name action.target
      · rw [hswapped.status?_eq]
        exact Status.ofStored?_name action.target
    rcases hcorrected with hw | hcorrected
    · rw [hw, hq']
    · rw [hcorrected.status?_eq, hq']

/-- The action that is asked for is one of the table, in the role of whoever asks. -/
theorem lawful_of_asked (h : order.work now actor s p = .ok w) {action : Action}
    (asked : order.action? = some action) :
    ∃ m : Move, m.Lawful ∧ m.action = action ∧ m.role = actor.role.acting := by
  have hplanned : ∃ given v, s.perform now actor action given p = .ok v := by
    cases order with
    | act action' given =>
      cases asked
      exact ⟨given, w, h⟩
    | update request =>
      obtain ⟨v, swapped, corrected, hv, -⟩ := Store.adminWork_eq_ok_iff.1 h
      replace asked : request.action = some action := asked
      simp only [Store.adminAction, asked] at hv
      exact ⟨_, v, hv⟩
  obtain ⟨given, v, hv⟩ := hplanned
  obtain ⟨-, m, e, hm, -⟩ := Store.perform_eq_ok_iff.1 hv
  obtain ⟨-, haction, hrole, lawful⟩ := Store.planMove_eq_ok_iff.1 hm
  exact ⟨m, lawful, haction, hrole⟩

/-- Only drivers start or collect. -/
theorem role_eq_driver (h : order.work now actor s p = .ok w)
    (asked : order.action? = some .start ∨ order.action? = some .collect) :
    actor.role = .driver := by
  have hasked : ∃ action, order.action? = some action ∧ (action = .start ∨ action = .collect) := by
    rcases asked with asked | asked
    · exact ⟨_, asked, .inl rfl⟩
    · exact ⟨_, asked, .inr rfl⟩
  obtain ⟨action, asked, haction⟩ := hasked
  obtain ⟨m, lawful, rfl, hrole⟩ := lawful_of_asked h asked
  rw [← Role.acting_eq_driver, ← hrole]
  exact lawful.role_eq_driver haction

/-- Only drivers make moves of their own. -/
theorem ownMove?_eq_none (h : order.work now actor s p = .ok w) (role : actor.role ≠ .driver) :
    w.ownMove? = none := by
  cases hown : w.ownMove? with
  | none => rfl
  | some m =>
    obtain ⟨hmove, hrole⟩ := Writes.ownMove?_eq_some_iff.1 hown
    cases follows_of_work h with
    | stays move => rw [hmove] at move; cases move
    | moves m' move lawful acting =>
      rw [hmove] at move
      cases move
      rw [hrole, eq_comm, Role.acting_eq_driver] at acting
      exact absurd acting role

/-- What comes after the action of an update leaves the running of a booking, unless it hands the
booking over. -/
theorem course_of_update {request : AdminRequest}
    (h : (Order.update request).work now actor s p = .ok w) (role : actor.role ≠ .driver)
    (action : request.action = none) : (Order.update request).Course actor p w := by
  have hown := ownMove?_eq_none h role
  obtain ⟨v, swapped, corrected, hv, hswap, hcorrect, rfl⟩ := Store.adminWork_eq_ok_iff.1 h
  simp only [Store.adminAction, action, Except.ok.injEq] at hv
  subst hv
  have hrun : ∀ driver, corrected.RunBy driver ↔ swapped.RunBy driver := by
    intro driver
    rw [if_neg (by simp [action])] at hcorrect
    rcases Store.correctAmounts_eq_ok_iff.1 hcorrect with ⟨-, -, rfl⟩ | ⟨-, -, hq⟩
    · rfl
    · obtain ⟨weight, amount, rfl⟩ := Store.withAmounts_eq_ok hq
      rfl
  have hfinish : ¬(Order.update request).IsFinish actor p := fun h => role h.1
  have hcallOff : ¬(Order.update request).IsCallOff actor p := by
    rintro ⟨-, asked, -⟩
    rw [action?, action] at asked
    cases asked
  rcases Store.swapDriver_eq_ok_iff.1 hswap with ⟨same, rfl⟩ | ⟨taker, named, other, -, -, rfl⟩
  · refine .goesOn hown hfinish hcallOff ?_ hrun
    rintro taker ⟨-, named, -, other⟩
    rcases same with none | same
    · rw [given, none] at named
      cases named
    · exact other (same.trans named)
  · by_cases running : p.status? = some .inProgress
    · exact .handsOver hown ⟨action, named, running, other⟩ ((hrun taker).2 ⟨running, rfl⟩)
    · refine .goesOn hown hfinish hcallOff (fun taker handover => running handover.2.2.1) ?_
      intro driver
      rw [hrun]
      exact iff_of_false (fun h => running h.1) (fun h => running h.1)

/-- An action that is not the driver's own calls a running booking off, or leaves it running or
not. -/
theorem course_of_others (h : order.work now actor s p = .ok w) (role : actor.role ≠ .driver)
    {action : Action} (asked : order.action? = some action) (starts : action ≠ .start)
    (collects : action ≠ .collect) : order.Course actor p w := by
  have hown := ownMove?_eq_none h role
  obtain ⟨⟨source, hsource, known⟩, target⟩ := status?_of_asked h asked
  have hidle : w.progress.status? ≠ some .inProgress := by
    rw [target]
    cases action <;> simp_all [Action.target]
  by_cases running : p.status? = some .inProgress
  · -- Of the actions that are left, only the cancellation may start where a booking is running.
    have hcancel : action = .cancel := by
      rw [known] at running
      cases running
      cases action <;> simp_all [Action.sources]
    exact .callsOff hown ⟨role, hcancel ▸ asked, running⟩ hidle
  · refine .goesOn hown (fun h => role h.1) (fun h => running h.2.2)
      (fun taker h => running h.2.2.1) fun driver => ?_
    exact iff_of_false (fun h => hidle h.1) (fun h => running h.1)

/-- A driver who acts starts the booking or is done with it, unless he corrects a collection. -/
theorem course_of_driver {action : Action} {given : Particulars}
    (h : (Order.act action given).work now actor s p = .ok w) (role : actor.role = .driver) :
    (Order.act action given).Course actor p w := by
  obtain ⟨hdriver, m, e, hm, he, -, rfl⟩ := Store.perform_eq_ok_iff.1 h
  obtain ⟨known, rfl, hrole, lawful⟩ := Store.planMove_eq_ok_iff.1 hm
  have hacting : m.role = .driver := by rw [hrole, Role.acting_eq_driver, role]
  have htarget : m.target = m.action.target := lawful.target_eq
  have hsource : m.source ∈ m.action.sources := lawful.source_mem
  rcases lawful.action_of_driver hacting with ha | ha | ha
  · have hc := lawful.changed_of_ne_collect (by simp [ha])
    refine .starts (m := m) ?_ ha (congrArg some ha) ⟨?_, ?_⟩
    · simp [Writes.ownMove?, hc, hacting]
    · simp [Progress.status?, htarget, ha, Action.target]
    · -- Starting leaves the progress as it is, and so its driver.
      simp only [Store.effect, ha] at he
      cases he
      exact hdriver role
  · have hidle : m.target ≠ .inProgress := by simp [htarget, ha, Action.target]
    rw [ha] at hsource htarget
    by_cases running : m.source = .inProgress
    · have hc : m.changed = true := by simp [Move.changed, running, hidle.symm]
      refine .finishes (m := m) ?_ (by simp [ha]) ⟨role, .inr ⟨congrArg some ha, ?_⟩⟩ ?_
      · simp [Writes.ownMove?, hc, hacting]
      · rw [known, running]
      · simpa [Progress.status?] using hidle
    · -- The booking has been collected already, and this is a correction.
      have hcollected : m.source = .collected := by simpa [Action.sources, running] using hsource
      have hc : m.changed = false := by simp [Move.changed, hcollected, htarget, Action.target]
      have hstatus : p.status? ≠ some .inProgress := by simp [known, running]
      refine .goesOn (by simp [Writes.ownMove?, hc]) ?_ (fun h => h.1 role)
        (fun taker h => hstatus h.2.2.1) fun driver => ?_
      · rintro ⟨-, hcancel | ⟨-, hrunning⟩⟩
        · rw [action?, ha] at hcancel
          cases hcancel
        · exact hstatus hrunning
      · refine iff_of_false (fun h => ?_) fun h => hstatus h.1
        exact Progress.not_runBy (by simpa [Progress.status?] using hidle) driver h
  · have hc := lawful.changed_of_ne_collect (by simp [ha])
    refine .finishes (m := m) ?_ (by simp [ha]) ⟨role, .inl (congrArg some ha)⟩ ?_
    · simp [Writes.ownMove?, hc, hacting]
    · simp [Progress.status?, htarget, ha, Action.target]

/-- Whatever is ordered takes one of the courses. -/
theorem course_of_work (h : order.work now actor s p = .ok w) (isOpen : order.IsOpenTo actor) :
    order.Course actor p w := by
  by_cases role : actor.role = .driver
  · cases order with
    | act action given => exact course_of_driver h role
    | update request =>
      rw [IsOpenTo, role] at isOpen
      cases isOpen
  · cases asked : order.action? with
    | none =>
      cases order with
      | act action given => cases asked
      | update request => exact course_of_update h role asked
    | some action =>
      refine course_of_others h role asked ?_ ?_
      · exact fun hstart => role (role_eq_driver h (.inl (hstart ▸ asked)))
      · exact fun hcollect => role (role_eq_driver h (.inr (hcollect ▸ asked)))

end Course

end Order

end WastePickup
