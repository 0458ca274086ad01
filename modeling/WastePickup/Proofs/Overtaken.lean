import WastePickup.Proofs.Assignment
import WastePickup.Proofs.Failure
import WastePickup.Proofs.History
import WastePickup.Proofs.Running

/-!
# Forms that are overtaken

An admin's form is decided on before the lock is taken, from the booking as it is read then, and
carried out under the lock, on the booking as it is by then. In between others may have moved the
booking. Since bookings only move on, most forms notice: the action that was decided on is no longer
open, or it is still the right one. One kind does not. A form that names the status in which the
booking was read asks for no action, and nothing looks at that status again; so its driver and its
amounts go to a booking that has left the status, to which the same form is refused.

* `AdminForm.runSeeing`: a form that is decided on earlier than it is carried out.
* `Service.run_status`: whatever happens, the status of a booking stays or becomes a later one.
* `AdminForm.decides_of_action?`: what becomes of a decision when the booking has moved on.
* `form_acts_on_time_iff`: a form acts on time exactly if it has not been overtaken, or writes
  nothing.
-/

namespace WastePickup

/-! ## Bookings move on -/

/-- An order leaves the status of a booking, or moves it to a later one. -/
theorem Order.status_of_work {order : Order} {s : Store} {now : Instant} {actor : Actor}
    {p : Progress} {w : Writes} (h : order.work now actor s p = .ok w) {status : Status}
    (known : p.status? = some status) :
    ∃ later, w.progress.status? = some later ∧ (later = status ∨ status.rank < later.rank) := by
  have hstays := (follows_of_work h).status_of_stays
  cases follows_of_work h with
  | stays move => exact ⟨status, (hstays move).trans known, .inl rfl⟩
  | moves m move lawful role source changed target =>
    rw [known] at source
    cases source
    refine ⟨m.target, ?_, .inr (lawful.rank_lt changed)⟩
    rw [Progress.status?, target, Status.ofStored?_name]

/-- Every booking whose status is known is found again, in the same status or a later one. -/
def Store.LeadsOnTo (s t : Store) : Prop :=
  ∀ booking b status, s.bookings.find? booking = some b → b.status? = some status →
    ∃ b' later, t.bookings.find? booking = some b' ∧ b'.status? = some later ∧
      (later = status ∨ status.rank < later.rank)

namespace Store.LeadsOnTo

variable {s t u : Store}

/-- A store leads on to itself. -/
theorem refl (s : Store) : s.LeadsOnTo s :=
  fun _ b status found known => ⟨b, status, found, known, .inl rfl⟩

/-- Where a store leads on to leads on as well. -/
theorem trans (h : s.LeadsOnTo t) (h' : t.LeadsOnTo u) : s.LeadsOnTo u := by
  intro booking b status found known
  obtain ⟨b', middle, found', known', hmiddle⟩ := h booking b status found known
  obtain ⟨b'', later, found'', known'', hlater⟩ := h' booking b' middle found' known'
  refine ⟨b'', later, found'', known'', ?_⟩
  rcases hmiddle with rfl | hmiddle
  · exact hlater
  · rcases hlater with rfl | hlater
    · exact .inr hmiddle
    · exact .inr (Nat.lt_trans hmiddle hlater)

end Store.LeadsOnTo

/-- So it is after an event. -/
theorem Event.Leaves.leadsOnTo {event : Event} {now : Instant} {s t : Store}
    (h : event.Leaves now s t) : s.LeadsOnTo t := by
  intro booking b status found known
  rcases h.continues found with ⟨kept, -⟩ | ⟨actor, order, w, -, work, rfl⟩
  · exact ⟨b, status, kept, known, .inl rfl⟩
  · obtain ⟨later, hlater, hle⟩ := Order.status_of_work work known
    exact ⟨_, later, Store.find?_commit_self found, (Booking.advance_status? ..).trans hlater, hle⟩

/-- So it is along any run. -/
theorem Service.run_leadsOnTo (service : Service) (steps : List Step) :
    service.world.store.LeadsOnTo (service.run steps).world.store := by
  apply run_induction .refl .trans steps
  intro s _ service
  exact (service.step_leaves s).leadsOnTo

/-! ## Decisions on what was seen -/

/-- The action to which an admin's target is turned leads there, and is none that can be taken where
it leads. -/
theorem Status.target_of_adminActionTo? {target : Status} {action : Action}
    (h : target.adminActionTo? = some action) :
    action.target = target ∧ target ∉ action.sources := by
  cases target <;> cases h <;> decide

namespace AdminForm

variable {form : AdminForm} {seen current : Status} {action? : Option Action}

/-- What a decision that was made on one status is worth on another: the form asks for the same
there, or the action is not open there, or the form named the status that it was read in, and asks
for nothing. -/
inductive Decides (form : AdminForm) (seen current : Status) : Option Action → Prop where
  | alike {action? : Option Action} (again : form.action? current = .ok action?)
      (timely : ∀ named, form.status = some named → named.canonical = seen → current = seen) :
      Decides form seen current action?
  | closed {action : Action} (source : current ∉ action.sources) :
      Decides form seen current (some action)
  | overtaken {named : StoredStatus} (status : form.status = some named)
      (canonical : named.canonical = seen) (moved : current ≠ seen) :
      Decides form seen current none

/-- A decision is worth one of these things on a later status. -/
theorem decides_of_action? (h : form.action? seen = .ok action?)
    (later : current = seen ∨ seen.rank < current.rank) :
    form.Decides seen current action? := by
  rcases later with rfl | later
  · exact .alike h fun _ _ _ => rfl
  have hmoved : current ≠ seen := by
    rintro rfl
    exact Nat.lt_irrefl _ later
  cases hstatus : form.status with
  | none =>
    simp only [AdminForm.action?, hstatus, Bool.and_eq_true, decide_eq_true_eq] at h
    by_cases hassign : form.driver.isSome = true ∧ seen = .created
    · rw [if_pos hassign] at h
      cases h
      apply Decides.closed
      simpa [Action.sources, hassign.2] using hmoved
    · rw [if_neg hassign] at h
      cases h
      have hcurrent : current ≠ .created := by
        rintro rfl
        exact Nat.not_lt_zero _ later
      refine .alike ?_ fun named h => by rw [hstatus] at h; cases h
      simp [AdminForm.action?, hstatus, hcurrent]
  | some named =>
    simp only [AdminForm.action?, hstatus] at h
    by_cases hseen : named.canonical = seen
    · rw [if_pos hseen] at h
      cases h
      exact .overtaken hstatus hseen hmoved
    · rw [if_neg hseen] at h
      cases hto : named.canonical.adminActionTo? with
      | none => rw [hto] at h; cases h
      | some action =>
        rw [hto] at h
        cases h
        by_cases hcurrent : named.canonical = current
        · exact .closed (hcurrent ▸ (Status.target_of_adminActionTo? hto).2)
        · refine .alike ?_ fun named' h heq => ?_
          · simp [AdminForm.action?, hstatus, hcurrent, hto]
          · rw [hstatus] at h
            cases h
            exact absurd heq hseen

/-! ## Forms that are carried out later -/

/-- What comes of an admin's form that is decided on from the tables as they were seen, and carried
out in the world as it is by then. -/
def runSeeing (seen : Store) (w : World) (token : Token) (now : Instant) (actor : Actor)
    (booking : Int) (form : AdminForm) : World × Except Refusal Answer :=
  match form.decide seen booking with
  | .error refusal => (w, .error refusal)
  | .ok request => World.shown actor.role (w.updateAsAdmin token now actor booking request)

/-- Where nothing happens in between, this is what the form comes to as a command. -/
theorem runSeeing_self (w : World) (token : Token) (now : Instant) (actor : Actor) (booking : Int)
    (form : AdminForm) :
    form.runSeeing w.store w token now actor booking =
      (Command.updateAsAdmin booking form).run w token now actor := rfl

/-- The form is refused and leaves the world as it is, or it is answered and leaves it as the whole
form would that is decided on there and then. -/
def ActsOnTime (form : AdminForm) (seen : Store) (w : World) (token : Token) (now : Instant)
    (actor : Actor) (booking : Int) : Prop :=
  let split := form.runSeeing seen w token now actor booking
  (∃ refusal, split = (w, .error refusal)) ∨
    (∃ answer, split.2 = .ok answer) ∧
      split.1 = ((Command.updateAsAdmin booking form).run w token now actor).1

/-- The form names the status in which the booking was seen, and the booking has left it. -/
def IsOvertaken (form : AdminForm) (seen current : Store) (booking : Int) : Prop :=
  ∃ named b b', form.status = some named ∧
    seen.bookings.find? booking = some b ∧ b.status? = some named.canonical ∧
    current.bookings.find? booking = some b' ∧ b'.status? ≠ some named.canonical

/-- Where both statuses are known, that is a question of the two. -/
theorem isOvertaken_iff {seen t : Store} {booking : Int} {b b' : Booking} {status current : Status}
    (found : seen.bookings.find? booking = some b) (known : b.status? = some status)
    (found' : t.bookings.find? booking = some b') (known' : b'.status? = some current) :
    form.IsOvertaken seen t booking ↔
      ∃ named, form.status = some named ∧ named.canonical = status ∧ current ≠ status := by
  constructor
  · rintro ⟨named, b₁, b₂, hstatus, found₁, known₁, found₂, known₂⟩
    obtain rfl : b = b₁ := Option.some.inj (found.symm.trans found₁)
    obtain rfl : b' = b₂ := Option.some.inj (found'.symm.trans found₂)
    obtain rfl : status = named.canonical := Option.some.inj (known.symm.trans known₁)
    refine ⟨named, hstatus, rfl, ?_⟩
    rintro rfl
    exact known₂ known'
  · rintro ⟨named, hstatus, rfl, moved⟩
    refine ⟨named, b, b', hstatus, found, known, found', ?_⟩
    rw [known']
    exact fun heq => moved (Option.some.inj heq)

section Runs

variable {seen : Store} {w : World} {token : Token} {now : Instant} {actor : Actor}
  {booking : Int} {request : AdminRequest}

/-- An update whose action is not open to the booking is refused. -/
theorem updateAsAdmin_refused (token : Token) (now : Instant) (actor : Actor) {b : Booking}
    {current : Status} (found : w.store.bookings.find? booking = some b)
    (known : b.status? = some current) {action : Action} (asked : request.action = some action)
    (source : current ∉ action.sources) :
    ∃ refusal, World.shown actor.role (w.updateAsAdmin token now actor booking request) =
      (w, .error refusal) := by
  rcases w.carryOut_cases token now booking actor (.update request) with
    ⟨refusal, h⟩ | ⟨b', writes, -, found', work, -⟩
  · exact ⟨refusal, by rw [show w.updateAsAdmin token now actor booking request = _ from h]; rfl⟩
  · rw [found] at found'
    cases found'
    obtain ⟨⟨status, mem, known'⟩, -⟩ := Order.status?_of_asked work asked
    rw [show b.progress.status? = _ from known] at known'
    cases known'
    exact absurd mem source

/-- A form that has been overtaken leaves the world as a whole: no action of an admin leads back. -/
theorem run_of_overtaken {named : StoredStatus} {b : Booking} {current : Status}
    (status : form.status = some named) (found : w.store.bookings.find? booking = some b)
    (known : b.status? = some current) (later : named.canonical.rank < current.rank) :
    ((Command.updateAsAdmin booking form).run w token now actor).1 = w := by
  rw [← runSeeing_self]
  unfold runSeeing
  cases hdecide : form.decide w.store booking with
  | error refusal => rfl
  | ok request =>
    obtain ⟨-, b', current', action?, lookUp, known', haction, rfl⟩ :=
      AdminForm.decide_eq_ok_iff.1 hdecide
    obtain rfl : b = b' := Option.some.inj (found.symm.trans (Table.lookUp_eq_ok_iff.1 lookUp).2)
    obtain rfl : current = current' := Option.some.inj (known.symm.trans known')
    have hmoved : named.canonical ≠ current := fun heq => Nat.lt_irrefl _ (heq ▸ later)
    simp only [AdminForm.action?, status, hmoved, if_false] at haction
    cases hto : named.canonical.adminActionTo? with
    | none => rw [hto] at haction; cases haction
    | some action =>
      rw [hto] at haction
      cases haction
      rw [World.shown_fst]
      rcases w.carryOut_cases token now booking actor (.update
        ⟨some action, form.driver, form.weight.map .float, form.amount.map .float⟩) with
        ⟨refusal, h⟩ | ⟨b', writes, -, found', work, -⟩
      · exact congrArg Prod.fst h
      · rw [found] at found'
        cases found'
        obtain ⟨reached, hreached, hle⟩ := Order.status_of_work work known
        obtain ⟨-, htarget⟩ := Order.status?_of_asked work rfl
        rw [(Status.target_of_adminActionTo? hto).1, hreached] at htarget
        cases htarget
        rcases hle with heq | hlt
        · exact absurd heq hmoved
        · exact absurd hlt (Nat.not_lt_of_lt later)

/-- Where the whole form leaves the world as it is, a form acts on time exactly if it does so too.
-/
theorem actsOnTime_iff_of_whole
    (whole : ((Command.updateAsAdmin booking form).run w token now actor).1 = w) :
    form.ActsOnTime seen w token now actor booking ↔
      (form.runSeeing seen w token now actor booking).1 = w := by
  rw [ActsOnTime, whole]
  generalize form.runSeeing seen w token now actor booking = split
  constructor
  · rintro (⟨refusal, h⟩ | ⟨-, h⟩)
    · exact congrArg Prod.fst h
    · exact h
  · obtain ⟨next, refusal | answer⟩ := split
    · rintro rfl
      exact .inl ⟨refusal, rfl⟩
    · exact fun h => .inr ⟨⟨answer, rfl⟩, h⟩

/-- A form that would be decided in the same way there and then acts on time. -/
theorem actsOnTime_of_alike (token : Token) (now : Instant) (actor : Actor)
    (decided : form.decide seen booking = .ok request)
    (again : form.decide w.store booking = .ok request) :
    form.ActsOnTime seen w token now actor booking := by
  have hwhole : form.runSeeing seen w token now actor booking =
      (Command.updateAsAdmin booking form).run w token now actor := by
    rw [← runSeeing_self]
    simp only [runSeeing, decided, again]
  have hconcludes := (Command.updateAsAdmin booking form).run_concludes w token now actor
  rw [ActsOnTime, hwhole]
  generalize (Command.updateAsAdmin booking form).run w token now actor = whole at hconcludes ⊢
  cases hconcludes with
  | refused refusal => exact .inl ⟨refusal, rfl⟩
  | answered answer _ => exact .inr ⟨⟨answer, rfl⟩, rfl⟩

end Runs

end AdminForm

/-- A form that is carried out after anything has happened acts on time, exactly if it has not been
overtaken or leaves the world as it is. -/
theorem form_acts_on_time_iff (service : Service) (steps : List Step) (token : Token)
    (now : Instant) (actor : Actor) (booking : Int) (form : AdminForm) :
    let seen := service.world.store
    let w := (service.run steps).world
    form.ActsOnTime seen w token now actor booking ↔
      (form.IsOvertaken seen w.store booking →
        (form.runSeeing seen w token now actor booking).1 = w) := by
  intro seen w
  -- What is refused leaves the world, so that both sides hold.
  have hrefused : (∃ refusal, form.runSeeing seen w token now actor booking =
      (w, .error refusal)) → (form.ActsOnTime seen w token now actor booking ↔
        (form.IsOvertaken seen w.store booking →
          (form.runSeeing seen w token now actor booking).1 = w)) := by
    rintro ⟨refusal, h⟩
    exact ⟨fun _ _ => by rw [h], fun _ => .inl ⟨refusal, h⟩⟩
  cases hdecide : form.decide seen booking with
  | error refusal =>
    apply hrefused
    exact ⟨refusal, by simp only [AdminForm.runSeeing, hdecide]⟩
  | ok request =>
    obtain ⟨name, b, status, action?, lookUp, known, haction, hrequest⟩ :=
      AdminForm.decide_eq_ok_iff.1 hdecide
    obtain ⟨fits, found⟩ := Table.lookUp_eq_ok_iff.1 lookUp
    obtain ⟨b', current, found', known', hle⟩ :=
      service.run_leadsOnTo steps booking b status found known
    cases AdminForm.decides_of_action? haction hle with
    | closed source =>
      have asked : request.action = some _ := congrArg AdminRequest.action hrequest
      obtain ⟨refusal, h⟩ : ∃ refusal, World.shown actor.role
          (w.updateAsAdmin token now actor booking request) = (w, .error refusal) :=
        AdminForm.updateAsAdmin_refused token now actor found' known' asked source
      apply hrefused
      exact ⟨refusal, by simp only [AdminForm.runSeeing, hdecide, h]⟩
    | alike again timely =>
      have hagain : form.decide w.store booking = .ok request :=
        AdminForm.decide_eq_ok_iff.2 ⟨name, b', current, action?,
          Table.lookUp_eq_ok_iff.2 ⟨fits, found'⟩, known', again, hrequest⟩
      have hnot : ¬form.IsOvertaken seen w.store booking := by
        rw [AdminForm.isOvertaken_iff found known found' known']
        rintro ⟨named, hstatus, canonical, moved⟩
        exact moved (timely named hstatus canonical)
      have hacts := AdminForm.actsOnTime_of_alike token now actor hdecide hagain
      exact ⟨fun _ overtaken => absurd overtaken hnot, fun _ => hacts⟩
    | @overtaken named hstatus canonical moved =>
      have hlater : named.canonical.rank < current.rank := by
        rcases hle with heq | hlt
        · exact absurd heq moved
        · exact canonical ▸ hlt
      have hovertaken : form.IsOvertaken seen w.store booking :=
        (AdminForm.isOvertaken_iff found known found' known').2 ⟨named, hstatus, canonical, moved⟩
      rw [AdminForm.actsOnTime_iff_of_whole
        (AdminForm.run_of_overtaken hstatus found' known' hlater)]
      exact ⟨fun h _ => h, fun h => h hovertaken⟩

/-- A form that was to give an assigned booking to another driver takes it from a driver who has
started in between; decided on there and then, it would be refused. -/
theorem overtaken_form_swaps_driver :
    let p : Progress := ⟨"ASSIGNED", some 7, 1, none, none, none, none⟩
    let drivers : Table Driver := ⟨[⟨7, "Saman Kumara", true, "ONLINE", 0⟩,
      ⟨8, "Ruwan Silva", true, "ONLINE", 0⟩]⟩
    let service : Service := ⟨⟨{ Store.single p with drivers := drivers }, .empty⟩, []⟩
    let start : Request := ⟨"PATCH", "/api/v1/driver/bookings/1/start",
      [("X-Actor-Id", "7"), ("X-Actor-Role", "DRIVER")], .absent⟩
    let w := (service.run [⟨⟨1⟩, ⟨1⟩, .request start⟩]).world
    let form : AdminForm := ⟨some .assigned, some 8, none, none⟩
    let split := form.runSeeing service.world.store w ⟨2⟩ ⟨2⟩ ⟨3, .admin⟩ 1
    let whole := (Command.updateAsAdmin 1 form).run w ⟨2⟩ ⟨2⟩ ⟨3, .admin⟩
    ¬form.ActsOnTime service.world.store w ⟨2⟩ ⟨2⟩ ⟨3, .admin⟩ 1 ∧
      (split.1.store.bookings.find? 1).map (fun b => (b.progress.status, b.progress.driver)) =
        some ("IN_PROGRESS", some 8) ∧
      whole.1 = w ∧
      whole.2.map (fun _ => ()) = .error (.transition ⟨.inProgress, .admin, .assign⟩) := by
  intro p drivers service start w form split whole
  have hsplit : (split.1.store.bookings.find? 1).map
      (fun b => (b.progress.status, b.progress.driver)) = some ("IN_PROGRESS", some 8) := by
    decide +kernel
  have hw : (w.store.bookings.find? 1).map (fun b => (b.progress.status, b.progress.driver)) =
      some ("IN_PROGRESS", some 7) := by
    decide +kernel
  have hwhole : whole.1 = w := by
    decide +kernel
  have hne : split.1 ≠ w := by
    intro h
    rw [h, hw] at hsplit
    exact absurd hsplit (by decide)
  refine ⟨?_, hsplit, hwhole, by decide +kernel⟩
  rintro (⟨refusal, h⟩ | ⟨-, h⟩)
  · exact hne (congrArg Prod.fst h)
  · exact hne (h.trans hwhole)

end WastePickup
