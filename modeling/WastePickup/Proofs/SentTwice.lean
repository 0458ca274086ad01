import WastePickup.Proofs.Overtaken
import WastePickup.Proofs.Settlement
import WastePickup.Proofs.Terms
import WastePickup.Proofs.Written

/-!
# Forms that are sent twice

An admin's form says what a booking should be like, so sending it once more should change nothing.
It does not: once a form has been carried out, the booking is in the status that it leads to, so
that the same form asks for no action any more; it has the driver of the form, so that nobody is
swapped in; and the numbers of the form have been written, so that correcting them is no change, or
is refused because the booking is closed. A form that is refused is refused again, since it does not
depend on the time whether it is.

* `AdminForm.decide_again`: a form that has been carried out asks for no action.
* `Store.adminWork_again`: what it still asks for is there.
* `AdminForm.run_again`: so the world stays as it is.
* `admin_form_sent_twice`: the same for requests, whatever they come to.
-/

namespace WastePickup

/-! ## Refusals -/

/-- The work of an admin's update goes through whenever it is done, or never. -/
theorem Store.adminWork_isOk {s : Store} {now : Instant} {actor : Actor} {request : AdminRequest}
    {p : Progress} {w : Writes} (isAdmin : actor.role.isAdmin = true)
    (h : s.adminWork now actor request p = .ok w) (now' : Instant) :
    ∃ w', s.adminWork now' actor request p = .ok w' := by
  have houtline := (SameTerms.refl s).adminWork_outline (p := p) now' now isAdmin request
  rcases map_eq_map_cases houtline with ⟨refusal, h', -⟩ | ⟨v, v', -, h', -⟩
  · rw [h] at h'
    cases h'
  · exact ⟨v', h'⟩

/-- An update that is refused is refused whenever it is made. -/
theorem World.updateAsAdmin_refused_again {w : World} {token : Token} {now : Instant}
    {actor : Actor} {booking : Int} {request : AdminRequest} {refusal : Refusal}
    (h : w.updateAsAdmin token now actor booking request = (w, .error refusal))
    (token' : Token) (now' : Instant) :
    ∃ refusal', w.updateAsAdmin token' now' actor booking request = (w, .error refusal') := by
  rcases w.carryOut_cases token' now' booking actor (.update request) with
    refused | ⟨b, writes, -, -, -, hdone⟩
  · exact refused
  · obtain ⟨isOpen, free, b, writes, lookUp, work, -⟩ := carryOut_eq_ok_iff.1 hdone
    obtain ⟨writes', work'⟩ := Store.adminWork_isOk isOpen work now
    have hdone' : w.updateAsAdmin token now actor booking request = _ :=
      carryOut_eq_ok_iff.2 ⟨isOpen, free, b, writes', lookUp, work', rfl, rfl⟩
    rw [h] at hdone'
    cases congrArg Prod.snd hdone'

/-! ## What has been done -/

namespace Store

variable {s t : Store} {now now' : Instant} {actor : Actor} {request : AdminRequest}
  {old p q r : Progress} {w w' : Writes}

/-- Numbers that have been put in once are there when they are put in again. -/
theorem same_of_withAmounts {order : Order} (puts : order.PutsNumbers s .amount p)
    (category : order.action? = some .collect →
      collectedCategory order.given p = p.wasteCategory)
    (bands : t.band? p.wasteCategory = s.band? p.wasteCategory)
    (h : s.withAmounts order.given.weight order.given.amount p = .ok q)
    (h' : t.withAmounts order.given.weight order.given.amount (q.onto old) = .ok r) :
    (q.onto old).same r = true := by
  obtain ⟨hweight, hamount, hnone⟩ := withAmounts_columns h
  obtain ⟨hweight', hamount', -⟩ := withAmounts_columns h'
  have hcategory : (q.onto old).wasteCategory = p.wasteCategory := by
    obtain ⟨x, y, rfl⟩ := withAmounts_eq_ok h
    rfl
  have weights : sameFloat (q.onto old).weight r.weight = true := by
    rw [hweight']
    show sameFloat (ontoFloat old.weight q.weight) (_ <|> ontoFloat old.weight q.weight) = true
    rw [hweight]
    exact sameFloat_ontoFloat_orElse _ _ puts.isNaN_weight
  have amounts : sameFloat (q.onto old).amount r.amount = true := by
    rw [hamount', hcategory, bands]
    show sameFloat (ontoFloat old.amount q.amount)
      (_ <|> _ <|> ontoFloat old.amount q.amount) = true
    rw [hamount]
    have hput := sameFloat_ontoFloat_orElse old.amount p.amount (puts.isNaN_put category hnone)
    simpa [Option.or_assoc] using hput
  obtain ⟨x, y, rfl⟩ := withAmounts_eq_ok h'
  simp only [Progress.same, weights, amounts, decide_true, Bool.and_true]

/-- An update keeps the category of its booking until its amounts are corrected. -/
theorem adminAction_wasteCategory {v : Writes} (h : s.adminAction now actor request p = .ok v) :
    v.progress.wasteCategory = p.wasteCategory := by
  unfold adminAction at h
  split at h
  · cases h
    rfl
  · rename_i action asked
    exact (acted_of_perform (.update request) asked h).1.wasteCategory

/-- After an update, its driver is the driver of the booking. -/
theorem driver_of_adminWork (h : s.adminWork now actor request p = .ok w) :
    request.driver = none ∨ w.progress.driver = request.driver := by
  obtain ⟨v, swapped, corrected, -, hswap, hcorrect, rfl⟩ := adminWork_eq_ok_iff.1 h
  have hdriver : corrected.driver = swapped.driver := by
    split at hcorrect
    · rw [hcorrect]
    · rcases correctAmounts_eq_ok_iff.1 hcorrect with ⟨-, -, rfl⟩ | ⟨-, -, hamounts⟩
      · rfl
      · obtain ⟨x, y, rfl⟩ := withAmounts_eq_ok hamounts
        rfl
  show request.driver = none ∨ corrected.driver = request.driver
  rw [hdriver]
  rcases swapDriver_eq_ok_iff.1 hswap with ⟨hkept, rfl⟩ | ⟨id, hid, -, -, -, rfl⟩
  · exact hkept
  · exact .inr hid.symm

/-- Where an update has been made, all that is left of it without its action is there already, if
it goes through. -/
theorem adminWork_again (h : s.adminWork now actor request p = .ok w)
    (puts : (Order.update request).PutsNumbers s .amount p)
    (bands : ∀ category, t.band? category = s.band? category)
    (h' : t.adminWork now' actor { request with action := none } (w.progress.onto p) = .ok w') :
    (w.progress.onto p).same w'.progress = true ∧ w'.driver = none ∧ w'.move = none := by
  have hdriver := driver_of_adminWork h
  have hwork : (Order.update request).work now actor s p = .ok w := h
  obtain ⟨v, swapped, corrected, hv, hswap, hcorrect, rfl⟩ := adminWork_eq_ok_iff.1 h
  obtain ⟨v', swapped', corrected', hv', hswap', hcorrect', rfl⟩ := adminWork_eq_ok_iff.1 h'
  cases hv'
  -- The driver of the form is there, so that nobody is swapped in.
  have hkept : t.swapDriver request.driver (corrected.onto p) = .ok (corrected.onto p) :=
    swapDriver_eq_ok_iff.2 (.inl ⟨hdriver, rfl⟩)
  obtain rfl : corrected.onto p = swapped' := Except.ok.inj (hkept.symm.trans hswap')
  refine ⟨?_, rfl, rfl⟩
  rw [if_neg nofun] at hcorrect'
  rcases correctAmounts_eq_ok_iff.1 hcorrect' with ⟨-, -, rfl⟩ | ⟨given, isOpen, amounts'⟩
  · exact Progress.same_self _
  · -- The booking is open, so it has not been completed, and the numbers have been corrected.
    have hincomplete : request.action ≠ some .complete := by
      intro hcomplete
      obtain ⟨status, known, hopen⟩ := requireOpen_eq_ok_iff.1 isOpen
      have hstatus : corrected.status? = some .completed :=
        (Order.status?_of_asked hwork hcomplete).2
      rw [Progress.status?_onto, hstatus] at known
      cases known
      cases hopen
    rw [if_neg hincomplete] at hcorrect
    rcases correctAmounts_eq_ok_iff.1 hcorrect with ⟨hweight, hamount, -⟩ | ⟨-, -, amounts⟩
    · exact absurd ⟨hweight, hamount⟩ given
    · have hcategory : swapped.wasteCategory = p.wasteCategory := by
        rw [← adminAction_wasteCategory hv]
        rcases swapDriver_eq_ok_iff.1 hswap with ⟨-, rfl⟩ | ⟨id, -, -, -, -, rfl⟩
        · rfl
        · rfl
      have hputs : (Order.update request).PutsNumbers s .amount swapped :=
        puts.of_wasteCategory hcategory
      exact same_of_withAmounts hputs (fun _ => rfl) (bands _) amounts amounts'

end Store

namespace AdminForm

variable {form : AdminForm} {current reached : Status} {action? : Option Action}

/-- Where a form has led, it asks for no action. -/
theorem action?_again (h : form.action? current = .ok action?)
    (stays : action? = none → reached = current)
    (moves : ∀ action, action? = some action → reached = action.target) :
    form.action? reached = .ok none := by
  cases hstatus : form.status with
  | some named =>
    simp only [AdminForm.action?, hstatus] at h ⊢
    have hreached : named.canonical = reached := by
      by_cases hcurrent : named.canonical = current
      · rw [if_pos hcurrent] at h
        cases h
        exact hcurrent.trans (stays rfl).symm
      · rw [if_neg hcurrent] at h
        cases hto : named.canonical.adminActionTo? with
        | none => rw [hto] at h; cases h
        | some action =>
          rw [hto] at h
          cases h
          rw [moves action rfl, (Status.target_of_adminActionTo? hto).1]
    rw [if_pos hreached]
  | none =>
    simp only [AdminForm.action?, hstatus, Bool.and_eq_true, decide_eq_true_eq] at h ⊢
    by_cases hassign : form.driver.isSome = true ∧ current = .created
    · rw [if_pos hassign] at h
      cases h
      obtain rfl : reached = .assigned := moves .assign rfl
      exact if_neg fun h => absurd h.2 (by decide)
    · rw [if_neg hassign] at h
      cases h
      obtain rfl : reached = current := stays rfl
      exact if_neg hassign

/-- The numbers of a form are floats, so that none has to be rounded. -/
theorem isRounded_of_decide {s : Store} {booking : Int} {request : AdminRequest}
    (decided : form.decide s booking = .ok request) :
    (Store.isRounded request.weight || Store.isRounded request.amount) = false := by
  obtain ⟨-, b, status, action, -, -, -, rfl⟩ := decide_eq_ok_iff.1 decided
  have hfloat : ∀ x? : Option Float, Store.isRounded (x?.map .float) = false := by
    intro x?
    cases x? <;> rfl
  rw [hfloat, hfloat]
  rfl

/-- A form that has been carried out asks for the same without an action. -/
theorem decide_again {s : Store} {now : Instant} {actor : Actor} {booking : Int} {b : Booking}
    {request : AdminRequest} {w : Writes} (decided : form.decide s booking = .ok request)
    (found : s.bookings.find? booking = some b)
    (work : s.adminWork now actor request b.progress = .ok w) :
    form.decide (s.commit now actor b w) booking = .ok { request with action := none } := by
  have hwork : (Order.update request).work now actor s b.progress = .ok w := work
  obtain ⟨hname, b', status, action?, lookUp, known, haction, rfl⟩ := decide_eq_ok_iff.1 decided
  obtain ⟨fits, found'⟩ := Table.lookUp_eq_ok_iff.1 lookUp
  obtain rfl : b = b' := Option.some.inj (found.symm.trans found')
  obtain ⟨reached, hreached, -⟩ := Order.status_of_work hwork known
  refine decide_eq_ok_iff.2 ⟨hname, b.advance now w.progress w.rounded, reached, none,
    Table.lookUp_eq_ok_iff.2 ⟨fits, Store.find?_commit_self found⟩, ?_, ?_, rfl⟩
  · rw [Booking.advance_status?, hreached]
  · refine action?_again haction ?_ ?_
    · rintro rfl
      have hmove : w.move = none := by
        obtain ⟨v, swapped, corrected, hv, -, -, rfl⟩ := Store.adminWork_eq_ok_iff.1 work
        cases hv
        rfl
      have hstays := (Order.follows_of_work hwork).status_of_stays hmove
      exact Option.some.inj (hreached.symm.trans (hstays.trans known))
    · rintro action rfl
      have hmoves := (Order.status?_of_asked hwork rfl).2
      exact Option.some.inj (hreached.symm.trans hmoves)

/-- A form that puts in numbers leaves the world when it is sent again, refused or carried out. -/
theorem run_again {w : World} {booking : Int} {actor : Actor} (token token' : Token)
    (now now' : Instant)
    (puts : ∀ request b writes, form.decide w.store booking = .ok request →
      w.store.bookings.find? booking = some b →
      w.store.adminWork now actor request b.progress = .ok writes →
      (Order.update request).PutsNumbers w.store .amount b.progress) :
    let once := ((Command.updateAsAdmin booking form).run w token now actor).1
    ((Command.updateAsAdmin booking form).run once token' now' actor).1 = once := by
  intro once
  cases decided : form.decide w.store booking with
  | error refusal =>
    have honce : once = w := by simp only [once, Command.run, decided]
    simp only [honce, Command.run, decided]
  | ok request =>
    have honce : once = (w.updateAsAdmin token now actor booking request).1 := by
      simp only [once, Command.run, decided, World.shown_fst]
    rcases w.carryOut_cases token now booking actor (.update request) with
      ⟨refusal, refused⟩ | ⟨b, writes, isOpen, found, work, done⟩
    · obtain ⟨refusal', refused'⟩ := World.updateAsAdmin_refused_again refused token' now'
      have hw : once = w := honce.trans (congrArg Prod.fst refused)
      simp only [hw, Command.run, decided, World.shown_fst, refused']
    · have hw : once = ⟨w.store.commit now actor b writes, w.locks⟩ :=
        honce.trans (congrArg Prod.fst done)
      have again := decide_again decided found work
      rw [hw]
      simp only [Command.run, again, World.shown_fst]
      rcases World.carryOut_cases ⟨w.store.commit now actor b writes, w.locks⟩ token' now' booking
        actor (.update { request with action := none }) with
        ⟨refusal, refused⟩ | ⟨b', writes', -, found', work', done'⟩
      · exact congrArg Prod.fst refused
      · refine (congrArg Prod.fst done').trans (congrArg (World.mk · w.locks) ?_)
        rw [Store.find?_commit_self found] at found'
        cases found'
        rw [Booking.advance_progress] at work'
        have bands := Store.band?_of_pricing (w.store.commit_pricing now actor b writes)
        obtain ⟨same, driver, move⟩ :=
          Store.adminWork_again work (puts request b writes decided found work) bands work'
        have exactly : writes'.rounded = false := by
          obtain ⟨v, swapped, corrected, -, -, -, hwrites⟩ := Store.adminWork_eq_ok_iff.1 work'
          rw [hwrites]
          exact isRounded_of_decide again
        exact Store.commit_again same exactly driver move

end AdminForm

/-- A request that leads to where admins send forms asks for nothing else. -/
theorem Request.Asks.eq_updateAsAdmin {r : Request} {actor : Actor} {command : Command}
    {number : String} (asks : r.Asks actor command) (leads : r.LeadsTo .updateAsAdmin number) :
    ∃ booking form, command = .updateAsAdmin booking form := by
  obtain @⟨e, number', leads', -, -, read⟩ := asks
  obtain ⟨rfl, rfl⟩ := leads.unique leads'
  obtain ⟨booking, form, -, -, rfl⟩ := Checked.map_seq_eq_ok_iff.1 read
  exact ⟨booking, form, rfl⟩

/-- A request for an admin's form that is sent twice leaves what it leaves when it is sent once,
whether it is refused or carried out, if the amount that is computed for it, if any, is a number. -/
theorem admin_form_sent_twice (service : Service) (r : Request) (number : String)
    (leads : r.LeadsTo .updateAsAdmin number) (token token' : Token) (now now' : Instant)
    (numbers : ∀ priced ∈ service.world.store.priced? now r,
      (priced.1.amount (some priced.2)).isNaN = false) :
    let once := (service.serve token now r).1
    (once.serve token' now' r).1.world = once.world := by
  intro once
  rcases Service.serve_uniform r with ⟨reply, h⟩ | ⟨actor, command, asks, h⟩
  · simp only [once, h]
  · obtain ⟨booking, form, rfl⟩ := asks.eq_updateAsAdmin leads
    by_cases limited : Service.limit ≤ service.servedAt (Target.ofText r.target).path
    · have honce : once = service := by simp only [once, h, Service.runLimited, if_pos limited]
      rw [honce, h, Service.runLimited, if_pos limited]
    · have hworld : once.world =
          ((Command.updateAsAdmin booking form).run service.world token now actor).1 := by
        simp only [once, h, Service.runLimited, if_neg limited]
      rw [h, Service.runLimited]
      split
      · rfl
      · show ((Command.updateAsAdmin booking form).run once.world token' now' actor).1 = once.world
        rw [hworld]
        refine AdminForm.run_again token token' now now' ?_
        intro request b writes decided found work
        obtain rfl : b.id = booking := Table.id_of_find? found
        have orders : (Event.request r).Orders service.world.store actor b.id (.update request) :=
          .request asks.caller asks.command?_eq (by simp only [Command.order?, decided])
        exact orders.putsNumbers found work fun _ => numbers

/-- A booking under an old name is assigned, and its weight is set; the second time nothing happens.
-/
theorem assigned_and_weighed_once :
    let service : Service :=
      ⟨⟨{ Store.single ⟨"SCHEDULED", none, 1, none, none, none, none⟩ with
          pricing := ⟨[⟨1, 1, 40.0, 60.0, true, ⟨0⟩⟩]⟩ }, .empty⟩, []⟩
    let r : Request := ⟨"PATCH", "/api/v1/admin/bookings/1",
      [("X-Actor-Id", "3"), ("X-Actor-Role", "ADMIN")],
      .value (.obj [("driver_id", .int 7), ("actual_weight_kg", .float 2.5)])⟩
    let once := (service.serve ⟨1⟩ ⟨1⟩ r).1
    once.world ≠ service.world ∧ (once.serve ⟨2⟩ ⟨2⟩ r).1.world = once.world := by
  intro service r once
  have leads : r.LeadsTo .updateAsAdmin "1" := by decide +kernel
  have numbers : ∀ priced ∈ service.world.store.priced? ⟨1⟩ r,
      (priced.1.amount (some priced.2)).isNaN = false := by decide +kernel
  exact ⟨by decide +kernel, admin_form_sent_twice service r "1" leads ⟨1⟩ ⟨2⟩ ⟨1⟩ ⟨2⟩ numbers⟩

end WastePickup
