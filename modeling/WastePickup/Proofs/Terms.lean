import WastePickup.Proofs.Canonical
import WastePickup.Proofs.DriverRows

/-!
# Work on the same terms

What a piece of work comes to depends on its booking, on the prices, on the kinds of waste and on
which drivers are approved. Neither other bookings nor the history have a part in it. Of the rest of
the drivers' rows only one thing matters: the pickups that a driver's move counts have to fit his
row. When the work is done shows in stamps alone.

* `Store.SameTerms`: two stores in which work is done on the same terms.
* `SameTerms.effect_outline`: side effects are turned down for the same reason or do the same to the
  booking, up to the time of stamps.
* `Order.Fits`: what an order counts in one store fits the other.
* `Order.work_outline`: so do orders, wherever they fit.
* `Booking.untimed_advance`: what is written by them is the same booking up to times.
-/

namespace WastePickup

/-- Two results that are the same once they are changed are one error, or two values that are
changed to the same. -/
theorem map_eq_map_cases {ε α β : Type} {x y : Except ε α} {g : α → β} (h : x.map g = y.map g) :
    (∃ e, x = .error e ∧ y = .error e) ∨ ∃ a b, x = .ok a ∧ y = .ok b ∧ g a = g b := by
  cases x with
  | error e =>
    cases y with
    | error e' =>
      cases h
      exact .inl ⟨e, rfl, rfl⟩
    | ok b => cases h
  | ok a =>
    cases y with
    | error e => cases h
    | ok b => exact .inr ⟨a, b, rfl, rfl, Except.ok.inj h⟩

/-! ## Without times -/

/-- A progress with stamps that do not tell the time. -/
def Progress.untimed (p : Progress) : Progress :=
  { p with confirmedAt := p.confirmedAt.map fun _ => ⟨0⟩ }

/-- A booking with stamps that do not tell the time. -/
def Booking.untimed (b : Booking) : Booking :=
  { b with progress := b.progress.untimed, updatedAt := ⟨0⟩ }

/-- What side effects do to the booking, up to times. -/
def Effect.outline (e : Effect) : Effect :=
  { e with progress := e.progress.untimed, driver := none }

/-- What writes do to the booking and its history, up to times. -/
def Writes.outline (w : Writes) : Writes :=
  { w with progress := w.progress.untimed, driver := none }

/-- What has been written to a booking, up to times, depends on what is written up to times. -/
theorem Booking.untimed_advance (now : Instant) (b : Booking) (w : Writes) :
    (b.advance now w.progress w.rounded).untimed =
      { b with progress := w.outline.progress.onto b.progress, updatedAt := ⟨0⟩ } := by
  simp only [untimed, advance_id, advance_pickup, advance_progress]
  rfl

namespace Writes

variable {w w' : Writes}

/-- Writes of one outline make the same move. -/
theorem move_eq_of_outline (h : w'.outline = w.outline) : w'.move = w.move := by
  have hmove : w'.outline.move = w.outline.move := by rw [h]
  exact hmove

/-- Work that does the same is, or is not, the same move of a driver. -/
theorem ownMove?_eq_of_outline (h : w'.outline = w.outline) : w'.ownMove? = w.ownMove? := by
  rw [ownMove?, ownMove?, move_eq_of_outline h]

end Writes

/-! ## Terms -/

/-- Work is done on the same terms in two stores: prices and kinds of waste are the same, and so are
the approvals of drivers. -/
structure Store.SameTerms (s t : Store) : Prop where
  pricing : t.pricing = s.pricing
  categories : t.categories = s.categories
  drivers : ∀ driver, (t.drivers.find? driver).map Driver.approved =
    (s.drivers.find? driver).map Driver.approved

namespace Store.SameTerms

/-- A store has its own terms. -/
theorem refl (s : Store) : s.SameTerms s where
  pricing := rfl
  categories := rfl
  drivers _ := rfl

variable {s t : Store} {p : Progress} (same : s.SameTerms t)
include same

/-- The same drivers are there. -/
theorem driver_cases (driver : Int) :
    (s.drivers.find? driver = none ∧ t.drivers.find? driver = none) ∨
      ∃ d d', s.drivers.find? driver = some d ∧ t.drivers.find? driver = some d' ∧
        d'.approved = d.approved := by
  have h := same.drivers driver
  cases hs : s.drivers.find? driver with
  | none =>
    rw [hs, Option.map_none, Option.map_eq_none_iff] at h
    exact .inl ⟨rfl, h⟩
  | some d =>
    rw [hs, Option.map_some, Option.map_eq_some_iff] at h
    obtain ⟨d', found, approved⟩ := h
    exact .inr ⟨d, d', rfl, found, approved⟩

/-- On the same terms the same drivers can be assigned. -/
theorem requireApproved_eq (driver : Int) :
    t.requireApproved driver = s.requireApproved driver := by
  unfold requireApproved Table.lookUp
  cases requireFits driver with
  | error refusal => rfl
  | ok fits =>
    rcases same.driver_cases driver with ⟨hs, ht⟩ | ⟨d, d', hs, ht, approved⟩
    · simp only [hs, ht]
    · simp only [hs, ht, approved]

/-- On the same terms a category has the same band. -/
theorem band?_eq (category : Int) : t.band? category = s.band? category := by
  rw [band?, band?, pricing?, pricing?, same.pricing]

/-- On the same terms the same categories can be priced. -/
theorem requireCategory_eq (category : Int) :
    t.requireCategory category p = s.requireCategory category p := by
  unfold requireCategory
  rw [same.categories]

/-- Amounts are written on any terms alike. -/
theorem withAmounts_eq (weight amount : Option Number.Given) :
    t.withAmounts weight amount p = s.withAmounts weight amount p := by
  unfold withAmounts
  simp only [same.band?_eq]

/-! ## Side effects -/

variable (now now' : Instant)

/-- On the same terms an assignment has the same effect. -/
theorem assignEffect_eq (given : Particulars) :
    t.assignEffect given p = s.assignEffect given p := by
  unfold assignEffect
  simp only [same.requireApproved_eq]

/-- On the same terms a collection has the same outline. -/
theorem collectEffect_outline (move : Move) (given : Particulars) :
    (t.collectEffect move given p).map Effect.outline =
      (s.collectEffect move given p).map Effect.outline := by
  unfold collectEffect
  cases given.weight with
  | none => rfl
  | some weight =>
    simp only [same.requireCategory_eq, same.band?_eq, map_bind]
    refine bind_congr fun _ => ?_
    cases s.band? (collectedCategory given p) with
    | none => rfl
    | some band =>
      simp only [map_bind]
      rfl

/-- Completing leaves a stamp, whenever it is done. -/
theorem completeEffect_outline (given : Particulars) :
    (t.completeEffect now' given p).map Effect.outline =
      (s.completeEffect now given p).map Effect.outline := by
  unfold completeEffect
  simp only [apply_ite (Except.map Effect.outline), same.withAmounts_eq, map_bind]
  rfl

/-- Side effects are turned down for the same reason, or do the same to the booking. -/
theorem effect_outline (role : Role) (move : Move) (given : Particulars) :
    (t.effect now' role move given p).map Effect.outline =
      (s.effect now role move given p).map Effect.outline := by
  unfold effect
  cases move.action with
  | assign => simp only [same.assignEffect_eq]
  | start => rfl
  | collect => exact same.collectEffect_outline move given
  | complete => exact same.completeEffect_outline now now' given
  | cancel =>
    simp only [cancelEffect, map_bind]
    rfl
  | refund => rfl

/-! ## Updates -/

/-- On the same terms a driver is swapped alike. -/
theorem swapDriver_eq (driver : Option Int) : t.swapDriver driver p = s.swapDriver driver p := by
  unfold swapDriver
  simp only [same.requireApproved_eq]

/-- On the same terms amounts are corrected alike. -/
theorem correctAmounts_eq (weight amount : Option Number.Given) :
    t.correctAmounts weight amount p = s.correctAmounts weight amount p := by
  unfold correctAmounts
  simp only [same.withAmounts_eq]

end Store.SameTerms

namespace Store

variable (s : Store) (p : Progress)

/-- A swap does not look at stamps. -/
theorem swapDriver_untimed (driver : Option Int) :
    s.swapDriver driver p.untimed = (s.swapDriver driver p).map Progress.untimed := by
  unfold swapDriver
  cases driver with
  | none => rfl
  | some id =>
    simp only [apply_ite (Except.map Progress.untimed), map_bind]
    rfl

/-- Neither does a correction. -/
theorem correctAmounts_untimed (weight amount : Option Number.Given) :
    s.correctAmounts weight amount p.untimed =
      (s.correctAmounts weight amount p).map Progress.untimed := by
  unfold correctAmounts withAmounts
  simp only [apply_ite (Except.map Progress.untimed), map_bind]
  rfl

end Store

/-! ## Orders -/

/-- A move counts one pickup at most. -/
theorem Action.pickups_cases (action : Action) : action.pickups = 0 ∨ action.pickups = 1 := by
  cases action <;> simp [pickups]

/-- What becomes of the count of a driver who moves his booking. -/
theorem Driver.pickupCount_after {d : Driver} {actor : Actor} {w : Writes} {m : Move}
    (own : w.ownMove? = some m) (id : d.id = actor.id) :
    (d.after actor w).pickupCount = d.pickupCount + m.action.pickups := by
  simp only [after, own, if_pos id]

/-- What an order counts in one store fits another, in which whoever gives it has made no fewer
pickups. -/
def Order.Fits (order : Order) (now : Instant) (actor : Actor) (p : Progress) (s t : Store) :
    Prop :=
  ∀ d d', s.drivers.find? actor.id = some d → t.drivers.find? actor.id = some d' →
    Number.fits64 d.pickupCount = true ∧ d.pickupCount ≤ d'.pickupCount ∧
      ∀ w, order.work now actor s p = .ok w →
        Number.fits64 (d'.after actor w).pickupCount = true

namespace Store.SameTerms

variable {s t : Store} {p : Progress} (same : s.SameTerms t) (now now' : Instant) {actor : Actor}
include same

/-- A move that is planned can be recorded in both stores or in neither. -/
theorem requireRecordable_eq {action : Action} {given : Particulars} {m : Move} {e e' : Effect}
    (fits : (Order.act action given).Fits now actor p s t)
    (own : actor.role = .driver → p.driver = some actor.id)
    (hm : planMove actor.role action p = .ok m)
    (he : s.effect now actor.role m given p = .ok e)
    (he' : t.effect now' actor.role m given p = .ok e') :
    requireRecordable actor m e' = requireRecordable actor m e := by
  have hdriver := effect_driver_of_move hm he
  have hdriver' := effect_driver_of_move hm he'
  by_cases hmoves : actor.role = .driver ∧ m.changed = true
  · obtain ⟨role, changed⟩ := hmoves
    rw [if_pos ⟨role, changed⟩, own role, driverWith] at hdriver hdriver'
    rcases same.driver_cases actor.id with ⟨hs, ht⟩ | ⟨d, d', hs, ht, -⟩
    · rw [hs, Option.map_none] at hdriver
      rw [ht, Option.map_none] at hdriver'
      rw [requireRecordable, requireRecordable, hdriver, hdriver']
    · obtain ⟨hd, hle, hcounted⟩ := fits d d' hs ht
      rw [hs, Option.map_some] at hdriver
      rw [ht, Option.map_some] at hdriver'
      simp only [requireRecordable, if_pos changed, hdriver, hdriver']
      cases hid : requireFits actor.id with
      | error refusal => rfl
      | ok =>
        by_cases hsum : Number.fits64 (d.pickupCount + m.action.pickups) = true
        · -- The move goes through here, so what it counts fits there.
          have hrecord : requireRecordable actor m e = .ok () := by
            simp only [requireRecordable, if_pos changed, hdriver, hid]
            exact requireFits_eq_ok_iff.2 hsum
          have hcount := hcounted _ (perform_eq_ok_iff.2 ⟨own, m, e, hm, he, hrecord, rfl⟩)
          have hrole : m.role = .driver := by
            rw [(planMove_eq_ok_iff.1 hm).2.2.1, Role.acting_eq_driver]
            exact role
          rw [Driver.pickupCount_after (Writes.ownMove?_eq_some_iff.2 ⟨if_pos changed, hrole⟩)
            (Table.id_of_find? ht)] at hcount
          show requireFits _ = requireFits _
          rw [requireFits_eq_ok_iff.2 hcount, requireFits_eq_ok_iff.2 hsum]
        · have hmore : ¬Number.fits64 (d'.pickupCount + m.action.pickups) = true := by
            simp only [Number.fits64, Bool.and_eq_true, decide_eq_true_eq] at hd hsum ⊢
            have hpickups := m.action.pickups_cases
            omega
          show requireFits _ = requireFits _
          rw [requireFits, requireFits, if_neg hmore, if_neg hsum]
  · rw [if_neg hmoves] at hdriver hdriver'
    rw [requireRecordable, requireRecordable, hdriver, hdriver']

/-- An action is turned down for the same reason, or does the same to the booking. -/
theorem perform_outline {action : Action} {given : Particulars}
    (record : ∀ m e e', (actor.role = .driver → p.driver = some actor.id) →
      planMove actor.role action p = .ok m → s.effect now actor.role m given p = .ok e →
      t.effect now' actor.role m given p = .ok e' →
      requireRecordable actor m e' = requireRecordable actor m e) :
    (t.perform now' actor action given p).map Writes.outline =
      (s.perform now actor action given p).map Writes.outline := by
  unfold perform
  by_cases hother : actor.role = .driver ∧ p.driver ≠ some actor.id
  · rw [if_pos hother, if_pos hother]
  · have hown : actor.role = .driver → p.driver = some actor.id := by
      intro role
      exact Decidable.byContradiction fun hne => hother ⟨role, hne⟩
    rw [if_neg hother, if_neg hother]
    cases hm : planMove actor.role action p with
    | error refusal => rfl
    | ok m =>
      have heffect := same.effect_outline (p := p) now now' actor.role m given
      rcases map_eq_map_cases heffect with ⟨refusal, he', he⟩ | ⟨e', e, he', he, hsame⟩
      · simp only [bind, Except.bind, he, he']
      · have houtline : ∀ e : Effect, (⟨{ e.progress with status := m.target.name }, e.driver,
            if m.changed then some m else none, e.rounded⟩ : Writes).outline =
            ⟨{ e.outline.progress with status := m.target.name }, none,
              if m.changed then some m else none, e.outline.rounded⟩ := fun _ => rfl
        simp only [bind, Except.bind, he, he', record m e e' hown hm he he']
        cases requireRecordable actor m e with
        | error refusal => rfl
        | ok => exact congrArg Except.ok (by rw [houtline, houtline, hsame])

/-- An update by an admin counts no pickups, so it fits wherever its action is open. -/
theorem adminWork_outline (isAdmin : actor.role.isAdmin = true) (request : AdminRequest) :
    (t.adminWork now' actor request p).map Writes.outline =
      (s.adminWork now actor request p).map Writes.outline := by
  have hrole : actor.role ≠ .driver := by
    intro role
    rw [role] at isAdmin
    cases isAdmin
  have haction : (t.adminAction now' actor request p).map Writes.outline =
      (s.adminAction now actor request p).map Writes.outline := by
    unfold adminAction
    cases request.action with
    | none => rfl
    | some action =>
      apply same.perform_outline
      intro m e e' _ hm he he'
      have hdriver := effect_driver_of_move hm he
      have hdriver' := effect_driver_of_move hm he'
      rw [if_neg fun h => hrole h.1] at hdriver hdriver'
      rw [requireRecordable, requireRecordable, hdriver, hdriver']
  unfold adminWork
  simp only [same.swapDriver_eq, same.correctAmounts_eq]
  refine map_bind_congr (g := Writes.outline) (fun v => ?_) haction
  have hswap : s.swapDriver request.driver v.outline.progress =
      (s.swapDriver request.driver v.progress).map Progress.untimed :=
    s.swapDriver_untimed v.progress request.driver
  rw [map_bind, hswap, bind_map]
  refine bind_congr fun swapped => ?_
  split
  · rfl
  · rw [correctAmounts_untimed, map_bind, bind_map]
    rfl

end Store.SameTerms

/-- On the same terms, an order is turned down for the same reason, or does the same to its booking
and its history, whenever it is given. -/
theorem Order.work_outline {order : Order} {s t : Store} {actor : Actor} {p : Progress}
    (same : s.SameTerms t) (now now' : Instant) (isOpen : order.IsOpenTo actor)
    (fits : order.Fits now actor p s t) :
    (order.work now' actor t p).map Writes.outline =
      (order.work now actor s p).map Writes.outline := by
  cases order with
  | act action given =>
    apply same.perform_outline
    intro m e e' own hm he he'
    exact same.requireRecordable_eq now now' fits own hm he he'
  | update request => exact same.adminWork_outline now now' isOpen request

end WastePickup
