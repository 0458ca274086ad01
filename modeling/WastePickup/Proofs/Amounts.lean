import WastePickup.Proofs.Reading

/-!
# Weights and amounts that are put in

A settled booking has a weight and an amount. What an order puts in comes from three places: the
collection, the completion, and the correction of an update. Each of them asks for values that are
there, but a value that is there and is not a number is stored as none. The weights and the amounts
of a request are numbers; an amount that is derived from a weight is a product, and that is a number
unless an infinity meets a zero.

* `Band.isNaN_amount`: when the amount for a weight is a number.
* `Order.settled_of_work`: an order that puts in numbers leaves a booking settled, if its status is
  that of a settled one.
-/

namespace WastePickup

/-! ## Numbers that are stored -/

/-- A number is stored as a number. -/
theorem isSome_storedFloat {x : Float} (hx : x.isNaN = false) : (storedFloat x).isSome = true := by
  unfold storedFloat
  rw [Number.bne_self, hx]
  by_cases hzero : (x == 0.0) = true
  · simp [hzero]
  · simp [hzero]

/-- Where a number has been written, there is one, whatever was there before. -/
theorem isSome_ontoFloat (old : Option Float) {x : Float} (hx : x.isNaN = false) :
    (ontoFloat old (some x)).isSome = true := by
  unfold ontoFloat
  split
  · rename_i hsame
    cases old with
    | none => cases hsame
    | some _ => rfl
  · exact isSome_storedFloat hx

/-- A number takes the place of what would have been written without it. -/
theorem isSome_ontoFloat_orElse {old new rest : Option Float} (numbers : ∀ x ∈ new, x.isNaN = false)
    (hrest : (ontoFloat old rest).isSome = true) :
    (ontoFloat old (new <|> rest)).isSome = true := by
  cases new with
  | none => exact hrest
  | some x => exact isSome_ontoFloat old (numbers x rfl)

/-! ## Amounts -/

/-- The price in the middle of a band is a number, and where it or the weight is infinite, the other
is not zero. -/
def Band.Prices (band : Band Float) (weight : Float) : Prop :=
  band.midpoint.isNaN = false ∧ (band.midpoint.isInf = true → 0.0 < weight) ∧
    (weight.isInf = true → (band.midpoint == 0.0) = false)

instance (band : Band Float) (weight : Float) : Decidable (band.Prices weight) :=
  inferInstanceAs (Decidable (_ ∧ _ ∧ _))

/-- Then the amount for the weight is a number. -/
theorem Band.isNaN_amount {band : Band Float} {weight : Float} (h : band.Prices weight) :
    (band.amount (some weight)).isNaN = false := by
  obtain ⟨hmidpoint, hprice, hweight⟩ := h
  change (Number.floatCents (band.midpoint * if 0.0 < weight then weight else 0.0)).isNaN = false
  refine Number.isNaN_floatCents ?_
  by_cases hpos : 0.0 < weight
  · rw [if_pos hpos]
    refine Number.isNaN_mul hmidpoint (Number.isNaN_of_lt hpos)
      (fun _ => Number.unpack_ne_zero hpos) fun hinf sign hzero => ?_
    have hne := hweight hinf
    rw [Number.beq_zero hzero] at hne
    cases hne
  · rw [if_neg hpos]
    refine Number.isNaN_mul hmidpoint (by decide) (fun hinf => absurd (hprice hinf) hpos)
      fun hinf => ?_
    cases hinf

/-! ## What a settled booking has -/

/-- The waste has been weighed and priced. -/
def Status.isSettled (status : Status) : Bool :=
  status.isPaymentDue || status.isCompleted

/-- What a booking is settled with. -/
inductive Quantity where
  | weight
  | amount
  deriving DecidableEq

/-- The quantity of a booking, if it is there. -/
def Quantity.of : Quantity → Progress → Option Float
  | weight, p => p.weight
  | amount, p => p.amount

/-- What is there after one progress has been written over another. -/
theorem Quantity.of_onto (quantity : Quantity) (new old : Progress) :
    quantity.of (new.onto old) = ontoFloat (quantity.of old) (quantity.of new) := by
  cases quantity <;> rfl

/-- A quantity is there, if the status is that of a settled booking. -/
def Progress.Settled (quantity : Quantity) (p : Progress) : Prop :=
  ∀ status, p.status? = some status → status.isSettled = true → (quantity.of p).isSome = true

instance (quantity : Quantity) (p : Progress) : Decidable (p.Settled quantity) :=
  inferInstanceAs (Decidable (∀ status ∈ p.status?, status.isSettled = true →
    (quantity.of p).isSome = true))

/-! ## Orders that put in numbers -/

/-- The weight that an order asks to be priced, and the category in which: a collection prices the
weight in the category that is collected, anything else prices one that comes without an amount. -/
def Order.priced? (order : Order) (p : Progress) : Option (Int × Float) :=
  let weight := order.given.weight.bind Number.Given.value?
  if order.action? = some .collect then
    weight.map fun x => (Store.collectedCategory order.given p, x)
  else if order.given.amount = none then weight.map fun x => (p.wasteCategory, x)
  else none

/-- The weight and the amount that come with an order are numbers, and so is, where it is the amount
that matters, the one for the weight that is priced. -/
structure Order.PutsNumbers (order : Order) (s : Store) (quantity : Quantity) (p : Progress) :
    Prop where
  given : ∀ x ∈ order.given.numbers, x.isNaN = false
  priced : quantity = .amount → ∀ category weight, order.priced? p = some (category, weight) →
    ∀ band, s.band? category = some band → (band.amount (some weight)).isNaN = false

namespace Order.PutsNumbers

variable {order : Order} {s : Store} {quantity : Quantity} {p q : Progress}

/-- The weight of an order that puts numbers is one. -/
theorem isNaN_weight (h : order.PutsNumbers s quantity p) :
    ∀ x ∈ order.given.weight.bind Number.Given.value?, x.isNaN = false := by
  intro x hx
  exact h.given x (List.mem_append_left _ (Option.mem_toList.2 hx))

/-- So is its amount. -/
theorem isNaN_amount (h : order.PutsNumbers s quantity p) :
    ∀ x ∈ order.given.amount.bind Number.Given.value?, x.isNaN = false := by
  intro x hx
  exact h.given x (List.mem_append_right _ (Option.mem_toList.2 hx))

/-- What is priced depends on the category of the booking alone. -/
theorem of_wasteCategory (h : order.PutsNumbers s quantity p)
    (hq : q.wasteCategory = p.wasteCategory) : order.PutsNumbers s quantity q := by
  have hpriced? : order.priced? q = order.priced? p := by
    simp only [Order.priced?, Store.collectedCategory, hq]
  exact ⟨h.given, by rw [hpriced?]; exact h.priced⟩

/-- The amount that is put in is a number: the one that is given, or else the one of the weight. -/
theorem isNaN_put (h : order.PutsNumbers s .amount p)
    (category : order.action? = some .collect →
      Store.collectedCategory order.given p = p.wasteCategory)
    (named : order.given.amount.bind Number.Given.value? = none → order.given.amount = none) :
    ∀ x ∈ (order.given.amount.bind Number.Given.value? <|>
        (order.given.weight.bind Number.Given.value?).bind fun x =>
          Band.amount? (s.band? p.wasteCategory) (some x)), x.isNaN = false := by
  intro y hy
  cases ha : order.given.amount.bind Number.Given.value? with
  | some a =>
    rw [ha] at hy
    cases hy
    exact h.isNaN_amount y ha
  | none =>
    -- No amount is given, so that the weight is priced.
    rw [ha] at hy
    obtain ⟨x, hx, hpriced⟩ := Option.bind_eq_some_iff.1 hy
    obtain ⟨band, hband, rfl⟩ := Option.map_eq_some_iff.1 hpriced
    have hpriced? : order.priced? p = some (p.wasteCategory, x) := by
      unfold Order.priced?
      split
      · rename_i hcollect
        simp [hx, category hcollect]
      · simp [hx, named ha]
    exact h.priced rfl p.wasteCategory x hpriced? band hband

end Order.PutsNumbers

namespace Store

variable {s : Store} {now : Instant} {order : Order} {quantity : Quantity} {old p q : Progress}

/-- What is written for a number is the float that it is kept as, and there is one. -/
theorem written?_eq_ok {number : Option Number.Given} {x? : Option Float}
    (h : written? number = .ok x?) :
    x? = number.bind Number.Given.value? ∧ (x? = none → number = none) := by
  cases number with
  | none =>
    cases h
    exact ⟨rfl, fun _ => rfl⟩
  | some g =>
    show x? = g.value? ∧ (x? = none → some g = none)
    cases hvalue : g.value? with
    | none =>
      simp only [written?, written, hvalue] at h
      cases h
    | some x =>
      simp only [written?, written, hvalue] at h
      cases h
      exact ⟨rfl, nofun⟩

/-- What putting in amounts leaves of a quantity: the number that is given for it, else for the
amount the one of the weight, else what was there. -/
theorem withAmounts_columns {given : Particulars}
    (h : s.withAmounts given.weight given.amount p = .ok q) :
    let w := given.weight.bind Number.Given.value?
    let a := given.amount.bind Number.Given.value?
    q.weight = (w <|> p.weight) ∧
      q.amount = (a <|> (w.bind fun x => Band.amount? (s.band? p.wasteCategory) (some x)) <|>
        p.amount) ∧ (a = none → given.amount = none) := by
  intro w a
  obtain ⟨w', hw, h⟩ := bind_eq_ok_iff.1 h
  obtain ⟨a', ha, h⟩ := bind_eq_ok_iff.1 h
  obtain ⟨rfl, -⟩ := written?_eq_ok hw
  obtain ⟨rfl, hnone⟩ := written?_eq_ok ha
  cases h
  exact ⟨rfl, rfl, hnone⟩

/-- Where numbers are put in, a quantity that would have been there without them is there. -/
theorem isSome_of_withAmounts (puts : order.PutsNumbers s quantity p)
    (category : order.action? = some .collect →
      collectedCategory order.given p = p.wasteCategory)
    (h : s.withAmounts order.given.weight order.given.amount p = .ok q)
    (there : (ontoFloat (quantity.of old) (quantity.of p)).isSome = true) :
    (ontoFloat (quantity.of old) (quantity.of q)).isSome = true := by
  obtain ⟨hweight, hamount, hnone⟩ := withAmounts_columns h
  cases quantity with
  | weight =>
    show (ontoFloat old.weight q.weight).isSome = true
    rw [hweight]
    exact isSome_ontoFloat_orElse puts.isNaN_weight there
  | amount =>
    show (ontoFloat old.amount q.amount).isSome = true
    rw [hamount]
    have hput := isSome_ontoFloat_orElse (puts.isNaN_put category hnone) there
    simpa [Option.or_assoc, Quantity.of] using hput

/-- A quantity that is asked for at the source of an action is there at its target, if that asks for
it: a collection puts it in, a completion starts where it is there. -/
theorem Acted.settled (h : s.Acted now order p q) (puts : order.PutsNumbers s quantity p)
    (settled : (p.onto old).Settled quantity) : (q.onto old).Settled quantity := by
  obtain ⟨asked, known, mem, effected⟩ := h
  rename_i action source q
  intro status hstatus hsettled
  rw [Quantity.of_onto]
  have htarget : action.target = status := by
    simpa [Progress.status?] using hstatus
  subst htarget
  cases effected with
  | @collected weight x band named value found =>
    have hx : order.given.weight.bind Number.Given.value? = some x := by
      rw [named]
      exact value
    have hpriced? : order.priced? p = some (collectedCategory order.given p, x) := by
      simp [Order.priced?, asked, hx]
    cases quantity with
    | weight => exact isSome_ontoFloat _ (puts.isNaN_weight x hx)
    | amount => exact isSome_ontoFloat _ (puts.priced rfl _ x hpriced? band found)
  | @completed q driver weight amounts amount =>
    have hsource : source = .collected := by
      simpa [Action.sources] using mem
    have there : (quantity.of (p.onto old)).isSome = true :=
      settled source known (by rw [hsource]; rfl)
    rw [Quantity.of_onto] at there
    have hcollect : order.action? = some .collect →
        collectedCategory order.given p = p.wasteCategory := by
      intro hcollect
      rw [asked] at hcollect
      cases hcollect
    have := isSome_of_withAmounts puts hcollect amounts there
    cases quantity <;> exact this
  | assigned named approved => cases hsettled
  | started => cases hsettled
  | cancelled kept => cases hsettled
  | refunded => cases hsettled

/-- A swap writes no quantity. -/
theorem Swapped.settled (h : s.Swapped order p q) (settled : (p.onto old).Settled quantity) :
    (q.onto old).Settled quantity := by
  obtain ⟨driver, -, rfl⟩ := h.frame
  cases quantity <;> exact settled

/-- A correction puts numbers in. -/
theorem Corrected.settled (h : s.Corrected order p q) (puts : order.PutsNumbers s quantity p)
    (settled : (p.onto old).Settled quantity) : (q.onto old).Settled quantity := by
  have hsame := h.status?_eq
  obtain ⟨isUpdate, incomplete, known, isOpen, amounts⟩ := h
  intro status hstatus hsettled
  have there : (quantity.of (p.onto old)).isSome = true :=
    settled status (hsame ▸ hstatus) hsettled
  rw [Quantity.of_onto] at there ⊢
  refine isSome_of_withAmounts puts (fun _ => ?_) amounts there
  rw [isUpdate]
  rfl

/-- An update collects no other category. -/
theorem Acted.wasteCategory {request : AdminRequest} (h : s.Acted now (.update request) p q) :
    q.wasteCategory = p.wasteCategory := by
  obtain ⟨asked, known, mem, effected⟩ := h
  cases effected with
  | completed driver weight amounts amount =>
    obtain ⟨w, a, rfl⟩ := withAmounts_eq_ok amounts
    rfl
  | assigned | started | collected | cancelled | refunded => rfl

end Store

/-- An order that puts in numbers leaves a booking settled, if its status is that of a settled
one. -/
theorem Order.settled_of_work {order : Order} {s : Store} {now : Instant} {actor : Actor}
    {quantity : Quantity} {p : Progress} {w : Writes} (h : order.work now actor s p = .ok w)
    (puts : order.PutsNumbers s quantity p) (settled : p.Settled quantity) :
    (w.progress.onto p).Settled quantity := by
  have start : (p.onto p).Settled quantity := by
    rw [Progress.onto_self]
    exact settled
  cases order with
  | act action given =>
    have hacted := (Store.acted_of_perform (.act action given) rfl h).1
    exact hacted.settled puts start
  | update request =>
    -- The category stays as it is from stage to stage, and with it what a weight is priced at.
    let I (q : Progress) : Prop :=
      q.wasteCategory = p.wasteCategory ∧ (q.onto p).Settled quantity
    have hI : I w.progress := by
      refine work_induction (I := I) h ?_ ?_ ?_ ⟨rfl, start⟩
      · rintro q r hacted ⟨hq, hsettled⟩
        have hr : r.wasteCategory = q.wasteCategory := hacted.wasteCategory
        exact ⟨hr.trans hq, hacted.settled (puts.of_wasteCategory hq) hsettled⟩
      · rintro q r hswapped ⟨hq, hsettled⟩
        refine ⟨?_, hswapped.settled hsettled⟩
        obtain ⟨driver, -, rfl⟩ := hswapped.frame
        exact hq
      · rintro q r hcorrected ⟨hq, hsettled⟩
        refine ⟨?_, hcorrected.settled (puts.of_wasteCategory hq) hsettled⟩
        obtain ⟨weight, amount, rfl⟩ := hcorrected.frame
        exact hq
    exact hI.2

end WastePickup
