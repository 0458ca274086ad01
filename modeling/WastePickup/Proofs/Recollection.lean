import WastePickup.Proofs.DriverRows
import WastePickup.Proofs.Written

/-!
# Collecting again

A driver who has collected a booking may collect it again to correct the weight or the kind of
waste. Only the first collection moves the booking, so the history and the rows of drivers stay as
they are from then on; what is collected last counts, as if it had been collected at once.

Two things are looked at more closely than one would expect. The category zero is the same as none:
it leaves the category of the booking, which may be that of an earlier collection. And a weight that
is not exactly a float is never what is there, so that the time of the last update moves whenever it
is written.

* `Store.collects_of_perform`: what a collection writes.
* `Store.perform_collect_instead`: the second of two collections could have been made at once.
* `Band.amount_of_sameFloat`: equal weights have one amount.
* `last_collection_counts`: what two collections come to.
-/

namespace WastePickup

/-! ## Amounts -/

/-- Equal weights have one amount. -/
theorem Band.amount_of_sameFloat (band : Band Float) {x y : Option Float}
    (h : sameFloat x y = true) : band.amount x = band.amount y := by
  cases x with
  | none =>
    cases y with
    | none => rfl
    | some b => cases h
  | some a =>
    cases y with
    | none => cases h
    | some b =>
      simp only [sameFloat, Bool.or_eq_true, decide_eq_true_eq] at h
      rcases h with rfl | h
      · rfl
      · exact congrArg Number.floatCents (Number.mul_positivePart_congr band.midpoint h)

/-- The amount of a weight that has been written is that of the weight that was to be written. -/
theorem Band.amount_ontoFloat (band : Band Float) (old : Option Float) (x : Float) :
    band.amount (ontoFloat old (some x)) = band.amount (some x) := by
  unfold ontoFloat
  split
  · rename_i hsame
    exact band.amount_of_sameFloat hsame
  · show band.amount (storedFloat x) = band.amount (some x)
    cases hx : x.isNaN with
    | false => exact band.amount_of_sameFloat (sameFloat_storedFloat hx)
    | true =>
      -- What is not a number is stored as none, and counts as zero before and after.
      have hpos : ¬0.0 < x := by
        intro hlt
        rw [Number.isNaN_of_lt hlt] at hx
        cases hx
      have hstored : storedFloat x = none := by
        rw [storedFloat, Number.bne_self, hx]
        rfl
      have hzero : ¬(0.0 : Float) < 0.0 := by decide
      rw [hstored]
      show Number.floatCents (band.midpoint * if (0.0 : Float) < 0.0 then 0.0 else 0.0) =
        Number.floatCents (band.midpoint * if 0.0 < x then x else 0.0)
      rw [if_neg hpos, if_neg hzero]

namespace Store

variable {s t : Store} {now now' : Instant} {actor : Actor} {given given' : Particulars}
  {p : Progress} {w w' : Writes}

/-! ## Collections -/

/-- The category that has been collected is collected again, if none or the same is given. -/
theorem collectedCategory_again {q : Progress} (again : given'.wasteCategory = given.wasteCategory)
    (collected : q.wasteCategory = collectedCategory given p) :
    collectedCategory given' q = collectedCategory given p := by
  unfold collectedCategory at collected ⊢
  rw [again]
  cases hgiven : given.wasteCategory with
  | none =>
    rw [hgiven] at collected
    exact collected
  | some category =>
    simp only [hgiven] at collected ⊢
    split
    · rename_i hzero
      rw [collected, if_pos hzero]
    · rfl

/-- A category may be collected if it is that of the booking, or is found. -/
theorem requireCategory_eq_ok_iff {category : Int} :
    s.requireCategory category p = .ok () ↔
      category = p.wasteCategory ∨ ∃ row, s.categories.lookUp category = .ok (some row) := by
  unfold requireCategory
  by_cases same : category = p.wasteCategory
  · simp [same]
  · rw [if_neg same, or_iff_right same]
    rcases s.categories.lookUp category with refusal | _ | row
    · simp
    · simp
    · simp

/-- The side effects of a collection go through when there is a weight, its category may be
collected and has a band, and it can be priced. -/
theorem collectEffect_eq_ok_iff {m : Move} {e : Effect} :
    s.collectEffect m given p = .ok e ↔
      ∃ weight x band, given.weight = some weight ∧
        s.requireCategory (collectedCategory given p) p = .ok () ∧
        s.band? (collectedCategory given p) = some band ∧ pricedWeight weight = .ok x ∧
        e = ⟨{ p with
            weight := some x
            amount := some (band.amount (some x))
            wasteCategory := collectedCategory given p },
          if m.changed then s.driverWith p.driver .online 1 else none, !weight.isExact⟩ := by
  unfold collectEffect
  cases given.weight with
  | none => simp
  | some weight =>
    simp only [bind_eq_ok_iff, Option.some.injEq]
    constructor
    · rintro ⟨⟨⟩, found, h⟩
      split at h
      · cases h
      · rename_i band hband
        obtain ⟨x, hx, h⟩ := bind_eq_ok_iff.1 h
        cases h
        exact ⟨weight, x, band, rfl, found, hband, hx, rfl⟩
    · rintro ⟨_, x, band, rfl, found, hband, hx, rfl⟩
      refine ⟨(), found, ?_⟩
      simp only [hband]
      exact bind_eq_ok_iff.2 ⟨x, hx, rfl⟩

/-- What a collection writes: the weight, the category that is collected, and the amount of the
weight in it. -/
structure Collects (s : Store) (given : Particulars) (p : Progress) (w : Writes)
    (weight : Number.Given) (x : Float) (band : Band Float) : Prop where
  named : given.weight = some weight
  value : weight.value? = some x
  priced : s.band? (collectedCategory given p) = some band
  progress : w.progress =
    { p with
      status := Status.collected.name
      weight := some x
      amount := some (band.amount (some x))
      wasteCategory := collectedCategory given p }
  rounded : w.rounded = !weight.isExact

/-- A collection that goes through is the move to collected with the side effects of one. -/
theorem perform_collect_eq_ok (h : s.perform now actor .collect given p = .ok w) :
    ∃ m e, planMove actor.role .collect p = .ok m ∧ m.target = .collected ∧
      s.collectEffect m given p = .ok e ∧ requireRecordable actor m e = .ok () ∧
      w = ⟨{ e.progress with status := Status.collected.name }, e.driver,
        if m.changed then some m else none, e.rounded⟩ := by
  obtain ⟨-, m, e, hm, he, hrecord, rfl⟩ := perform_eq_ok_iff.1 h
  obtain ⟨-, haction, -, lawful⟩ := planMove_eq_ok_iff.1 hm
  have htarget : m.target = .collected := lawful.target_eq.trans (by rw [haction]; rfl)
  refine ⟨m, e, hm, htarget, ?_, hrecord, by rw [htarget]⟩
  simpa only [effect, haction] using he

/-- A collection that goes through collects a weight at a band. -/
theorem collects_of_perform (h : s.perform now actor .collect given p = .ok w) :
    ∃ weight x band, s.Collects given p w weight x band := by
  obtain ⟨m, e, -, -, he, -, rfl⟩ := perform_collect_eq_ok h
  obtain ⟨weight, x, band, named, -, priced, hx, rfl⟩ := collectEffect_eq_ok_iff.1 he
  exact ⟨weight, x, band, named, value?_of_pricedWeight hx, priced, rfl, rfl⟩

/-- Where the booking has been collected already, a collection moves nothing. -/
theorem perform_of_collected (h : s.perform now actor .collect given p = .ok w)
    (collected : p.status? = some .collected) : w.move = none ∧ w.driver = none := by
  obtain ⟨m, e, hm, htarget, he, -, rfl⟩ := perform_collect_eq_ok h
  obtain ⟨weight, x, band, -, -, -, -, rfl⟩ := collectEffect_eq_ok_iff.1 he
  have hsource : m.source = .collected :=
    Option.some.inj ((planMove_eq_ok_iff.1 hm).1.symm.trans collected)
  have hchanged : ¬m.changed = true := by simp [Move.changed, hsource, htarget]
  exact ⟨if_neg hchanged, if_neg hchanged⟩

/-- The second of two collections could have been made at once. -/
theorem perform_collect_instead (pricing : t.pricing = s.pricing)
    (categories : t.categories = s.categories)
    (first : s.perform now actor .collect given p = .ok w)
    (second : t.perform now' actor .collect given' (w.progress.onto p) = .ok w')
    {category : Int} (named : given'.wasteCategory = some category) (chosen : category ≠ 0)
    (now'' : Instant) : ∃ v, s.perform now'' actor .collect given' p = .ok v := by
  have own := (perform_eq_ok_iff.1 first).1
  obtain ⟨m, e, hm, -, he, hrecord, rfl⟩ := perform_collect_eq_ok first
  obtain ⟨m', e', -, -, he', -, -⟩ := perform_collect_eq_ok second
  obtain ⟨weight, x, band, -, found, -, -, rfl⟩ := collectEffect_eq_ok_iff.1 he
  obtain ⟨weight', x', band', hweight', found', hband', hx', -⟩ := collectEffect_eq_ok_iff.1 he'
  have hcategory : ∀ q, collectedCategory given' q = category := by
    intro q
    simp [collectedCategory, named, chosen]
  rw [hcategory] at found' hband'
  have hmay : s.requireCategory category p = .ok () := by
    rcases requireCategory_eq_ok_iff.1 found' with hkept | ⟨row, hrow⟩
    · -- It is the category that the first collection found.
      rw [hkept]
      exact found
    · exact requireCategory_eq_ok_iff.2 (.inr ⟨row, categories ▸ hrow⟩)
  have hband : s.band? category = some band' := by
    rw [← hband', band?_of_pricing pricing]
  have hcollect := collectEffect_eq_ok_iff (m := m).2
    ⟨weight', x', band', hweight', (hcategory p).symm ▸ hmay, (hcategory p).symm ▸ hband, hx', rfl⟩
  have heffect : s.effect now'' actor.role m given' p = s.collectEffect m given' p := by
    simp only [effect, (planMove_eq_ok_iff.1 hm).2.1]
  exact ⟨_, perform_eq_ok_iff.2 ⟨own, m, _, hm, heffect.trans hcollect, hrecord, rfl⟩⟩

/-- The amount that is computed for what is given with a collection, in the category that is
collected, is a number. -/
def ComputesNumber (s : Store) (given : Particulars) (category : Int) : Prop :=
  ∀ band ∈ s.band? category, ∀ x ∈ given.weight.bind Number.Given.value?,
    (band.amount (some x)).isNaN = false

instance (s : Store) (given : Particulars) (category : Int) :
    Decidable (s.ComputesNumber given category) :=
  inferInstanceAs (Decidable (∀ band ∈ s.band? category, _))

/-- The amount of a booking is that of its weight in its category. -/
def IsPriced (s : Store) (b : Booking) : Prop :=
  ∃ band, s.band? b.progress.wasteCategory = some band ∧
    sameFloat b.progress.amount (some (band.amount b.progress.weight)) = true

namespace Collects

variable {weight weight' : Number.Given} {x x' : Float} {band band' : Band Float} {old : Progress}

/-- A booking is collected after its collection. -/
theorem status? (h : s.Collects given p w weight x band) :
    w.progress.status? = some .collected := by
  rw [h.progress]
  rfl

/-- A collection leaves the category that it was priced in. -/
theorem wasteCategory_onto (h : s.Collects given p w weight x band) (old : Progress) :
    (w.progress.onto old).wasteCategory = collectedCategory given p := by
  rw [h.progress]
  rfl

/-- If a number is computed for what is collected, the amount is one. -/
theorem isNaN_amount (h : s.Collects given p w weight x band) (pricing : t.pricing = s.pricing)
    (computes : t.ComputesNumber given (collectedCategory given p)) :
    (band.amount (some x)).isNaN = false := by
  refine computes band ?_ x ?_
  · rw [band?_of_pricing pricing, h.priced]
    rfl
  · rw [h.named]
    exact h.value

/-- Two collections of one booking, in one category at one price, write the same. -/
theorem progress_eq (h : s.Collects given p w weight x band)
    (h' : t.Collects given' (w.progress.onto p) w' weight' x' band') {v : Writes} {y : Float}
    {weight'' : Number.Given} {band'' : Band Float} (h'' : s.Collects given' p v weight'' y band'')
    (pricing : t.pricing = s.pricing)
    (category : ∀ q, collectedCategory given' q = collectedCategory given' p) :
    w'.progress = v.progress := by
  obtain rfl : weight' = weight'' := Option.some.inj (h'.named.symm.trans h''.named)
  obtain rfl : x' = y := Option.some.inj (h'.value.symm.trans h''.value)
  have hpriced := h'.priced
  rw [category, band?_of_pricing pricing, h''.priced] at hpriced
  obtain rfl : band'' = band' := Option.some.inj hpriced
  rw [h'.progress, h''.progress, h.progress, category]
  rfl

/-- Where a booking has been collected, collecting the same again writes what is there. -/
theorem same_again (h : s.Collects given p w weight x band)
    (h' : t.Collects given' (w.progress.onto p) w' weight x' band')
    (pricing : t.pricing = s.pricing)
    (category : given'.wasteCategory = given.wasteCategory) (number : x.isNaN = false)
    (amount : (band.amount (some x)).isNaN = false) :
    (w.progress.onto p).same w'.progress = true := by
  obtain rfl : x = x' := Option.some.inj (h.value.symm.trans h'.value)
  have hagain := collectedCategory_again category (h.wasteCategory_onto p)
  have hpriced := h'.priced
  rw [hagain, band?_of_pricing pricing, h.priced] at hpriced
  obtain rfl : band = band' := Option.some.inj hpriced
  have hweight := sameFloat_ontoFloat p.weight number
  have hamount := sameFloat_ontoFloat p.amount amount
  rw [h'.progress, hagain, h.progress]
  simp only [Progress.same, Progress.onto, Progress.settled, hweight, hamount, decide_true,
    Bool.and_true]

/-- The amount of a booking that has been collected is that of its weight in its category, if that
is a number. -/
theorem isPriced (h : s.Collects given p w weight x band) (pricing : t.pricing = s.pricing)
    {b : Booking} (written : b.progress = w.progress.onto old)
    (computes : t.ComputesNumber given b.progress.wasteCategory) : t.IsPriced b := by
  rw [written, h.wasteCategory_onto] at computes
  have hweight : b.progress.weight = ontoFloat old.weight (some x) := by
    rw [written, h.progress]
    rfl
  have hamount : b.progress.amount = ontoFloat old.amount (some (band.amount (some x))) := by
    rw [written, h.progress]
    rfl
  refine ⟨band, ?_, ?_⟩
  · rw [written, h.wasteCategory_onto, band?_of_pricing pricing, h.priced]
  · rw [hweight, hamount, band.amount_ontoFloat]
    exact sameFloat_ontoFloat old.amount (h.isNaN_amount pricing computes)

end Collects

end Store

/-! ## Two collections -/

/-- What moves nothing adds nothing to the history. -/
theorem Store.commit_history_of_stays {s : Store} {now : Instant} {actor : Actor} {b : Booking}
    {w : Writes} (move : w.move = none) : (s.commit now actor b w).history = s.history := by
  simp only [commit, move]

/-- Two collections of one booking that go through one after the other are two pieces of work, the
second of them on what the first has left. -/
theorem World.collections {w w₁ w₂ : World} {token₁ token₂ : Token} {now₁ now₂ : Instant}
    {actor : Actor} {booking : Int} {given₁ given₂ : Particulars} {b₁ b₂ : Booking}
    (first : w.applyAction token₁ now₁ actor booking .collect given₁ = (w₁, .ok b₁))
    (second : w₁.applyAction token₂ now₂ actor booking .collect given₂ = (w₂, .ok b₂)) :
    ∃ b v₁ v₂, w.LockIsFree booking ∧ w.store.bookings.lookUp booking = .ok (some b) ∧
      w.store.perform now₁ actor .collect given₁ b.progress = .ok v₁ ∧
      (w.store.commit now₁ actor b v₁).perform now₂ actor .collect given₂
        (v₁.progress.onto b.progress) = .ok v₂ ∧
      w₁ = ⟨w.store.commit now₁ actor b v₁, w.locks⟩ ∧
      b₁ = b.advance now₁ v₁.progress v₁.rounded ∧
      w₂ = ⟨(w.store.commit now₁ actor b v₁).commit now₂ actor b₁ v₂, w.locks⟩ ∧
      b₂ = b₁.advance now₂ v₂.progress v₂.rounded := by
  obtain ⟨free, b, v₁, lookUp, work₁, rfl, rfl⟩ := applyAction_eq_ok_iff.1 first
  obtain ⟨-, b', v₂, lookUp', work₂, rfl, rfl⟩ := applyAction_eq_ok_iff.1 second
  have found := (Table.lookUp_eq_ok_iff.1 lookUp).2
  have found' := (Table.lookUp_eq_ok_iff.1 lookUp').2
  rw [Store.find?_commit_self found] at found'
  obtain rfl := Option.some.inj found'
  refine ⟨b, v₁, v₂, free, lookUp, work₁, ?_, rfl, rfl, rfl, rfl⟩
  rw [← Booking.advance_progress now₁ b v₁.progress v₁.rounded]
  exact work₂

/-- Of two collections of one booking that go through, the second records nothing and leaves the
rows of drivers. If it gives a category, it leaves the booking as if it alone had been made; if it
gives the same as the first, it leaves everything. After each of them, the amount is that of the
weight and the category. -/
theorem last_collection_counts {w w₁ w₂ : World} {token₁ token₂ : Token} {now₁ now₂ : Instant}
    {actor : Actor} {booking : Int} {given₁ given₂ : Particulars} {b₁ b₂ : Booking}
    (first : w.applyAction token₁ now₁ actor booking .collect given₁ = (w₁, .ok b₁))
    (second : w₁.applyAction token₂ now₂ actor booking .collect given₂ = (w₂, .ok b₂)) :
    (w₁.store.bookings.find? booking = some b₁ ∧ w₂.store.bookings.find? booking = some b₂) ∧
      (w₂.store.history = w₁.store.history ∧ w₂.store.drivers = w₁.store.drivers) ∧
      (∀ category, given₂.wasteCategory = some category → category ≠ 0 → ∀ token now, ∃ once b,
        w.applyAction token now actor booking .collect given₂ = (once, .ok b) ∧
          b.progress.settled.same b₂.progress.settled = true) ∧
      (given₂.weight = given₁.weight → given₂.wasteCategory = given₁.wasteCategory →
        (∀ weight, given₁.weight = some weight → weight.isExact = true ∧
          ∀ x, weight.value? = some x → x.isNaN = false) →
        w.store.ComputesNumber given₁ b₁.progress.wasteCategory → w₂ = w₁) ∧
      (w.store.ComputesNumber given₁ b₁.progress.wasteCategory → w.store.IsPriced b₁) ∧
      (w.store.ComputesNumber given₂ b₂.progress.wasteCategory → w.store.IsPriced b₂) := by
  obtain ⟨b, v₁, v₂, free, lookUp, work₁, work₂, rfl, rfl, rfl, rfl⟩ :=
    World.collections first second
  have found := (Table.lookUp_eq_ok_iff.1 lookUp).2
  have pricing := w.store.commit_pricing now₁ actor b v₁
  obtain ⟨weight₁, x₁, band₁, collects₁⟩ := Store.collects_of_perform work₁
  obtain ⟨weight₂, x₂, band₂, collects₂⟩ := Store.collects_of_perform work₂
  obtain ⟨hmove, hdriver⟩ := Store.perform_of_collected work₂ collects₁.status?
  refine ⟨⟨Store.find?_commit_self found,
    Store.find?_commit_self (Store.find?_commit_self found)⟩, ⟨?_, ?_⟩, ?_, ?_, ?_, ?_⟩
  · exact Store.commit_history_of_stays hmove
  · rw [Store.commit_drivers, hdriver]
  · intro category named chosen token now
    obtain ⟨v, work⟩ := Store.perform_collect_instead pricing
      (w.store.commit_categories now₁ actor b v₁) work₁ work₂ named chosen now
    obtain ⟨weight, x, band, collects⟩ := Store.collects_of_perform work
    refine ⟨_, _, World.applyAction_eq_ok_iff.2 ⟨free, b, v, lookUp, work, rfl, rfl⟩, ?_⟩
    have hprogress : v₂.progress = v.progress :=
      collects₁.progress_eq collects₂ collects pricing fun q => by
        simp [Store.collectedCategory, named, chosen]
    rw [Booking.advance_progress, Booking.advance_progress, hprogress]
    exact Progress.settled_onto_same _ _ _
  · intro hweight hcategory exactly computes
    obtain rfl : weight₁ = weight₂ :=
      Option.some.inj (collects₁.named.symm.trans (hweight.symm.trans collects₂.named))
    obtain ⟨isExact, number⟩ := exactly weight₁ collects₁.named
    rw [Booking.advance_progress, collects₁.wasteCategory_onto] at computes
    have same := collects₁.same_again collects₂ pricing hcategory (number x₁ collects₁.value)
      (collects₁.isNaN_amount rfl computes)
    have rounded : v₂.rounded = false := by rw [collects₂.rounded, isExact]; rfl
    exact congrArg (World.mk · w.locks) (Store.commit_again same rounded hdriver hmove)
  · exact collects₁.isPriced rfl (Booking.advance_progress _ _ _ _)
  · exact collects₂.isPriced pricing.symm (Booking.advance_progress _ _ _ _)

/-- A booking is collected in one category, then in another, and then in that once more. -/
theorem collected_in_another_category :
    let w : World :=
      ⟨{ Store.single ⟨"IN_PROGRESS", some 7, 1, none, none, none, none⟩ with
          categories := ⟨[⟨1, true⟩, ⟨2, true⟩]⟩
          pricing := ⟨[⟨1, 1, 40.0, 60.0, true, ⟨0⟩⟩, ⟨2, 2, 20.0, 40.0, true, ⟨0⟩⟩]⟩ }, .empty⟩
    let collect (w : World) (at_ : Instant) (weight : Float) (category : Int) :=
      w.applyAction ⟨1⟩ at_ ⟨7, .driver⟩ 1 .collect
        ⟨none, some (.float weight), none, some category, none⟩
    let first := collect w ⟨1⟩ 3.0 2
    let second := collect first.1 ⟨2⟩ 2.5 1
    let third := collect second.1 ⟨3⟩ 2.5 1
    second.1.store.history = first.1.store.history ∧
      (∃ once b b₂, collect w ⟨2⟩ 2.5 1 = (once, .ok b) ∧ second.2 = .ok b₂ ∧
        b.progress.settled.same b₂.progress.settled = true ∧ w.store.IsPriced b₂) ∧
      second.1 ≠ first.1 ∧ third.1 = second.1 := by
  intro w collect first second third
  have answered : ∀ result : World × Except Refusal Booking, result.2.toBool = true →
      ∃ b, result = (result.1, .ok b) := by
    rintro ⟨w, refusal | b⟩ h
    · cases h
    · exact ⟨b, rfl⟩
  obtain ⟨b₁, hfirst⟩ := answered first (by decide +kernel)
  obtain ⟨b₂, hsecond⟩ := answered second (by decide +kernel)
  obtain ⟨b₃, hthird⟩ := answered third (by decide +kernel)
  have hcategory : second.2.map (fun b => b.progress.wasteCategory) = .ok 1 := by decide +kernel
  rw [hsecond] at hcategory
  have hone : b₂.progress.wasteCategory = 1 := Except.ok.inj hcategory
  have computes : ∀ s : Store, s.pricing = w.store.pricing →
      s.ComputesNumber ⟨none, some (.float 2.5), none, some 1, none⟩ b₂.progress.wasteCategory := by
    intro s pricing
    have number : w.store.ComputesNumber ⟨none, some (.float 2.5), none, some 1, none⟩ 1 := by
      decide +kernel
    rw [hone]
    intro band hband
    rw [Store.band?_of_pricing pricing] at hband
    exact number band hband
  obtain ⟨-, ⟨hhistory, -⟩, instead, -, -, priced⟩ := last_collection_counts hfirst hsecond
  obtain ⟨once, b, honce, hsame⟩ := instead 1 rfl (by decide) ⟨1⟩ ⟨2⟩
  obtain ⟨-, -, -, again, -⟩ := last_collection_counts hsecond hthird
  refine ⟨hhistory, ⟨once, b, b₂, honce, congrArg Prod.snd hsecond, hsame, priced (computes _ rfl)⟩,
    by decide +kernel, again rfl rfl ?_ (computes _ ?_)⟩
  · rintro weight h
    cases h
    exact ⟨rfl, fun x hx => by cases hx; decide⟩
  · decide +kernel

/-- After a collection in another category, one that gives the category zero stays there, and does
not come to what it comes to at once; and a weight that no float holds moves the time of the last
update whenever it is collected. -/
theorem zero_category_and_rounded_weight :
    let w : World :=
      ⟨{ Store.single ⟨"IN_PROGRESS", some 7, 1, none, none, none, none⟩ with
          categories := ⟨[⟨1, true⟩, ⟨2, true⟩]⟩
          pricing := ⟨[⟨1, 1, 40.0, 60.0, true, ⟨0⟩⟩, ⟨2, 2, 20.0, 40.0, true, ⟨0⟩⟩]⟩ }, .empty⟩
    let collect (w : World) (at_ : Instant) (weight : Number.Given) (category : Int) :=
      w.applyAction ⟨1⟩ at_ ⟨7, .driver⟩ 1 .collect
        ⟨none, some weight, none, some category, none⟩
    let columns (result : World × Except Refusal Booking) :=
      result.2.map fun b => (b.progress.wasteCategory, b.progress.amount)
    let heavy := collect w ⟨1⟩ (.whole 9007199254740993) 1
    let again := collect heavy.1 ⟨2⟩ (.whole 9007199254740993) 1
    columns (collect (collect w ⟨1⟩ (.float 3.0) 2).1 ⟨2⟩ (.float 3.0) 0) = .ok (2, some 90.0) ∧
      columns (collect w ⟨2⟩ (.float 3.0) 0) = .ok (1, some 150.0) ∧
      heavy.2.toBool = true ∧ again.2.toBool = true ∧ again.1 ≠ heavy.1 := by
  intro w collect columns heavy again
  exact ⟨by decide +kernel, by decide +kernel, by decide +kernel, by decide +kernel,
    by decide +kernel⟩

end WastePickup
