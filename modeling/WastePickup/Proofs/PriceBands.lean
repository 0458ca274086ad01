import WastePickup.Proofs.Bookings
import WastePickup.Proofs.Reach
import WastePickup.Proofs.RequestForms
import WastePickup.Proofs.Written

/-!
# Price bands stay sound

The price row of a category is looked up by its category, and written by its number. The database
declares the category of a price row to be unique, but a `Table` keeps no two rows apart by anything
other than their numbers. That a category has one price row at most comes from a band being added
only where none is found, and that the ends of a band are in order from the rule of the form. Both
are kept by every step, since a step that writes prices sets the band of one category by a form that
has been checked, or puts the sample into an empty store.

* `Pricing.Carries`: a row carries a form as numbers; then the form leaves it as it is.
* `Store.HasSoundPrices`: categories that are there have one row at most, with its ends in order.
* `Service.step_prices`: what a step does to the prices.
* `price_bands_stay_sound`: along every run the prices are sound, and a band that is set is there.
-/

namespace WastePickup

/-! ## Numbers that are stored -/

/-- What is stored of a number equals it: a zero may lose its sign. -/
theorem Number.beq_stored {x : Float} (hx : x.isNaN = false) :
    ((storedFloat x).getD x == x) = true := by
  have hself : (x == x) = true := beq_self hx
  have hsame := sameFloat_storedFloat hx
  cases hstored : storedFloat x with
  | none => exact hself
  | some y =>
    rw [hstored] at hsame
    simp only [sameFloat, Bool.or_eq_true, decide_eq_true_eq] at hsame
    rcases hsame with rfl | hsame
    · exact hself
    · exact hsame

/-! ## Rows and forms -/

/-- The ends of a band are in order. -/
structure Pricing.IsOrdered (row : Pricing) : Prop where
  min : 0.0 ≤ row.min
  max : row.min ≤ row.max

/-- A row carries a form, so far as numbers go. -/
structure Pricing.Carries (row : Pricing) (form : PricingForm) : Prop where
  min : (row.min == form.min) = true
  max : (row.max == form.max) = true
  isActive : row.isActive = form.isActive

namespace Pricing

variable {row : Pricing} {form : PricingForm} {now : Instant}

/-- A new row carries the form that it is made from. -/
theorem carries_newPricing (h : form.IsWithinBounds) (s : Store) (category : Int) :
    (s.newPricing now category form).Carries form where
  min := Number.beq_stored (Number.isNaN_of_le h.min)
  max := Number.beq_stored (Number.isNaN_of_le h.max)
  isActive := rfl

/-- A row carries the form that has been written over it. -/
theorem carries_set (h : form.IsWithinBounds) (row : Pricing) :
    (row.set now form).Carries form := by
  unfold set
  split
  · rename_i hsame
    simp only [Bool.and_eq_true, beq_iff_eq] at hsame
    obtain ⟨⟨hmin, hmax⟩, hisActive⟩ := hsame
    exact ⟨hmin, hmax, hisActive⟩
  · exact ⟨Number.beq_stored (Number.isNaN_of_le h.min),
      Number.beq_stored (Number.isNaN_of_le h.max), rfl⟩

/-- A form that a row carries leaves it as it is. -/
theorem set_of_carries (h : row.Carries form) (now : Instant) : row.set now form = row := by
  unfold set
  rw [if_pos (by simp [h.min, h.max, h.isActive])]

/-- A row that carries a form has its ends in order, as the form has. -/
theorem IsOrdered.of_carries (h : form.IsWithinBounds) (carries : row.Carries form) :
    row.IsOrdered where
  min := (Number.le_congr (Number.beq_self rfl) (Number.beq_symm carries.min)).1 h.min
  max := (Number.le_congr (Number.beq_symm carries.min) (Number.beq_symm carries.max)).1 h.inOrder

end Pricing

/-! ## Sound prices -/

/-- The price rows of a store are sound. -/
structure Store.HasSoundPrices (s : Store) : Prop where
  /-- Numbers tell the rows apart. -/
  keys : s.pricing.ids.Nodup
  /-- No two rows are of one category. -/
  unique : (s.pricing.rows.map Pricing.wasteCategory).Nodup
  /-- The category of a row is there. -/
  known : ∀ row ∈ s.pricing.rows, ∃ c, s.categories.find? row.wasteCategory = some c
  /-- The ends of every band are in order. -/
  ordered : ∀ row ∈ s.pricing.rows, row.IsOrdered

/-- Where numbers tell rows apart, a column in which a new row agrees with the old one is left as it
is. -/
theorem Table.map_replace_of_eq {α β : Type} [Row α] {t : Table α} (keys : t.ids.Nodup)
    {old new : α} (mem : old ∈ t.rows) (id_eq : Row.id new = Row.id old) {f : α → β}
    (hf : f new = f old) : (t.replace new).rows.map f = t.rows.map f := by
  rw [replace, List.map_map]
  refine List.map_congr_left fun row hrow => ?_
  show f (if Row.id row = Row.id new then new else row) = f row
  split
  · rename_i hid
    rw [List.inj_on_of_nodup_map keys hrow mem (hid.trans id_eq), hf]
  · rfl

/-- Where no two rows are of one category, those of a category are the first one, if there is
one. -/
theorem Pricing.filter_eq_toList_find? {rows : List Pricing}
    (unique : (rows.map wasteCategory).Nodup) (category : Int) :
    (rows.filter fun row => row.wasteCategory = category) =
      (rows.find? fun row => row.wasteCategory = category).toList := by
  induction rows with
  | nil => rfl
  | cons row rest ih =>
    obtain ⟨hnew, hrest⟩ := List.nodup_cons.1 unique
    by_cases hrow : row.wasteCategory = category
    · have hnone : (rest.filter fun row => row.wasteCategory = category) = [] := by
        refine List.filter_eq_nil_iff.2 fun other hother hsame => hnew ?_
        rw [hrow, ← of_decide_eq_true hsame]
        exact List.mem_map_of_mem hother
      simp [hrow, hnone]
    · simpa [hrow] using ih hrest

namespace Store

variable {s t : Store} {category : Int} {row : Pricing}

/-- The rows of a category are the one that is found, if there is one. -/
theorem HasSoundPrices.filter_eq (h : s.HasSoundPrices) (category : Int) :
    (s.pricing.rows.filter fun row => row.wasteCategory = category) =
      (s.pricing? category).toList :=
  Pricing.filter_eq_toList_find? h.unique category

/-- The price row of a category is one of the rows, and of that category. -/
theorem mem_of_pricing? (h : s.pricing? category = some row) :
    row ∈ s.pricing.rows ∧ row.wasteCategory = category :=
  ⟨List.mem_of_find?_eq_some h, by simpa using List.find?_some h⟩

/-- A row may be added for a category that is there and has none. -/
theorem HasSoundPrices.append (h : s.HasSoundPrices) (id_eq : row.id = s.pricing.nextId)
    (absent : s.pricing? row.wasteCategory = none)
    (known : ∃ c, s.categories.find? row.wasteCategory = some c) (ordered : row.IsOrdered) :
    { s with pricing := s.pricing.append row }.HasSoundPrices where
  keys := by
    simp only [Table.append, Table.ids, List.map_append]
    refine List.nodup_append.2 ⟨h.keys, List.nodup_singleton _, fun id hid id' hid' => ?_⟩
    obtain ⟨old, hold, rfl⟩ := List.mem_map.1 hid
    obtain rfl := List.mem_singleton.1 hid'
    exact Int.ne_of_lt (Int.lt_of_lt_of_le (Table.lt_nextId hold) (Int.le_of_eq id_eq.symm))
  unique := by
    simp only [Table.append, List.map_append]
    refine List.nodup_append.2 ⟨h.unique, List.nodup_singleton _, fun c hc c' hc' => ?_⟩
    obtain ⟨old, hold, rfl⟩ := List.mem_map.1 hc
    obtain rfl := List.mem_singleton.1 hc'
    simpa using List.find?_eq_none.1 absent old hold
  known := by
    intro r hr
    rcases List.mem_append.1 hr with hr | hr
    · exact h.known r hr
    · rwa [List.mem_singleton.1 hr]
  ordered := by
    intro r hr
    rcases List.mem_append.1 hr with hr | hr
    · exact h.ordered r hr
    · rwa [List.mem_singleton.1 hr]

/-- A row may be replaced by another one of its number and category. -/
theorem HasSoundPrices.replace (h : s.HasSoundPrices) {old : Pricing} (mem : old ∈ s.pricing.rows)
    (id_eq : Row.id row = Row.id old) (category_eq : row.wasteCategory = old.wasteCategory)
    (ordered : row.IsOrdered) : { s with pricing := s.pricing.replace row }.HasSoundPrices where
  keys := by
    rw [Table.ids_replace]
    exact h.keys
  unique := by
    show ((s.pricing.replace row).rows.map Pricing.wasteCategory).Nodup
    rw [Table.map_replace_of_eq h.keys mem id_eq category_eq]
    exact h.unique
  known := by
    intro r hr
    rcases Table.mem_replace hr with rfl | hr
    · rw [category_eq]
      exact h.known old mem
    · exact h.known r hr
  ordered := by
    intro r hr
    rcases Table.mem_replace hr with rfl | hr
    · exact ordered
    · exact h.ordered r hr

/-- A band that is set by a form within its bounds is sound. -/
theorem HasSoundPrices.setPrice (h : s.HasSoundPrices) {now : Instant} {form : PricingForm}
    (within : form.IsWithinBounds) (set : s.setPrice now category form = .ok (t, row)) :
    t.HasSoundPrices := by
  obtain ⟨known, ⟨absent, rfl, rfl⟩ | ⟨old, found, rfl, rfl⟩⟩ := setPrice_eq_ok set
  · exact h.append rfl absent known
      (.of_carries within (Pricing.carries_newPricing within s category))
  · exact h.replace (mem_of_pricing? found).1 (Pricing.set_id now old form)
      (Pricing.set_wasteCategory now old form) (.of_carries within (Pricing.carries_set within old))

/-- What does not write prices, and takes no category away, leaves them sound. -/
theorem HasSoundPrices.of_eq (h : s.HasSoundPrices) (pricing : t.pricing = s.pricing)
    (categories : t.categories = s.categories) : t.HasSoundPrices where
  keys := pricing ▸ h.keys
  unique := pricing ▸ h.unique
  known := by
    rw [pricing, categories]
    exact h.known
  ordered := pricing ▸ h.ordered

/-! ## The sample -/

/-- The bands of the sample are in order. -/
theorem inOrder_sample (kind : SampleWaste) :
    0.0 ≤ kind.band.min ∧ kind.band.min ≤ kind.band.max := by
  cases kind with
  | plastic | paper | metal | electronics => decide +kernel

/-- A category more leaves the prices sound. -/
theorem HasSoundPrices.addCategory (h : s.HasSoundPrices) (c : WasteCategory) :
    { s with categories := s.categories.append c }.HasSoundPrices where
  keys := h.keys
  unique := h.unique
  known := by
    intro r hr
    obtain ⟨found, hfound⟩ := h.known r hr
    refine ⟨found, ?_⟩
    show (s.categories.append c).find? r.wasteCategory = some found
    rw [Table.append, Table.find?_rows_append, hfound]
    rfl
  ordered := h.ordered

/-- The kinds of waste are added with their bands one by one. -/
theorem HasSoundPrices.withSampleWaste (h : s.HasSoundPrices) {now : Instant}
    (stocked : s.withSampleWaste now = .ok t) : t.HasSoundPrices := by
  refine foldlM_induction (R := fun s t => s.HasSoundPrices → t.HasSoundPrices)
    (fun _ => id) (fun first second => second ∘ first) _ ?_ stocked h
  intro kind _ s t added h
  simp only at added
  split at added
  · cases added
  · rename_i absent
    cases added
    have absent : s.pricing? s.categories.nextId = none := by simpa using absent
    have known : ∃ c, (s.categories.append ⟨s.categories.nextId, true⟩).find?
        s.categories.nextId = some c := by
      rw [Table.append, Table.find?_rows_append]
      cases s.categories.find? s.categories.nextId with
      | some c => exact ⟨c, rfl⟩
      | none => exact ⟨⟨s.categories.nextId, true⟩, by simp [Table.find?, Row.id]⟩
    obtain ⟨hmin, hmax⟩ := inOrder_sample kind
    exact (h.addCategory ⟨s.categories.nextId, true⟩).append rfl absent known ⟨hmin, hmax⟩

/-- The sample is sound, and is put beside what is there. -/
theorem HasSoundPrices.seed (h : s.HasSoundPrices) {now : Instant} {report : List String}
    (seeded : s.seed now = .ok (t, report)) : t.HasSoundPrices := by
  unfold Store.seed at seeded
  split at seeded
  · cases seeded
    exact h
  · obtain ⟨peopled, hpeopled, seeded⟩ := bind_eq_ok_iff.1 seeded
    obtain ⟨stocked, hstocked, seeded⟩ := bind_eq_ok_iff.1 seeded
    obtain ⟨booked, hbooked, seeded⟩ := bind_eq_ok_iff.1 seeded
    cases seeded
    have people : peopled.HasSoundPrices := by
      unfold withSampleDrivers at hpeopled
      split at hpeopled
      · cases hpeopled
      · cases hpeopled
        exact h.of_eq rfl rfl
    refine foldlM_induction (R := fun s t => s.HasSoundPrices → t.HasSoundPrices)
      (fun _ => id) (fun first second => second ∘ first) _ ?_ hbooked
      (people.withSampleWaste hstocked)
    rintro ⟨b, index⟩ _ s t added h
    simp only at added
    split at added
    · cases added
    · cases added
      exact h.of_eq rfl rfl

end Store

/-! ## Steps -/

/-- What a step does to the prices: it leaves them and the categories, or it sets a band by a form
that has been checked, or it puts in the sample. -/
inductive Store.PricesStep (s t : Store) : Prop where
  | kept (pricing : t.pricing = s.pricing) (categories : t.categories = s.categories) :
      PricesStep s t
  | set {now : Instant} {category : Int} {form : PricingForm} {row : Pricing}
      (within : form.IsWithinBounds) (h : s.setPrice now category form = .ok (t, row)) :
      PricesStep s t
  | seeded {now : Instant} {report : List String} (h : s.seed now = .ok (t, report)) :
      PricesStep s t

/-- Sound prices stay sound in every step. -/
theorem Store.HasSoundPrices.of_step {s t : Store} (h : s.HasSoundPrices)
    (step : s.PricesStep t) : t.HasSoundPrices := by
  cases step with
  | kept pricing categories => exact h.of_eq pricing categories
  | set within set => exact h.setPrice within set
  | seeded seeded => exact h.seed seeded

/-- The form by which a request sets a band has been checked. -/
theorem Request.Asks.isWithinBounds {r : Request} {actor : Actor} {category : Int}
    {form : PricingForm} (asks : r.Asks actor (.setPrice category form)) :
    form.IsWithinBounds := by
  obtain @⟨e, number, -, -, -, read⟩ := asks
  obtain ⟨rfl, -⟩ := Endpoint.read_eq_ok read
  obtain ⟨_, _, -, hbody, hcommand⟩ := Checked.map_seq_eq_ok_iff.1 read
  cases hcommand
  obtain ⟨o, hread⟩ := Endpoint.inBody_eq_ok hbody
  exact PricingForm.readsBack.within hread

namespace Service

variable (service : Service)

/-- What a request asks for does one of these. -/
theorem run_prices {r : Request} {actor : Actor} {command : Command} (token : Token)
    (now : Instant) (asks : r.Asks actor command) :
    service.world.store.PricesStep (command.run service.world token now actor).1.store := by
  have h := command.run_leaves service.world token now actor
  generalize (command.run service.world token now actor).1.store = t at h ⊢
  cases h with
  | idle => exact .kept rfl rfl
  | ordered => exact .kept (Store.commit_pricing ..) (Store.commit_categories ..)
  | furnished h =>
    cases h with
    | booked h =>
      rw [Store.createItems_store h]
      exact .kept rfl rfl
    | available h =>
      obtain ⟨-, d, -, rfl⟩ := Store.setAvailability_eq_ok h
      exact .kept rfl rfl
    | priced h => exact .set asks.isWithinBounds h

/-- An order leaves the prices. -/
theorem carryOut_prices (token : Token) (now : Instant) (actor : Actor) (booking : Int)
    (order : Order) : service.world.store.PricesStep
      (service.world.carryOut token now actor booking order).1.store := by
  rcases service.world.carryOut_cases token now booking actor order with
    ⟨refusal, h⟩ | ⟨b, w, -, -, -, h⟩
  · rw [h]
    exact .kept rfl rfl
  · rw [h]
    exact .kept (Store.commit_pricing ..) (Store.commit_categories ..)

/-- What a step of the service does to the prices: nothing, or one of the writes of a price. -/
theorem step_prices (s : Step) :
    service.world.store.PricesStep (service.step s).1.world.store := by
  obtain ⟨token, now, event⟩ := s
  cases event with
  | request r =>
    have h := service.serve_runs token now r
    simp only [step]
    generalize service.serve token now r = result at h ⊢
    cases h with
    | idle h =>
      rw [h]
      exact .kept rfl rfl
    | ran asks h =>
      rw [h]
      exact service.run_prices token now asks
  | act actor booking action given =>
    exact service.carryOut_prices token now actor booking (.act action given)
  | adminUpdate actor booking request =>
    exact service.carryOut_prices token now actor booking (.update request)
  | list filter page size => exact .kept rfl rfl
  | seed =>
    simp only [step]
    split
    · rename_i h
      exact .seeded h
    · exact .kept rfl rfl
  | hold booking => exact .kept rfl rfl
  | drop booking => exact .kept rfl rfl
  | forget path => exact .kept rfl rfl

/-- Prices that are sound at the beginning of a run are sound at its end. -/
theorem run_prices_sound (steps : List Step) (h : service.world.store.HasSoundPrices) :
    (service.run steps).world.store.HasSoundPrices :=
  run_induction (R := fun s t => s.HasSoundPrices → t.HasSoundPrices) (fun _ => id)
    (fun first second => second ∘ first) steps
    (fun s _ service h => h.of_step (service.step_prices s)) service h

end Service

/-! ## Setting a band -/

/-- The band of a category is set: the store is as it was but for the one row of the category, which
carries the form, under the number that it had if it was there. -/
structure Store.IsPricedBy (s : Store) (category : Int) (form : PricingForm) (t : Store) :
    Prop where
  /-- Nothing but prices is written. -/
  fixed : t = { s with pricing := t.pricing }
  /-- The category has one row, which carries the form. -/
  own : ∃ row, (t.pricing.rows.filter fun row => row.wasteCategory = category) = [row] ∧
    row.Carries form ∧ ∀ old, s.pricing? category = some old → row.id = old.id
  /-- The rows of all other categories are as they were. -/
  others : (t.pricing.rows.filter fun row => row.wasteCategory ≠ category) =
    s.pricing.rows.filter fun row => row.wasteCategory ≠ category

namespace Table

variable {α : Type} [Row α] {t : Table α}

/-- A row that takes the place of another one is there. -/
theorem mem_replace_self {old new : α} (mem : old ∈ t.rows) (id_eq : Row.id new = Row.id old) :
    new ∈ (t.replace new).rows :=
  List.mem_map.2 ⟨old, mem, if_pos id_eq.symm⟩

/-- Where numbers tell rows apart, a row that is put in its own place leaves the table. -/
theorem replace_self (keys : t.ids.Nodup) {row : α} (mem : row ∈ t.rows) : t.replace row = t := by
  have hrows : (t.replace row).rows = t.rows := by
    simpa using map_replace_of_eq keys mem rfl (f := fun row => row) rfl
  exact congrArg Table.mk hrows

end Table

namespace Store

variable {s t : Store} {now now' : Instant} {category : Int} {form : PricingForm} {row : Pricing}

/-- A row is found under its category, and is the only one of it. -/
theorem HasSoundPrices.pricing?_eq (h : s.HasSoundPrices) (mem : row ∈ s.pricing.rows) :
    s.pricing? row.wasteCategory = some row := by
  have hmem : row ∈ s.pricing.rows.filter fun other => other.wasteCategory = row.wasteCategory :=
    List.mem_filter.2 ⟨mem, decide_eq_true rfl⟩
  rw [h.filter_eq] at hmem
  exact Option.mem_toList.1 hmem

/-- The row that a band is set in is there afterwards. -/
theorem mem_of_setPrice (set : s.setPrice now category form = .ok (t, row)) :
    row ∈ t.pricing.rows ∧ row.wasteCategory = category := by
  obtain ⟨-, ⟨-, rfl, rfl⟩ | ⟨old, found, rfl, rfl⟩⟩ := setPrice_eq_ok set
  · exact ⟨List.mem_append_right _ (List.mem_singleton_self _), rfl⟩
  · obtain ⟨mem, hcategory⟩ := mem_of_pricing? found
    exact ⟨Table.mem_replace_self mem (Pricing.set_id now old form),
      (Pricing.set_wasteCategory now old form).trans hcategory⟩

/-- It carries the form. -/
theorem carries_of_setPrice (within : form.IsWithinBounds)
    (set : s.setPrice now category form = .ok (t, row)) : row.Carries form := by
  obtain ⟨-, ⟨-, rfl, -⟩ | ⟨old, -, rfl, -⟩⟩ := setPrice_eq_ok set
  · exact Pricing.carries_newPricing within s category
  · exact Pricing.carries_set within old

/-- A band is set in the row of its category, and nowhere else. -/
theorem HasSoundPrices.isPricedBy (h : s.HasSoundPrices) (within : form.IsWithinBounds)
    (set : s.setPrice now category form = .ok (t, row)) : s.IsPricedBy category form t := by
  obtain ⟨mem, hcategory⟩ := mem_of_setPrice set
  have hown : (t.pricing.rows.filter fun row => row.wasteCategory = category) = [row] := by
    have sound := h.setPrice within set
    rw [sound.filter_eq, ← hcategory, sound.pricing?_eq mem]
    rfl
  have carries := carries_of_setPrice within set
  obtain ⟨-, ⟨absent, rfl, rfl⟩ | ⟨old, found, rfl, rfl⟩⟩ := setPrice_eq_ok set
  · refine ⟨rfl, ⟨_, hown, carries, fun old hold => ?_⟩, ?_⟩
    · rw [absent] at hold
      cases hold
    · simp [Table.append, List.filter_append, hcategory]
  · obtain ⟨hold, holdCategory⟩ := mem_of_pricing? found
    refine ⟨rfl, ⟨_, hown, carries, fun old' hold' => ?_⟩, ?_⟩
    · rw [found] at hold'
      cases hold'
      exact Pricing.set_id now old form
    · exact Table.filter_replace h.keys hold (Pricing.set_id now old form)
        (by simp [holdCategory]) (by simp [hcategory])

/-- A band that has been set is set again without a change. -/
theorem HasSoundPrices.setPrice_again (h : s.HasSoundPrices) (within : form.IsWithinBounds)
    (set : s.setPrice now category form = .ok (t, row)) :
    t.setPrice now' category form = .ok (t, row) := by
  have sound := h.setPrice within set
  have carries := carries_of_setPrice within set
  obtain ⟨mem, hcategory⟩ := mem_of_setPrice set
  have found : t.pricing? category = some row := hcategory ▸ sound.pricing?_eq mem
  have hcategories : t.categories = s.categories := by
    rw [(h.isPricedBy within set).fixed]
  unfold Store.setPrice at set ⊢
  split at set
  · cases set
  · cases set
  · rename_i c hc
    have hlookUp : t.categories.lookUp category = .ok (some c) := by rw [hcategories, hc]
    simp only [hlookUp, found, Pricing.set_of_carries carries,
      Table.replace_self sound.keys mem]

end Store

/-! ## Requests that set a band -/

namespace Service

variable {service : Service} {r : Request} {actor : Actor} {category : Int} {form : PricingForm}

/-- A request that sets a band and succeeds has it set. -/
theorem setPrice_of_succeeds {token : Token} {now : Instant}
    (asks : r.Asks actor (.setPrice category form)) {response : Response}
    (answered : (service.serve token now r).2 = .ok response) (succeeds : response.code = 200) :
    ∃ t row, service.world.store.setPrice now category form = .ok (t, row) ∧
      (service.serve token now r).1.world = ⟨t, service.world.locks⟩ := by
  rw [serve_eq_runLimited token now asks nofun, runLimited] at answered ⊢
  split at answered
  · cases answered
    cases succeeds
  · rename_i unlimited
    rw [if_neg unlimited]
    have hrun : (Command.setPrice category form).run service.world token now actor =
        service.world.storing ((service.world.store.setPrice now category form).map
          fun set => (set.1, .pricing set.2)) := rfl
    cases hset : service.world.store.setPrice now category form with
    | error refusal =>
      rw [hrun, hset] at answered
      have hcode : response.code = refusal.code := by
        have answered : Reply.ofOutcome (.error refusal) = .ok response := answered
        unfold Reply.ofOutcome at answered
        simp only at answered
        split at answered
        · cases answered
        · cases answered
          rfl
      have hfailure := refusal.le_code
      omega
    | ok result =>
      obtain ⟨t, row⟩ := result
      refine ⟨t, row, rfl, ?_⟩
      rw [hrun, hset]
      rfl

/-- What such a request comes to where the band is set already. -/
theorem setPrice_again {token : Token} {now : Instant}
    (asks : r.Asks actor (.setPrice category form)) {row : Pricing}
    (again : service.world.store.setPrice now category form = .ok (service.world.store, row)) :
    (service.serve token now r).1.world = service.world := by
  rw [serve_eq_runLimited token now asks nofun, runLimited]
  split
  · rfl
  · show (service.world.storing ((service.world.store.setPrice now category form).map
      fun set => (set.1, .pricing set.2))).1 = service.world
    rw [again]
    rfl

end Service

/-- Along every run the prices stay sound, so that a look-up never meets two rows. A request that
sets a band and succeeds sets it in the row of its category and nowhere else, and changes nothing
when it is sent again. -/
theorem price_bands_stay_sound (service : Service) (sound : service.world.store.HasSoundPrices)
    (steps : List Step) :
    let reached := service.run steps
    let s := reached.world.store
    s.HasSoundPrices ∧
      (∀ category, (s.pricing.rows.filter fun row => row.wasteCategory = category) =
        (s.pricing? category).toList) ∧
      ∀ token now r actor category form, r.Asks actor (.setPrice category form) →
        ∀ response, (reached.serve token now r).2 = .ok response → response.code = 200 →
          let next := (reached.serve token now r).1
          s.IsPricedBy category form next.world.store ∧
            ∀ token' now', (next.serve token' now' r).1.world = next.world := by
  intro reached s
  have h : s.HasSoundPrices := service.run_prices_sound steps sound
  refine ⟨h, h.filter_eq, ?_⟩
  intro token now r actor category form asks response answered succeeds next
  have within := asks.isWithinBounds
  obtain ⟨t, row, set, hnext⟩ := Service.setPrice_of_succeeds asks answered succeeds
  have hstore : next.world.store = t := congrArg World.store hnext
  constructor
  · rw [hstore]
    exact h.isPricedBy within set
  · intro token' now'
    have again : next.world.store.setPrice now' category form = .ok (next.world.store, row) := by
      rw [hstore]
      exact h.setPrice_again within set
    exact Service.setPrice_again asks again

/-- A service that picks up two kinds of waste, with a band for the first one. -/
def Service.ofBand : Service :=
  ⟨⟨{ Store.empty with
      categories := ⟨[⟨1, true⟩, ⟨2, true⟩]⟩
      pricing := ⟨[⟨1, 1, 40.0, 60.0, true, ⟨0⟩⟩]⟩ }, .empty⟩, []⟩

/-- Its prices are sound. -/
theorem Service.ofBand_sound : Service.ofBand.world.store.HasSoundPrices where
  keys := by decide
  unique := by decide
  known := by
    intro row hrow
    obtain rfl := List.mem_singleton.1 hrow
    exact ⟨⟨1, true⟩, rfl⟩
  ordered := by
    intro row hrow
    obtain rfl := List.mem_singleton.1 hrow
    exact ⟨by decide +kernel, by decide +kernel⟩

/-- The request of an admin for a band of the first kind. -/
def Request.ofBand (min max : Json) : Request :=
  ⟨"PUT", "/api/v1/admin/pricing/1", [("X-Actor-Id", "3"), ("X-Actor-Role", "ADMIN")],
    .value (.obj [("min_price_lkr_per_kg", min), ("max_price_lkr_per_kg", max)])⟩

/-- The request to set a band asks for that band. -/
theorem Request.asks_ofBand {min max : Json} {form : PricingForm}
    (read : Form.read .bodyObjectType
      [("min_price_lkr_per_kg", min), ("max_price_lkr_per_kg", max)] = .ok form) :
    (Request.ofBand min max).Asks ⟨3, .admin⟩ (.setPrice 1 form) := by
  have leads : Service.route "PUT" (Target.ofText "/api/v1/admin/pricing/1").segments =
      .endpoint .setPrice "1" := by decide +kernel
  have caller : Service.readActor [("X-Actor-Id", "3"), ("X-Actor-Role", "ADMIN")] =
      .ok ⟨3, .admin⟩ := by decide +kernel
  have number : Endpoint.inPath Endpoint.categoryField "1" = .ok 1 := by decide +kernel
  have body : Endpoint.inBody PricingForm (Request.ofBand min max).body = .ok form :=
    Checked.under_eq_ok_iff.2 read
  exact .intro leads caller (by decide)
    (Checked.map_seq_eq_ok_iff.2 ⟨1, form, number, body, rfl⟩)

/-- A reply with a code is a response with that code. -/
theorem Reply.exists_of_code {reply : Reply} {code : Nat}
    (h : reply.toOption.map Response.code = some code) :
    ∃ response, reply = .ok response ∧ response.code = code := by
  cases reply with
  | error breakdown => cases h
  | ok response => exact ⟨response, rfl, Option.some.inj h⟩

/-- A band is changed, and changed again; sent twice, the second change is made once. -/
theorem band_is_set_once :
    let raised := Request.ofBand (.int 50) (.str "80.5")
    let reached := Service.ofBand.run [⟨⟨1⟩, ⟨1⟩, .request (.ofBand (.int 0) (.int 5))⟩]
    let next := (reached.serve ⟨2⟩ ⟨2⟩ raised).1
    reached.world.store.IsPricedBy 1 ⟨50.0, 80.5, true⟩ next.world.store ∧
      (next.serve ⟨3⟩ ⟨3⟩ raised).1.world = next.world := by
  intro raised reached next
  have asks : raised.Asks ⟨3, .admin⟩ (.setPrice 1 ⟨50.0, 80.5, true⟩) :=
    Request.asks_ofBand (by decide +kernel)
  obtain ⟨response, answered, succeeds⟩ : ∃ response,
      (reached.serve ⟨2⟩ ⟨2⟩ raised).2 = .ok response ∧ response.code = 200 :=
    Reply.exists_of_code (by decide +kernel)
  obtain ⟨-, -, hset⟩ := price_bands_stay_sound Service.ofBand Service.ofBand_sound
    [⟨⟨1⟩, ⟨1⟩, .request (.ofBand (.int 0) (.int 5))⟩]
  obtain ⟨priced, again⟩ := hset ⟨2⟩ ⟨2⟩ raised _ _ _ asks response answered succeeds
  exact ⟨priced, again ⟨3⟩ ⟨3⟩⟩

/-- A zero that is given with a sign is stored without it: what is stored equals what was given, and
is not the same float. -/
theorem minus_zero_loses_its_sign :
    let r := Request.ofBand (.float (-0.0)) (.int 60)
    let form : PricingForm := ⟨-0.0, 60.0, true⟩
    let served := Service.ofBand.serve ⟨1⟩ ⟨1⟩ r
    Service.ofBand.world.store.HasSoundPrices ∧ r.Asks ⟨3, .admin⟩ (.setPrice 1 form) ∧
      served.2.toOption.map Response.code = some 200 ∧
      served.1.world.store.pricing.rows.map Pricing.min = [0.0] ∧ 0.0 ≠ form.min := by
  intro r form served
  exact ⟨Service.ofBand_sound, Request.asks_ofBand (by decide +kernel), by decide +kernel,
    by decide +kernel, by decide +kernel⟩

end WastePickup
