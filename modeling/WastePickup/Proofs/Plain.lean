import WastePickup.Api.Command
import WastePickup.Proofs.Canonical
import WastePickup.Proofs.Grouping

/-!
# Stores in plain form

A store in plain form holds every status under its present name, and no time of an update. Whatever
reads a store cannot tell it from its plain form, and whatever changes it gives the same answer on
both and leaves stores with the same plain form.

* `BookingFilter.accepts_plain`, `BookingView.of_plain`, `metrics_plain`: lists, views and counters.
* `revise_plain`, `createItems_plain`: an update, and new bookings.
-/

namespace WastePickup

/-! ## Lists, views and counters -/

/-- A filter accepts a booking under either name of its status. -/
theorem BookingFilter.accepts_plain (f : BookingFilter) (b : Booking) :
    f.accepts b.plain = f.accepts b := by
  have hstatus : b.plain.progress.status = Status.presentText b.progress.status := rfl
  unfold accepts
  simp only [Status.any_aliases_eq, hstatus, Status.ofStored?_presentText]
  rfl

namespace BookingView

/-- A booking is shown in the same way under either name of its status. -/
theorem of_plain (viewer : Role) (b : Booking) : of viewer b.plain = of viewer b := by
  unfold of
  rw [b.status?_plain]
  cases h : b.status? with
  | none => exact congrArg Except.error (b.progress.unknownStatus_canonical h)
  | some status => rfl

/-- So is a list of bookings. -/
theorem ofList_plain (viewer : Role) (bookings : List Booking) :
    ofList viewer (bookings.map Booking.plain) = ofList viewer bookings := by
  induction bookings with
  | nil => rfl
  | cons b rest ih =>
    rw [List.map_cons, ofList, ofList, of_plain, ih]

end BookingView

namespace Store

variable (s : Store)

/-- The rows of a store in plain form are its rows in plain form. -/
theorem rows_plain : s.plain.bookings.rows = s.bookings.rows.map Booking.plain := rfl

/-- The same rows are listed, in plain form. -/
theorem listed_plain (f : BookingFilter) : s.plain.listed f = (s.listed f).map Booking.plain := by
  have haccepts : f.accepts ∘ Booking.plain = f.accepts := funext f.accepts_plain
  have hsort : ∀ rows : List Booking, (rows.mergeSort BookingFilter.newerFirst).map Booking.plain =
      (rows.map Booking.plain).mergeSort BookingFilter.newerFirst :=
    fun rows => List.map_mergeSort fun a _ b _ => rfl
  unfold listed
  rw [s.rows_plain, List.filter_map, haccepts, hsort]

/-- There are as many of them. -/
theorem total_plain (f : BookingFilter) : s.plain.total f = s.total f := by
  rw [← length_listed, ← length_listed, listed_plain, List.length_map]

/-- The same rows stand on a page, in plain form. -/
theorem page_plain (f : BookingFilter) (page size : Int) :
    s.plain.page f page size = (s.page f page size).map Booking.plain := by
  unfold Store.page
  rw [listed_plain]
  simp only [apply_ite (List.map Booking.plain), List.map_take, List.map_drop]

/-- A driver has the same duties, in plain form. -/
theorem dutiesOf_plain (driver : Int) :
    s.plain.dutiesOf driver = (s.dutiesOf driver).map Booking.plain := by
  have hsort : ∀ rows : List Booking, (rows.mergeSort BookingFilter.dueFirst).map Booking.plain =
      (rows.map Booking.plain).mergeSort BookingFilter.dueFirst :=
    fun rows => List.map_mergeSort fun a _ b _ => rfl
  unfold dutiesOf
  rw [s.rows_plain, List.filter_map, hsort]
  rfl

/-- A page and its total are the same, the rows in plain form. -/
theorem pageAndTotal_plain (f : BookingFilter) (page size : Int) :
    s.plain.pageAndTotal f page size =
      (s.pageAndTotal f page size).map fun answer => (answer.1.map Booking.plain, answer.2) := by
  unfold pageAndTotal
  rw [page_plain, total_plain, map_bind]
  rfl

/-- A page is shown in the same way. -/
theorem pageView_plain (viewer : Role) (f : BookingFilter) (page size : Int) :
    s.plain.pageView viewer f page size = s.pageView viewer f page size := by
  unfold pageView
  rw [pageAndTotal_plain, bind_map]
  refine bind_congr fun answer => ?_
  simp only [BookingView.ofList_plain]

/-- The same booking is looked up, in plain form. -/
theorem lookUp_plain (booking : Int) :
    s.plain.bookings.lookUp booking = (s.bookings.lookUp booking).map (Option.map Booking.plain) :=
  Table.lookUp_map Booking.row_id_plain s.bookings booking

/-- One booking is shown in the same way. -/
theorem bookingView_plain (viewer : Role) (booking : Int) (maySee : Booking → Bool)
    (refusal : Refusal) (h : ∀ b, maySee b.plain = maySee b) :
    s.plain.bookingView viewer booking maySee refusal =
      s.bookingView viewer booking maySee refusal := by
  unfold bookingView
  rw [lookUp_plain, bind_map]
  refine bind_congr fun found => ?_
  cases found with
  | none => rfl
  | some b =>
    simp only [Option.map_some, h, BookingView.of_plain]

/-- The counters are the same. -/
theorem metrics_plain : s.plain.metrics = s.metrics := by
  have hstatuses : ∀ rows : List Booking,
      Metrics.statuses (rows.map Booking.plain) = Metrics.statuses rows := by
    intro rows
    induction rows with
    | nil => rfl
    | cons b rest ih =>
      rw [List.map_cons, Metrics.statuses, Metrics.statuses, b.status?_plain, ih]
      cases h : b.status? with
      | none => exact congrArg Except.error (b.progress.unknownStatus_canonical h)
      | some status => rfl
  have hsum : ∀ rows : List Booking,
      Metrics.sumAmounts (rows.map Booking.plain) = Metrics.sumAmounts rows := by
    intro rows
    unfold Metrics.sumAmounts
    rw [List.filterMap_map]
    rfl
  have hcompleted : (fun b : Booking => decide (b.status? = some .completed)) ∘ Booking.plain =
      fun b => decide (b.status? = some .completed) := by
    funext b
    rw [Function.comp_apply, b.status?_plain]
  rw [metrics_eq, metrics_eq]
  simp only [rows_plain, hstatuses, List.filter_map, hcompleted, hsum]

/-- Duties are shown in the same way. -/
theorem dutiesView_plain (actor : Actor) : s.plain.dutiesView actor = s.dutiesView actor := by
  unfold dutiesView
  rw [dutiesOf_plain, BookingView.ofList_plain]

/-- The history of a booking is shown in the same way. -/
theorem historyView_plain (booking : Int) :
    s.plain.historyView booking = s.historyView booking := by
  unfold historyView
  rw [lookUp_plain, bind_map]
  refine bind_congr fun found => ?_
  cases found with
  | none => rfl
  | some b => rfl

/-- What an admin's form is decided on does not depend on the name of the status. -/
theorem decide_plain (booking : Int) (form : AdminForm) :
    form.decide s.plain booking = form.decide s booking := by
  unfold AdminForm.decide
  rw [lookUp_plain]
  refine bind_congr fun current => ?_
  rw [bind_map]
  refine bind_congr fun found => ?_
  cases found with
  | none => rfl
  | some b =>
    simp only [Option.map_some, b.status?_plain]
    cases h : b.status? with
    | none => exact congrArg Except.error (b.progress.unknownStatus_canonical h)
    | some status => rfl

/-! ## Changes of the tables -/

/-- A plain store is its own plain form. -/
@[simp] theorem plain_plain : s.plain.plain = s.plain := by
  simp only [plain, Table.map_map, Booking.plain_comp_plain]

variable {s} {t : Store}

/-- A row that is added to the plain form of a store leaves the same plain form. -/
theorem append_plain (b : Booking) :
    ({ s.plain with bookings := s.plain.bookings.append b } : Store).plain =
      ({ s with bookings := s.bookings.append b } : Store).plain := by
  simp only [plain, Table.map_append, Table.map_map, Booking.plain_comp_plain]

/-- A commit to the plain form of a store leaves the same plain form. -/
theorem commit_plain (now : Instant) (actor : Actor) (b : Booking) (w : Writes) :
    (s.plain.commit now actor b.plain w.canonical).plain = (s.commit now actor b w).plain := by
  have hrows : (s.bookings.map Booking.plain).map Booking.plain = s.bookings.map Booking.plain := by
    rw [Table.map_map, Booking.plain_comp_plain]
  have hbookings :
      ((s.bookings.map Booking.plain).replace
        (b.plain.advance now w.progress.canonical w.rounded)).map Booking.plain =
      (s.bookings.replace (b.advance now w.progress w.rounded)).map Booking.plain := by
    rw [Table.map_replace Booking.row_id_plain, Table.map_replace Booking.row_id_plain, hrows,
      b.plain_advance]
  obtain ⟨p, driver, move, rounded⟩ := w
  cases move with
  | none => simp only [commit, plain, Writes.canonical, hbookings]
  | some m =>
    simp only [commit, record, plain, Writes.canonical, hbookings]
    rfl

/-- Work that does not depend on the name of the status, done on the plain form of a store, gives
the same answer and leaves the same plain form. -/
theorem revise_plain (now : Instant) (actor : Actor) (booking : Int) {work : Work}
    (h : ∀ p, work s.plain p.canonical = (work s p).map Writes.canonical) :
    Prod.map plain (Except.map Booking.plain) (s.plain.revise now actor booking work) =
      Prod.map plain (Except.map Booking.plain) (s.revise now actor booking work) := by
  unfold revise
  rw [lookUp_plain]
  cases s.bookings.lookUp booking with
  | error refusal => simp [Except.map, Prod.map]
  | ok found =>
    cases found with
    | none => simp [Except.map, Prod.map]
    | some b =>
      simp only [Except.map, Option.map_some, Booking.plain_progress, h]
      cases work s b.progress with
      | error refusal => simp [Except.map, Prod.map]
      | ok w =>
        simp only [Except.map, Prod.map, commit_plain]
        exact congrArg (Prod.mk _ ∘ Except.ok) (b.plain_advance now w.progress w.rounded)

/-- The next booking gets the same number and the same estimate. -/
theorem bookingOf_plain (now : Instant) (user : Int) (form : BookingForm) (item : ItemForm) :
    s.plain.bookingOf now user form item = s.bookingOf now user form item := by
  have hnext : s.plain.bookings.nextId = s.bookings.nextId :=
    Table.nextId_map Booking.row_id_plain s.bookings
  unfold bookingOf
  rw [hnext]
  rfl

/-- The same bookings are made, and the same plain form is left. -/
theorem createItems_plain (now : Instant) (user : Int) (form : BookingForm)
    (items : List ItemForm) (s : Store) :
    (s.plain.createItems now user form items).map (Prod.map plain id) =
      (s.createItems now user form items).map (Prod.map plain id) := by
  induction items generalizing s with
  | nil => simp [createItems, Except.map, Prod.map]
  | cons item rest ih =>
    -- The stores that the first booking leaves differ, but have the same plain form.
    have hrest := ih { s.plain with
      bookings := s.plain.bookings.append (s.bookingOf now user form item) }
    rw [append_plain, ih] at hrest
    rw [createItems_eq_bind, createItems_eq_bind, bookingOf_plain, map_bind, map_bind]
    refine bind_congr fun _ => ?_
    exact map_map_congr (fun _ => rfl) hrest.symm

/-- An availability is set in the same way, and the same plain form is left. -/
theorem setAvailability_plain (driver : Int) (form : AvailabilityForm) :
    (s.plain.setAvailability driver form).map (Prod.map plain id) =
      (s.setAvailability driver form).map (Prod.map plain id) := by
  have hdrivers : s.plain.drivers = s.drivers := rfl
  unfold setAvailability
  simp only [apply_ite (Except.map (Prod.map plain id)), map_bind, hdrivers]
  congr 1
  refine bind_congr fun found => ?_
  cases found with
  | none => rfl
  | some d => simp only [Except.map, Prod.map, plain, Table.map_map, Booking.plain_comp_plain]

/-- A band is set in the same way, and the same plain form is left. -/
theorem setPrice_plain (now : Instant) (category : Int) (form : PricingForm) :
    (s.plain.setPrice now category form).map (Prod.map plain id) =
      (s.setPrice now category form).map (Prod.map plain id) := by
  have hcategories : s.plain.categories = s.categories := rfl
  have hpricing : s.plain.pricing? category = s.pricing? category := rfl
  unfold setPrice
  rw [hcategories, hpricing]
  cases s.categories.lookUp category with
  | error refusal => rfl
  | ok found =>
    cases found with
    | none => rfl
    | some row =>
      cases s.pricing? category with
      | none =>
        simp only [Except.map, Prod.map, plain, Table.map_map, Booking.plain_comp_plain]
        rfl
      | some old =>
        simp only [Except.map, Prod.map, plain, Table.map_map, Booking.plain_comp_plain]

end Store

end WastePickup
