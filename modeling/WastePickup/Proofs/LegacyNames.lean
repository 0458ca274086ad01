import WastePickup.Proofs.Orders
import WastePickup.Proofs.Plain

/-!
# Older names of statuses cannot be seen

Rows may hold a status under an older name, `SCHEDULED` or `PAID`. Whoever sends requests cannot
tell whether they do: every run of requests is answered in the same way as on a store in which all
statuses stand under their present names. Nor do older names come back: what a request writes is a
present name.

* `Command.run_plain`, `Service.step_congr`: a command and a request give the same answer on a world
  and on its plain form, and leave worlds with the same plain form.
* `legacy_names_unobservable`: the same for runs of any length, whose older names only get fewer.
-/

namespace WastePickup

/-! ## Worlds and services in plain form -/

/-- A world with its store in plain form. -/
def World.plain (w : World) : World :=
  { w with store := w.store.plain }

/-- A service with its store in plain form. -/
def Service.plain (service : Service) : Service :=
  { service with world := service.world.plain }

namespace World

variable (w : World) (token : Token) (now : Instant) (actor : Actor)

/-- A world in plain form is its own plain form. -/
@[simp] theorem plain_plain : w.plain.plain = w.plain := by
  simp only [plain, Store.plain_plain]

/-- An update whose work does not depend on the name of the status gives the same booking, up to
its plain form, and leaves the same plain form. -/
theorem lockedUpdate_plain (booking : Int) {work : Work}
    (h : ∀ p, work w.store.plain p.canonical = (work w.store p).map Writes.canonical) :
    Prod.map plain (Except.map Booking.plain) (w.plain.lockedUpdate token now actor booking work) =
      Prod.map plain (Except.map Booking.plain) (w.lockedUpdate token now actor booking work) := by
  have hlocks : w.plain.locks = w.locks := rfl
  have hstore : w.plain.store = w.store.plain := rfl
  unfold lockedUpdate
  rw [hlocks, hstore]
  simp only
  cases w.locks.acquire (Lock.forBooking booking updateTtl token) with
  | none => simp only [Prod.map, plain_plain]
  | some taken =>
    have hrevise := w.store.revise_plain now actor booking h
    generalize w.store.plain.revise now actor booking work = result at hrevise ⊢
    generalize w.store.revise now actor booking work = result' at hrevise ⊢
    simp only [Prod.map, Prod.mk.injEq] at hrevise ⊢
    obtain ⟨hplain, hanswer⟩ := hrevise
    exact ⟨by simp only [plain, hplain], hanswer⟩

/-- What is shown of an update depends on its plain form. -/
theorem shown_plain (viewer : Role) (result : World × Except Refusal Booking) :
    Prod.map plain id (shown viewer result) =
      shown viewer (Prod.map plain (Except.map Booking.plain) result) := by
  obtain ⟨world, answer⟩ := result
  cases answer with
  | error refusal => rfl
  | ok b =>
    simp only [shown, Prod.map, Except.map, BookingView.of_plain, id]

/-- An action is shown in the same way. -/
theorem applyAction_plain (viewer : Role) (booking : Int) (action : Action) (given : Particulars) :
    Prod.map plain id (shown viewer (w.plain.applyAction token now actor booking action given)) =
      Prod.map plain id (shown viewer (w.applyAction token now actor booking action given)) := by
  rw [shown_plain, shown_plain]
  unfold applyAction
  rw [w.lockedUpdate_plain token now actor booking fun p =>
    w.store.perform_canonical now actor p action given]

/-- So is an update by an admin. -/
theorem updateAsAdmin_plain (viewer : Role) (booking : Int) (request : AdminRequest) :
    Prod.map plain id (shown viewer (w.plain.updateAsAdmin token now actor booking request)) =
      Prod.map plain id (shown viewer (w.updateAsAdmin token now actor booking request)) := by
  rw [shown_plain, shown_plain]
  unfold updateAsAdmin
  split
  · rw [w.lockedUpdate_plain token now actor booking fun p =>
      w.store.adminWork_canonical now actor p request]
  · simp only [Prod.map, plain_plain]

/-- What only reads leaves the same plain form and gives the same answer. -/
theorem reading_plain {answer answer' : Except Refusal Answer} (h : answer = answer') :
    Prod.map plain id (w.plain.reading answer) = Prod.map plain id (w.reading answer') := by
  simp only [reading, Prod.map, plain_plain, h]

/-- So does what stores, if what is to be stored is the same up to plain form. -/
theorem storing_plain {stored stored' : Except Refusal (Store × Answer)}
    (h : stored.map (Prod.map Store.plain id) = stored'.map (Prod.map Store.plain id)) :
    Prod.map plain id (w.plain.storing stored) = Prod.map plain id (w.storing stored') := by
  have hstoring : ∀ (w : World) (stored : Except Refusal (Store × Answer)),
      Prod.map plain id (w.storing stored) =
        w.plain.storing (stored.map (Prod.map Store.plain id)) := by
    intro w stored
    cases stored with
    | error refusal => rfl
    | ok result => rfl
  rw [hstoring, hstoring, plain_plain, h]

end World

/-! ## Commands -/

/-- A command gives the same answer on a world and on its plain form, and leaves worlds with the
same plain form. -/
theorem Command.run_plain (w : World) (token : Token) (now : Instant) (actor : Actor)
    (command : Command) :
    Prod.map World.plain id (command.run w.plain token now actor) =
      Prod.map World.plain id (command.run w token now actor) := by
  have hstore : w.plain.store = w.store.plain := rfl
  cases command with
  | createBookings form =>
    refine w.storing_plain (map_bind_congr (fun made => ?_)
      (Store.createItems_plain now actor.id form form.items w.store))
    rw [map_bind]
    rfl
  | setAvailability form => exact w.storing_plain (Store.setAvailability_plain actor.id form)
  | setPrice category form =>
    exact w.storing_plain (map_map_congr (fun _ => rfl) (Store.setPrice_plain now category form))
  | start booking => exact w.applyAction_plain token now actor _ booking _ _
  | collect booking form => exact w.applyAction_plain token now actor _ booking _ _
  | cancelAsDriver booking form => exact w.applyAction_plain token now actor _ booking _ _
  | cancelAsAdmin booking form => exact w.applyAction_plain token now actor _ booking _ _
  | assign booking form => exact w.applyAction_plain token now actor _ booking _ _
  | complete booking form => exact w.applyAction_plain token now actor _ booking _ _
  | refund booking => exact w.applyAction_plain token now actor _ booking _ _
  | updateAsDriver booking form =>
    simp only [run]
    split
    · simp only [Prod.map, World.plain_plain]
    · exact w.applyAction_plain token now actor _ booking _ _
  | updateAsAdmin booking form =>
    simp only [run, hstore, Store.decide_plain]
    split
    · simp only [Prod.map, World.plain_plain]
    · exact w.updateAsAdmin_plain token now actor _ booking _
  | ownBookings status page size => exact w.reading_plain (w.store.pageView_plain _ _ page size)
  | oneBooking booking =>
    exact w.reading_plain (w.store.bookingView_plain _ booking _ _ fun b => rfl)
  | duties => exact w.reading_plain (w.store.dutiesView_plain actor)
  | oneDuty booking =>
    exact w.reading_plain (w.store.bookingView_plain _ booking _ _ fun b => rfl)
  | allBookings status page size => exact w.reading_plain (w.store.pageView_plain _ _ page size)
  | history booking => exact w.reading_plain (w.store.historyView_plain booking)
  | metrics => exact w.reading_plain (congrArg (Except.map Answer.metrics) w.store.metrics_plain)
  | priceList => exact w.reading_plain rfl
  | health => exact w.reading_plain rfl

/-! ## Names that are written -/

/-- Every status that is stored in the end is a present name, or it stood in the same row in the
beginning. -/
def Store.WritesPresentNames (s t : Store) : Prop :=
  ∀ b ∈ t.bookings.rows, (∃ status : Status, b.progress.status = status.name) ∨
    ∃ old ∈ s.bookings.rows, old.id = b.id ∧ old.progress.status = b.progress.status

/-- Whether the status of a booking stands under an older name. -/
def Booking.isLegacy (b : Booking) : Bool :=
  (Named.ofName? b.progress.status : Option StoredStatus).any StoredStatus.isLegacy

/-- The numbers of the bookings whose status stands under an older name. -/
def Store.legacyBookings (s : Store) : List Int :=
  (s.bookings.rows.filter Booking.isLegacy).map Booking.id

/-- A present name is no older name. -/
theorem Booking.isLegacy_of_name {b : Booking} {status : Status}
    (h : b.progress.status = status.name) : b.isLegacy = false := by
  have hstored : (Named.ofName? status.name : Option StoredStatus) = some status.stored :=
    Named.ofName?_eq_some_iff.2 (Status.name_stored status)
  rw [isLegacy, h, hstored]
  cases status <;> rfl

namespace Store

variable {s t u : Store} {now : Instant} {actor : Actor}

/-- Where nothing is written, every status stood there before. -/
theorem WritesPresentNames.refl (s : Store) : s.WritesPresentNames s :=
  fun b hb => .inr ⟨b, hb, rfl, rfl⟩

/-- Present names are written in two changes if they are in each. -/
theorem WritesPresentNames.trans (h : s.WritesPresentNames t) (h' : t.WritesPresentNames u) :
    s.WritesPresentNames u := by
  intro b hb
  rcases h' b hb with hname | ⟨old, hold, hid, hstatus⟩
  · exact .inl hname
  · rcases h old hold with ⟨status, hname⟩ | ⟨older, holder, hid', hstatus'⟩
    · exact .inl ⟨status, hstatus ▸ hname⟩
    · exact .inr ⟨older, holder, hid'.trans hid, hstatus'.trans hstatus⟩

/-- Older names only get fewer. -/
theorem WritesPresentNames.legacyBookings_subset (h : s.WritesPresentNames t) :
    t.legacyBookings ⊆ s.legacyBookings := by
  intro id hid
  obtain ⟨b, hb, rfl⟩ := List.mem_map.1 hid
  obtain ⟨hmem, hlegacy⟩ := List.mem_filter.1 hb
  rcases h b hmem with ⟨status, hname⟩ | ⟨old, hold, hid, hstatus⟩
  · rw [Booking.isLegacy_of_name hname] at hlegacy
    cases hlegacy
  · refine List.mem_map.2 ⟨old, List.mem_filter.2 ⟨hold, ?_⟩, hid⟩
    rw [Booking.isLegacy, hstatus]
    exact hlegacy

/-- A change writes present names: work writes the target of a move, and new bookings are
created. -/
theorem Change.writesPresentNames (h : s.Change now actor t) : s.WritesPresentNames t := by
  rcases h.worked_or_grows with ⟨b, w, found, worked, rfl⟩ | ⟨more, grows, fresh⟩
  · intro row hrow
    rw [commit_bookings] at hrow
    obtain ⟨old, hold, rfl⟩ := List.mem_map.1 hrow
    split
    · have hstatus : (b.advance now w.progress w.rounded).progress.status = w.progress.status := by
        rw [Booking.advance_progress, Progress.onto_status]
      rw [hstatus, Booking.advance_id]
      rcases worked.follows.written with hsame | hname
      · exact .inr ⟨b, Table.mem_of_find? found, rfl, hsame.symm⟩
      · exact .inl hname
    · exact .inr ⟨old, hold, rfl, rfl⟩
  · intro b hb
    rw [grows.bookings] at hb
    rcases List.mem_append.1 hb with hold | hmore
    · exact .inr ⟨b, hold, rfl, rfl⟩
    · obtain ⟨category, hfresh⟩ := fresh b hmore
      exact .inl ⟨.created, by rw [hfresh]; rfl⟩

end Store

/-! ## Runs of requests -/

/-- A store with all statuses under their present names. -/
def Store.canonical (s : Store) : Store :=
  { s with bookings := s.bookings.map Booking.canonical }

/-- A service whose store has all statuses under their present names. -/
def Service.canonical (service : Service) : Service :=
  service.withWorld { service.world with store := service.world.store.canonical }

namespace Service

variable {service other : Service}

/-- A service has the same plain form under present names. -/
theorem plain_canonical (service : Service) : service.canonical.plain = service.plain := by
  have hbookings : Booking.plain ∘ Booking.canonical = Booking.plain :=
    funext Booking.plain_canonical
  simp only [plain, World.plain, Store.plain, canonical, Store.canonical, withWorld, Table.map_map,
    hbookings]

/-- Two services with the same plain form answer a request in the same way, and have the same plain
form afterwards. -/
theorem step_congr (h : service.plain = other.plain) (c : Call) :
    (service.step c.step).2 = (other.step c.step).2 ∧
      (service.step c.step).1.plain = (other.step c.step).1.plain := by
  obtain ⟨hworld, hserved⟩ := Service.mk.inj h
  have alike : service.view World.plain = other.view World.plain := Prod.ext hworld hserved
  have run : ∀ actor command, c.request.Asks actor command →
      Prod.map World.plain id (command.run service.world c.token c.now actor) =
        Prod.map World.plain id (command.run other.world c.token c.now actor) := by
    intro actor command _
    rw [← Command.run_plain service.world, ← Command.run_plain other.world]
    exact congrArg (fun w => Prod.map World.plain id (command.run w c.token c.now actor)) hworld
  have hserve := serve_congr alike run
  simp only [Prod.map, Prod.mk.injEq, id, view] at hserve
  obtain ⟨⟨hworld', hserved'⟩, hreply⟩ := hserve
  rw [step_call, step_call, hreply]
  exact ⟨rfl, by rw [plain, plain, hworld', hserved']⟩

/-- So they do in a run of requests. -/
theorem run_congr (h : service.plain = other.plain) (calls : List Call) :
    service.outcomes (calls.map Call.step) = other.outcomes (calls.map Call.step) ∧
      (service.run (calls.map Call.step)).plain = (other.run (calls.map Call.step)).plain := by
  induction calls generalizing service other with
  | nil => exact ⟨rfl, h⟩
  | cons c rest ih =>
    obtain ⟨houtcome, hplain⟩ := step_congr h c
    obtain ⟨houtcomes, hrun⟩ := ih hplain
    rw [List.map_cons, outcomes, outcomes, run_cons, run_cons, houtcome, houtcomes]
    exact ⟨rfl, hrun⟩

/-- What a run of requests writes are present names. -/
theorem run_writesPresentNames (service : Service) (calls : List Call) :
    service.world.store.WritesPresentNames (service.run (calls.map Call.step)).world.store := by
  refine run_induction .refl .trans _ ?_ service
  intro s hs service
  obtain ⟨c, -, rfl⟩ := List.mem_map.1 hs
  rcases service.step_change c.step with h | ⟨actor, -, h⟩ | ⟨hseed, -⟩
  · rw [h]
    exact .refl _
  · exact h.writesPresentNames
  · cases hseed

end Service

/-- A run of requests is answered in the same way, response by response, whether statuses stand
under their older or their present names, and leaves the same behind but for the names and the
times of the last updates. From any point of the run on, only present names are written, so that no
booking comes to stand under an older name. -/
theorem legacy_names_unobservable (service : Service) (earlier later : List Call) :
    let steps := (earlier ++ later).map Call.step
    let before := (service.run (earlier.map Call.step)).world.store
    let after := (service.run steps).world.store
    service.canonical.outcomes steps = service.outcomes steps ∧
      (service.canonical.run steps).plain = (service.run steps).plain ∧
      before.WritesPresentNames after ∧ after.legacyBookings ⊆ before.legacyBookings := by
  intro steps before after
  obtain ⟨houtcomes, hplain⟩ := Service.run_congr service.plain_canonical (earlier ++ later)
  have hnames : before.WritesPresentNames after := by
    have hrun : service.run steps =
        (service.run (earlier.map Call.step)).run (later.map Call.step) := by
      rw [← Service.run_append, ← List.map_append]
    simp only [before, after, hrun]
    exact Service.run_writesPresentNames _ later
  exact ⟨houtcomes, hplain, hnames, hnames.legacyBookings_subset⟩

end WastePickup
