import WastePickup.Number.TextLength
import WastePickup.Proofs.AllOrNothing
import WastePickup.Proofs.DriverRows
import WastePickup.Proofs.Quarantine
import WastePickup.Proofs.RequestForms
import WastePickup.Store.Columns

/-!
# Texts fit their columns

The widths of the text columns are not looked at where texts are stored. What is stored is within
them all the same, because every text comes from one of three places: it is a name, and names are
short; it is the text of a quantity, whose length has a bound; or it was in a request, and then the
form of the request has a bound that is no greater than the width. The reason of a cancellation is
trimmed on its way, which makes it no longer. An order that is given without a request brings its
reason as it is, so all this is about requests.

* `Order.cancelReason_of_work`: where the reason of a booking comes from.
* `Request.Asks.admits_text`: the texts of a request are within the widths of their columns.
* `Command.Leaves.addsAdmitted`: so is what a command adds, if its own texts are.
* `Event.Leaves.passesCheck`: a booking that any event writes has a status.
* `texts_fit_their_columns`: the same along runs of requests.
-/

namespace WastePickup

/-! ## Texts that the service makes itself -/

/-- A quantity is shown in sixteen characters at most. -/
theorem length_weightText_le (quantity : Float) : (weightText quantity).length ≤ 16 := by
  have h := Number.length_compactText_le quantity
  rw [weightText, String.length_append]
  exact Nat.add_le_add_right h 3

/-- A column that admits the names in a list admits all of them. -/
theorem TextColumn.admits_name {α : Type} [Named α] {column : TextColumn}
    (h : ∀ a ∈ (Named.all : List α), column.Admits (Named.name a)) (a : α) :
    column.Admits (Named.name a) :=
  h a (Named.mem_all a)

/-- The names of statuses fit the column for them. -/
theorem TextColumn.admits_bookingStatus : ∀ status : Status, bookingStatus.Admits status.name :=
  admits_name (by decide)

/-- The names of availabilities fit the column for them. -/
theorem TextColumn.admits_driverStatus : ∀ status : Availability, driverStatus.Admits status.name :=
  admits_name (by decide)

/-- The texts of a status change are names. -/
theorem HistoryEntry.admits_text (entry : HistoryEntry) {column : TextColumn} {text : String}
    (h : entry.text? column = some text) : column.Admits text := by
  cases column with
  | historySource | historyTarget =>
    cases h
    exact TextColumn.admits_name (α := Status) (by decide) _
  | historyAction =>
    cases h
    exact TextColumn.admits_name (α := Action) (by decide) _
  | historyRole =>
    cases h
    exact TextColumn.admits_name (α := Role) (by decide) _
  | _ => cases h

/-! ## The reason of a cancellation -/

/-- A booking keeps its reason, or takes the one that is given, trimmed. -/
inductive Progress.TakesReason (given : Particulars) (p q : Progress) : Prop where
  | kept (reason : q.cancelReason = p.cancelReason) : TakesReason given p q
  | given {text : String} (named : given.reason = some (.proper text))
      (reason : q.cancelReason = some (Text.trim Text.isBlank text)) : TakesReason given p q

/-- What is taken later stays. -/
theorem Progress.TakesReason.trans {given : Particulars} {p q r : Progress}
    (h : p.TakesReason given q) (h' : q.TakesReason given r) : p.TakesReason given r := by
  cases h' with
  | given named reason => exact .given named reason
  | kept reason =>
    cases h with
    | kept reason' => exact .kept (reason.trans reason')
    | given named reason' => exact .given named (reason.trans reason')

/-- The side effects of an action write the reason only if the booking is cancelled. -/
theorem Store.Effected.takesReason {s : Store} {now : Instant} {given : Particulars}
    {action : Action} {p q : Progress} (h : s.Effected now given p action q) :
    p.TakesReason given q := by
  cases h with
  | cancelled kept =>
    unfold keptReason at kept
    split at kept
    · cases kept
      exact .kept rfl
    · cases kept
    · rename_i text named
      obtain rfl := Except.ok.inj kept
      by_cases blank : Text.trim Text.isBlank text = ""
      · rw [if_pos blank]
        exact .kept rfl
      · rw [if_neg blank]
        exact .given named rfl
  | completed driver weight amounts amount =>
    obtain ⟨w, a, rfl⟩ := withAmounts_eq_ok amounts
    exact .kept rfl
  | assigned | started | collected | refunded => exact .kept rfl

/-- Whatever the order, the reason stays or is the one that is given. -/
theorem Order.takesReason_of_work {order : Order} {s : Store} {now : Instant} {actor : Actor}
    {p : Progress} {w : Writes} (h : order.work now actor s p = .ok w) :
    p.TakesReason order.given w.progress := by
  refine work_induction (I := p.TakesReason order.given) h ?acted ?swapped ?corrected (.kept rfl)
  case acted =>
    rintro q _ ⟨-, -, -, effected⟩ hq
    exact (hq.trans effected.takesReason).trans (.kept rfl)
  case swapped =>
    intro q _ swapped hq
    obtain ⟨driver, -, rfl⟩ := swapped.frame
    exact hq.trans (.kept rfl)
  case corrected =>
    intro q _ corrected hq
    obtain ⟨weight, amount, rfl⟩ := corrected.frame
    exact hq.trans (.kept rfl)

/-! ## The texts of requests -/

/-- What a request for a pickup has for a column. -/
def BookingForm.text? (form : BookingForm) : TextColumn → Option String
  | .addressLine1 => some form.addressLine1
  | .city => some form.city
  | .postalCode => some form.postalCode
  | .phone => some form.phone
  | .scheduledTimeSlot => some form.scheduledTimeSlot
  | _ => none

/-- What a cancellation has for a column. -/
def CancelForm.text? (form : CancelForm) : TextColumn → Option String
  | .cancelReason => form.reason
  | _ => none

/-- What a command has for a column. -/
def Command.text? (command : Command) (column : TextColumn) : Option String :=
  match command with
  | createBookings form => form.text? column
  | cancelAsDriver _ form | cancelAsAdmin _ form => form.bind (·.text? column)
  | _ => none

/-- The bounds of the forms are no greater than the widths of the columns. -/
theorem BookingForm.IsWithinBounds.admits_text {form : BookingForm} (h : form.IsWithinBounds)
    {column : TextColumn} {text : String} (given : form.text? column = some text) :
    column.Admits text := by
  cases column with
  | addressLine1 =>
    cases given
    exact h.addressLine1.2
  | city =>
    cases given
    exact h.city.2
  | postalCode =>
    cases given
    exact h.postalCode.2
  | phone =>
    cases given
    exact h.phone.2
  | scheduledTimeSlot =>
    cases given
    exact h.scheduledTimeSlot.2
  | _ => cases given

/-- The texts of a cancellation within bounds fit their columns. -/
theorem CancelForm.IsWithinBounds.admits_text {form : CancelForm} (h : form.IsWithinBounds)
    {column : TextColumn} {text : String} (given : form.text? column = some text) :
    column.Admits text := by
  cases column with
  | cancelReason => exact h.reason text given
  | _ => cases given

/-- The texts of a cancellation that has been read are within the widths of their columns. -/
theorem Endpoint.admits_cancelForm {body : Body} {form? : Option CancelForm}
    (read : inOptionalBody CancelForm body = .ok form?) {column : TextColumn} {text : String}
    (given : form?.bind (·.text? column) = some text) : column.Admits text := by
  obtain ⟨form, rfl, htext⟩ := Option.bind_eq_some_iff.1 given
  obtain ⟨o, hform⟩ := inOptionalBody_eq_ok read form rfl
  exact (CancelForm.readsBack.within hform).admits_text htext

/-- So are those of any request. -/
theorem Request.Asks.admits_text {r : Request} {actor : Actor} {command : Command}
    (asks : r.Asks actor command) {column : TextColumn} {text : String}
    (given : command.text? column = some text) : column.Admits text := by
  obtain @⟨e, number, -, -, -, read⟩ := asks
  obtain ⟨rfl, -⟩ := Endpoint.read_eq_ok read
  cases command with
  | createBookings form =>
    obtain ⟨_, hbody, hcommand⟩ := Checked.map_eq_ok_iff.1 read
    cases hcommand
    obtain ⟨o, hform⟩ := Endpoint.inBody_eq_ok hbody
    exact (BookingForm.readsBack.within hform).admits_text given
  | cancelAsDriver booking form | cancelAsAdmin booking form =>
    obtain ⟨_, _, -, hbody, hcommand⟩ := Checked.map_seq_eq_ok_iff.1 read
    cases hcommand
    exact Endpoint.admits_cancelForm hbody given
  | _ => cases given

/-- A driver's form gives no reason. -/
theorem DriverForm.reason_of_toAction {form : DriverForm} {action : Action} {given : Particulars}
    (h : form.toAction = .ok (action, given)) : given.reason = none := by
  obtain ⟨⟨⟩, -, h⟩ := bind_eq_ok_iff.1 h
  split at h
  · cases h
  · cases h
    rfl
  · cases h
    rfl
  · split at h
    · cases h
    · cases h
      rfl
  · split at h
    · cases h
    · cases h
      rfl
  · cases h

/-- The reason of an order is that of its command. -/
theorem Command.text?_of_order? {s : Store} {command : Command} {booking : Int} {order : Order}
    (h : command.order? s = some (booking, order)) {text : String}
    (given : order.given.reason = some (.proper text)) :
    command.text? .cancelReason = some text := by
  cases command with
  | cancelAsDriver booking form | cancelAsAdmin booking form =>
    cases h
    obtain ⟨_, hreason, hproper⟩ := Option.map_eq_some_iff.1 given
    cases hproper
    exact hreason
  | start | collect | assign | complete | refund =>
    cases h
    cases given
  | updateAsDriver booking form =>
    simp only [order?] at h
    split at h
    · cases h
    · rename_i hform
      cases h
      rw [Order.given, DriverForm.reason_of_toAction hform] at given
      cases given
  | updateAsAdmin booking form =>
    simp only [order?] at h
    split at h
    · cases h
    · cases h
      cases given
  | _ => cases h

/-! ## What is added to a store -/

namespace Store

variable {s t u : Store} {now : Instant} {actor : Actor}

/-- The texts of a row are in their columns already, or within the widths. -/
def Covers (s : Store) (text? : TextColumn → Option String) : Prop :=
  ∀ column text, text? column = some text → text ∈ s.texts column ∨ column.Admits text

/-- The texts of a booking are among those of its store. -/
theorem covers_booking {b : Booking} (mem : b ∈ s.bookings.rows) : s.Covers b.text? :=
  fun _ _ htext => .inl (mem_texts_iff.2 (.inl ⟨b, mem, htext⟩))

/-- The texts of a driver are among those of his store. -/
theorem covers_driver {d : Driver} (mem : d ∈ s.drivers.rows) : s.Covers d.text? :=
  fun _ _ htext => .inl (mem_texts_iff.2 (.inr (.inl ⟨d, mem, htext⟩)))

/-- A driver with an availability for a status is covered. -/
theorem covers_availability {d : Driver} (status : Availability) (h : d.status = status.name) :
    s.Covers d.text? := by
  intro column text htext
  cases column with
  | driverStatus =>
    cases htext
    rw [h]
    exact .inr (TextColumn.admits_driverStatus status)
  | _ => cases htext

/-- What is in a column of `t` and not in that of `s` is within the width. -/
def AddsAdmitted (s t : Store) : Prop :=
  ∀ column, ∀ text ∈ t.texts column, text ∈ s.texts column ∨ column.Admits text

namespace AddsAdmitted

/-- A store adds nothing to itself. -/
theorem refl (s : Store) : s.AddsAdmitted s :=
  fun _ _ => .inl

/-- What is added twice is admitted if it is each time. -/
theorem trans (h : s.AddsAdmitted t) (h' : t.AddsAdmitted u) : s.AddsAdmitted u := by
  intro column text htext
  rcases h' column text htext with htext | admitted
  · exact h column text htext
  · exact .inr admitted

/-- The history has no part in this, since its texts are names. -/
theorem of_rows (bookings : ∀ b ∈ t.bookings.rows, s.Covers b.text?)
    (drivers : ∀ d ∈ t.drivers.rows, s.Covers d.text?) : s.AddsAdmitted t := by
  intro column text htext
  rcases mem_texts_iff.1 htext with ⟨b, hb, htext⟩ | ⟨d, hd, htext⟩ | ⟨entry, -, htext⟩
  · exact bookings b hb column text htext
  · exact drivers d hd column text htext
  · exact .inr (entry.admits_text htext)

/-- A column whose texts are all within its width stays so. -/
theorem fits (h : s.AddsAdmitted t) {column : TextColumn} (before : s.Fits column) :
    t.Fits column := by
  intro text htext
  rcases h column text htext with htext | admitted
  · exact before text htext
  · exact admitted

end AddsAdmitted

/-! ## Work -/

section Work

variable {order : Order} {w : Writes}

/-- Work on a booking writes its status and its reason: a name, and a text that was given. -/
theorem covers_advance {b : Booking} (mem : b ∈ s.bookings.rows)
    (work : order.work now actor s b.progress = .ok w)
    (reason : ∀ text, order.given.reason = some (.proper text) →
      TextColumn.cancelReason.Admits text) :
    s.Covers (b.advance now w.progress w.rounded).text? := by
  intro column text htext
  have hold := covers_booking mem column text
  cases column with
  | bookingStatus =>
    simp only [Booking.text?, Booking.advance_progress, Progress.onto_status,
      Option.some.injEq] at htext
    subst htext
    rcases (Order.follows_of_work work).written with hsame | ⟨status, hname⟩
    · exact hold (by rw [hsame]; rfl)
    · rw [hname]
      exact .inr (TextColumn.admits_bookingStatus status)
  | cancelReason =>
    have htext : w.progress.cancelReason = some text := by
      rw [Booking.text?, Booking.advance_progress] at htext
      exact htext
    cases Order.takesReason_of_work work with
    | kept hsame => exact hold (hsame.symm.trans htext)
    | @given given named htrimmed =>
      rw [htrimmed] at htext
      cases htext
      exact .inr (Nat.le_trans (Text.length_trim_le _ given) (reason given named))
  | estimatedWeight | addressLine1 | city | postalCode | phone | scheduledTimeSlot =>
    -- What the customer has asked for is not written by work.
    simp only [Booking.text?, Booking.advance_pickup] at htext
    exact hold htext
  | _ => cases htext

/-- The row of a driver that work writes has an availability. -/
theorem covers_written {p : Progress} (work : order.work now actor s p = .ok w) :
    ∀ d ∈ w.driver, s.Covers d.text? := by
  intro d hd
  rw [Order.writes_driver work] at hd
  obtain ⟨m, -, hd⟩ := Option.bind_eq_some_iff.1 hd
  unfold driverWith at hd
  split at hd
  · cases hd
  · obtain ⟨old, -, rfl⟩ := Option.map_eq_some_iff.1 hd
    exact covers_availability m.action.availability rfl

/-- A commit adds only what its columns admit. -/
theorem addsAdmitted_commit {b : Booking} (mem : b ∈ s.bookings.rows)
    (work : order.work now actor s b.progress = .ok w)
    (reason : ∀ text, order.given.reason = some (.proper text) →
      TextColumn.cancelReason.Admits text) : s.AddsAdmitted (s.commit now actor b w) := by
  apply AddsAdmitted.of_rows
  · intro row hrow
    rw [commit_bookings] at hrow
    rcases Table.mem_replace hrow with rfl | hrow
    · exact covers_advance mem work reason
    · exact covers_booking hrow
  · intro row hrow
    rw [commit_drivers] at hrow
    split at hrow
    · exact covers_driver hrow
    · rename_i d hd
      rcases Table.mem_replace hrow with rfl | hrow
      · exact covers_written work row hd
      · exact covers_driver hrow

end Work

/-! ## New rows -/

/-- What is made of the items of a form are bookings of this form. -/
theorem exists_bookingOf {user : Int} {form : BookingForm} {items : List ItemForm}
    {made : List Booking} (h : s.createItems now user form items = .ok (t, made)) :
    ∀ b ∈ made, ∃ (before : Store) (item : ItemForm), b = before.bookingOf now user form item := by
  induction items generalizing s made with
  | nil =>
    cases h
    simp
  | cons item rest ih =>
    obtain ⟨-, others, rfl, hrest⟩ := createItems_cons.1 h
    intro b hb
    rcases List.mem_cons.1 hb with rfl | hb
    · exact ⟨s, item, rfl⟩
    · exact ih hrest b hb

/-- A new booking has the texts of the form, a quantity and the status that all begin with. -/
theorem covers_bookingOf {user : Int} {form : BookingForm} (before : Store) (item : ItemForm)
    (admitted : ∀ column text, form.text? column = some text → column.Admits text) :
    s.Covers (before.bookingOf now user form item).text? := by
  intro column text htext
  right
  cases column with
  | bookingStatus =>
    cases htext
    exact TextColumn.admits_bookingStatus .created
  | estimatedWeight =>
    cases htext
    exact Nat.le_trans (length_weightText_le item.quantity) (by decide)
  | addressLine1 | city | postalCode | phone | scheduledTimeSlot => exact admitted _ text htext
  | _ => cases htext

/-- What is added without work are texts of the command, and names. -/
theorem Furnished.addsAdmitted {command : Command} (h : s.Furnished now actor command t)
    (admitted : ∀ column text, command.text? column = some text → column.Admits text) :
    s.AddsAdmitted t := by
  cases h with
  | booked h =>
    rw [createItems_store h]
    refine .of_rows (fun b hb => ?_) fun _ hd => covers_driver hd
    rcases List.mem_append.1 hb with hb | hb
    · exact covers_booking hb
    · obtain ⟨before, item, rfl⟩ := exists_bookingOf h b hb
      exact covers_bookingOf before item admitted
  | @available form _ _ h =>
    obtain ⟨-, old, -, rfl⟩ := setAvailability_eq_ok h
    refine .of_rows (fun _ hb => covers_booking hb) fun d hd => ?_
    rcases Table.mem_replace hd with rfl | hd
    · exact covers_availability form.status rfl
    · exact covers_driver hd
  | priced h =>
    obtain ⟨-, ⟨-, -, rfl⟩ | ⟨old, -, -, rfl⟩⟩ := setPrice_eq_ok h
    · exact .of_rows (fun _ hb => covers_booking hb) fun _ hd => covers_driver hd
    · exact .of_rows (fun _ hb => covers_booking hb) fun _ hd => covers_driver hd

end Store

/-- What a command adds is within the widths of the columns, if its own texts are. -/
theorem Command.Leaves.addsAdmitted {now : Instant} {actor : Actor} {s t : Store}
    {command : Command} (h : command.Leaves now actor s t)
    (admitted : ∀ column text, command.text? column = some text → column.Admits text) :
    s.AddsAdmitted t := by
  cases h with
  | idle => exact .refl s
  | ordered order? isOpen found work =>
    refine Store.addsAdmitted_commit (Table.mem_of_find? found) work fun text given => ?_
    exact admitted .cancelReason text (Command.text?_of_order? order? given)
  | furnished h => exact h.addsAdmitted admitted

/-- What a request adds is. -/
theorem Service.serve_addsAdmitted (service : Service) (token : Token) (now : Instant)
    (r : Request) :
    service.world.store.AddsAdmitted (service.serve token now r).1.world.store := by
  have h := service.serve_runs token now r
  generalize service.serve token now r = result at h ⊢
  cases h with
  | idle h =>
    rw [h]
    exact .refl _
  | @ran next reply actor command asks h =>
    rw [h]
    exact (command.run_leaves service.world token now actor).addsAdmitted
      fun _ _ => asks.admits_text

/-- So is what any number of requests add. -/
theorem Service.run_addsAdmitted (service : Service) (calls : List Call) :
    service.world.store.AddsAdmitted (service.run (calls.map Call.step)).world.store := by
  apply Service.run_induction .refl .trans
  intro s hs service
  obtain ⟨c, -, rfl⟩ := List.mem_map.1 hs
  simp only [service.step_call c]
  exact service.serve_addsAdmitted c.token c.now c.request

/-! ## The check -/

/-- A booking that is there after an event was there before, or passes the check: work on a booking
without a status leaves it as it is, and all other work writes a status. -/
theorem Event.Leaves.passesCheck {event : Event} {now : Instant} {s t : Store}
    (h : event.Leaves now s t) {b : Booking} (mem : b ∈ t.bookings.rows) :
    b ∈ s.bookings.rows ∨ b.PassesCheck := by
  rw [Booking.passesCheck_iff]
  cases h.origin mem with
  | kept mem => exact .inl mem
  | @worked old actor order w orders found work eq_advance =>
    rw [eq_advance, Booking.advance_status?]
    cases known : old.status? with
    | some status => exact .inr ((Order.follows_of_work work).exists_status known)
    | none =>
      obtain rfl := Order.idle_of_unknown work known
      rw [Writes.idle, Booking.advance_of_same (Progress.same_self _)]
      exact .inl (Table.mem_of_find? found)
  | booked fresh =>
    rw [Booking.status?, fresh]
    exact .inr ⟨.created, Status.ofStored?_name .created⟩
  | sampled filled sample =>
    obtain ⟨sample, -, category, hprogress⟩ := sample
    rw [Booking.status?, hprogress]
    exact .inr ⟨_, Sample.status?_progress now category sample⟩

/-- Whatever requests are made, a column whose texts are all within its width stays so. A booking
that a request writes has one of the names for a status that the check lists. -/
theorem texts_fit_their_columns (service : Service) (calls : List Call) :
    let reached := service.run (calls.map Call.step)
    let before := service.world.store
    let after := reached.world.store
    (∀ column, before.Fits column → after.Fits column) ∧
      ∀ c : Call, ∀ b ∈ (reached.step c.step).1.world.store.bookings.rows,
        b ∈ after.bookings.rows ∨ b.PassesCheck := by
  intro reached before after
  constructor
  · intro column fits
    exact (service.run_addsAdmitted calls).fits fits
  · intro c b mem
    exact (reached.step_leaves c.step).passesCheck mem

/-- A postal code that is as long as its column is wide, in letters of three bytes each, is stored
in full; a reason is stored without the blanks around it, and the booking that is cancelled for it
passes the check. -/
theorem longest_postal_code_fits :
    let code := String.ofList (List.replicate 20 'අ')
    let service := Service.single ⟨"CREATED", none, 1, none, none, none, none⟩
    let book : Call := ⟨⟨1⟩, ⟨1⟩, ⟨"POST", "/api/v1/bookings",
      [("X-Actor-Id", "2"), ("X-Actor-Role", "CUSTOMER")],
      .value (.obj (Form.write { BookingForm.ofKinds [1] with postalCode := code }))⟩⟩
    let cancel : Call := ⟨⟨2⟩, ⟨2⟩, ⟨"PATCH", "/api/v1/admin/bookings/1/cancel",
      [("X-Actor-Id", "3"), ("X-Actor-Role", "ADMIN")],
      .value (.obj [("reason", .str " no driver\n")])⟩⟩
    let after := (service.run ([book, cancel].map Call.step)).world.store
    (∀ column, after.Fits column) ∧
      (code ∈ after.texts .postalCode ∧ "no driver" ∈ after.texts .cancelReason) ∧
      ∃ b ∈ ((service.run ([book].map Call.step)).step cancel.step).1.world.store.bookings.rows,
        b ∉ (service.run ([book].map Call.step)).world.store.bookings.rows ∧ b.PassesCheck := by
  intro code service book cancel after
  have fits : ∀ column, service.world.store.Fits column := by
    intro column
    cases column <;> decide
  have stored : code ∈ after.texts .postalCode ∧ "no driver" ∈ after.texts .cancelReason := by
    decide +kernel
  have changed :
      ∃ b ∈ ((service.run ([book].map Call.step)).step cancel.step).1.world.store.bookings.rows,
        b ∉ (service.run ([book].map Call.step)).world.store.bookings.rows := by
    decide +kernel
  obtain ⟨hfits, -⟩ := texts_fit_their_columns service [book, cancel]
  obtain ⟨-, hpasses⟩ := texts_fit_their_columns service [book]
  obtain ⟨b, mem, new⟩ := changed
  refine ⟨fun column => hfits column (fits column), stored, b, mem, new, ?_⟩
  exact (hpasses cancel b mem).resolve_left new

end WastePickup
