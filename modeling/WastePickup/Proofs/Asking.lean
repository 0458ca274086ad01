import WastePickup.Proofs.Orders

/-!
# What requests ask for

A request names its subject in its path: a booking, or a waste category. What it asks for at its
endpoint is about that subject and no other, is for the roles that the endpoint admits, and is a
change only if the method says so. So the path and the headers of a request bound what it can do,
whatever its body says.

* `Endpoint.read_eq_ok`: a command belongs to the endpoint that has read it, and is about the
  subject in the path.
* `Request.Asks.admits`, `Request.Asks.subject?_eq`: the same for whole requests.
* `Command.order?_endpoint`: orders on bookings are given by `PATCH`, and not by customers.
-/

namespace WastePickup

/-! ## Subjects -/

/-- What the number in a path stands for. -/
inductive Subject where
  | booking (id : Int)
  | category (id : Int)
  deriving DecidableEq

/-- What has been read, if anything has. -/
def Checked.value? {α : Type} : Checked α → Option α
  | ok a => some a
  | failed _ _ => none

/-- What the text in the place of the number stands for at an endpoint. -/
def Endpoint.subject? (e : Endpoint) (number : String) : Option Subject :=
  if e = .setPrice then (inPath categoryField number).value?.map .category
  else (inPath bookingField number).value?.map .booking

/-- What the path of a request names. -/
def Request.subject? (r : Request) : Option Subject :=
  match Service.route r.method (Target.ofText r.target).segments with
  | .endpoint e number => e.subject? number
  | .notFound | .methodNotAllowed | .redirect => none

/-- What an event is about, if it is about one booking or category. -/
def Event.subject? : Event → Option Subject
  | request r => r.subject?
  | act _ booking _ _ | adminUpdate _ booking _ | hold booking | drop booking =>
    some (.booking booking)
  | list _ _ _ | seed | forget _ => none

namespace Command

/-- What a command is about, if it is about one booking or category. -/
def subject? : Command → Option Subject
  | oneBooking booking | oneDuty booking | start booking | collect booking _
  | cancelAsDriver booking _ | updateAsDriver booking _ | assign booking _ | complete booking _
  | cancelAsAdmin booking _ | refund booking | updateAsAdmin booking _ | history booking =>
    some (.booking booking)
  | setPrice category _ => some (.category category)
  | createBookings _ | ownBookings _ _ _ | duties | setAvailability _ | allBookings _ _ _ | metrics
  | priceList | health => none

/-- Where a command is asked for. -/
def endpoint : Command → Endpoint
  | createBookings _ => .createBookings
  | ownBookings _ _ _ => .ownBookings
  | oneBooking _ => .oneBooking
  | duties => .duties
  | oneDuty _ => .oneDuty
  | start _ => .start
  | collect _ _ => .collect
  | cancelAsDriver _ _ => .cancelAsDriver
  | updateAsDriver _ _ => .updateAsDriver
  | setAvailability _ => .setAvailability
  | allBookings _ _ _ => .allBookings
  | assign _ _ => .assign
  | complete _ _ => .complete
  | cancelAsAdmin _ _ => .cancelAsAdmin
  | refund _ => .refund
  | updateAsAdmin _ _ => .updateAsAdmin
  | history _ => .history
  | metrics => .metrics
  | priceList => .priceList
  | setPrice _ _ => .setPrice
  | health => .health

end Command

/-! ## Reading -/

/-- A command belongs to the endpoint that has read it, and is about what the path names there. -/
theorem Endpoint.read_eq_ok {e : Endpoint} {number : String} {query : Json.Object} {body : Body}
    {command : Command} (h : e.read number query body = .ok command) :
    command.endpoint = e ∧
      ∀ subject, command.subject? = some subject → e.subject? number = some subject := by
  have hbooking : ∀ {booking subject}, inPath bookingField number = .ok booking →
      some (Subject.booking booking) = some subject →
      (inPath bookingField number).value?.map Subject.booking = some subject := by
    intro booking subject hread hsubject
    rw [hread, ← hsubject]
    rfl
  cases e with
  | oneBooking | oneDuty | start | refund | history =>
    obtain ⟨booking, hnumber, rfl⟩ := Checked.map_eq_ok_iff.1 h
    exact ⟨rfl, fun subject => hbooking hnumber⟩
  | collect | cancelAsDriver | updateAsDriver | assign | complete | cancelAsAdmin
  | updateAsAdmin =>
    obtain ⟨booking, form, hnumber, -, rfl⟩ := Checked.map_seq_eq_ok_iff.1 h
    exact ⟨rfl, fun subject => hbooking hnumber⟩
  | setPrice =>
    obtain ⟨category, form, hnumber, -, rfl⟩ := Checked.map_seq_eq_ok_iff.1 h
    refine ⟨rfl, fun subject hsubject => ?_⟩
    rw [subject?, if_pos rfl, hnumber, ← hsubject]
    rfl
  | ownBookings | allBookings =>
    obtain ⟨g, size, hg, -, rfl⟩ := Checked.seq_eq_ok_iff.1 h
    obtain ⟨status, page, -, -, rfl⟩ := Checked.map_seq_eq_ok_iff.1 hg
    exact ⟨rfl, fun subject hsubject => by cases hsubject⟩
  | createBookings | setAvailability =>
    obtain ⟨form, -, rfl⟩ := Checked.map_eq_ok_iff.1 h
    exact ⟨rfl, fun subject hsubject => by cases hsubject⟩
  | duties | metrics | priceList | health =>
    cases h
    exact ⟨rfl, fun subject hsubject => by cases hsubject⟩

/-- Where a command has been read, the body could be. -/
theorem Endpoint.canRead_of_read {e : Endpoint} {number : String} {query : Json.Object}
    {body : Body} {command : Command} (h : e.read number query body = .ok command) :
    e.CanRead body := by
  have hbody : ∀ {α : Type} [Form α] {form : α}, inBody α body = .ok form →
      (∃ j, body = .value j) ∨ body = .absent := by
    intro α _ form hread
    cases body with
    | absent => exact .inr rfl
    | malformed => cases hread
    | unreadable => cases hread
    | value j => exact .inl ⟨j, rfl⟩
  intro takes
  cases e with
  | createBookings | setAvailability =>
    obtain ⟨form, hform, -⟩ := Checked.map_eq_ok_iff.1 h
    exact hbody hform
  | collect | updateAsDriver | assign | updateAsAdmin | setPrice =>
    obtain ⟨subject, form, -, hform, -⟩ := Checked.map_seq_eq_ok_iff.1 h
    exact hbody hform
  | cancelAsDriver | complete | cancelAsAdmin =>
    obtain ⟨subject, form?, -, hform, -⟩ := Checked.map_seq_eq_ok_iff.1 h
    exact canRead_of_inOptionalBody hform
  | ownBookings | oneBooking | duties | oneDuty | start | allBookings | refund | history | metrics
  | priceList | health => cases takes

/-- What a request is read as is about what its path names. -/
theorem Request.subject?_of_command? {r : Request} {command : Command} {subject : Subject}
    (read : r.command? = some command) (about : command.subject? = some subject) :
    r.subject? = some subject := by
  simp only [command?] at read
  split at read
  · rename_i e number hroute
    split at read
    · rename_i hread
      cases read
      simp only [subject?, hroute]
      exact (Endpoint.read_eq_ok hread).2 subject about
    · cases read
  all_goals cases read

namespace Request.Asks

variable {r : Request} {actor : Actor} {command : Command}

/-- What a request asks for is for the roles of its endpoint. -/
theorem admits (h : r.Asks actor command) : actor.role ∈ command.endpoint.roles := by
  obtain ⟨-, -, admits, read⟩ := h
  rw [(Endpoint.read_eq_ok read).1]
  exact admits

/-- It is asked for by the method of its endpoint. -/
theorem method_eq (h : r.Asks actor command) : r.method = command.endpoint.method := by
  obtain ⟨leads, -, -, read⟩ := h
  rw [(Endpoint.read_eq_ok read).1]
  exact leads.method_eq

/-- What a command is about is named by the path of the request for it. -/
theorem subject?_eq (h : r.Asks actor command) {subject : Subject}
    (about : command.subject? = some subject) : r.subject? = some subject :=
  subject?_of_command? h.command?_eq about

end Request.Asks

/-! ## Orders -/

/-- An order is on the booking that its command is about; it is given by `PATCH`, and customers give
none. -/
theorem Command.order?_endpoint {s : Store} {command : Command} {booking : Int} {order : Order}
    (h : command.order? s = some (booking, order)) :
    command.subject? = some (.booking booking) ∧ command.endpoint.method = "PATCH" ∧
      .customer ∉ command.endpoint.roles := by
  cases command with
  | updateAsDriver booking' form =>
    simp only [order?] at h
    split at h
    · cases h
    · cases h
      exact ⟨rfl, rfl, by simp [endpoint, Endpoint.roles]⟩
  | updateAsAdmin booking' form =>
    simp only [order?] at h
    split at h
    · cases h
    · cases h
      exact ⟨rfl, rfl, by simp [endpoint, Endpoint.roles]⟩
  | start | collect | cancelAsDriver | cancelAsAdmin | assign | complete | refund =>
    cases h
    exact ⟨rfl, rfl, by simp [endpoint, Endpoint.roles]⟩
  | _ => cases h

/-- An order that a request asks for is open to its caller. -/
theorem Request.Asks.isOpenTo {r : Request} {actor : Actor} {command : Command} {s : Store}
    {booking : Int} {order : Order} (h : r.Asks actor command)
    (order? : command.order? s = some (booking, order)) : order.IsOpenTo actor := by
  cases order with
  | act action given => trivial
  | update request =>
    obtain ⟨form, rfl, -⟩ := Command.order?_eq_update order?
    have role : actor.role = .admin ∨ actor.role = .superAdmin := by
      simpa [Command.endpoint, Endpoint.roles] using h.admits
    show actor.role.isAdmin = true
    rcases role with role | role
    · rw [role]
      rfl
    · rw [role]
      rfl

namespace Service

variable {service : Service} {r : Request} {actor : Actor} {command : Command}

/-- What a request is answered if its path has not been served too often. -/
def limited (service : Service) (r : Request) (reply : Reply) : Reply :=
  if limit ≤ service.servedAt (Target.ofText r.target).path then .ok .tooMany else reply

/-- What a request comes to that asks for a command. -/
theorem serve_eq_runLimited (token : Token) (now : Instant) (asks : r.Asks actor command)
    (health : command ≠ .health) :
    service.serve token now r =
      service.runLimited token now (Target.ofText r.target).path actor command := by
  obtain @⟨e, number, leads, caller, admits, read⟩ := asks
  have hhealth : e ≠ .health := by
    rintro rfl
    cases read
    exact health rfl
  rw [serve_of_leads service token now leads,
    serveAt_eq hhealth (Endpoint.canRead_of_read read) caller admits, read]

/-- What it is answered. -/
theorem serve_of_asks_limited (token : Token) (now : Instant) (asks : r.Asks actor command)
    (health : command ≠ .health) :
    (service.serve token now r).2 =
      service.limited r (.ofOutcome (command.run service.world token now actor).2) := by
  rw [serve_eq_runLimited token now asks health, runLimited, limited]
  split
  · rfl
  · rfl

/-- What a request is answered that asks for a command, and whose path has not been served too
often. -/
theorem serve_of_asks (token : Token) (now : Instant) (asks : r.Asks actor command)
    (health : command ≠ .health)
    (unlimited : service.servedAt (Target.ofText r.target).path < limit) :
    (service.serve token now r).2 =
      .ofOutcome (command.run service.world token now actor).2 := by
  rw [serve_of_asks_limited token now asks health]
  exact if_neg (Nat.not_le_of_lt unlimited)

end Service

/-- Whoever orders something does so on the booking that the event is about. -/
theorem Event.Orders.subject? {s : Store} {event : Event} {actor : Actor} {booking : Int}
    {order : Order} (h : event.Orders s actor booking order) :
    event.subject? = some (.booking booking) := by
  cases h with
  | request caller read order? =>
    exact Request.subject?_of_command? read (Command.order?_endpoint order?).1
  | act => rfl
  | update => rfl

end WastePickup
