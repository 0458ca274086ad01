import Mathlib.Data.List.Forall2
import WastePickup.Proofs.DriverRows

/-!
# Super admins act as admins

A super admin has the rights of an admin and no others. The role is looked at in many places: at the
endpoints, when a move is planned or refused, in the side effects of an action, in labels and open
actions, and in the history. In none of them does it matter which of the two it is. It shows in one
text only: an endpoint that admits neither says which role it has turned away.

* `Command.run_acting`: a command does and answers the same in the acting role of its caller.
* `Service.serve_demoted`, `Service.step_demoted`: so do a request and an event.
* `super_admins_act_as_admins`: in a run of any length, admins may stand in for super admins in any
  of the steps.
-/

namespace WastePickup

/-! ## The acting role -/

/-- Somebody in the role whose rights he uses. -/
def Actor.acting (actor : Actor) : Actor :=
  { actor with role := actor.role.acting }

/-- Whoever acts keeps his identity. -/
@[simp] theorem Actor.acting_id (actor : Actor) : actor.acting.id = actor.id := rfl

/-- Whoever acts does so in his acting role. -/
@[simp] theorem Actor.acting_role (actor : Actor) : actor.acting.role = actor.role.acting := rfl

/-- The acting role has the rights of an admin if the role has. -/
@[simp] theorem Role.isAdmin_acting (role : Role) : role.acting.isAdmin = role.isAdmin := by
  rw [isAdmin, acting_acting, isAdmin]

/-- Only a customer acts as a customer. -/
theorem Role.acting_eq_customer {role : Role} : role.acting = .customer ↔ role = .customer := by
  cases role <;> simp [acting]

namespace Status

/-- The acting role has the same open actions. -/
@[simp] theorem allowedActions_acting (status : Status) (role : Role) :
    status.allowedActions role.acting = status.allowedActions role := by
  simp [allowedActions, canPerform]

/-- The acting role sees the same label. -/
@[simp] theorem label_acting (status : Status) (role : Role) :
    status.label (some role.acting) = status.label (some role) := by
  simp [label, Role.acting_eq_customer]

end Status

namespace BookingView

/-- The acting role sees the same of a booking. -/
@[simp] theorem of_acting (viewer : Role) (b : Booking) : of viewer.acting b = of viewer b := by
  unfold of
  cases b.status? with
  | none => rfl
  | some status => simp [ofStatus]

/-- The acting role sees the same of a list of bookings. -/
@[simp] theorem ofList_acting (viewer : Role) (bookings : List Booking) :
    ofList viewer.acting bookings = ofList viewer bookings := by
  induction bookings with
  | nil => rfl
  | cons b rest ih => rw [ofList, ofList, of_acting, ih]

end BookingView

/-! ## Work -/

namespace Store

variable (s : Store) (now : Instant) (actor : Actor) (p : Progress)

/-- A move is planned, refused and recorded in the acting role. -/
@[simp] theorem planMove_acting (role : Role) (action : Action) :
    planMove role.acting action p = planMove role action p := by
  simp [planMove, Move.plan]

/-- An action has the same effect in the acting role. -/
@[simp] theorem effect_acting (role : Role) (move : Move) (given : Particulars) :
    s.effect now role.acting move given p = s.effect now role move given p := by
  simp [effect, cancelEffect]

/-- An action is taken in the same way in the acting role. -/
@[simp] theorem perform_acting (action : Action) (given : Particulars) :
    s.perform now actor.acting action given p = s.perform now actor action given p := by
  simp [perform, requireRecordable]

/-- An update is worked out in the same way in the acting role. -/
@[simp] theorem adminWork_acting (request : AdminRequest) :
    s.adminWork now actor.acting request p = s.adminWork now actor request p := by
  simp [adminWork, adminAction]

/-- What is written does not depend on the role of the writer. -/
@[simp] theorem revise_acting (booking : Int) (work : Work) :
    s.revise now actor.acting booking work = s.revise now actor booking work := rfl

end Store

namespace World

variable (w : World) (token : Token) (now : Instant) (actor : Actor)

/-- Work under the lock is done in the same way in the acting role. -/
@[simp] theorem lockedUpdate_acting (booking : Int) (work : Work) :
    w.lockedUpdate token now actor.acting booking work =
      w.lockedUpdate token now actor booking work := by
  simp [lockedUpdate]

/-- An action on a booking is the same in the acting role. -/
@[simp] theorem applyAction_acting (booking : Int) (action : Action) (given : Particulars) :
    w.applyAction token now actor.acting booking action given =
      w.applyAction token now actor booking action given := by
  simp [applyAction]

/-- An update of a booking is the same in the acting role. -/
@[simp] theorem updateAsAdmin_acting (booking : Int) (request : AdminRequest) :
    w.updateAsAdmin token now actor.acting booking request =
      w.updateAsAdmin token now actor booking request := by
  simp [updateAsAdmin]

/-- What has been done is shown in the same way in the acting role. -/
@[simp] theorem shown_acting (viewer : Role) (result : World × Except Refusal Booking) :
    shown viewer.acting result = shown viewer result := by
  obtain ⟨world, refusal | b⟩ := result
  · rfl
  · simp [shown]

end World

namespace Store

variable (s : Store) (viewer : Role)

/-- A page is shown in the same way in the acting role. -/
@[simp] theorem pageView_acting (f : BookingFilter) (page size : Int) :
    s.pageView viewer.acting f page size = s.pageView viewer f page size := by
  simp [pageView]

/-- One booking is shown in the same way in the acting role. -/
@[simp] theorem bookingView_acting (booking : Int) (maySee : Booking → Bool) (refusal : Refusal) :
    s.bookingView viewer.acting booking maySee refusal =
      s.bookingView viewer booking maySee refusal := by
  simp [bookingView]

/-- Duties are shown in the same way in the acting role. -/
@[simp] theorem dutiesView_acting (actor : Actor) :
    s.dutiesView actor.acting = s.dutiesView actor := by
  simp [dutiesView]

end Store

/-- A command does and answers the same in the acting role of its caller. -/
theorem Command.run_acting (w : World) (token : Token) (now : Instant) (actor : Actor)
    (command : Command) :
    command.run w token now actor.acting = command.run w token now actor := by
  cases command with
  | oneBooking booking =>
    simp only [run, Actor.acting_role, Role.isAdmin_acting, Store.bookingView_acting]
    rfl
  | oneDuty booking =>
    simp only [run, Actor.acting_role, Store.bookingView_acting]
    rfl
  | _ => simp [run]

/-! ## Who asks -/

/-- Wherever one of the two is admitted, the other one is. -/
theorem Endpoint.acting_mem_roles {e : Endpoint} {role : Role} :
    role.acting ∈ e.roles ↔ role ∈ e.roles := by
  cases e <;> cases role <;> simp [roles, Role.acting]

/-- A header that names the super admin names the admin instead. -/
def demotedHeader (header : String × String) : String × String :=
  if header.1.map Char.toLower = "x-actor-role" ∧ header.2 = Role.superAdmin.name then
    (header.1, Role.admin.name)
  else header

/-- A request of a super admin as one of an admin. -/
def Request.demoted (r : Request) : Request :=
  { r with headers := r.headers.map demotedHeader }

namespace Service

/-- The headers as the members of an object. -/
def members (headers : List (String × String)) : Json.Object :=
  headers.map fun (name, value) => (name.map Char.toLower, .str value)

/-- A value that names the super admin names the admin instead. -/
def demotedValue (value : String) : String :=
  if value = Role.superAdmin.name then Role.admin.name else value

/-- The members of headers are those of the first and of the rest. -/
@[simp] theorem members_cons (header : String × String) (rest : List (String × String)) :
    members (header :: rest) =
      ((header.1.map Char.toLower : Json.Text), Json.str header.2) :: members rest := rfl

/-- The headers but the one for the role are as they were. -/
theorem get?_members_of_ne {name : String} (other : name ≠ "x-actor-role")
    (headers : List (String × String)) :
    (members (headers.map demotedHeader)).get? name = (members headers).get? name := by
  induction headers with
  | nil => rfl
  | cons header rest ih =>
    by_cases h : header.1.map Char.toLower = "x-actor-role" ∧ header.2 = Role.superAdmin.name
    · simp [demotedHeader, Json.Object.get?, h, Ne.symm other, ih]
    · simp only [List.map_cons, members_cons, demotedHeader, if_neg h, Json.Object.get?, ih]

/-- The header for the role is the one that was there, with its value demoted. -/
theorem get?_members_role (headers : List (String × String)) :
    (∃ value : String, (members headers).get? "x-actor-role" = some (.str value) ∧
        (members (headers.map demotedHeader)).get? "x-actor-role" =
          some (.str (demotedValue value))) ∨
      (members headers).get? "x-actor-role" = none ∧
        (members (headers.map demotedHeader)).get? "x-actor-role" = none := by
  induction headers with
  | nil => exact .inr ⟨rfl, rfl⟩
  | cons header rest ih =>
    by_cases hkey : header.1.map Char.toLower = "x-actor-role"
    · refine .inl ⟨header.2, by simp [Json.Object.get?, hkey], ?_⟩
      by_cases hvalue : header.2 = Role.superAdmin.name
      · simp [demotedHeader, Json.Object.get?, hkey, hvalue, demotedValue]
      · simp [demotedHeader, Json.Object.get?, hkey, hvalue, demotedValue]
    · simpa [demotedHeader, Json.Object.get?, hkey] using ih

/-- A demoted value is read as the acting role. -/
theorem readName_demotedValue (value : String) :
    (Kind.readName (.str (demotedValue value)) : Checked Role) =
      (Kind.readName (.str value)).map Role.acting := by
  by_cases hvalue : value = Role.superAdmin.name
  · subst hvalue
    rfl
  · have hsame : ∀ role : Role, Named.ofName? value = some role → role.acting = role := by
      intro role hrole
      cases role with
      | superAdmin => exact absurd (Named.name_of_ofName? hrole).symm hvalue
      | customer | driver | admin => rfl
    simp only [demotedValue, hvalue, if_false, Kind.readName]
    cases hrole : (Named.ofName? value : Option Role) with
    | none => rfl
    | some role => exact congrArg Checked.ok (hsame role hrole).symm

/-- The role of a demoted request is the acting role. -/
theorem read_actorRoleField_demoted (headers : List (String × String)) :
    actorRoleField.read (members (headers.map demotedHeader)) =
      (actorRoleField.read (members headers)).map Role.acting := by
  unfold Field.read
  rw [← Checked.under_map]
  have hname : actorRoleField.name = "x-actor-role" := rfl
  rw [hname]
  rcases get?_members_role headers with ⟨value, hvalue, hdemoted⟩ | ⟨hvalue, hdemoted⟩
  · rw [hvalue, hdemoted]
    exact congrArg (Checked.under _) (readName_demotedValue value)
  · rw [hvalue, hdemoted]
    rfl

/-- The caller of a demoted request is the one of the request in his acting role, and what is wrong
with the headers of one is wrong with those of the other. -/
theorem readActor_demoted (headers : List (String × String)) :
    readActor (headers.map demotedHeader) = (readActor headers).map Actor.acting := by
  have hid : actorIdField.read (members (headers.map demotedHeader)) =
      actorIdField.read (members headers) :=
    Field.read_congr (get?_members_of_ne (by decide) headers)
  have hrole := read_actorRoleField_demoted headers
  show (Checked.seq (Checked.map Actor.mk (actorIdField.read (members (headers.map demotedHeader))))
    (actorRoleField.read (members (headers.map demotedHeader)))).under _ =
      Checked.map Actor.acting ((Checked.seq (Checked.map Actor.mk
        (actorIdField.read (members headers))) (actorRoleField.read (members headers))).under _)
  rw [hid, hrole, ← Checked.under_map]
  cases actorIdField.read (members headers) with
  | ok id => cases actorRoleField.read (members headers) <;> rfl
  | failed first others => cases actorRoleField.read (members headers) <;> rfl

/-! ## Requests -/

variable (service : Service) (token : Token) (now : Instant)

/-- At an endpoint, a demoted request comes to what the request itself comes to, or both are turned
away. -/
theorem serveAt_demoted (e : Endpoint) (number : String) (target : Target) (r : Request) :
    service.serveAt token now e number target r.demoted =
        service.serveAt token now e number target r ∨
      .superAdmin ∉ e.roles ∧ .admin ∉ e.roles ∧
        service.serveAt token now e number target r = (service, .ok (.notAuthorized .superAdmin)) ∧
        service.serveAt token now e number target r.demoted =
          (service, .ok (.notAuthorized .admin)) := by
  by_cases asked : e ≠ .health ∧ e.CanRead r.body
  · have hcaller : readActor r.demoted.headers = (readActor r.headers).map Actor.acting :=
      readActor_demoted r.headers
    have hbody : r.demoted.body = r.body := rfl
    rw [serveAt_of_canRead asked.1 (hbody ▸ asked.2), serveAt_of_canRead asked.1 asked.2, hcaller,
      hbody]
    cases readActor r.headers with
    | failed first others => exact .inl rfl
    | ok actor =>
      have hadmits : actor.role.acting ∈ e.roles ↔ actor.role ∈ e.roles :=
        Endpoint.acting_mem_roles
      simp only [Checked.map, Actor.acting_role, hadmits, runLimited, Command.run_acting]
      by_cases admitted : actor.role ∈ e.roles
      · exact .inl (by simp only [admitted, not_true, if_false])
      · simp only [admitted, not_false_eq_true, if_true]
        -- Only the name of the role is left, and only a super admin acts under another one.
        cases hrole : actor.role with
        | superAdmin =>
          rw [hrole] at admitted hadmits
          exact .inr ⟨admitted, fun hadmin => admitted (hadmits.1 hadmin), rfl, rfl⟩
        | customer | driver | admin => exact .inl rfl
  · obtain ⟨reply, h⟩ := serveAt_of_not_canRead asked
    exact .inl ((h r.demoted rfl ..).trans (h r rfl ..).symm)

/-- A demoted request is served like the request itself, or an endpoint that admits neither super
admins nor admins turns both of them away, each by his role. -/
theorem serve_demoted (r : Request) :
    service.serve token now r.demoted = service.serve token now r ∨
      ∃ e number, r.LeadsTo e number ∧ .superAdmin ∉ e.roles ∧ .admin ∉ e.roles ∧
        service.serve token now r = (service, .ok (.notAuthorized .superAdmin)) ∧
        service.serve token now r.demoted = (service, .ok (.notAuthorized .admin)) := by
  have hmethod : r.demoted.method = r.method := rfl
  have htarget : r.demoted.target = r.target := rfl
  unfold serve respond
  rw [hmethod, htarget]
  simp only
  cases leads : route r.method (Target.ofText r.target).segments with
  | notFound => exact .inl rfl
  | methodNotAllowed => exact .inl rfl
  | redirect => exact .inl rfl
  | endpoint e number =>
    have hhead : r.method ≠ "HEAD" := Request.LeadsTo.method_ne_head leads
    simp only [Reply.sentTo, if_neg hhead]
    rcases service.serveAt_demoted token now e number (Target.ofText r.target) r with
      hsame | ⟨hsuper, hadmin, h, h'⟩
    · exact .inl (by rw [hsame])
    · exact .inr ⟨e, number, leads, hsuper, hadmin, by rw [h], by rw [h']⟩

end Service

/-! ## Runs -/

/-- An event of a super admin as one of an admin. -/
def Event.demoted : Event → Event
  | request r => .request r.demoted
  | act actor booking action given => .act actor.acting booking action given
  | adminUpdate actor booking asked => .adminUpdate actor.acting booking asked
  | event => event

/-- A step of a super admin as one of an admin. -/
def Step.demoted (s : Step) : Step :=
  { s with event := s.event.demoted }

/-- What an event answers if an admin stands in for a super admin: the same, or he is turned away by
an endpoint that admits neither, under his own name. -/
inductive Event.AnswersAs (event : Event) (o : Outcome) : Outcome → Prop where
  | same : AnswersAs event o o
  | turnedAway {r : Request} {e : Endpoint} {number : String} (isRequest : event = .request r)
      (leads : r.LeadsTo e number) (superAdmin : .superAdmin ∉ e.roles) (admin : .admin ∉ e.roles)
      (was : o = .response (.notAuthorized .superAdmin)) :
      AnswersAs event o (.response (.notAuthorized .admin))

namespace Service

/-- A step in which an admin stands in for a super admin leaves the same behind. -/
theorem step_demoted (service : Service) (s : Step) :
    (service.step s.demoted).1 = (service.step s).1 ∧
      s.event.AnswersAs (service.step s).2 (service.step s.demoted).2 := by
  obtain ⟨token, now, event⟩ := s
  cases event with
  | request r =>
    simp only [Step.demoted, Event.demoted, step]
    rcases service.serve_demoted token now r with h | ⟨e, number, leads, hsuper, hadmin, h, h'⟩
    · rw [h]
      exact ⟨rfl, .same⟩
    · rw [h, h']
      exact ⟨rfl, .turnedAway rfl leads hsuper hadmin rfl⟩
  | act actor booking action given =>
    simp only [Step.demoted, Event.demoted, step, World.applyAction_acting, true_and]
    exact .same
  | adminUpdate actor booking request =>
    simp only [Step.demoted, Event.demoted, step, World.updateAsAdmin_acting, true_and]
    exact .same
  | list | seed | hold | drop | forget => exact ⟨rfl, .same⟩

/-- One step may be the demoted form of another, or the same. -/
def MayDemote (s s' : Step) : Prop :=
  s' = s ∨ s' = s.demoted

/-- A step that may be demoted leaves the same service and is answered alike. -/
theorem step_mayDemote (service : Service) {s s' : Step} (h : MayDemote s s') :
    (service.step s').1 = (service.step s).1 ∧
      s.event.AnswersAs (service.step s).2 (service.step s').2 := by
  rcases h with rfl | rfl
  · exact ⟨rfl, .same⟩
  · exact service.step_demoted s

/-- A run in which admins stand in for super admins in some of the steps leaves the same behind. -/
theorem run_mayDemote (service : Service) {steps steps' : List Step}
    (h : List.Forall₂ MayDemote steps steps') : service.run steps' = service.run steps := by
  induction h generalizing service with
  | nil => rfl
  | cons hstep _ ih =>
    rw [run_cons, run_cons, (service.step_mayDemote hstep).1]
    exact ih _

/-- It is answered in the same way, step by step, but for the name of the role that is turned
away. -/
theorem outcomes_mayDemote (service : Service) {steps steps' : List Step}
    (h : List.Forall₂ MayDemote steps steps') :
    List.Forall₂ (fun answered other => answered.1.event.AnswersAs answered.2 other)
      (steps.zip (service.outcomes steps)) (service.outcomes steps') := by
  induction h generalizing service with
  | nil => exact .nil
  | cons hstep _ ih =>
    obtain ⟨hnext, hanswer⟩ := service.step_mayDemote hstep
    rw [outcomes, outcomes, List.zip_cons_cons, hnext]
    exact .cons hanswer (ih _)

end Service

/-- In any steps of a run, an admin may stand in for a super admin. After every step, the tables,
the locks and the counts of served requests are the same, and every step is answered in the same
way, but for the name of the role where an endpoint turns both of them away. -/
theorem super_admins_act_as_admins (service : Service) (steps steps' : List Step)
    (demoted : List.Forall₂ Service.MayDemote steps steps') :
    (∀ n, service.run (steps'.take n) = service.run (steps.take n)) ∧
      List.Forall₂ (fun answered other => answered.1.event.AnswersAs answered.2 other)
        (steps.zip (service.outcomes steps)) (service.outcomes steps') := by
  refine ⟨fun n => ?_, service.outcomes_mayDemote demoted⟩
  apply service.run_mayDemote
  exact List.forall₂_take n demoted

/-- A super admin cancels a booking and is recorded as an admin, and cannot start one; so it is for
an admin in his place. -/
theorem cancellation_by_either_admin :
    let service := Service.single ⟨"ASSIGNED", some 7, 1, none, none, none, none⟩
    let request (role : String) (path : String) : Event := .request ⟨"PATCH", path,
      [("X-Actor-Id", "6"), ("X-Actor-Role", role)], .absent⟩
    let steps (role : String) : List Step :=
      [⟨⟨1⟩, ⟨1⟩, request role "/api/v1/driver/bookings/1/start"⟩,
        ⟨⟨2⟩, ⟨2⟩, request role "/api/v1/admin/bookings/1/cancel"⟩]
    service.run (steps "ADMIN") = service.run (steps "SUPER_ADMIN") ∧
      (service.run (steps "SUPER_ADMIN")).world.store.historyOf 1 =
        [⟨1, 1, .assigned, .cancelled, .cancel, 6, .admin, ⟨2⟩⟩] := by
  intro service request steps
  have hheaders : [("X-Actor-Id", "6"), ("X-Actor-Role", "SUPER_ADMIN")].map demotedHeader =
      [("X-Actor-Id", "6"), ("X-Actor-Role", "ADMIN")] := by decide +kernel
  have hrequest : ∀ path, request "ADMIN" path = (request "SUPER_ADMIN" path).demoted := by
    intro path
    simp only [request, Event.demoted, Request.demoted, hheaders]
  have demoted : List.Forall₂ Service.MayDemote (steps "SUPER_ADMIN") (steps "ADMIN") :=
    .cons (.inr (congrArg (Step.mk _ _) (hrequest _)))
      (.cons (.inr (congrArg (Step.mk _ _) (hrequest _))) .nil)
  obtain ⟨same, -⟩ := super_admins_act_as_admins service _ _ demoted
  exact ⟨same 2, by decide +kernel⟩

end WastePickup
