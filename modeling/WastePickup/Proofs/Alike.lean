import Mathlib.Data.List.Basic
import WastePickup.Api.Service

/-!
# Requests that are answered alike

Two addresses may lead to the same work. A request that reaches an endpoint, past the checks of its
caller, is answered by what its command does; two requests that give the same command in effect are
answered alike, and leave the same world behind. What differs is only which path is counted.

Where a body is not accepted, the report repeats the values that were found at fault. So two bodies
are reported alike if they agree on these.

* `Service.serveAt_of_canRead`, `Service.serveAt_of_not_canRead`: when it is looked at who asks.
* `Service.serve_uniform`: a request comes to the same everywhere, or to the command that it asks
  for.
* `Service.result_of_reaches`: what a request comes to that reaches its endpoint.
* `Service.serve_congr`: a request is served alike in two services if what it asks for is.
* `Service.answersAlike_of_map`: commands with the same effect, read by the same checks.
* `Field.read_congr`: what a field gives depends on its member alone.
-/

namespace WastePickup

/-- A request leads to an endpoint, with a text in the place of the number. -/
def Request.LeadsTo (r : Request) (e : Endpoint) (number : String) : Prop :=
  Service.route r.method (Target.ofText r.target).segments = .endpoint e number

instance (r : Request) (e : Endpoint) (number : String) : Decidable (r.LeadsTo e number) :=
  inferInstanceAs (Decidable (_ = _))

/-- A request asks for a command in somebody's name: it leads to an endpoint that admits whoever
the headers give, and is read there as the command. -/
inductive Request.Asks (r : Request) (actor : Actor) (command : Command) : Prop where
  | intro {e : Endpoint} {number : String} (leads : r.LeadsTo e number)
      (caller : Service.readActor r.headers = .ok actor) (admits : actor.role ∈ e.roles)
      (read : e.read number (Target.ofText r.target).query r.body = .ok command) :
      Asks r actor command

/-- A request that asks for a command has a caller. -/
theorem Request.Asks.caller {r : Request} {actor : Actor} {command : Command}
    (h : r.Asks actor command) : Service.readActor r.headers = .ok actor := by
  obtain ⟨-, caller, -, -⟩ := h
  exact caller

/-- Nobody asks in the name of two. -/
theorem Request.Asks.actor_eq {r : Request} {actor actor' : Actor} {command : Command}
    (h : r.Asks actor command) (caller : Service.readActor r.headers = .ok actor') :
    actor' = actor := by
  rw [h.caller] at caller
  exact (Checked.ok.inj caller).symm

/-- A request leads to one place. -/
theorem Request.LeadsTo.unique {r : Request} {e e' : Endpoint} {number number' : String}
    (h : r.LeadsTo e number) (h' : r.LeadsTo e' number') : e' = e ∧ number' = number :=
  Service.Route.endpoint.inj (h'.symm.trans h)

/-! ## Checks one after the other -/

namespace Checked

variable {α β γ : Type}

/-- To place issues and to change the value can be done in either order. -/
theorem under_map (f : α → β) (x : Checked α) (p : Place) :
    (x.map f).under p = (x.under p).map f := by
  cases x <;> rfl

/-- Two functions are applied to the value one after the other. -/
theorem map_map (f : α → β) (g : β → γ) (x : Checked α) :
    (x.map f).map g = x.map fun a => g (f a) := by
  cases x <;> rfl

/-- A check that has passed adds nothing to the one before it. -/
theorem seq_ok (f : Checked (α → β)) (a : α) : f.seq (ok a) = f.map fun g => g a := by
  cases f <;> simp [seq, map, issues]

/-- It adds nothing to the one behind it either. -/
theorem map_seq_of_ok {x : Checked α} {a : α} (h : x = ok a) (f : α → β → γ) (y : Checked β) :
    (x.map f).seq y = y.map (f a) := by
  rw [h]
  rfl

end Checked

namespace Service

/-! ## Requests that reach their endpoint -/

/-- A request gets to where its command is read: it leads to an endpoint that admits its caller, and
its path has not been served too often. -/
structure Reaches (service : Service) (r : Request) (e : Endpoint) (number : String)
    (actor : Actor) : Prop where
  leads : r.LeadsTo e number
  caller : readActor r.headers = .ok actor
  admits : actor.role ∈ e.roles
  unlimited : service.servedAt (Target.ofText r.target).path < limit

/-- The world that a request leaves behind, and what it is answered. -/
def result (service : Service) (token : Token) (now : Instant) (r : Request) : World × Reply :=
  ((service.serve token now r).1.world, (service.serve token now r).2)

/-- Two requests are answered alike if they leave the same world behind and get the same reply. -/
def AnswersAlike (service : Service) (token : Token) (now : Instant) (r r' : Request) : Prop :=
  service.result token now r = service.result token now r'

/-- What becomes of a world, and of a request, once its command has been read or not. -/
def conclude (world : World) (token : Token) (now : Instant) (actor : Actor) (body : Body) :
    Checked Command → World × Reply
  | .failed first others => (world, .ofIssues body (first :: others))
  | .ok command =>
    ((command.run world token now actor).1, .ofOutcome (command.run world token now actor).2)

end Service

/-- No endpoint is for heads alone. -/
theorem Endpoint.method_ne_head (e : Endpoint) : e.method ≠ "HEAD" := by
  cases e <;> simp [method]

/-- A request has the method of the endpoint that it leads to. -/
theorem Request.LeadsTo.method_eq {r : Request} {e : Endpoint} {number : String}
    (h : r.LeadsTo e number) : r.method = e.method := by
  unfold LeadsTo Service.route at h
  split at h
  · split at h
    · cases h
    · split at h <;> cases h
  · split at h
    · cases h
    · rename_i found
      cases h
      simpa [eq_comm] using List.find?_some found

/-- So it is not for its head alone. -/
theorem Request.LeadsTo.method_ne_head {r : Request} {e : Endpoint} {number : String}
    (h : r.LeadsTo e number) : r.method ≠ "HEAD" :=
  h.method_eq ▸ e.method_ne_head

/-- The response to somebody whose role an endpoint does not admit. -/
def Response.notAuthorized (role : Role) : Response :=
  .detail 403 ("Role '" ++ role.name ++ "' is not authorized for this action")

/-- A body can be read, so far as an endpoint takes one. -/
def Endpoint.CanRead (e : Endpoint) (body : Body) : Prop :=
  e.takesBody = true → (∃ j, body = .value j) ∨ body = .absent

/-- A report breaks down on the values that it repeats. -/
theorem Issue.breakdown?_congr {body body' : Body} {issues : List Issue}
    (h : ∀ issue ∈ issues, issue.repeated? body = issue.repeated? body') :
    breakdown? body issues = breakdown? body' issues := by
  simp only [breakdown?, List.filterMap_congr h]

/-- A body that may be missing and has been read is there or missing. -/
theorem Endpoint.canRead_of_inOptionalBody {α : Type} [Form α] {body : Body} {form? : Option α}
    (h : inOptionalBody α body = .ok form?) : (∃ j, body = .value j) ∨ body = .absent := by
  cases body with
  | absent => exact .inr rfl
  | malformed => cases h
  | unreadable => cases h
  | value j => exact .inl ⟨j, rfl⟩

namespace Service

variable {service : Service} {token : Token} {now : Instant} {r r' : Request} {e e' : Endpoint}
  {number : String} {actor : Actor}

/-- At its endpoint, it is looked at who asks, if there is nothing wrong with the body. -/
theorem serveAt_of_canRead (health : e ≠ .health) (canRead : e.CanRead r.body) (target : Target) :
    service.serveAt token now e number target r =
      match readActor r.headers with
      | .failed first others => (service, .ofIssues r.body
          (first :: others ++ (e.read number target.query r.body).issues))
      | .ok actor =>
        if actor.role ∉ e.roles then (service, .ok (.notAuthorized actor.role))
        else
          match e.read number target.query r.body with
          | .failed first others => (service, .ofIssues r.body (first :: others))
          | .ok command => service.runLimited token now target.path actor command := by
  unfold serveAt
  rw [if_neg health, if_neg ?malformed, if_neg ?unreadable]
  case malformed =>
    intro h
    obtain ⟨takes, hbody⟩ := Bool.and_eq_true_iff.1 h
    rcases canRead takes with ⟨j, hj⟩ | habsent
    · simp [hj] at hbody
    · simp [habsent] at hbody
  case unreadable =>
    intro h
    obtain ⟨takes, hbody⟩ := Bool.and_eq_true_iff.1 h
    rcases canRead takes with ⟨j, hj⟩ | habsent
    · simp [hj] at hbody
    · simp [habsent] at hbody
  rfl

/-- What is wrong with a body is reported whoever asks, and the health check asks for nothing. -/
theorem serveAt_of_not_canRead {body : Body} (h : ¬(e ≠ .health ∧ e.CanRead body)) :
    ∃ reply, ∀ r : Request, r.body = body → ∀ (service : Service) token now target,
      service.serveAt token now e number target r = (service, reply) := by
  by_cases health : e = .health
  · exact ⟨.ofOutcome (.ok .healthy), fun r _ service token now target => by
      rw [serveAt, if_pos health]⟩
  · have takes : e.takesBody = true := by
      apply Decidable.byContradiction
      intro hnot
      exact h ⟨health, fun takes => absurd takes hnot⟩
    cases body with
    | absent => exact absurd ⟨health, fun _ => .inr rfl⟩ h
    | value j => exact absurd ⟨health, fun _ => .inl ⟨j, rfl⟩⟩ h
    | malformed =>
      refine ⟨.ok (.ofIssues [⟨[.field "body"], .jsonInvalid⟩]), ?_⟩
      intro r hbody service token now target
      rw [serveAt, if_neg health, if_pos (by simp [takes, hbody])]
    | unreadable =>
      refine ⟨.ok .unreadable, ?_⟩
      intro r hbody service token now target
      rw [serveAt, if_neg health, if_neg (by simp [hbody]), if_pos (by simp [takes, hbody])]

/-- At its endpoint, a request is answered by its command, if there is nothing wrong with the caller
and the body. -/
theorem serveAt_eq (health : e ≠ .health) (canRead : e.CanRead r.body)
    (caller : readActor r.headers = .ok actor) (admits : actor.role ∈ e.roles) (target : Target) :
    service.serveAt token now e number target r =
      match e.read number target.query r.body with
      | .failed first others => (service, .ofIssues r.body (first :: others))
      | .ok command => service.runLimited token now target.path actor command := by
  rw [serveAt_of_canRead health canRead]
  simp only [caller, admits, not_true, if_false]

/-- A request is served at the endpoint that it leads to. -/
theorem serve_of_leads (service : Service) (token : Token) (now : Instant)
    (leads : r.LeadsTo e number) :
    service.serve token now r =
      service.serveAt token now e number (Target.ofText r.target) r := by
  have hroute : route r.method (Target.ofText r.target).segments = .endpoint e number := leads
  simp only [serve, respond, hroute, Reply.sentTo, if_neg leads.method_ne_head]

/-- A request comes to the same whatever the service, or it asks for a command, which is run unless
its path has been served too often. -/
theorem serve_uniform (r : Request) :
    (∃ reply, ∀ (service : Service) token now,
        service.serve token now r = (service, reply)) ∨
      ∃ actor command, r.Asks actor command ∧ ∀ (service : Service) token now,
        service.serve token now r =
          service.runLimited token now (Target.ofText r.target).path actor command := by
  cases leads : route r.method (Target.ofText r.target).segments with
  | notFound | methodNotAllowed | redirect =>
    exact .inl ⟨_, fun service token now => by simp only [serve, respond, leads]; rfl⟩
  | endpoint e number =>
    have hserve := fun service token now => serve_of_leads service token now leads
    by_cases asked : e ≠ .health ∧ e.CanRead r.body
    · have hasked := fun (service : Service) token now => (hserve service token now).trans
        (serveAt_of_canRead asked.1 asked.2 _)
      cases caller : readActor r.headers with
      | failed first others =>
        exact .inl ⟨_, fun service token now => by simp only [hasked, caller]; rfl⟩
      | ok actor =>
        by_cases admits : actor.role ∈ e.roles
        · cases read : e.read number (Target.ofText r.target).query r.body with
          | failed first others =>
            refine .inl ⟨.ofIssues r.body (first :: others), fun service token now => ?_⟩
            simp only [hasked, caller, admits, not_true, if_false, read]
          | ok command =>
            refine .inr ⟨actor, command, .intro leads caller admits read, ?_⟩
            intro service token now
            simp only [hasked, caller, admits, not_true, if_false, read]
        · refine .inl ⟨.ok (.notAuthorized actor.role), fun service token now => ?_⟩
          simp only [hasked, caller, admits, not_false_eq_true, if_true]
    · obtain ⟨reply, h⟩ := serveAt_of_not_canRead asked
      exact .inl ⟨reply, fun service token now => (hserve service token now).trans (h r rfl ..)⟩

/-- What a request comes to that reaches its endpoint. -/
theorem result_of_reaches (token : Token) (now : Instant)
    (h : service.Reaches r e number actor) (health : e ≠ .health) (canRead : e.CanRead r.body) :
    service.result token now r = conclude service.world token now actor r.body
      (e.read number (Target.ofText r.target).query r.body) := by
  have hlimit : ¬limit ≤ service.servedAt (Target.ofText r.target).path :=
    Nat.not_le_of_lt h.unlimited
  simp only [result, serve_of_leads service token now h.leads,
    serveAt_eq health canRead h.caller h.admits]
  cases e.read number (Target.ofText r.target).query r.body with
  | failed first others => rfl
  | ok command => simp only [conclude, runLimited, hlimit, if_false]

/-- Commands that are read by the same checks are concluded alike if they have the same effect, and
if the bodies agree on the values that a report repeats. -/
theorem conclude_map_congr {γ : Type} {world : World} {x : Checked γ} {f f' : γ → Command}
    {body body' : Body}
    (run : ∀ c, x = .ok c → (f c).run world token now actor = (f' c).run world token now actor)
    (repeats : ∀ issue ∈ x.issues, issue.repeated? body = issue.repeated? body') :
    conclude world token now actor body (x.map f) =
      conclude world token now actor body' (x.map f') := by
  cases x with
  | ok c => simp only [Checked.map, conclude, run c rfl]
  | failed first others =>
    have hbreakdown : Issue.breakdown? body (first :: others) =
        Issue.breakdown? body' (first :: others) := Issue.breakdown?_congr repeats
    simp only [Checked.map, conclude, Reply.ofIssues, hbreakdown]

end Service

/-! ## Services that are seen alike -/

namespace Service

variable {α : Type}

/-- What is seen of a service: what is seen of its world, and how often its paths were served. -/
def view (see : World → α) (service : Service) : α × List (String × Nat) :=
  (see service.world, service.served)

variable {service other : Service} {token : Token} {now : Instant} {see : World → α}

/-- A command is run alike in two services that are seen alike, if it is on their worlds. -/
theorem runLimited_congr {path : String} {actor : Actor} {command : Command}
    (alike : other.view see = service.view see)
    (run : Prod.map see id (command.run other.world token now actor) =
      Prod.map see id (command.run service.world token now actor)) :
    Prod.map (view see) id (other.runLimited token now path actor command) =
      Prod.map (view see) id (service.runLimited token now path actor command) := by
  obtain ⟨-, hserved⟩ := Prod.mk.inj alike
  have hcount : other.servedAt path = service.servedAt path := by
    rw [servedAt, servedAt, hserved]
  unfold runLimited
  rw [hcount]
  split
  · simp only [Prod.map, alike]
  · generalize command.run other.world token now actor = result at run ⊢
    generalize command.run service.world token now actor = result' at run ⊢
    simp only [Prod.map, Prod.mk.injEq, id] at run
    simp only [Prod.map, view, count, forget, hserved, hcount, run]

/-- A request is served alike in two services that are seen alike, if every command that it may ask
for is run alike on their worlds. -/
theorem serve_congr {r : Request} (alike : other.view see = service.view see)
    (run : ∀ actor command, r.Asks actor command →
      Prod.map see id (command.run other.world token now actor) =
        Prod.map see id (command.run service.world token now actor)) :
    Prod.map (view see) id (other.serve token now r) =
      Prod.map (view see) id (service.serve token now r) := by
  rcases serve_uniform r with ⟨reply, h⟩ | ⟨actor, command, asks, h⟩
  · rw [h, h]
    simp only [Prod.map, alike]
  · rw [h, h]
    exact runLimited_congr alike (run actor command asks)

end Service

/-! ## What fields depend on -/

/-- A check finds fault with a value as a whole, and does not miss it. -/
def Checked.IsPlain {α : Type} (x : Checked α) : Prop :=
  ∀ issue ∈ x.issues, issue.place = [] ∧ issue.fault ≠ .missing

namespace Checked

variable {α β : Type}

/-- A check that passed is plain. -/
theorem isPlain_ok (a : α) : (ok a).IsPlain := by
  simp [IsPlain]

/-- So is one that fails on the spot with anything but a missing value. -/
theorem isPlain_fault {f : Fault} (h : f ≠ .missing) : (fault f : Checked α).IsPlain := by
  simp [IsPlain, fault, issues, h]

/-- A plain check stays so when a function is applied to its value. -/
theorem IsPlain.map {x : Checked α} (h : x.IsPlain) (f : α → β) : (x.map f).IsPlain := by
  simpa [IsPlain] using h

/-- Two plain checks in a row are plain. -/
theorem IsPlain.andThen {x : Checked α} {f : α → Checked β} (h : x.IsPlain)
    (hf : ∀ a, (f a).IsPlain) : (x.andThen f).IsPlain := by
  cases x with
  | ok a => exact hf a
  | failed first others => exact h

end Checked

namespace Kind

/-- All values of a kind are checked plainly. -/
def IsPlain {α : Type} (kind : Kind α) : Prop :=
  ∀ j, (kind.read j).IsPlain

/-- To read a whole number is plain. -/
theorem isPlain_readWhole (j : Json) : (readWhole j).IsPlain := by
  unfold readWhole
  split
  · exact Checked.isPlain_ok _
  · exact Checked.isPlain_ok _
  · split
    · exact Checked.isPlain_fault (by decide)
    · split
      · exact Checked.isPlain_fault (by decide)
      · split
        · exact Checked.isPlain_ok _
        · exact Checked.isPlain_fault (by decide)
  · exact Checked.isPlain_fault (by decide)
  · split
    · exact Checked.isPlain_ok _
    · exact Checked.isPlain_fault (by decide)
    · exact Checked.isPlain_fault (by decide)
  · exact Checked.isPlain_fault (by decide)

/-- To read a decimal is plain. -/
theorem isPlain_readDecimal (j : Json) : (readDecimal j).IsPlain := by
  unfold readDecimal
  split
  · exact Checked.isPlain_ok _
  · simp only
    split
    · exact Checked.isPlain_ok _
    · exact Checked.isPlain_fault (by decide)
  · exact Checked.isPlain_ok _
  · exact Checked.isPlain_fault (by decide)
  · split
    · exact Checked.isPlain_ok _
    · exact Checked.isPlain_fault (by decide)
  · exact Checked.isPlain_fault (by decide)

/-- Bounds are checked plainly. -/
theorem isPlain_whole (least greatest : Option Int) : (whole least greatest).IsPlain := by
  intro j
  refine (isPlain_readWhole j).andThen fun n => ?_
  unfold boundWhole
  split
  · exact Checked.isPlain_fault (by decide)
  · split
    · exact Checked.isPlain_fault (by decide)
    · exact Checked.isPlain_ok n

/-- To read a decimal within bounds is plain. -/
theorem isPlain_decimal (least greatest : Option Float) : (decimal least greatest).IsPlain := by
  intro j
  refine (isPlain_readDecimal j).andThen fun x => ?_
  unfold boundDecimal
  split
  · exact Checked.isPlain_fault (by decide)
  · split
    · exact Checked.isPlain_fault (by decide)
    · exact Checked.isPlain_ok x

/-- Where a value or `null` may be given, a value is read like one that has to be there. -/
theorem optional_read_eq_some_iff {α : Type} {kind : Kind α} {j : Json} {a : α} :
    kind.optional.read j = .ok (some a) ↔ j ≠ .null ∧ kind.read j = .ok a := by
  cases j <;> simp [Kind.optional, Checked.map_eq_ok_iff]

/-- A plain kind stays so when its value may be missing. -/
theorem IsPlain.optional {α : Type} {kind : Kind α} (h : kind.IsPlain) :
    kind.optional.IsPlain := by
  intro j
  unfold Kind.optional
  simp only
  split
  · exact Checked.isPlain_ok none
  · exact (h j).map some

end Kind

namespace Field

variable {α : Type} {o o' : Json.Object} {field : Field α}

/-- What a field gives depends on its member alone. -/
theorem read_congr (h : o.get? field.name = o'.get? field.name) : field.read o = field.read o' := by
  simp only [read, h]

/-- A field that may be missing and is. -/
theorem read_optional_of_none {name : String} {kind : Kind α} (h : o.get? name = none) :
    (optional name kind).read o = .ok none := by
  simp [read, optional, h, Checked.under]

/-- A field that may be missing and is there reads like one that has to be there. -/
theorem read_optional_of_some {name : String} {kind : Kind α} {j : Json} (h : o.get? name = some j)
    (h' : o'.get? name = some j) (ne_null : j ≠ .null) :
    (optional name kind).read o = ((required name kind).read o').map some := by
  have hread : kind.optional.read j = (kind.read j).map some := by
    cases j <;> first | rfl | exact absurd rfl ne_null
  simp only [read, optional, required, h, h', hread]
  cases kind.read j <;> rfl

/-- A field that is there gives what its member is read as. -/
theorem read_eq_ok_iff {j : Json} {a : α} (h : o.get? field.name = some j) :
    field.read o = .ok a ↔ field.kind.read j = .ok a := by
  rw [read, Checked.under_eq_ok_iff, h]

/-- A field for a name that is given one. -/
theorem read_optional_choice [Named α] {name text : String} {a : α}
    (h : o.get? name = some (.str text)) (named : Named.ofName? text = some a) :
    (optional name (.choice α)).read o = .ok (some a) := by
  have hread : (optional name (.choice α)).read o =
      ((Kind.readName (.str text)).map some).under (.field name) := by
    simp only [Field.read, Field.optional, h]
    rfl
  rw [hread, Kind.readName, named]
  rfl

/-- Where a field is not missed, fault is found with its member. -/
theorem place_of_issue (plain : field.kind.IsPlain)
    (present : (o.get? field.name).isSome = true ∨ field.absent.isSome = true) {issue : Issue}
    (h : issue ∈ (field.read o).issues) :
    issue.place = [.field field.name] ∧ issue.fault ≠ .missing := by
  rw [read, Checked.issues_under, List.mem_map] at h
  obtain ⟨inner, hinner, rfl⟩ := h
  obtain ⟨hplace, hfault⟩ : inner.place = [] ∧ inner.fault ≠ .missing := by
    split at hinner
    · exact plain _ inner hinner
    · cases hinner
    · rename_i hmember habsent
      simp [hmember, habsent] at present
  exact ⟨by rw [hplace], hfault⟩

end Field

/-- Two objects are reported alike by checks that find fault with members on which they agree. -/
theorem Checked.repeats_under_body {α : Type} {x : Checked α} {o o' : Json.Object}
    (h : ∀ issue ∈ x.issues, ∃ name : String, issue.place = [.field name] ∧
      issue.fault ≠ .missing ∧ o.get? name = o'.get? name) :
    ∀ issue ∈ (x.under (.field "body")).issues,
      issue.repeated? (.value (.obj o)) = issue.repeated? (.value (.obj o')) := by
  intro issue hissue
  rw [issues_under, List.mem_map] at hissue
  obtain ⟨inner, hinner, rfl⟩ := hissue
  obtain ⟨name, hplace, hfault, hmember⟩ := h inner hinner
  simp [Issue.repeated?, hplace, hfault, Json.at?, hmember]

end WastePickup
