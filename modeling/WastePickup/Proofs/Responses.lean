import WastePickup.Api.Service

/-!
# Responses can be written

A number that is not finite cannot be written in JSON, nor half of a pair of code units in UTF-8.
The tables may hold such numbers, since a price has no upper bound and an amount is computed from
it, but no response does: an answer shows nothing in place of a number that is not finite, and all
its texts are strings. So a request that has been carried out never breaks down over its response.

* `Json.isWritable_arr`, `Json.isWritable_obj`: what a value has to hold to be written.
* `Answer.isWritable_toJson`, `Issue.isWritable_toJson`: answers and issues can be written.
* `Service.isWritable_serve`: so can every response.
-/

namespace WastePickup

namespace Json

/-- A value can be written in JSON and in UTF-8. -/
def IsWritable (j : Json) : Prop :=
  j.hasInfinite = false ∧ j.hasBroken = false

/-! ## Values -/

/-- A value that is missing can be written. -/
@[simp] theorem isWritable_null : null.IsWritable := ⟨rfl, rfl⟩

/-- A truth value can be written. -/
@[simp] theorem isWritable_bool (b : Bool) : (bool b).IsWritable := ⟨rfl, rfl⟩

/-- A whole number of any size can be written. -/
@[simp] theorem isWritable_int (n : Int) : (int n).IsWritable := ⟨rfl, rfl⟩

/-- A string can be written. -/
@[simp] theorem isWritable_str (s : String) : (str s).IsWritable := ⟨rfl, rfl⟩

/-- A number of an answer can be written. -/
@[simp] theorem isWritable_ofFinite (x : Float) : (ofFinite x).IsWritable := by
  unfold ofFinite
  by_cases finite : x.isFinite = true
  · rw [if_pos finite]
    exact ⟨by simp [hasInfinite, finite], rfl⟩
  · rw [if_neg finite]
    exact isWritable_null

/-- So can one that may be missing. -/
@[simp] theorem isWritable_ofFinite? (x : Option Float) : (ofFinite? x).IsWritable := by
  cases x with
  | none => exact isWritable_null
  | some x => exact isWritable_ofFinite x

/-- A text that may be missing can be written. -/
@[simp] theorem isWritable_ofText? (text : Option String) : (ofText? text).IsWritable := by
  cases text with
  | none => exact isWritable_null
  | some s => exact isWritable_str s

/-- A whole number that may be missing can be written. -/
@[simp] theorem isWritable_ofInt? (n : Option Int) : (ofInt? n).IsWritable := by
  cases n with
  | none => exact isWritable_null
  | some n => exact isWritable_int n

/-- A list can be written if its items can. -/
theorem isWritable_arr {items : List Json} (h : ∀ item ∈ items, item.IsWritable) :
    (arr items).IsWritable := by
  induction items with
  | nil => exact ⟨rfl, rfl⟩
  | cons item rest ih =>
    obtain ⟨hitem, hitem'⟩ := h item List.mem_cons_self
    obtain ⟨hrest, hrest'⟩ := ih fun other hother => h other (List.mem_cons_of_mem _ hother)
    rw [hasInfinite] at hrest
    rw [hasBroken] at hrest'
    constructor
    · rw [hasInfinite, itemsInfinite, hitem, hrest, Bool.or_false]
    · rw [hasBroken, itemsBroken, hitem', hrest', Bool.or_false]

/-- A list of values that are put down one by one can be written if each of them can. -/
theorem isWritable_arr_map {α : Type} {f : α → Json} {xs : List α}
    (h : ∀ x ∈ xs, (f x).IsWritable) : (arr (xs.map f)).IsWritable := by
  apply isWritable_arr
  rw [List.forall_mem_map]
  exact h

/-- An object can be written if its names are strings and its members can be written. -/
theorem isWritable_obj {members : Object}
    (h : ∀ member ∈ members, member.1.isBroken = false ∧ member.2.IsWritable) :
    (obj members).IsWritable := by
  induction members with
  | nil => exact ⟨rfl, rfl⟩
  | cons member rest ih =>
    obtain ⟨name, value⟩ := member
    obtain ⟨hname, hvalue, hvalue'⟩ := h (name, value) List.mem_cons_self
    obtain ⟨hrest, hrest'⟩ := ih fun other hother => h other (List.mem_cons_of_mem _ hother)
    rw [hasInfinite] at hrest
    rw [hasBroken] at hrest'
    constructor
    · rw [hasInfinite, membersInfinite, hvalue, hrest, Bool.or_false]
    · simp only [hasBroken, membersBroken, hvalue', hrest', Bool.or_false]
      exact hname

end Json

/-! ## Answers and issues -/

/-- A booking can be shown. -/
theorem BookingView.isWritable_toJson (v : BookingView) : v.toJson.IsWritable := by
  apply Json.isWritable_obj
  have hactions : (Json.arr (v.allowedActions.map fun a => .str a.name)).IsWritable :=
    Json.isWritable_arr_map fun a _ => Json.isWritable_str a.name
  simp [Json.Text.isBroken, hactions]

/-- A list of bookings can be shown. -/
theorem BookingView.isWritable_map (views : List BookingView) :
    (Json.arr (views.map toJson)).IsWritable :=
  Json.isWritable_arr_map fun v _ => v.isWritable_toJson

namespace Answer

/-- A status change can be shown. -/
theorem isWritable_ofEntry (e : HistoryEntry) : (ofEntry e).IsWritable := by
  apply Json.isWritable_obj
  simp [Json.Text.isBroken]

/-- A price band can be shown. -/
theorem isWritable_ofPricing (row : Pricing) : (ofPricing row).IsWritable := by
  apply Json.isWritable_obj
  simp [Json.Text.isBroken]

/-- The counters can be shown. -/
theorem isWritable_ofMetrics (m : Metrics) : (ofMetrics m).IsWritable := by
  apply Json.isWritable_obj
  have hcounts : (Json.obj ((Named.all : List Status).map fun s =>
      (s.name, .int (m.byStatus s)))).IsWritable := by
    apply Json.isWritable_obj
    intro member hmember
    obtain ⟨s, -, rfl⟩ := List.mem_map.1 hmember
    exact ⟨rfl, Json.isWritable_int _⟩
  simp [Json.Text.isBroken, hcounts]

/-- Every answer can be written. -/
theorem isWritable_toJson (answer : Answer) : answer.toJson.IsWritable := by
  cases answer with
  | booking view => exact view.isWritable_toJson
  | bookings views => exact BookingView.isWritable_map views
  | created views => exact BookingView.isWritable_map views
  | page views total number size =>
    apply Json.isWritable_obj
    simp [Json.Text.isBroken, BookingView.isWritable_map]
  | history entries => exact Json.isWritable_arr_map fun e _ => isWritable_ofEntry e
  | driver d =>
    apply Json.isWritable_obj
    simp [Json.Text.isBroken]
  | pricing row => exact isWritable_ofPricing row
  | priceList rows => exact Json.isWritable_arr_map fun row _ => isWritable_ofPricing row
  | metrics m => exact isWritable_ofMetrics m
  | healthy =>
    apply Json.isWritable_obj
    simp [Json.Text.isBroken]

end Answer

/-- A step on the way to a value can be written. -/
theorem Issue.isWritable_step (place : Place) :
    (match place with
      | .field name => Json.str name
      | .index n => .int n).IsWritable := by
  cases place with
  | field name => exact Json.isWritable_str name
  | index n => exact Json.isWritable_int n

/-- Every issue can be written. -/
theorem Issue.isWritable_toJson (issue : Issue) : issue.toJson.IsWritable := by
  apply Json.isWritable_obj
  rw [List.forall_mem_cons, List.forall_mem_cons]
  refine ⟨⟨rfl, Json.isWritable_arr_map fun place _ => isWritable_step place⟩,
    ⟨rfl, Json.isWritable_str _⟩, ?_⟩
  intro member hmember
  cases hmessage : issue.fault.message? with
  | none =>
    rw [hmessage] at hmember
    cases hmember
  | some text =>
    rw [hmessage] at hmember
    rw [List.mem_singleton.1 hmember]
    exact ⟨rfl, Json.isWritable_str text⟩

/-! ## Responses -/

/-- A response has no body, or one that can be written. -/
def Response.IsWritable (r : Response) : Prop :=
  ∀ body ∈ r.body, body.IsWritable

namespace Response

/-- A response without a body can be written. -/
theorem isWritable_headOnly (r : Response) : r.headOnly.IsWritable := by
  intro body hbody
  cases hbody

/-- A line of explanation can be written. -/
theorem isWritable_detail (code : Nat) (text : String) : (detail code text).IsWritable := by
  rintro body ⟨⟩
  apply Json.isWritable_obj
  simp [Json.Text.isBroken]

/-- A report of issues can be written. -/
theorem isWritable_ofIssues (issues : List Issue) : (ofIssues issues).IsWritable := by
  rintro body ⟨⟩
  exact Json.isWritable_arr_map fun issue _ => issue.isWritable_toJson

/-- That a path has been served too often can be written. -/
theorem isWritable_tooMany : tooMany.IsWritable := by
  rintro body ⟨⟩
  apply Json.isWritable_obj
  simp [Json.Text.isBroken]

end Response

/-- A reply is no response, or one that can be written. -/
def Reply.IsWritable (reply : Reply) : Prop :=
  ∀ r, reply = .ok r → r.IsWritable

namespace Reply

/-- A response that can be written is a reply that can. -/
theorem isWritable_ok {r : Response} (h : r.IsWritable) : IsWritable (.ok r) := by
  rintro _ ⟨⟩
  exact h

/-- The head of a reply can be written if the reply can. -/
theorem IsWritable.sentTo {reply : Reply} (h : reply.IsWritable) (method : String) :
    (reply.sentTo method).IsWritable := by
  unfold Reply.sentTo
  split
  · cases reply with
    | error breakdown => rintro _ ⟨⟩
    | ok r => exact isWritable_ok r.isWritable_headOnly
  · exact h

/-- The reply to a request with issues can be written. -/
theorem isWritable_ofIssues (body : Body) (issues : List Issue) :
    (ofIssues body issues).IsWritable := by
  unfold ofIssues
  split
  · rintro _ ⟨⟩
  · exact isWritable_ok (Response.isWritable_ofIssues issues)

/-- The reply to a request that ran can be written. -/
theorem isWritable_ofOutcome (outcome : Except Refusal Answer) :
    (ofOutcome outcome).IsWritable := by
  cases outcome with
  | ok answer =>
    refine isWritable_ok ?_
    rintro body ⟨⟩
    exact answer.isWritable_toJson
  | error refusal =>
    unfold ofOutcome
    dsimp only
    split
    · rintro _ ⟨⟩
    · exact isWritable_ok (Response.isWritable_detail _ _)

end Reply

namespace Service

/-- What is replied in either of two cases can be written if it can be in both. -/
theorem isWritable_ite {c : Prop} [Decidable c] {x y : Service × Reply} (hx : x.2.IsWritable)
    (hy : y.2.IsWritable) : (if c then x else y).2.IsWritable := by
  split
  · exact hx
  · exact hy

/-- What a command is answered can be written, and so can that its path has been served too
often. -/
theorem isWritable_runLimited (service : Service) (token : Token) (now : Instant) (path : String)
    (actor : Actor) (command : Command) :
    (service.runLimited token now path actor command).2.IsWritable :=
  isWritable_ite (Reply.isWritable_ok Response.isWritable_tooMany) (Reply.isWritable_ofOutcome _)

/-- What an endpoint answers can be written. -/
theorem isWritable_serveAt (service : Service) (token : Token) (now : Instant) (endpoint : Endpoint)
    (number : String) (target : Target) (request : Request) :
    (service.serveAt token now endpoint number target request).2.IsWritable := by
  unfold serveAt
  refine isWritable_ite ?health (isWritable_ite ?malformed (isWritable_ite ?unreadable ?reads))
  case health => exact Reply.isWritable_ofOutcome (.ok .healthy)
  case malformed => exact Reply.isWritable_ok (Response.isWritable_ofIssues _)
  case unreadable => exact Reply.isWritable_ok (Response.isWritable_detail _ _)
  case reads =>
    cases readActor request.headers with
    | failed first others => exact Reply.isWritable_ofIssues _ _
    | ok actor =>
      refine isWritable_ite ?refused ?admitted
      case refused => exact Reply.isWritable_ok (Response.isWritable_detail _ _)
      case admitted =>
        cases endpoint.read number target.query request.body with
        | failed first others => exact Reply.isWritable_ofIssues _ _
        | ok command => exact service.isWritable_runLimited token now target.path actor command

/-- Every response can be written, whatever the tables hold. -/
theorem isWritable_serve (service : Service) (token : Token) (now : Instant) (request : Request) :
    (service.serve token now request).2.IsWritable := by
  have hrespond : (service.respond token now request).2.IsWritable := by
    unfold respond
    dsimp only
    split
    · exact Reply.isWritable_ok (Response.isWritable_detail _ _)
    · exact Reply.isWritable_ok (Response.isWritable_detail _ _)
    · exact Reply.isWritable_ok (Response.isWritable_headOnly .redirect)
    · exact service.isWritable_serveAt _ _ _ _ _ _
  exact hrespond.sentTo request.method

end Service

end WastePickup
