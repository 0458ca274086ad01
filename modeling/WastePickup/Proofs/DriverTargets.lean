import WastePickup.Number.NaN
import WastePickup.Proofs.Alike
import WastePickup.Proofs.Change

/-!
# A driver's form and the endpoints for single actions

A driver may name the status that a booking should have, or only a weight, instead of the action.
The form is turned into the action by itself, so that it comes to the same as the endpoint of the
action. For a start and a cancellation this is all there is to say.

A collection is read by two forms, each with bounds of its own for the weight. The endpoint asks for
ten grams at least, the form that names a status only for no less than nothing. A weight between the
two is taken by the form and turned down at the endpoint (`light_pickup_by_form`). All other weights
are taken by both or by none, and what is taken comes to the same.

* `Kind.read_decimal_eq`: the two bounds agree on all weights but those in between.
* `driver_form_agrees`: the form and the endpoint of its action.
-/

namespace WastePickup

/-! ## Weights -/

/-- What is at least a hundredth is no less than nothing. -/
theorem Number.zero_le_of_hundredth_le {x : Float} (h : 0.01 ≤ x) : 0.0 ≤ x := by
  have hle : ((0.01 : Float).toModel.unpack.compare x.toModel.unpack).any (·.isLE) = true :=
    of_decide_eq_true h
  obtain ⟨m, e, hm, hundredth⟩ : ∃ m e hm,
      (0.01 : Float).toModel.unpack = .finite .positive m e hm := ⟨_, _, _, rfl⟩
  rw [hundredth] at hle
  -- What is negative, or no number, is not above anything positive.
  have hzero : ((0.0 : Float).toModel.unpack.compare x.toModel.unpack).any (·.isLE) = true := by
    rw [unpack_zero]
    cases hx : x.toModel.unpack with
    | notANumber => rw [hx] at hle; cases hle
    | infinity sign =>
      cases sign with
      | positive => rfl
      | negative => rw [hx] at hle; cases hle
    | zero sign => rfl
    | finite sign m' e' hm' =>
      cases sign with
      | positive => rfl
      | negative => rw [hx] at hle; cases hle
  exact decide_eq_true hzero

/-- A weight that is no less than nothing and less than ten grams. -/
def Json.IsLight (weight : Json) : Prop :=
  ∃ x, Kind.readDecimal weight = .ok x ∧ 0.0 ≤ x ∧ ¬0.01 ≤ x

/-- The bounds of the two forms agree on all weights but the light ones. -/
theorem Kind.read_decimal_eq {weight : Json} (h : ¬weight.IsLight) :
    (decimal (some 0.0) none).read weight = (decimal (some 0.01) none).read weight := by
  simp only [decimal]
  cases hread : readDecimal weight with
  | failed first others => rfl
  | ok x =>
    by_cases heavy : 0.01 ≤ x
    · have hzero : 0.0 ≤ x := Number.zero_le_of_hundredth_le heavy
      simp [Checked.andThen, boundDecimal, heavy, hzero]
    · have hzero : ¬0.0 ≤ x := fun hzero => h ⟨x, hread, hzero, heavy⟩
      simp [Checked.andThen, boundDecimal, heavy, hzero]

/-! ## What a form stands for -/

/-- The members of a driver's form that an object has. -/
structure DriverForm.Members (o : Json.Object) (status category weight amount : Option Json) :
    Prop where
  status : o.get? "status" = status
  category : o.get? "waste_category_id" = category
  weight : o.get? "actual_weight_kg" = weight
  amount : o.get? "final_amount_lkr" = amount

namespace DriverForm

/-- The endpoint of a single action that a driver's form stands for, unless it is a collection, and
the bodies for it that say the same as the form. -/
inductive StandsFor : Json.Object → Endpoint → Body → Prop where
  /-- Nothing is asked of the body of a start. -/
  | start {o : Json.Object} {body : Body}
      (form : Members o (some (.str "IN_PROGRESS")) none none none) : StandsFor o .start body
  /-- A form gives no reason. -/
  | cancel {o : Json.Object} {body : Body} {given : Option CancelForm}
      (form : Members o (some (.str "CANCELLED")) none none none)
      (reads : Endpoint.inOptionalBody CancelForm body = .ok given)
      (silent : given.bind CancelForm.reason = none) : StandsFor o .cancelAsDriver body

/-- A form stands for a collection: it names the status, or none, and has the weight and the
category of another object that is made for collections. -/
structure Collects (o o' : Json.Object) (weight : Json) (category : Option Json) : Prop where
  form : Members o none category (some weight) none ∨
    Members o (some (.str "COLLECTED")) category (some weight) none
  sameWeight : o'.get? "weight_kg" = some weight
  sameCategory : o'.get? "waste_category_id" = category

end DriverForm

/-! ## What is accepted -/

/-- A request is accepted if it gets a response that is no failure. -/
def Reply.IsAccepted : Reply → Prop
  | .ok response => response.code < 400
  | .error _ => False

instance : (reply : Reply) → Decidable reply.IsAccepted
  | .ok response => inferInstanceAs (Decidable (response.code < 400))
  | .error _ => isFalse id

/-- What is accepted has been read and answered. -/
theorem Service.exists_of_isAccepted {world : World} {token : Token} {now : Instant} {actor : Actor}
    {body : Body} {x : Checked Command}
    (h : (conclude world token now actor body x).2.IsAccepted) :
    ∃ command answer, x = .ok command ∧ (command.run world token now actor).2 = .ok answer := by
  cases x with
  | failed first others =>
    simp only [conclude, Reply.ofIssues] at h
    split at h
    · exact h.elim
    · exact absurd h (by simp [Reply.IsAccepted, Response.ofIssues])
  | ok command =>
    cases hrun : (command.run world token now actor).2 with
    | ok answer => exact ⟨command, answer, rfl, hrun⟩
    | error refusal =>
      simp only [conclude, hrun, Reply.ofOutcome] at h
      split at h
      · exact h.elim
      · exact absurd h (Nat.not_lt.2 refusal.le_code)

/-! ## Reading the forms -/

namespace DriverForm

variable {o o' : Json.Object} {status : Option StoredStatus} {named category weight : Option Json}

/-- The form that a body gives, without an amount and once its status has been read. -/
theorem inBody_eq (form : Members o named category weight none)
    (read : statusField.read o = .ok status) :
    Endpoint.inBody DriverForm (.value (.obj o)) =
      ((((wasteCategoryField.read o).map (mk status)).seq (weightField.read o)).map fun f =>
        f none).under (.field "body") := by
  have hamount : amountField.read o = .ok none := Field.read_optional_of_none form.amount
  change Checked.under _ ((((statusField.read o).map mk).seq (wasteCategoryField.read o)).seq
    (weightField.read o) |>.seq (amountField.read o)) = _
  rw [Checked.map_seq_of_ok read, hamount, Checked.seq_ok]

/-- A form that names a status alone. -/
theorem inBody_of_status (form : Members o named none none none)
    (read : statusField.read o = .ok status) :
    Endpoint.inBody DriverForm (.value (.obj o)) = .ok ⟨status, none, none, none⟩ := by
  have hcategory : wasteCategoryField.read o = .ok none :=
    Field.read_optional_of_none form.category
  have hweight : weightField.read o = .ok none := Field.read_optional_of_none form.weight
  rw [inBody_eq form read, hcategory, hweight]
  rfl

end DriverForm

namespace Endpoint

variable {number : String} {booking : Int} {query : Json.Object} {body : Body}

/-- The form of a driver is read from the body alone, once the booking is. -/
theorem read_updateAsDriver (reads : inPath bookingField number = .ok booking) :
    updateAsDriver.read number query body =
      (inBody DriverForm body).map (Command.updateAsDriver booking) :=
  Checked.map_seq_of_ok reads Command.updateAsDriver (inBody DriverForm body)

/-- The form of a collection is read from the body alone, once the booking is. -/
theorem read_collect (reads : inPath bookingField number = .ok booking) :
    collect.read number query body = (inBody CollectForm body).map (Command.collect booking) :=
  Checked.map_seq_of_ok reads Command.collect (inBody CollectForm body)

/-- The form of a driver's cancellation may be missing. -/
theorem read_cancelAsDriver (reads : inPath bookingField number = .ok booking) :
    cancelAsDriver.read number query body =
      (inOptionalBody CancelForm body).map (Command.cancelAsDriver booking) :=
  Checked.map_seq_of_ok reads Command.cancelAsDriver (inOptionalBody CancelForm body)

/-- A start needs no more than the booking. -/
theorem read_start (reads : inPath bookingField number = .ok booking) :
    start.read number query body = .ok (.start booking) := by
  change (inPath bookingField number).map Command.start = _
  rw [reads]
  rfl

end Endpoint

/-! ## Collections -/

/-- What is read for a collection: a weight within the bounds of the endpoint, and a category. -/
structure CollectForm.Reads (o : Json.Object) (weight : Json) (form : CollectForm) : Prop where
  weight : (Kind.decimal (some 0.01) none).read weight = .ok form.weight
  category : wasteCategoryField.read o = .ok form.wasteCategory

section Collections

variable {o o' : Json.Object} {weight : Json} {category : Option Json}

/-- The endpoint reads just that. -/
theorem CollectForm.inBody_eq_ok_iff (given : o'.get? "weight_kg" = some weight)
    {form : CollectForm} :
    Endpoint.inBody CollectForm (.value (.obj o')) = .ok form ↔ form.Reads o' weight := by
  change Checked.under _ (((weightField.read o').map mk).seq (wasteCategoryField.read o')) = _ ↔ _
  rw [Checked.under_eq_ok_iff, Checked.map_seq_eq_ok_iff]
  have hweight : ∀ x, weightField.read o' = .ok x ↔
      (Kind.decimal (some 0.01) none).read weight = .ok x := fun x => Field.read_eq_ok_iff given
  constructor
  · rintro ⟨x, c, hx, hc, rfl⟩
    exact ⟨(hweight x).1 hx, hc⟩
  · rintro ⟨hx, hc⟩
    exact ⟨form.weight, form.wasteCategory, (hweight _).2 hx, hc, rfl⟩

/-- The form with a status reads the same, if the weight is not light. -/
theorem DriverForm.inBody_eq_ok_iff {named : Option Json} {status : Option StoredStatus}
    (members : Members o named category (some weight) none)
    (read : statusField.read o = .ok status) (sameCategory : o'.get? "waste_category_id" = category)
    (heavy : ¬weight.IsLight) {x : Float} {c : Option Int} :
    Endpoint.inBody DriverForm (.value (.obj o)) = .ok ⟨status, c, some x, none⟩ ↔
      CollectForm.Reads o' weight ⟨x, c⟩ := by
  have hcategory : wasteCategoryField.read o = CollectForm.wasteCategoryField.read o' :=
    Field.read_congr (members.category.trans sameCategory.symm)
  have hweight : weightField.read o = .ok (some x) ↔
      (Kind.decimal (some 0.01) none).read weight = .ok x := by
    have hgiven : o.get? weightField.name = some weight := members.weight
    rw [Field.read_eq_ok_iff hgiven, ← Kind.read_decimal_eq heavy]
    refine Kind.optional_read_eq_some_iff.trans ⟨fun h => h.2, fun h => ⟨?_, h⟩⟩
    rintro rfl
    cases h
  rw [inBody_eq members read, Checked.under_eq_ok_iff, Checked.map_eq_ok_iff, hcategory]
  constructor
  · rintro ⟨f, hf, hform⟩
    obtain ⟨c', w, hc, hw, rfl⟩ := Checked.map_seq_eq_ok_iff.1 hf
    cases hform
    exact ⟨hweight.1 hw, hc⟩
  · rintro ⟨hx, hc⟩
    exact ⟨_, Checked.map_seq_eq_ok_iff.2 ⟨c, some x, hc, hweight.2 hx, rfl⟩, rfl⟩

/-- What is read without an amount has none, and has the status that was read. -/
theorem DriverForm.eq_of_inBody {named weight? : Option Json} {status : Option StoredStatus}
    (members : Members o named category weight? none) (read : statusField.read o = .ok status)
    {form : DriverForm} (h : Endpoint.inBody DriverForm (.value (.obj o)) = .ok form) :
    form = ⟨status, form.wasteCategory, form.weight, none⟩ := by
  rw [inBody_eq members read, Checked.under_eq_ok_iff, Checked.map_eq_ok_iff] at h
  obtain ⟨f, hf, rfl⟩ := h
  obtain ⟨c, w, -, -, rfl⟩ := Checked.map_seq_eq_ok_iff.1 hf
  rfl

/-- A form that stands for a collection and is answered has a weight. -/
theorem DriverForm.weight_of_answered {form : DriverForm} {w : World} {token : Token}
    {now : Instant} {actor : Actor} {booking : Int} {answer : Answer}
    (status : form.status = none ∨ form.status = some .collected)
    (h : ((Command.updateAsDriver booking form).run w token now actor).2 = .ok answer) :
    ∃ x, form.weight = some x := by
  cases hweight : form.weight with
  | some x => exact ⟨x, rfl⟩
  | none =>
    rcases status with hs | hs
    all_goals
      simp [Command.run, toAction, requireCurrentName, hs, hweight, StoredStatus.isLegacy, bind,
        Except.bind] at h

/-- A collection is accepted by the form exactly if it is accepted at the endpoint, and then they
are concluded alike. -/
theorem Service.conclude_collect {world : World} {token : Token} {now : Instant} {actor : Actor}
    {number : String} {booking : Int} {query query' : Json.Object} {named : Option Json}
    {status : Option StoredStatus}
    (reads : Endpoint.inPath Endpoint.bookingField number = .ok booking)
    (members : DriverForm.Members o named category (some weight) none)
    (read : DriverForm.statusField.read o = .ok status)
    (collects : status = none ∨ status = some .collected)
    (sameWeight : o'.get? "weight_kg" = some weight)
    (sameCategory : o'.get? "waste_category_id" = category) (heavy : ¬weight.IsLight) :
    let byForm := conclude world token now actor (.value (.obj o))
      (Endpoint.updateAsDriver.read number query (.value (.obj o)))
    let atEndpoint := conclude world token now actor (.value (.obj o'))
      (Endpoint.collect.read number query' (.value (.obj o')))
    (byForm.2.IsAccepted ↔ atEndpoint.2.IsAccepted) ∧
      (byForm.2.IsAccepted → byForm = atEndpoint) := by
  intro byForm atEndpoint
  have hsame : ∀ form : CollectForm, form.Reads o' weight → byForm = atEndpoint := by
    rintro ⟨x, c⟩ hreads
    have hform := (DriverForm.inBody_eq_ok_iff members read sameCategory heavy).2 hreads
    have hother := (CollectForm.inBody_eq_ok_iff sameWeight).2 hreads
    have hrun :
        (Command.updateAsDriver booking ⟨status, c, some x, none⟩).run world token now actor =
          (Command.collect booking ⟨x, c⟩).run world token now actor := by
      rcases collects with rfl | rfl
      · rfl
      · rfl
    simp only [byForm, atEndpoint, Endpoint.read_updateAsDriver reads, Endpoint.read_collect reads,
      hform, hother, Checked.map, conclude, hrun]
  have hbyForm : byForm.2.IsAccepted → ∃ form : CollectForm, form.Reads o' weight := by
    intro accepted
    obtain ⟨command, answer, hread, hrun⟩ := exists_of_isAccepted accepted
    rw [Endpoint.read_updateAsDriver reads, Checked.map_eq_ok_iff] at hread
    obtain ⟨form, hform, rfl⟩ := hread
    have heq := DriverForm.eq_of_inBody members read hform
    obtain ⟨x, hweight⟩ := DriverForm.weight_of_answered (by rw [heq]; exact collects) hrun
    rw [heq, hweight] at hform
    exact ⟨⟨x, form.wasteCategory⟩,
      (DriverForm.inBody_eq_ok_iff members read sameCategory heavy).1 hform⟩
  have hatEndpoint : atEndpoint.2.IsAccepted → ∃ form : CollectForm, form.Reads o' weight := by
    intro accepted
    obtain ⟨command, answer, hread, -⟩ := exists_of_isAccepted accepted
    rw [Endpoint.read_collect reads, Checked.map_eq_ok_iff] at hread
    obtain ⟨form, hform, -⟩ := hread
    exact ⟨form, (CollectForm.inBody_eq_ok_iff sameWeight).1 hform⟩
  refine ⟨⟨fun accepted => ?_, fun accepted => ?_⟩, fun accepted => ?_⟩
  · obtain ⟨form, hreads⟩ := hbyForm accepted
    exact hsame form hreads ▸ accepted
  · obtain ⟨form, hreads⟩ := hatEndpoint accepted
    exact hsame form hreads ▸ accepted
  · obtain ⟨form, hreads⟩ := hbyForm accepted
    exact hsame form hreads

end Collections

/-! ## All forms -/

/-- A driver's form that names a start or a cancellation and the endpoint of that action are
answered alike, and leave the same world behind. A form that stands for a collection is accepted
exactly if the endpoint accepts the collection, unless the weight is light; what is accepted is
answered alike and leaves the same world behind. -/
theorem driver_form_agrees {service : Service} (token : Token) (now : Instant)
    (form other : Request) {o : Json.Object} {number : String} {booking : Int} {actor : Actor}
    (reads : Endpoint.inPath Endpoint.bookingField number = .ok booking)
    (body : form.body = .value (.obj o))
    (reaches : service.Reaches form .updateAsDriver number actor) :
    (∀ e, DriverForm.StandsFor o e other.body → service.Reaches other e number actor →
        service.AnswersAlike token now form other) ∧
      ∀ o' weight category, other.body = .value (.obj o') →
        DriverForm.Collects o o' weight category → ¬weight.IsLight →
          service.Reaches other .collect number actor →
            ((service.result token now form).2.IsAccepted ↔
                (service.result token now other).2.IsAccepted) ∧
              ((service.result token now form).2.IsAccepted →
                service.AnswersAlike token now form other) := by
  have hform := Service.result_of_reaches token now reaches (by simp) fun _ => .inl ⟨_, body⟩
  rw [body] at hform
  constructor
  · intro e stands reaches'
    unfold Service.AnswersAlike
    generalize hother : other.body = body' at stands
    cases stands with
    | start members =>
      have hread := DriverForm.inBody_of_status members
        (Field.read_optional_choice members.status (a := StoredStatus.inProgress) (by decide))
      rw [hform, Service.result_of_reaches token now reaches' (by simp)
        (by simp [Endpoint.CanRead, Endpoint.takesBody]), Endpoint.read_updateAsDriver reads, hread,
        Endpoint.read_start reads]
      rfl
    | cancel members readsBody silent =>
      have hread := DriverForm.inBody_of_status members
        (Field.read_optional_choice members.status (a := .cancelled) (by decide))
      have canRead : Endpoint.cancelAsDriver.CanRead other.body := by
        intro _
        rw [hother]
        exact Endpoint.canRead_of_inOptionalBody readsBody
      rw [hform, Service.result_of_reaches token now reaches' (by simp) canRead, hother,
        Endpoint.read_updateAsDriver reads, hread, Endpoint.read_cancelAsDriver reads, readsBody]
      simp only [Checked.map, Service.conclude, Command.run, silent]
      rfl
  · intro o' weight category hother collects heavy reaches'
    have hresult := Service.result_of_reaches token now reaches' (by simp) fun _ => .inl ⟨_, hother⟩
    rw [hother] at hresult
    unfold Service.AnswersAlike
    rw [hform, hresult]
    rcases collects.form with members | members
    · exact Service.conclude_collect reads members (Field.read_optional_of_none members.status)
        (.inl rfl) collects.sameWeight collects.sameCategory heavy
    · exact Service.conclude_collect reads members
        (Field.read_optional_choice members.status (by decide)) (.inr rfl) collects.sameWeight
        collects.sameCategory heavy

/-- A driver collects two and a half kilograms, by a form or at the endpoint. -/
theorem pickup_by_form_or_endpoint :
    let store := Store.single ⟨"IN_PROGRESS", some 7, 1, none, none, none, none⟩
    let service : Service :=
      ⟨⟨{ store with pricing := ⟨[⟨1, 1, 40.0, 60.0, true, ⟨0⟩⟩]⟩ }, .empty⟩, []⟩
    let headers := [("X-Actor-Id", "7"), ("X-Actor-Role", "DRIVER")]
    let form : Request := ⟨"PATCH", "/api/v1/driver/bookings/1/update", headers,
      .value (.obj [("actual_weight_kg", .float 2.5)])⟩
    let other : Request := ⟨"PATCH", "/api/v1/driver/bookings/1/collect", headers,
      .value (.obj [("weight_kg", .float 2.5)])⟩
    (service.result ⟨1⟩ ⟨1⟩ form).2.IsAccepted ∧ service.AnswersAlike ⟨1⟩ ⟨1⟩ form other := by
  intro store service headers form other
  have caller : Service.readActor headers = .ok ⟨7, .driver⟩ := by decide +kernel
  have reaches : service.Reaches form .updateAsDriver "1" ⟨7, .driver⟩ :=
    ⟨by decide +kernel, caller, by decide, by decide +kernel⟩
  have reaches' : service.Reaches other .collect "1" ⟨7, .driver⟩ :=
    ⟨by decide +kernel, caller, by decide, by decide +kernel⟩
  have collects : DriverForm.Collects [("actual_weight_kg", .float 2.5)]
      [("weight_kg", .float 2.5)] (.float 2.5) none :=
    ⟨.inl ⟨rfl, rfl, rfl, rfl⟩, rfl, rfl⟩
  have heavy : ¬(Json.float 2.5).IsLight := by
    rintro ⟨x, hx, -, light⟩
    cases hx
    exact light (by decide +kernel)
  have accepted : (service.result ⟨1⟩ ⟨1⟩ form).2.IsAccepted := by decide +kernel
  have reads : Endpoint.inPath Endpoint.bookingField "1" = .ok 1 := by decide
  have hagrees := driver_form_agrees ⟨1⟩ ⟨1⟩ form other reads rfl reaches
  exact ⟨accepted, (hagrees.2 _ _ _ rfl collects heavy reaches').2 accepted⟩

/-- A pickup of no weight is taken by the form and turned down at the endpoint. -/
theorem light_pickup_by_form :
    let store := Store.single ⟨"IN_PROGRESS", some 7, 1, none, none, none, none⟩
    let service : Service :=
      ⟨⟨{ store with pricing := ⟨[⟨1, 1, 40.0, 60.0, true, ⟨0⟩⟩]⟩ }, .empty⟩, []⟩
    let headers := [("X-Actor-Id", "7"), ("X-Actor-Role", "DRIVER")]
    let form : Request := ⟨"PATCH", "/api/v1/driver/bookings/1/update", headers,
      .value (.obj [("status", .str "COLLECTED"), ("actual_weight_kg", .int 0)])⟩
    let other : Request := ⟨"PATCH", "/api/v1/driver/bookings/1/collect", headers,
      .value (.obj [("weight_kg", .int 0)])⟩
    (service.result ⟨1⟩ ⟨1⟩ form).2.IsAccepted ∧ ¬(service.result ⟨1⟩ ⟨1⟩ other).2.IsAccepted := by
  decide +kernel

end WastePickup
