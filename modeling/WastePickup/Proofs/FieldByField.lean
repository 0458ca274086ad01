import Mathlib.Data.List.Nodup
import WastePickup.Proofs.RequestForms

/-!
# Issues are reported field by field

Everything that is wrong with an object is reported at once. What is reported of a field depends on
the member of its name alone, so that the report is put together from what each field would be
reported with if there were no others. Each part of it says where it belongs: an issue of a field is
placed in the field, an issue of an item at its index. As no two fields of a form share a name, and
no two items an index, no place is reported twice, and the issues of a field can be told from those
of the others (`places_flatMap`, `filter_flatMap`).

The rule between the prices of a band is looked at when nothing else is wrong, so it is reported by
itself or not at all.

* `Checked.IsTidy`: a check that finds fault with no place twice.
* `RequestForm.fields`: the fields of a form, in declared order.
* `RequestForm.issues_of_reversed`, `RequestForm.issues_of_not_reversed`: what is reported.
* `issues_are_reported_by_field`: reports are complete, in order and by field.
-/

namespace WastePickup

/-! ## Checks that find fault with no place twice -/

/-- A check finds fault with no place twice, and does not look at rules between fields. -/
structure Checked.IsTidy {α : Type} (x : Checked α) : Prop where
  distinct : (x.issues.map Issue.place).Nodup
  unrelated : ∀ issue ∈ x.issues, issue.fault ≠ .bandReversed

namespace Checked

variable {α β : Type}

/-- A check that passed is tidy. -/
theorem isTidy_ok (a : α) : (ok a).IsTidy :=
  ⟨List.nodup_nil, nofun⟩

/-- So is one that fails on the spot with anything but a reversed band. -/
theorem isTidy_fault {f : Fault} (h : f ≠ .bandReversed) : (fault f : Checked α).IsTidy :=
  ⟨List.nodup_singleton _, fun _ hissue => List.mem_singleton.1 hissue ▸ h⟩

/-- A tidy check stays so when a function is applied to its value. -/
theorem IsTidy.map {x : Checked α} (h : x.IsTidy) (f : α → β) : (x.map f).IsTidy := by
  constructor
  · simpa using h.distinct
  · simpa using h.unrelated

/-- Two tidy checks in a row are tidy. -/
theorem IsTidy.andThen {x : Checked α} {f : α → Checked β} (h : x.IsTidy)
    (hf : ∀ a, (f a).IsTidy) : (x.andThen f).IsTidy := by
  cases x with
  | ok a => exact hf a
  | failed first others => exact ⟨h.distinct, h.unrelated⟩

/-- Places that are put one step further in stay apart. -/
theorem IsTidy.under {x : Checked α} (h : x.IsTidy) (p : Place) : (x.under p).IsTidy := by
  constructor
  · have hplaces : (x.under p).issues.map Issue.place =
        (x.issues.map Issue.place).map (List.cons p) := by simp
    rw [hplaces]
    exact h.distinct.map (List.cons_injective)
  · intro issue hissue
    rw [issues_under, List.mem_map] at hissue
    obtain ⟨inner, hinner, rfl⟩ := hissue
    exact h.unrelated inner hinner

/-- A function applied to the value changes no issues. -/
@[simp] theorem issues_functorMap (f : α → β) (x : Checked α) : (f <$> x).issues = x.issues :=
  issues_map f x

/-- The issues of a combination are those of its parts, in order. -/
@[simp] theorem issues_functorSeq (f : Checked (α → β)) (x : Checked α) :
    (f <*> x).issues = f.issues ++ x.issues :=
  issues_seq f x

/-- Everything is found within the step under which it is placed. -/
theorem head_of_issue_under {x : Checked α} {p : Place} {issue : Issue}
    (h : issue ∈ (x.under p).issues) : issue.place.head? = some p := by
  rw [issues_under, List.mem_map] at h
  obtain ⟨inner, -, rfl⟩ := h
  rfl

end Checked

/-! ## Simple kinds -/

namespace Kind

/-- All values of a kind are checked tidily. -/
def IsTidy {α : Type} (kind : Kind α) : Prop :=
  ∀ j, (kind.read j).IsTidy

/-- To read a whole number is tidy. -/
theorem isTidy_readWhole (j : Json) : (readWhole j).IsTidy := by
  unfold readWhole
  repeat' split
  all_goals first | exact Checked.isTidy_ok _ | exact Checked.isTidy_fault (by decide)

/-- To read a whole number within bounds is tidy. -/
theorem isTidy_whole (least greatest : Option Int) : (whole least greatest).IsTidy := by
  intro j
  refine (isTidy_readWhole j).andThen fun n => ?_
  unfold boundWhole
  repeat' split
  all_goals first | exact Checked.isTidy_ok _ | exact Checked.isTidy_fault (by decide)

/-- To read a decimal is tidy. -/
theorem isTidy_readDecimal (j : Json) : (readDecimal j).IsTidy := by
  unfold readDecimal
  dsimp only
  repeat' split
  all_goals first | exact Checked.isTidy_ok _ | exact Checked.isTidy_fault (by decide)

/-- To read a decimal within bounds is tidy. -/
theorem isTidy_decimal (least greatest : Option Float) : (decimal least greatest).IsTidy := by
  intro j
  refine (isTidy_readDecimal j).andThen fun x => ?_
  unfold boundDecimal
  repeat' split
  all_goals first | exact Checked.isTidy_ok _ | exact Checked.isTidy_fault (by decide)

/-- To read a text within bounds is tidy. -/
theorem isTidy_text (least : Nat) (greatest : Option Nat) : (text least greatest).IsTidy := by
  intro j
  simp only [text]
  unfold readText
  repeat' split
  all_goals first | exact Checked.isTidy_ok _ | exact Checked.isTidy_fault (by decide)

/-- To read any text is tidy. -/
theorem isTidy_anyText : anyText.IsTidy := by
  intro j
  simp only [anyText]
  unfold readAnyText
  split
  all_goals first | exact Checked.isTidy_ok _ | exact Checked.isTidy_fault (by decide)

/-- To read a truth value is tidy. -/
theorem isTidy_flag : flag.IsTidy := by
  intro j
  simp only [flag]
  unfold readFlag
  repeat' split
  all_goals first | exact Checked.isTidy_ok _ | exact Checked.isTidy_fault (by decide)

/-- A date that was found or was not is tidy. -/
theorem isTidy_foundDate (d : Option Date) : (foundDate d).IsTidy := by
  cases d with
  | none => exact Checked.isTidy_fault (by decide)
  | some d => exact Checked.isTidy_ok d

/-- To read a date is tidy. -/
theorem isTidy_date : date.IsTidy := by
  intro j
  simp only [date]
  unfold readDate
  dsimp only
  repeat' split
  all_goals first | exact isTidy_foundDate _ | exact Checked.isTidy_fault (by decide)

/-- To read a name out of a closed list is tidy. -/
theorem isTidy_choice (α : Type) [Named α] : (choice α).IsTidy := by
  intro j
  simp only [choice]
  unfold readName
  repeat' split
  all_goals first | exact Checked.isTidy_ok _ | exact Checked.isTidy_fault (by decide)

/-- A tidy kind stays so when its value may be missing. -/
theorem IsTidy.optional {α : Type} {kind : Kind α} (h : kind.IsTidy) : kind.optional.IsTidy := by
  intro j
  simp only [Kind.optional]
  split
  · exact Checked.isTidy_ok none
  · exact (h j).map some

end Kind

/-! ## Reports that are put together from parts -/

section Parts

variable {β : Type} {step : β → Place} {issues : β → List Issue}

/-- The issues of a part are found within it, and at different places. -/
structure AreFoundIn (p : Place) (issues : List Issue) : Prop where
  head : ∀ issue ∈ issues, issue.place.head? = some p
  distinct : (issues.map Issue.place).Nodup

/-- Where parts are found in different places, so is everything that they are put together to. -/
theorem places_flatMap {parts : List β} (hsteps : (parts.map step).Nodup)
    (found : ∀ part ∈ parts, AreFoundIn (step part) (issues part)) :
    ((parts.flatMap issues).map Issue.place).Nodup := by
  induction parts with
  | nil => exact List.nodup_nil
  | cons part parts ih =>
    obtain ⟨hnew, hsteps⟩ := List.nodup_cons.1 hsteps
    rw [List.flatMap_cons, List.map_append]
    refine List.Nodup.append (found part (List.mem_cons_self ..)).distinct
      (ih hsteps fun p hp => found p (List.mem_cons_of_mem _ hp)) ?_
    -- A place that is found in this part is found in none of the later ones.
    intro place hplace hlater
    obtain ⟨issue, hissue, rfl⟩ := List.mem_map.1 hplace
    obtain ⟨later, hlater, hsame⟩ := List.mem_map.1 hlater
    obtain ⟨p, hp, hlater⟩ := List.mem_flatMap.1 hlater
    have hhead := (found part (List.mem_cons_self ..)).head issue hissue
    have hhead' := (found p (List.mem_cons_of_mem _ hp)).head later hlater
    rw [hsame, hhead] at hhead'
    exact hnew (List.mem_map.2 ⟨p, hp, (Option.some.inj hhead').symm⟩)

/-- The issues of a part can be told from those of the others. -/
theorem filter_flatMap {parts : List β} (hsteps : (parts.map step).Nodup)
    (found : ∀ part ∈ parts, AreFoundIn (step part) (issues part)) {part : β}
    (hpart : part ∈ parts) :
    (parts.flatMap issues).filter (fun issue => issue.place.head? = some (step part)) =
      issues part := by
  induction parts with
  | nil => cases hpart
  | cons first parts ih =>
    obtain ⟨hnew, hsteps⟩ := List.nodup_cons.1 hsteps
    have hfirst := found first (List.mem_cons_self ..)
    have hrest : ∀ p ∈ parts, AreFoundIn (step p) (issues p) :=
      fun p hp => found p (List.mem_cons_of_mem _ hp)
    rw [List.flatMap_cons, List.filter_append]
    rcases List.mem_cons.1 hpart with rfl | hpart
    · have hall : (issues part).filter (fun issue => issue.place.head? = some (step part)) =
          issues part := List.filter_eq_self.2 fun issue h => decide_eq_true (hfirst.head issue h)
      have hnone : (parts.flatMap issues).filter
          (fun issue => issue.place.head? = some (step part)) = [] := by
        refine List.filter_eq_nil_iff.2 fun issue hissue hhead => ?_
        obtain ⟨p, hp, hissue⟩ := List.mem_flatMap.1 hissue
        have hsame := ((hrest p hp).head issue hissue).symm.trans (of_decide_eq_true hhead)
        exact hnew (List.mem_map.2 ⟨p, hp, Option.some.inj hsame⟩)
      rw [hall, hnone, List.append_nil]
    · have hnone : (issues first).filter (fun issue => issue.place.head? = some (step part)) =
          [] := by
        refine List.filter_eq_nil_iff.2 fun issue hissue hhead => ?_
        have hsame := (hfirst.head issue hissue).symm.trans (of_decide_eq_true hhead)
        exact hnew (List.mem_map.2 ⟨part, hpart, (Option.some.inj hsame).symm⟩)
      rw [hnone, List.nil_append, ih hsteps hrest hpart]

end Parts

/-! ## Lists -/

namespace Kind

variable {α : Type} {kind : Kind α}

/-- The issues of a list are those of its items, in order, each placed at its index. -/
theorem issues_readItems (kind : Kind α) (items : List Json) (n : Nat) :
    (readItems kind n items).issues =
      (items.zipIdx n).flatMap fun item => ((kind.read item.1).under (.index item.2)).issues := by
  induction items generalizing n with
  | nil => rfl
  | cons j rest ih =>
    rw [readItems, Checked.issues_seq, Checked.issues_map, ih, List.zipIdx_cons,
      List.flatMap_cons]

/-- The items of a tidy kind are read so, each under its index. -/
theorem IsTidy.readItems (h : kind.IsTidy) (items : List Json) (n : Nat) :
    (readItems kind n items).IsTidy := by
  constructor
  · have hindices : (items.zipIdx n).map (fun item => Place.index item.2) =
        (List.range' n items.length).map Place.index := by
      rw [← List.zipIdx_map_snd n items, List.map_map]
      rfl
    have hsteps : ((items.zipIdx n).map fun item => Place.index item.2).Nodup :=
      hindices ▸ (List.nodup_range' ..).map fun _ _ => Place.index.inj
    rw [issues_readItems]
    exact places_flatMap hsteps fun item _ =>
      ⟨fun _ => Checked.head_of_issue_under, ((h item.1).under _).distinct⟩
  · intro issue hissue
    rw [issues_readItems] at hissue
    obtain ⟨item, -, hissue⟩ := List.mem_flatMap.1 hissue
    exact ((h item.1).under _).unrelated issue hissue

/-- So is a list of them. -/
theorem IsTidy.listOf (h : kind.IsTidy) : kind.listOf.IsTidy := by
  intro j
  simp only [Kind.listOf]
  split
  · exact Checked.isTidy_fault (by decide)
  · exact h.readItems _ 0
  · exact Checked.isTidy_fault (by decide)

end Kind

/-! ## Fields -/

namespace Json.Object

/-- The member of a name alone. -/
def only (o : Object) (name : Text) : Object :=
  o.filter fun member => member.1 = name

/-- A member that alone is left of an object is the one that was there. -/
theorem get?_only (o : Object) (name : Text) : (o.only name).get? name = o.get? name := by
  induction o with
  | nil => rfl
  | cons member rest ih =>
    obtain ⟨key, value⟩ := member
    by_cases h : key = name
    · simp [only, get?, h]
    · simpa [only, get?, h] using ih

end Json.Object

/-- A field of a form, whatever it gives: its name, and what is wrong with it in an object. -/
structure DeclaredField where
  name : String
  issues : Json.Object → List Issue

/-- What is wrong with a field in an object that has no other members. -/
def DeclaredField.alone (field : DeclaredField) (o : Json.Object) : List Issue :=
  field.issues (o.only field.name)

/-- A field as one of a form. -/
def Field.declared {α : Type} (field : Field α) : DeclaredField :=
  ⟨field.name, fun o => (field.read o).issues⟩

/-- A field is reported by itself: what is wrong with it depends on its member alone, and is found
in it. -/
structure DeclaredField.IsTidy (field : DeclaredField) : Prop where
  congr {o o' : Json.Object} (h : o.get? field.name = o'.get? field.name) :
    field.issues o = field.issues o'
  found (o : Json.Object) : AreFoundIn (.field field.name) (field.issues o)
  unrelated (o : Json.Object) : ∀ issue ∈ field.issues o, issue.fault ≠ .bandReversed

/-- A tidy field reports the same alone as in its form. -/
theorem DeclaredField.IsTidy.alone_eq {field : DeclaredField} (h : field.IsTidy)
    (o : Json.Object) : field.alone o = field.issues o :=
  h.congr (o.get?_only field.name)

/-- A field of a tidy kind is tidy. -/
theorem Field.isTidy_declared {α : Type} {field : Field α} (h : field.kind.IsTidy) :
    field.declared.IsTidy := by
  have htidy (o : Json.Object) : (field.read o).IsTidy := by
    refine Checked.IsTidy.under ?_ _
    split
    · exact h _
    · exact Checked.isTidy_ok _
    · exact Checked.isTidy_fault (by decide)
  exact {
    congr := fun h => congrArg Checked.issues (Field.read_congr h)
    found := fun o => ⟨fun _ => Checked.head_of_issue_under, (htidy o).distinct⟩
    unrelated := fun o => (htidy o).unrelated }

/-! ## Forms -/

namespace RequestForm

/-- The fields of a form, in declared order. -/
def fields (notObject : Fault) : RequestForm → List DeclaredField
  | item => [ItemForm.wasteCategoryField.declared, ItemForm.quantityField.declared]
  | booking => [(BookingForm.itemsField notObject).declared,
      BookingForm.addressLine1Field.declared, BookingForm.cityField.declared,
      BookingForm.postalCodeField.declared, BookingForm.phoneField.declared,
      BookingForm.specialInstructionsField.declared, BookingForm.scheduledDateField.declared,
      BookingForm.scheduledTimeSlotField.declared, BookingForm.latField.declared,
      BookingForm.lngField.declared]
  | collect => [CollectForm.weightField.declared, CollectForm.wasteCategoryField.declared]
  | driverUpdate => [DriverForm.statusField.declared, DriverForm.wasteCategoryField.declared,
      DriverForm.weightField.declared, DriverForm.amountField.declared]
  | availability => [AvailabilityForm.statusField.declared]
  | assign => [AssignForm.driverField.declared]
  | settle => [SettleForm.weightField.declared, SettleForm.amountField.declared]
  | cancel => [CancelForm.reasonField.declared]
  | adminUpdate => [AdminForm.statusField.declared, AdminForm.driverField.declared,
      AdminForm.weightField.declared, AdminForm.amountField.declared]
  | pricing => [PricingForm.minField.declared, PricingForm.maxField.declared,
      PricingForm.isActiveField.declared]

/-- What is wrong with an object as a form. -/
def issues (form : RequestForm) (notObject : Fault) (o : Json.Object) : List Issue :=
  (Form.read notObject o : Checked form.Value).issues

/-- The prices of a band are in the wrong order, and nothing else is wrong. -/
def IsReversed (form : RequestForm) (o : Json.Object) : Prop :=
  form = .pricing ∧ ∃ min max isActive, PricingForm.minField.read o = .ok min ∧
    PricingForm.maxField.read o = .ok max ∧ PricingForm.isActiveField.read o = .ok isActive ∧
    max < min

/-- No two fields of a form share a name. -/
theorem nodup_names (form : RequestForm) (notObject : Fault) :
    ((form.fields notObject).map DeclaredField.name).Nodup := by
  have hnames : (form.fields notObject).map DeclaredField.name =
      (form.fields .objectType).map DeclaredField.name := by cases form <;> rfl
  rw [hnames]
  cases form <;> decide

/-- No two fields of a form have the same name. -/
theorem nodup_steps (form : RequestForm) (notObject : Fault) :
    ((form.fields notObject).map fun field => Place.field field.name).Nodup := by
  have hsteps := (form.nodup_names notObject).map fun _ _ => Place.field.inj
  rwa [List.map_map] at hsteps

variable {form : RequestForm} {notObject : Fault} {o : Json.Object}

/-- The fields of a band are checked one by one. -/
theorem issues_readFields (notObject : Fault) (o : Json.Object) :
    (PricingForm.readFields o).issues =
      (pricing.fields notObject).flatMap fun field => field.issues o := by
  simp [PricingForm.readFields, fields, Field.declared]

/-- The rule between the prices is looked at when every field has passed. -/
theorem issues_of_reversed (h : form.IsReversed o) (notObject : Fault) :
    form.issues notObject o = [⟨[], .bandReversed⟩] ∧
      ∀ field ∈ form.fields notObject, field.issues o = [] := by
  obtain ⟨rfl, min, max, isActive, hmin, hmax, hisActive, reversed⟩ := h
  have hread : PricingForm.readFields o = .ok ⟨min, max, isActive⟩ :=
    PricingForm.readFields_eq_ok_iff.2 ⟨hmin, hmax, hisActive⟩
  constructor
  · show ((PricingForm.readFields o).andThen PricingForm.inOrder).issues = _
    rw [hread, Checked.andThen, PricingForm.inOrder, if_pos reversed]
    rfl
  · have hissues := issues_readFields notObject o
    rw [hread] at hissues
    exact List.flatMap_eq_nil_iff.1 hissues.symm

/-- Otherwise the issues are those of the fields, in order. -/
theorem issues_of_not_reversed (h : ¬form.IsReversed o) (notObject : Fault) :
    form.issues notObject o = (form.fields notObject).flatMap fun field => field.issues o := by
  cases form with
  | pricing =>
    rw [← issues_readFields]
    show ((PricingForm.readFields o).andThen PricingForm.inOrder).issues = _
    cases hfields : PricingForm.readFields o with
    | failed first others => rfl
    | ok f =>
      obtain ⟨hmin, hmax, hisActive⟩ := PricingForm.readFields_eq_ok_iff.1 hfields
      have reversed : ¬f.max < f.min :=
        fun reversed => h ⟨rfl, f.min, f.max, f.isActive, hmin, hmax, hisActive, reversed⟩
      show (PricingForm.inOrder f).issues = _
      rw [PricingForm.inOrder, if_neg reversed]
  | _ => simp [issues, Form.read, fields, Field.declared]

/-- A form is checked tidily if its fields are reported by themselves. -/
theorem isTidy_read (hfields : ∀ field ∈ form.fields notObject, field.IsTidy)
    (h : ¬form.IsReversed o) : (Form.read notObject o : Checked form.Value).IsTidy := by
  have hissues : (Form.read notObject o : Checked form.Value).issues = _ :=
    issues_of_not_reversed h notObject
  constructor
  · rw [hissues]
    exact places_flatMap (form.nodup_steps notObject)
      fun field hfield => (hfields field hfield).found o
  · intro issue hissue
    rw [hissues] at hissue
    obtain ⟨field, hfield, hissue⟩ := List.mem_flatMap.1 hissue
    exact (hfields field hfield).unrelated o issue hissue

/-- To read an item of a booking is tidy. -/
theorem isTidy_items (h : notObject ≠ .bandReversed) : (Form.kind ItemForm notObject).IsTidy := by
  have hfields : ∀ field ∈ item.fields notObject, field.IsTidy := by
    simp only [fields, List.forall_mem_cons]
    exact ⟨Field.isTidy_declared (Kind.isTidy_whole _ _),
      Field.isTidy_declared (Kind.isTidy_decimal _ _), nofun⟩
  intro j
  cases j with
  | obj o => exact @isTidy_read item notObject o hfields nofun
  | _ => exact Checked.isTidy_fault h

/-- Every field of a form is reported by itself. -/
theorem isTidy_fields (form : RequestForm) (h : notObject ≠ .bandReversed) :
    ∀ field ∈ form.fields notObject, field.IsTidy := by
  have whole : (Kind.whole none none).IsTidy := Kind.isTidy_whole _ _
  have decimal (least : Float) : (Kind.decimal (some least) none).IsTidy := Kind.isTidy_decimal _ _
  have text (greatest : Nat) : (Kind.text 1 (some greatest)).IsTidy := Kind.isTidy_text _ _
  cases form with
  | item =>
    simp only [fields, List.forall_mem_cons]
    exact ⟨Field.isTidy_declared whole, Field.isTidy_declared (decimal _), nofun⟩
  | booking =>
    simp only [fields, List.forall_mem_cons]
    exact ⟨Field.isTidy_declared (isTidy_items h).listOf, Field.isTidy_declared (text _),
      Field.isTidy_declared (text _), Field.isTidy_declared (text _),
      Field.isTidy_declared (text _), Field.isTidy_declared Kind.isTidy_anyText.optional,
      Field.isTidy_declared Kind.isTidy_date, Field.isTidy_declared (text _),
      Field.isTidy_declared (Kind.isTidy_decimal _ _).optional,
      Field.isTidy_declared (Kind.isTidy_decimal _ _).optional, nofun⟩
  | collect =>
    simp only [fields, List.forall_mem_cons]
    exact ⟨Field.isTidy_declared (decimal _), Field.isTidy_declared whole.optional, nofun⟩
  | driverUpdate =>
    simp only [fields, List.forall_mem_cons]
    exact ⟨Field.isTidy_declared (Kind.isTidy_choice _).optional,
      Field.isTidy_declared whole.optional, Field.isTidy_declared (decimal _).optional,
      Field.isTidy_declared (decimal _).optional, nofun⟩
  | availability =>
    simp only [fields, List.forall_mem_cons]
    exact ⟨Field.isTidy_declared (Kind.isTidy_choice _), nofun⟩
  | assign =>
    simp only [fields, List.forall_mem_cons]
    exact ⟨Field.isTidy_declared whole, nofun⟩
  | settle =>
    simp only [fields, List.forall_mem_cons]
    exact ⟨Field.isTidy_declared (decimal _).optional, Field.isTidy_declared (decimal _).optional,
      nofun⟩
  | cancel =>
    simp only [fields, List.forall_mem_cons]
    exact ⟨Field.isTidy_declared (Kind.isTidy_text _ _).optional, nofun⟩
  | adminUpdate =>
    simp only [fields, List.forall_mem_cons]
    exact ⟨Field.isTidy_declared (Kind.isTidy_choice _).optional,
      Field.isTidy_declared whole.optional, Field.isTidy_declared (decimal _).optional,
      Field.isTidy_declared (decimal _).optional, nofun⟩
  | pricing =>
    simp only [fields, List.forall_mem_cons]
    exact ⟨Field.isTidy_declared (decimal _), Field.isTidy_declared (decimal _),
      Field.isTidy_declared Kind.isTidy_flag, nofun⟩

/-- The issues of an object that are found in one of its fields. -/
def issuesIn (form : RequestForm) (notObject : Fault) (o : Json.Object) (field : DeclaredField) :
    List Issue :=
  (form.issues notObject o).filter fun issue => issue.place.head? = some (.field field.name)

/-- What is found in a field is what is wrong with it. -/
theorem issuesIn_eq (h : notObject ≠ .bandReversed) (o : Json.Object) {field : DeclaredField}
    (hfield : field ∈ form.fields notObject) :
    form.issuesIn notObject o field = field.issues o := by
  rw [issuesIn]
  by_cases reversed : form.IsReversed o
  · obtain ⟨hissues, hnone⟩ := issues_of_reversed reversed notObject
    rw [hissues, hnone field hfield]
    rfl
  · rw [issues_of_not_reversed reversed]
    exact filter_flatMap (form.nodup_steps notObject)
      (fun field hfield => (form.isTidy_fields h field hfield).found o) hfield

end RequestForm

/-- Items are reported in the order of their list, each at its index. -/
theorem BookingForm.issues_items (notObject : Fault) {o : Json.Object} {items : List Json}
    (given : o.get? "items" = some (.arr items)) (nonempty : items ≠ []) :
    (itemsField notObject).declared.issues o = items.zipIdx.flatMap fun item =>
      ((Form.kind ItemForm notObject).read item.1).issues.map fun issue =>
        ⟨.field "items" :: .index item.2 :: issue.place, issue.fault⟩ := by
  have hread : (itemsField notObject).read o =
      (Kind.readItems (Form.kind ItemForm notObject) 0 items).under (.field "items") := by
    have given : o.get? (itemsField notObject).name = some (.arr items) := given
    rw [Field.read, given]
    cases items with
    | nil => exact absurd rfl nonempty
    | cons j rest => rfl
  show ((itemsField notObject).read o).issues = _
  rw [hread, Checked.issues_under, Kind.issues_readItems, List.map_flatMap]
  simp only [Checked.issues_under, List.map_map]
  rfl

/-- What is wrong with an object is reported completely, in order, and field by field. -/
structure RequestForm.IsReportedByField (form : RequestForm) (notObject : Fault)
    (o : Json.Object) : Prop where
  /-- An object fails if a field of it fails alone, or if the prices are in the wrong order. -/
  fails_iff : (¬∃ value : form.Value, Form.read notObject o = .ok value) ↔
    (∃ field ∈ form.fields notObject, field.alone o ≠ []) ∨ form.IsReversed o
  /-- The issues are those of the fields, each checked alone, in declared order. -/
  inOrder : ¬form.IsReversed o →
    form.issues notObject o = (form.fields notObject).flatMap fun field => field.alone o
  /-- Prices in the wrong order are reported by themselves, when no field fails. -/
  reversed : form.IsReversed o → form.issues notObject o = [⟨[], .bandReversed⟩] ∧
    ∀ field ∈ form.fields notObject, field.alone o = []
  /-- Nothing else is reported as such. -/
  reversed_of_mem : ∀ issue ∈ form.issues notObject o, issue.fault = .bandReversed →
    form.IsReversed o
  /-- The issues of items are those of each item, in the order of the list. -/
  items : form = .booking → ∀ items, o.get? "items" = some (.arr items) → items ≠ [] →
    (BookingForm.itemsField notObject).declared.alone o = items.zipIdx.flatMap fun item =>
      ((Form.kind ItemForm notObject).read item.1).issues.map fun issue =>
        ⟨.field "items" :: .index item.2 :: issue.place, issue.fault⟩
  /-- No place is reported twice. -/
  distinct : ((form.issues notObject o).map Issue.place).Nodup
  /-- Nothing is reported of what is not declared. -/
  declared : ∀ issue ∈ form.issues notObject o, form.IsReversed o ∨
    ∃ field ∈ form.fields notObject, issue.place.head? = some (.field field.name)
  /-- What is reported of a field does not depend on the others. -/
  independent : ∀ o' : Json.Object, ∀ field ∈ form.fields notObject,
    o'.get? field.name = o.get? field.name →
      form.issuesIn notObject o' field = form.issuesIn notObject o field

/-- Whatever object is given for a form, what is wrong with it is reported completely, in the order
of the fields, and field by field. -/
theorem issues_are_reported_by_field (form : RequestForm) {notObject : Fault}
    (h : notObject ≠ .bandReversed) (o : Json.Object) : form.IsReportedByField notObject o := by
  have tidy := form.isTidy_fields h
  have halone : ∀ field ∈ form.fields notObject, field.alone o = field.issues o :=
    fun field hfield => (tidy field hfield).alone_eq o
  have hinOrder (reversed : ¬form.IsReversed o) : form.issues notObject o =
      (form.fields notObject).flatMap fun field => field.issues o :=
    RequestForm.issues_of_not_reversed reversed notObject
  have hmem {issue : Issue} (hissue : issue ∈ form.issues notObject o)
      (reversed : ¬form.IsReversed o) :
      ∃ field ∈ form.fields notObject, issue ∈ field.issues o := by
    rw [hinOrder reversed] at hissue
    exact List.mem_flatMap.1 hissue
  constructor
  case fails_iff =>
    rw [← Checked.issues_eq_nil_iff]
    show form.issues notObject o ≠ [] ↔ _
    by_cases reversed : form.IsReversed o
    · rw [(RequestForm.issues_of_reversed reversed notObject).1]
      exact iff_of_true (List.cons_ne_nil _ _) (.inr reversed)
    · rw [hinOrder reversed, ne_eq, List.flatMap_eq_nil_iff]
      constructor
      · intro hsome
        by_contra hnone
        refine hsome fun field hfield => ?_
        by_contra hissues
        exact hnone (.inl ⟨field, hfield, halone field hfield ▸ hissues⟩)
      · rintro (⟨field, hfield, hissues⟩ | hreversed) hnone
        · exact hissues ((halone field hfield).trans (hnone field hfield))
        · exact reversed hreversed
  case inOrder =>
    intro reversed
    rw [hinOrder reversed]
    exact List.flatMap_congr fun field hfield => (halone field hfield).symm
  case reversed =>
    intro reversed
    obtain ⟨hissues, hnone⟩ := RequestForm.issues_of_reversed reversed notObject
    exact ⟨hissues, fun field hfield => (halone field hfield).trans (hnone field hfield)⟩
  case reversed_of_mem =>
    intro issue hissue hfault
    by_contra reversed
    obtain ⟨field, hfield, hissue⟩ := hmem hissue reversed
    exact (tidy field hfield).unrelated o issue hissue hfault
  case items =>
    rintro rfl items given nonempty
    rw [halone _ (List.mem_cons_self ..)]
    exact BookingForm.issues_items notObject given nonempty
  case distinct =>
    by_cases reversed : form.IsReversed o
    · rw [(RequestForm.issues_of_reversed reversed notObject).1]
      exact List.nodup_singleton _
    · exact (RequestForm.isTidy_read tidy reversed).distinct
  case declared =>
    intro issue hissue
    by_cases reversed : form.IsReversed o
    · exact .inl reversed
    · obtain ⟨field, hfield, hissue⟩ := hmem hissue reversed
      exact .inr ⟨field, hfield, ((tidy field hfield).found o).head issue hissue⟩
  case independent =>
    intro o' field hfield hmember
    rw [RequestForm.issuesIn_eq h o' hfield, RequestForm.issuesIn_eq h o hfield]
    exact (tidy field hfield).congr hmember

/-- A pickup with a good item between two bad ones, without a postal code, with a telephone number
and a date that are none, and with a member that no field asks for. -/
theorem bad_items_are_reported_by_field :
    let o : Json.Object := [
      ("phone", .null), ("city", .str "Colombo"), ("address_line1", .str "12 Galle Road"),
      ("items", .arr [.obj [("waste_category_id", .str "x"), ("quantity_kg", .float 0.05)],
        .obj [("waste_category_id", .int 1), ("quantity_kg", .int 1)], .null]),
      ("scheduled_date", .str "2026-02-30"), ("scheduled_time_slot", .str "09:00-12:00"),
      ("color", .int 3)]
    Fault.bodyObjectType ≠ .bandReversed ∧
      RequestForm.booking.IsReportedByField .bodyObjectType o ∧
      RequestForm.booking.issues .bodyObjectType o = [
        ⟨[.field "items", .index 0, .field "waste_category_id"], .intParsing⟩,
        ⟨[.field "items", .index 0, .field "quantity_kg"], .greaterThanEqual⟩,
        ⟨[.field "items", .index 2], .bodyObjectType⟩,
        ⟨[.field "postal_code"], .missing⟩,
        ⟨[.field "phone"], .stringType⟩,
        ⟨[.field "scheduled_date"], .dateParsing⟩] :=
  ⟨by decide, issues_are_reported_by_field .booking (by decide) _, by decide +kernel⟩

end WastePickup
