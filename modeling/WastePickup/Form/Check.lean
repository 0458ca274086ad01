import WastePickup.Json

/-!
# Checking requests

A check turns a JSON value into a value of the domain or into a list of issues. An issue has a
fault and the place where it was found. Checks are combined so that all issues of a request are
reported, in the order of the form (`Checked.seq`); a check that fails has at least one issue by
construction.

* `issues_seq`: the issues of a combination are those of its parts, in order.
* `seq_eq_ok_iff`: a combination passes exactly when both parts pass.
-/

namespace WastePickup

/-- What can be wrong with a value. -/
inductive Fault where
  | missing
  | intType
  | intParsing
  | intFromFloat
  | intParsingSize
  | finiteNumber
  | floatType
  | floatParsing
  | greaterThanEqual
  | lessThanEqual
  | stringType
  | stringTooShort
  | stringTooLong
  /-- A text that is not a string. -/
  | stringUnicode
  | boolType
  | boolParsing
  | dateType
  | dateParsing
  | notInList
  | listType
  | tooShort
  /-- A value that should have been an object. -/
  | objectType
  /-- A value of a request body that should have been an object. -/
  | bodyObjectType
  /-- A body that is not JSON. -/
  | jsonInvalid
  /-- A price band whose least price is above its greatest. -/
  | bandReversed
  deriving DecidableEq

namespace Fault

/-- The name under which a fault is reported. -/
def code : Fault → String
  | missing => "missing"
  | intType => "int_type"
  | intParsing => "int_parsing"
  | intFromFloat => "int_from_float"
  | intParsingSize => "int_parsing_size"
  | finiteNumber => "finite_number"
  | floatType => "float_type"
  | floatParsing => "float_parsing"
  | greaterThanEqual => "greater_than_equal"
  | lessThanEqual => "less_than_equal"
  | stringType => "string_type"
  | stringTooShort => "string_too_short"
  | stringTooLong => "string_too_long"
  | stringUnicode => "string_unicode"
  | boolType => "bool_type"
  | boolParsing => "bool_parsing"
  | dateType => "date_type"
  | dateParsing => "date_parsing"
  | notInList => "enum"
  | listType => "list_type"
  | tooShort => "too_short"
  | objectType => "model_type"
  | bodyObjectType => "model_attributes_type"
  | jsonInvalid => "json_invalid"
  | bandReversed => "value_error"

/-- A rule between fields is reported with its wording. -/
def message? : Fault → Option String
  | bandReversed => some "Value error, min_price_lkr_per_kg must not exceed max_price_lkr_per_kg"
  | _ => none

end Fault

/-- One step on the way to a value. -/
inductive Place where
  | field (name : String)
  | index (n : Nat)
  deriving DecidableEq

/-- A fault and where it was found, outermost step first. -/
structure Issue where
  place : List Place
  fault : Fault
  deriving DecidableEq

/-- An issue as it is reported. -/
def Issue.toJson (issue : Issue) : Json :=
  let step : Place → Json
    | .field name => .str name
    | .index n => .int n
  let message : Json.Object := match issue.fault.message? with
    | some text => [("msg", .str text)]
    | none => []
  .obj (("loc", .arr (issue.place.map step)) :: ("type", .str issue.fault.code) :: message)

/-- The outcome of a check: a value, or at least one issue. -/
inductive Checked (α : Type) where
  | ok (a : α)
  | failed (first : Issue) (others : List Issue)
  deriving DecidableEq

namespace Checked

variable {α β : Type}

/-- All issues, none for a check that passed. -/
def issues : Checked α → List Issue
  | ok _ => []
  | failed first others => first :: others

/-- A check that fails on the spot. -/
def fault (f : Fault) : Checked α :=
  failed ⟨[], f⟩ []

/-- Apply a function to the value. -/
def map (f : α → β) : Checked α → Checked β
  | ok a => ok (f a)
  | failed first others => failed first others

/-- Combine a check that gives a function with one that gives its argument; the issues of both are
kept. -/
def seq (f : Checked (α → β)) (x : Checked α) : Checked β :=
  match f, x with
  | ok g, x => x.map g
  | failed first others, x => failed first (others ++ x.issues)

/-- Go on with the value of a check that passed. -/
def andThen (x : Checked α) (f : α → Checked β) : Checked β :=
  match x with
  | ok a => f a
  | failed first others => failed first others

/-- Place all issues one step further in. -/
def under (p : Place) : Checked α → Checked α
  | ok a => ok a
  | failed first others =>
    failed ⟨p :: first.place, first.fault⟩ (others.map fun i => ⟨p :: i.place, i.fault⟩)

instance : Functor Checked where
  map := map

instance : Seq Checked where
  seq f x := seq f (x ())

/-! ## Issues of combinations -/

/-- A check that passed has no issues. -/
@[simp] theorem issues_ok (a : α) : (ok a).issues = [] := rfl

/-- A function applied to the value changes no issues. -/
@[simp] theorem issues_map (f : α → β) (x : Checked α) : (x.map f).issues = x.issues := by
  cases x <;> rfl

/-- The issues of a combination are those of its parts, in order. -/
@[simp] theorem issues_seq (f : Checked (α → β)) (x : Checked α) :
    (seq f x).issues = f.issues ++ x.issues := by
  cases f with
  | ok g => simp [seq]
  | failed first others => simp [seq, issues]

/-- The issues of a check that was placed are placed one by one. -/
@[simp] theorem issues_under (p : Place) (x : Checked α) :
    (x.under p).issues = x.issues.map fun i => ⟨p :: i.place, i.fault⟩ := by
  cases x <;> rfl

/-- A check passes exactly when it has no issue. -/
theorem issues_eq_nil_iff {x : Checked α} : x.issues = [] ↔ ∃ a, x = ok a := by
  cases x <;> simp [issues]

/-- A function is applied to the value of a check exactly when the check passes. -/
theorem map_eq_ok_iff {f : α → β} {x : Checked α} {b : β} :
    x.map f = ok b ↔ ∃ a, x = ok a ∧ f a = b := by
  cases x <;> simp [map]

/-- A combination passes exactly when both parts pass. -/
theorem seq_eq_ok_iff {f : Checked (α → β)} {x : Checked α} {b : β} :
    seq f x = ok b ↔ ∃ g a, f = ok g ∧ x = ok a ∧ g a = b := by
  cases f with
  | ok g => simp [seq, map_eq_ok_iff]
  | failed first others => simp [seq]

/-- A function of two values is applied exactly when both checks pass. -/
theorem map_seq_eq_ok_iff {γ : Type} {f : α → β → γ} {x : Checked α} {y : Checked β} {c : γ} :
    seq (x.map f) y = ok c ↔ ∃ a b, x = ok a ∧ y = ok b ∧ f a b = c := by
  rw [seq_eq_ok_iff]
  constructor
  · rintro ⟨g, b, hg, hy, rfl⟩
    obtain ⟨a, hx, rfl⟩ := map_eq_ok_iff.1 hg
    exact ⟨a, b, hx, hy, rfl⟩
  · rintro ⟨a, b, hx, hy, rfl⟩
    exact ⟨f a, b, map_eq_ok_iff.2 ⟨a, hx, rfl⟩, hy, rfl⟩

/-- A check that was placed passes exactly when the check does. -/
theorem under_eq_ok_iff {p : Place} {x : Checked α} {a : α} : x.under p = ok a ↔ x = ok a := by
  cases x <;> simp [under]

/-- A check in two stages passes exactly when the second one passes on the value of the first. -/
theorem andThen_eq_ok_iff {x : Checked α} {f : α → Checked β} {b : β} :
    x.andThen f = ok b ↔ ∃ a, x = ok a ∧ f a = ok b := by
  cases x <;> simp [andThen]

end Checked

end WastePickup
