/-!
# Closed lists of named values

Roles, actions and statuses are written by name: in requests, in the stored rows and in answers.
`Named` ties a finite type to its names, in the order in which its values are declared, and
carries the two facts that make a name as good as the value: every value is listed, and no two
values share a name.

* `ofName?_name`: the name of a value reads back as that value.
* `name_of_ofName?`: what reads back has the name that was read.

Reading is exact. Case, blanks and aliases are not forgiven.
-/

namespace WastePickup

/-- A finite type whose values are written by name. -/
class Named (α : Type) where
  /-- Every value, in declared order. -/
  all : List α
  /-- The written form of a value. -/
  name : α → String
  mem_all : ∀ a, a ∈ all
  name_injective : ∀ a b, name a = name b → a = b

namespace Named

variable {α : Type} [Named α]

/-- The value that a text names. -/
def ofName? (text : String) : Option α :=
  all.find? fun a => name a == text

/-- What reads back has the name that was read. -/
theorem name_of_ofName? {text : String} {a : α} (h : ofName? text = some a) : name a = text := by
  simpa using List.find?_some h

/-- The name of a value reads back as that value. -/
@[simp] theorem ofName?_name (a : α) : ofName? (name a) = some a := by
  unfold ofName?
  cases h : all.find? fun b : α => name b == name a with
  | none => simpa using List.find?_eq_none.1 h a (mem_all a)
  | some b => rw [name_injective b a (by simpa using List.find?_some h)]

/-- A text names a value exactly when it is that value's name. -/
theorem ofName?_eq_some_iff {text : String} {a : α} : ofName? text = some a ↔ name a = text :=
  ⟨name_of_ofName?, fun h => h ▸ ofName?_name a⟩

end Named

end WastePickup
