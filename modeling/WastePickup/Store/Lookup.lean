import WastePickup.Number.Given
import WastePickup.Refusal
import WastePickup.Store

/-!
# Looking up rows for a request

A number that a request gives has to fit a column before a row is looked for under it; the work on a
request with a greater number breaks down there.

* `lookUp_eq_ok_iff`: a look-up answers exactly for the numbers that fit, with what is stored.
* `requireAllFit_eq_ok_iff`: several numbers can be put to the store if each of them can.
-/

namespace WastePickup

/-- A number that is put to the store has to fit a column. -/
def requireFits (n : Int) : Except Refusal Unit :=
  if Number.fits64 n then .ok () else .error (.broken .numberTooLarge)

/-- A number may be put to the store exactly when it fits into 64 bits. -/
theorem requireFits_eq_ok_iff {n : Int} : requireFits n = .ok () ↔ Number.fits64 n = true := by
  unfold requireFits
  split <;> simp_all

/-- A number that may not be put to the store is too large. -/
theorem requireFits_eq_error {n : Int} {refusal : Refusal} (h : requireFits n = .error refusal) :
    refusal = .broken .numberTooLarge := by
  unfold requireFits at h
  split at h
  · cases h
  · cases h
    rfl

/-- All numbers that are put to the store have to fit. -/
def requireAllFit (ns : List Int) : Except Refusal Unit :=
  if ns.all Number.fits64 then .ok () else .error (.broken .numberTooLarge)

/-- Several numbers can be put to the store if each of them can. -/
theorem requireAllFit_eq_ok_iff {ns : List Int} :
    requireAllFit ns = .ok () ↔ ∀ n ∈ ns, Number.fits64 n = true := by
  rw [← List.all_eq_true]
  unfold requireAllFit
  split
  · rename_i hfit
    exact ⟨fun _ => hfit, fun _ => rfl⟩
  · rename_i hfit
    exact ⟨fun h => (by cases h), fun h => absurd h hfit⟩

/-- Numbers break down together if one of them does not fit. -/
theorem requireAllFit_of_not_fit {ns : List Int}
    (exceeds : ¬∀ n ∈ ns, Number.fits64 n = true) :
    requireAllFit ns = .error (.broken .numberTooLarge) := by
  rw [← List.all_eq_true] at exceeds
  exact if_neg exceeds

/-- The row of a number that a request gives. -/
def Table.lookUp {α : Type} [Row α] (t : Table α) (id : Int) : Except Refusal (Option α) :=
  match requireFits id with
  | .error refusal => .error refusal
  | .ok () => .ok (t.find? id)

/-- A look-up answers exactly for the numbers that fit, with what is stored. -/
theorem Table.lookUp_eq_ok_iff {α : Type} [Row α] {t : Table α} {id : Int} {found : Option α} :
    t.lookUp id = .ok found ↔ Number.fits64 id = true ∧ t.find? id = found := by
  unfold Table.lookUp requireFits
  split
  · rename_i h
    split at h <;> simp_all
  · rename_i h
    split at h <;> simp_all

/-- A number that fits is looked up in the rows. -/
theorem Table.lookUp_of_fits {α : Type} [Row α] {t : Table α} {id : Int}
    (fits : Number.fits64 id = true) : t.lookUp id = .ok (t.find? id) :=
  lookUp_eq_ok_iff.2 ⟨fits, rfl⟩

/-- The look-up of a number that does not fit breaks down. -/
theorem Table.lookUp_of_not_fits {α : Type} [Row α] {t : Table α} {id : Int}
    (exceeds : ¬Number.fits64 id = true) : t.lookUp id = .error (.broken .numberTooLarge) := by
  unfold lookUp requireFits
  rw [if_neg exceeds]

/-- A look-up that breaks down was given a number that does not fit. -/
theorem Table.lookUp_eq_error {α : Type} [Row α] {t : Table α} {id : Int} {refusal : Refusal}
    (h : t.lookUp id = .error refusal) : refusal = .broken .numberTooLarge := by
  unfold lookUp at h
  split at h
  · rename_i hfits
    cases h
    exact requireFits_eq_error hfits
  · cases h

end WastePickup
