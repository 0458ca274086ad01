/-!
# Tables

A table is a list of rows, each of which carries a number that identifies it. Rows are found by
number, replaced in place, and added at the end under the next free number.

* `find?_replace`: after a replacement, the row of that number is the new one and all others are
  the old ones.
* `find?_rows_append`: rows that are added at the end are found only where there was none before.
* `lt_nextId`: the next free number is above all numbers in use.
-/

namespace WastePickup

/-- Rows that carry an identifying number. -/
class Row (α : Type) where
  id : α → Int

/-- A list of rows. -/
structure Table (α : Type) where
  rows : List α
  deriving DecidableEq

namespace Table

variable {α : Type} [Row α]

/-- No rows. -/
def empty : Table α := ⟨[]⟩

/-- The row of a number. -/
def find? (t : Table α) (id : Int) : Option α :=
  t.rows.find? fun row => Row.id row = id

/-- Put a row in place of the one with its number, if there is one. -/
def replace (t : Table α) (row : α) : Table α :=
  ⟨t.rows.map fun old => if Row.id old = Row.id row then row else old⟩

/-- Add a row at the end. -/
def append (t : Table α) (row : α) : Table α :=
  ⟨t.rows ++ [row]⟩

/-- The number after the greatest one in use; the first row has the number one. -/
def nextId (t : Table α) : Int :=
  match (t.rows.map Row.id).max? with
  | some greatest => greatest + 1
  | none => 1

/-- A row that is found is in the table. -/
theorem mem_of_find? {t : Table α} {id : Int} {row : α} (h : t.find? id = some row) :
    row ∈ t.rows :=
  List.mem_of_find?_eq_some h

/-- A row that is found carries the number it was looked for under. -/
theorem id_of_find? {t : Table α} {id : Int} {row : α} (h : t.find? id = some row) :
    Row.id row = id := by
  simpa [find?] using List.find?_some h

/-- The next free number is above all numbers in use. -/
theorem lt_nextId {t : Table α} {row : α} (h : row ∈ t.rows) : Row.id row < t.nextId := by
  have hm : Row.id row ∈ t.rows.map Row.id := List.mem_map_of_mem h
  unfold nextId
  split
  · rename_i greatest hg
    have hle := (List.max?_eq_some_iff.1 hg).2 (Row.id row) hm
    omega
  · rename_i hn
    simp [List.max?_eq_none_iff.1 hn] at hm

/-- After a replacement, the row of that number is the new one and all others are the old ones. -/
theorem find?_replace (t : Table α) (row : α) (id : Int) :
    (t.replace row).find? id =
      if id = Row.id row then (t.find? id).map fun _ => row else t.find? id := by
  obtain ⟨rows⟩ := t
  simp only [find?, replace]
  induction rows with
  | nil => simp
  | cons old rest ih =>
    by_cases ho : Row.id old = Row.id row
    · by_cases hi : id = Row.id row
      · subst hi; simp [ho]
      · have hne : ¬Row.id row = id := fun h => hi h.symm
        simp only [List.map_cons, ho, if_true, List.find?_cons, hne, decide_false, hi, if_false]
        simpa [hi] using ih
    · by_cases hold : Row.id old = id
      · have hi : ¬id = Row.id row := fun h => ho (hold.trans h)
        simp [hold, hi]
      · simpa [ho, hold] using ih

/-- Rows that are added at the end are found only where there was none before. -/
theorem find?_rows_append (t : Table α) (more : List α) (id : Int) :
    (⟨t.rows ++ more⟩ : Table α).find? id = (t.find? id).or ((⟨more⟩ : Table α).find? id) := by
  simp [find?, List.find?_append]

end Table

end WastePickup
