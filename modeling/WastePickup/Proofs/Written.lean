import WastePickup.Booking.Update
import WastePickup.Number.Equal

/-!
# Writing again what has been written

What has been written is there: a number that is written over another is afterwards equal to the
one that was to be written, unless it is not a number, which is stored as none. So work that comes
to the same once more finds no column that changes, and the tables stay as they are.

* `sameFloat_ontoFloat`: a number that has been written is there.
* `Progress.settled_onto_same`: what has been written does not depend on what was there.
* `Store.commit_again`: work that writes what is there leaves the tables.
-/

namespace WastePickup

/-! ## Numbers -/

/-- To be the same stored number goes both ways. -/
theorem sameFloat_symm {x y : Option Float} (h : sameFloat x y = true) : sameFloat y x = true := by
  cases x with
  | none =>
    cases y with
    | none => rfl
    | some b => cases h
  | some a =>
    cases y with
    | none => cases h
    | some b =>
      simp only [sameFloat, Bool.or_eq_true, decide_eq_true_eq] at h ⊢
      exact h.imp Eq.symm Number.beq_symm

/-- Two stored numbers that are the same as a third are the same. -/
theorem sameFloat_trans {x y z : Option Float} (h : sameFloat x y = true)
    (h' : sameFloat y z = true) : sameFloat x z = true := by
  cases y with
  | none =>
    cases x with
    | none => exact h'
    | some a => cases h
  | some b =>
    cases x with
    | none => cases h
    | some a =>
      cases z with
      | none => cases h'
      | some c =>
        simp only [sameFloat, Bool.or_eq_true, decide_eq_true_eq] at h h' ⊢
        rcases h with rfl | h
        · exact h'
        · rcases h' with rfl | h'
          · exact .inr h
          · exact .inr (Number.beq_trans h h')

/-- What is stored of a number equals it. -/
theorem sameFloat_storedFloat {x : Float} (hx : x.isNaN = false) :
    sameFloat (storedFloat x) (some x) = true := by
  unfold storedFloat
  rw [Number.bne_self, hx]
  by_cases hzero : (x == 0.0) = true
  · have heq : ((0.0 : Float) == x) = true := Number.beq_symm hzero
    simp [hzero, sameFloat, heq]
  · simp [hzero]

/-- What is stored of a number is the same as the number. -/
theorem sameFloat_storedFloat?_self {x : Option Float} (numbers : ∀ y ∈ x, y.isNaN = false) :
    sameFloat (storedFloat? x) x = true := by
  cases x with
  | none => rfl
  | some y => exact sameFloat_storedFloat (numbers y rfl)

/-- A number that has been written is there, whatever was there before. -/
theorem sameFloat_ontoFloat (old : Option Float) {x : Float} (hx : x.isNaN = false) :
    sameFloat (ontoFloat old (some x)) (some x) = true := by
  unfold ontoFloat
  split
  · assumption
  · exact sameFloat_storedFloat hx

/-- A number that takes the place of what would be left, if there is one, is there, and so is what
is left. -/
theorem sameFloat_ontoFloat_orElse (old rest : Option Float) {new : Option Float}
    (numbers : ∀ x ∈ new, x.isNaN = false) :
    let written := ontoFloat old (new <|> rest)
    sameFloat written (new <|> written) = true := by
  cases new with
  | none => exact sameFloat_self _
  | some x => exact sameFloat_ontoFloat old (numbers x rfl)

/-- What is stored is stored once. -/
theorem storedFloat?_storedFloat (x : Float) : storedFloat? (storedFloat x) = storedFloat x := by
  unfold storedFloat
  by_cases hnan : (x != x) = true
  · simp [hnan, storedFloat?]
  · by_cases hzero : (x == 0.0) = true
    · rw [if_neg hnan, if_pos hzero]
      rfl
    · rw [if_neg hnan, if_neg hzero]
      simp [storedFloat?, storedFloat, hnan, hzero]

/-- What equals a number is stored as what equals it. -/
theorem sameFloat_storedFloat? {x y : Option Float} (h : sameFloat x y = true) :
    sameFloat (storedFloat? x) (storedFloat? y) = true := by
  cases x with
  | none =>
    cases y with
    | none => rfl
    | some b => cases h
  | some a =>
    cases y with
    | none => cases h
    | some b =>
      have hab := h
      simp only [sameFloat, Bool.or_eq_true, decide_eq_true_eq] at hab
      rcases hab with rfl | hab
      · exact sameFloat_self _
      · have ha := sameFloat_storedFloat (Number.isNaN_of_beq hab)
        have hb := sameFloat_storedFloat (Number.isNaN_of_beq (Number.beq_symm hab))
        exact sameFloat_trans ha (sameFloat_trans h (sameFloat_symm hb))

/-- What is there after a number has been written is stored as the number is, whatever was there
before. -/
theorem sameFloat_stored_ontoFloat (old new : Option Float) :
    sameFloat (storedFloat? (ontoFloat old new)) (storedFloat? new) = true := by
  unfold ontoFloat
  split
  · rename_i hsame
    exact sameFloat_storedFloat? hsame
  · cases new with
    | none => rfl
    | some x =>
      show sameFloat (storedFloat? (storedFloat x)) (storedFloat x) = true
      rw [storedFloat?_storedFloat]
      exact sameFloat_self _

/-- What has been written over two progresses is stored alike. -/
theorem Progress.settled_onto_same (new old old' : Progress) :
    (new.onto old).settled.same (new.onto old').settled = true := by
  have hweight := sameFloat_trans (sameFloat_stored_ontoFloat old.weight new.weight)
    (sameFloat_symm (sameFloat_stored_ontoFloat old'.weight new.weight))
  have hamount := sameFloat_trans (sameFloat_stored_ontoFloat old.amount new.amount)
    (sameFloat_symm (sameFloat_stored_ontoFloat old'.amount new.amount))
  simp only [same, settled, onto, hweight, hamount, decide_true, Bool.and_true]

/-! ## Rows -/

/-- A row is put in place once. -/
theorem Table.replace_replace {α : Type} [Row α] (t : Table α) (row : α) :
    (t.replace row).replace row = t.replace row := by
  simp only [replace, List.map_map]
  congr 1
  refine List.map_congr_left fun old _ => ?_
  by_cases h : Row.id old = Row.id row
  · simp [h]
  · simp [h]

/-- The bands are those of the price rows. -/
theorem Store.band?_of_pricing {s t : Store} (pricing : t.pricing = s.pricing) (category : Int) :
    t.band? category = s.band? category := by
  rw [band?, band?, pricing?, pricing?, pricing]

/-- Where a booking has been worked on, work that writes what is there, and neither a driver nor a
move, leaves the tables. -/
theorem Store.commit_again {s : Store} {now now' : Instant} {actor actor' : Actor} {b : Booking}
    {w w' : Writes} (same : (w.progress.onto b.progress).same w'.progress = true)
    (exactly : w'.rounded = false) (driver : w'.driver = none) (move : w'.move = none) :
    let t := s.commit now actor b w
    t.commit now' actor' (b.advance now w.progress w.rounded) w' = t := by
  intro t
  have hsame : (b.advance now w.progress w.rounded).progress.same w'.progress = true := by
    rw [Booking.advance_progress]
    exact same
  have hrow : (b.advance now w.progress w.rounded).advance now' w'.progress w'.rounded =
      b.advance now w.progress w.rounded := by
    rw [exactly, Booking.advance_of_same hsame]
  have hbookings : t.bookings.replace (b.advance now w.progress w.rounded) = t.bookings := by
    rw [show t.bookings = _ from s.commit_bookings now actor b w, Table.replace_replace]
  simp only [commit, driver, move, hrow]
  rw [hbookings]

end WastePickup
