import WastePickup.Booking.Update

/-!
# Work under an older name

A row may hold its status under an older name. The canonical form of a booking has the status under
its present name, and the plain form also forgets when the booking was last updated.

* `perform_canonical`, `adminWork_canonical`: work on the canonical form of a booking is turned down
  for the same reason, or gives the canonical form of the same writes.
* `Booking.plain_advance`: what is written to a plain form has the plain form of what is written.
-/

namespace WastePickup

/-! ## Chains of steps -/

/-- To change the result of a chain is to change the result of its last step. -/
theorem map_bind {ε α β γ : Type} (x : Except ε α) (f : α → Except ε β) (g : β → γ) :
    (x >>= f).map g = x >>= fun a => (f a).map g := by
  cases x with
  | error e => rfl
  | ok a => rfl

/-- A step may be given a changed result. -/
theorem bind_map {ε α β γ : Type} (x : Except ε α) (g : α → β) (f : β → Except ε γ) :
    (x.map g >>= f) = x >>= fun a => f (g a) := by
  cases x with
  | error e => rfl
  | ok a => rfl

/-- Two results that are the same once they are changed stay so along a step that admits the
change. -/
theorem map_bind_congr {ε α β : Type} {x y : Except ε α} {g : α → α} {f : α → Except ε β}
    {k : β → β} (hf : ∀ a, (f a).map k = f (g a)) (h : x.map g = y.map g) :
    (x >>= f).map k = (y >>= f).map k := by
  simp only [map_bind, hf]
  rw [← bind_map x g f, ← bind_map y g f, h]

/-- Two results that agree up to one function agree up to another if the first is seen through the
second. -/
theorem map_map_congr {ε α β : Type} {x y : Except ε α} {g : α → α} {f : α → β} {k : β → β}
    (hf : ∀ a, k (f a) = f (g a)) (h : x.map g = y.map g) :
    (x.map f).map k = (y.map f).map k := by
  have hmap : ∀ z : Except ε α, (z.map f).map k = (z.map g).map f := by
    intro z
    cases z with
    | error e => rfl
    | ok a => exact congrArg Except.ok (hf a)
  rw [hmap, hmap, h]

/-! ## Present names -/

/-- The present name of a stored status; a text that is no status is kept. -/
def Status.presentText (text : String) : String :=
  match ofStored? text with
  | some status => status.name
  | none => text

namespace Status

/-- A text and its present form are read alike. -/
@[simp] theorem ofStored?_presentText (text : String) :
    ofStored? (presentText text) = ofStored? text := by
  unfold presentText
  cases h : ofStored? text with
  | none => exact h
  | some status => exact ofStored?_name status

/-- A present name is kept. -/
@[simp] theorem presentText_name (status : Status) : presentText status.name = status.name := by
  simp [presentText]

example : presentText "SCHEDULED" = "CREATED" ∧ presentText "PAID" = "COLLECTED" := by decide

/-- A text that is no status is kept. -/
theorem presentText_of_none {text : String} (h : ofStored? text = none) :
    presentText text = text := by
  simp [presentText, h]

/-- A text is brought into its present form once. -/
@[simp] theorem presentText_presentText (text : String) :
    presentText (presentText text) = presentText text := by
  cases h : ofStored? text with
  | none => rw [presentText_of_none h, presentText_of_none h]
  | some status => simp [presentText, h]

/-- The stored names of a status are the texts that are read as it. -/
theorem any_aliases_eq (status : Status) (text : String) :
    (status.aliases.any fun s => s.name = text) = decide (ofStored? text = some status) := by
  rw [Bool.eq_iff_iff, decide_eq_true_eq, List.any_eq_true]
  constructor
  · rintro ⟨s, hs, hname⟩
    have hread : (Named.ofName? text : Option StoredStatus) = some s :=
      Named.ofName?_eq_some_iff.2 (of_decide_eq_true hname)
    rw [ofStored?, hread, Option.map_some, mem_aliases_iff.1 hs]
  · intro h
    obtain ⟨s, hread, hs⟩ := Option.map_eq_some_iff.1 h
    exact ⟨s, mem_aliases_iff.2 hs, decide_eq_true (Named.name_of_ofName? hread)⟩

end Status

/-! ## Plain forms -/

/-- A progress with its status under its present name. -/
def Progress.canonical (p : Progress) : Progress :=
  { p with status := Status.presentText p.status }

/-- A booking with its status under its present name. -/
def Booking.canonical (b : Booking) : Booking :=
  { b with progress := b.progress.canonical }

/-- A booking with its status under its present name and without the time of its last update. -/
def Booking.plain (b : Booking) : Booking :=
  { b.canonical with updatedAt := ⟨0⟩ }

/-- A table with all its rows changed. -/
def Table.map {α : Type} (f : α → α) (t : Table α) : Table α :=
  ⟨t.rows.map f⟩

/-- A store with all bookings in their plain form. -/
def Store.plain (s : Store) : Store :=
  { s with bookings := s.bookings.map Booking.plain }

/-- Writes with their status under its present name. -/
def Writes.canonical (w : Writes) : Writes :=
  { w with progress := w.progress.canonical }

namespace Table

variable {α : Type} [Row α] {f : α → α}

/-- In a table whose rows change but keep their numbers, the changed row is found. -/
theorem find?_map (hf : ∀ row, Row.id (f row) = Row.id row) (t : Table α) (id : Int) :
    (t.map f).find? id = (t.find? id).map f := by
  unfold find? map
  rw [List.find?_map]
  congr 2
  funext row
  simp [hf row]

/-- So it is where a row is looked up. -/
theorem lookUp_map (hf : ∀ row, Row.id (f row) = Row.id row) (t : Table α) (id : Int) :
    (t.map f).lookUp id = (t.lookUp id).map (Option.map f) := by
  unfold lookUp
  cases requireFits id with
  | error refusal => rfl
  | ok fits => exact congrArg Except.ok (find?_map hf t id)

/-- The next free number stays. -/
theorem nextId_map (hf : ∀ row, Row.id (f row) = Row.id row) (t : Table α) :
    (t.map f).nextId = t.nextId := by
  have hids : (t.map f).rows.map Row.id = t.rows.map Row.id := by
    unfold map
    rw [List.map_map]
    exact List.map_congr_left fun row _ => hf row
  unfold nextId
  rw [hids]

omit [Row α] in
/-- Two changes of all rows are one. -/
theorem map_map (g : α → α) (t : Table α) : (t.map f).map g = t.map (g ∘ f) := by
  simp [map]

omit [Row α] in
/-- Adding a row and changing all rows is adding the changed row. -/
theorem map_append (t : Table α) (row : α) : (t.append row).map f = (t.map f).append (f row) := by
  simp [map, append]

/-- So it is where a row is replaced. -/
theorem map_replace (hf : ∀ row, Row.id (f row) = Row.id row) (t : Table α) (row : α) :
    (t.replace row).map f = (t.map f).replace (f row) := by
  unfold map replace
  simp only [List.map_map]
  congr 1
  refine List.map_congr_left fun old _ => ?_
  simp only [Function.comp_apply, hf]
  split
  · rfl
  · rfl

end Table

namespace Progress

variable (p : Progress)

/-- A progress reads as the same status in its canonical form. -/
@[simp] theorem status?_canonical : p.canonical.status? = p.status? :=
  Status.ofStored?_presentText p.status

/-- The canonical form is its own canonical form. -/
@[simp] theorem canonical_canonical : p.canonical.canonical = p.canonical := by
  simp only [canonical, Status.presentText_presentText]

/-- Writing over a progress goes column by column. -/
theorem onto_canonical (q : Progress) : p.canonical.onto q.canonical = (p.onto q).canonical := rfl

/-- A progress whose text is no status is its own canonical form. -/
theorem canonical_of_none (h : p.status? = none) : p.canonical = p := by
  rw [canonical, Status.presentText_of_none h]

/-- The report of an unknown status shows the text as it is stored. -/
theorem unknownStatus_canonical (h : p.status? = none) :
    Refusal.unknownStatus p.canonical.status = .unknownStatus p.status := by
  rw [p.canonical_of_none h]

end Progress

namespace Booking

variable (b : Booking)

/-- A booking keeps the number of its row in plain form. -/
theorem row_id_plain : Row.id b.plain = Row.id b := rfl

/-- The progress of a booking in plain form is in canonical form. -/
@[simp] theorem plain_progress : b.plain.progress = b.progress.canonical := rfl

/-- A booking reads as the same status in plain form. -/
@[simp] theorem status?_plain : b.plain.status? = b.status? :=
  b.progress.status?_canonical

/-- A booking in its canonical form has the same plain form. -/
theorem plain_canonical : b.canonical.plain = b.plain := by
  simp only [plain, canonical, Progress.canonical_canonical]

/-- A plain booking is its own plain form. -/
theorem plain_comp_plain : Booking.plain ∘ Booking.plain = Booking.plain := by
  funext b
  simp only [Function.comp_apply, plain, canonical, Progress.canonical_canonical]

/-- The plain form of a booking that is written to depends on the plain form of the booking and the
canonical form of what is written. -/
theorem plain_advance (now : Instant) (p : Progress) (rounded : Bool) :
    (b.plain.advance now p.canonical rounded).plain = (b.advance now p rounded).plain := by
  simp only [plain, canonical, advance_id, advance_pickup, advance_progress,
    Progress.onto_canonical, Progress.canonical_canonical]

end Booking

/-! ## Work on a booking -/

/-- The side effects of an action, with the status under its present name. -/
def Effect.canonical (e : Effect) : Effect :=
  { e with progress := e.progress.canonical }

namespace Store

variable (s : Store) (now : Instant) (actor : Actor) (p : Progress)

/-- The plan of a move reads the status only. -/
theorem planMove_canonical (role : Role) (action : Action) :
    planMove role action p.canonical = planMove role action p := by
  unfold planMove
  rw [p.status?_canonical]
  cases h : p.status? with
  | none => rw [p.unknownStatus_canonical h]
  | some status => rfl

/-- Whether a booking is open does not depend on the name of its status. -/
theorem requireOpen_canonical (refusal : Refusal) :
    requireOpen refusal p.canonical = requireOpen refusal p := by
  unfold requireOpen
  rw [p.status?_canonical]
  cases h : p.status? with
  | none => rw [p.unknownStatus_canonical h]
  | some status => rfl

/-- What amounts are written does not depend on the name of the status. -/
theorem withAmounts_canonical (weight amount : Option Number.Given) :
    s.plain.withAmounts weight amount p.canonical =
      (s.withAmounts weight amount p).map Progress.canonical := by
  unfold withAmounts
  simp only [map_bind]
  rfl

/-- Assigning does the same under either name of the status. -/
theorem assignEffect_canonical (given : Particulars) :
    s.plain.assignEffect given p.canonical =
      (s.assignEffect given p).map Effect.canonical := by
  unfold assignEffect
  cases given.driver with
  | none => rfl
  | some driver =>
    simp only [map_bind]
    rfl

/-- Collecting does the same under either name of the status. -/
theorem collectEffect_canonical (move : Move) (given : Particulars) :
    s.plain.collectEffect move given p.canonical =
      (s.collectEffect move given p).map Effect.canonical := by
  unfold collectEffect
  cases given.weight with
  | none => rfl
  | some weight =>
    have hband : s.plain.band? (collectedCategory given p.canonical) =
        s.band? (collectedCategory given p) := rfl
    simp only [map_bind, hband]
    cases s.band? (collectedCategory given p) with
    | none => rfl
    | some band =>
      simp only [map_bind]
      rfl

/-- Completing does the same under either name of the status. -/
theorem completeEffect_canonical (given : Particulars) :
    s.plain.completeEffect now given p.canonical =
      (s.completeEffect now given p).map Effect.canonical := by
  unfold completeEffect
  rw [s.withAmounts_canonical p]
  simp only [apply_ite (Except.map Effect.canonical), map_bind, bind_map]
  rfl

/-- Cancelling does the same under either name of the status. -/
theorem cancelEffect_canonical (role : Role) (given : Particulars) :
    s.plain.cancelEffect role given p.canonical =
      (s.cancelEffect role given p).map Effect.canonical := by
  unfold cancelEffect
  simp only [map_bind]
  rfl

/-- The side effects of an action leave the status alone and do not read it. -/
theorem effect_canonical (role : Role) (move : Move) (given : Particulars) :
    s.plain.effect now role move given p.canonical =
      (s.effect now role move given p).map Effect.canonical := by
  unfold effect
  cases move.action with
  | assign => exact s.assignEffect_canonical p given
  | start => rfl
  | collect => exact s.collectEffect_canonical p move given
  | complete => exact s.completeEffect_canonical now p given
  | cancel => exact s.cancelEffect_canonical p role given
  | refund => rfl

/-- An action is taken in the same way under either name of the status. -/
theorem perform_canonical (action : Action) (given : Particulars) :
    s.plain.perform now actor action given p.canonical =
      (s.perform now actor action given p).map Writes.canonical := by
  have hdriver : p.canonical.driver = p.driver := rfl
  unfold perform
  rw [hdriver]
  split
  · rfl
  · simp only [planMove_canonical, effect_canonical, map_bind, bind_map]
    refine bind_congr fun m => bind_congr fun e => bind_congr fun _ => ?_
    -- The status that is written is the target of the move, under its present name.
    simp only [pure, Except.pure, Except.map, Writes.canonical, Progress.canonical,
      Status.presentText_name]
    rfl

/-- A driver is swapped in the same way under either name of the status. -/
theorem swapDriver_canonical (driver : Option Int) :
    s.plain.swapDriver driver p.canonical =
      (s.swapDriver driver p).map Progress.canonical := by
  unfold swapDriver
  cases driver with
  | none => rfl
  | some id =>
    simp only [requireOpen_canonical, apply_ite (Except.map Progress.canonical), map_bind]
    rfl

/-- Amounts are corrected in the same way under either name of the status. -/
theorem correctAmounts_canonical (weight amount : Option Number.Given) :
    s.plain.correctAmounts weight amount p.canonical =
      (s.correctAmounts weight amount p).map Progress.canonical := by
  unfold correctAmounts
  simp only [requireOpen_canonical, withAmounts_canonical,
    apply_ite (Except.map Progress.canonical), map_bind]
  rfl

/-- The action of an admin's update is taken in the same way under either name of the status. -/
theorem adminAction_canonical (request : AdminRequest) :
    s.plain.adminAction now actor request p.canonical =
      (s.adminAction now actor request p).map Writes.canonical := by
  unfold adminAction
  cases request.action with
  | none => rfl
  | some action => exact s.perform_canonical now actor p action _

/-- So is an update by an admin. -/
theorem adminWork_canonical (request : AdminRequest) :
    s.plain.adminWork now actor request p.canonical =
      (s.adminWork now actor request p).map Writes.canonical := by
  have hswap : ∀ w : Writes, s.plain.swapDriver request.driver w.canonical.progress =
      (s.swapDriver request.driver w.progress).map Progress.canonical :=
    fun w => s.swapDriver_canonical w.progress request.driver
  unfold adminWork
  simp only [adminAction_canonical, hswap, correctAmounts_canonical,
    apply_ite (Except.map Writes.canonical), map_bind, bind_map]
  rfl

end Store

end WastePickup
