import WastePickup.Proofs.Orders

/-!
# The history tells the whole story

The status of a booking stands in the row of the booking, and its history in a table of its own.
Both are written by the same commits, so that the history never misses a move and never invents one.

* `Status.Path`: status changes that follow each other without a gap, each along the table.
* `Status.Path.nodup`: a path never comes back, since every move leads to a later status.
* `history_is_path`: along any run, the entries that are added for a booking lead from where it
  stood at the beginning, or from `CREATED` if it was not there yet, to where it stands at the end.
-/

namespace WastePickup

/-! ## Moves lead on -/

/-- How late in its life a booking has a status. -/
def Status.rank : Status → Nat
  | created => 0
  | assigned => 1
  | inProgress => 2
  | collected => 3
  | completed => 4
  | cancelled => 5
  | refunded => 6

/-- Every row of the table leads to a later status, or is a row that does not move. -/
theorem Rule.rank_lt (role : Role) (action : Action) :
    ∀ rule ∈ Rule.of role action, ∀ source ∈ rule.sources,
      source ≠ rule.target → source.rank < rule.target.rank := by
  cases role <;> cases action <;> simp [Rule.of, Status.rank]

/-- A move that leaves its source leads to a later status. -/
theorem Move.Lawful.rank_lt {m : Move} (h : m.Lawful) (changed : m.source ≠ m.target) :
    m.source.rank < m.target.rank := by
  obtain ⟨rule, hr, hmem, ht⟩ := h
  rw [ht] at changed ⊢
  exact Rule.rank_lt m.role m.action rule hr m.source hmem changed

/-- The move that an entry of the history records. -/
def HistoryEntry.move (e : HistoryEntry) : Move :=
  ⟨e.source, e.target, e.action, e.role⟩

/-! ## Paths -/

/-- Entries that lead from one status to another: each begins where the one before it ended, is a
move along the table, and leaves its source. -/
inductive Status.Path : Status → List HistoryEntry → Status → Prop where
  | refl (status : Status) : Path status [] status
  | step {e : HistoryEntry} {rest : List HistoryEntry} {final : Status} (lawful : e.move.Lawful)
      (changed : e.source ≠ e.target) (path : Path e.target rest final) :
      Path e.source (e :: rest) final

namespace Status.Path

variable {start middle final : Status} {first second : List HistoryEntry}

/-- Two paths that meet are one path. -/
theorem append (h : Path start first middle) (h' : Path middle second final) :
    Path start (first ++ second) final := by
  induction h with
  | refl status => exact h'
  | step lawful changed _ ih => exact .step lawful changed (ih h')

/-- Every entry of a path is a move along the table that leaves its source. -/
theorem lawful (h : Path start first final) :
    ∀ e ∈ first, e.move.Lawful ∧ e.source ≠ e.target := by
  induction h with
  | refl status => simp
  | @step e rest final lawful changed _ ih =>
    intro e' he'
    rcases List.mem_cons.1 he' with rfl | he'
    · exact ⟨lawful, changed⟩
    · exact ih e' he'

/-- All statuses that a path leads to are later than the one it starts from. -/
theorem rank_lt (h : Path start first final) : ∀ e ∈ first, start.rank < e.target.rank := by
  induction h with
  | refl status => simp
  | @step e rest final lawful changed _ ih =>
    have hlt : e.source.rank < e.target.rank := Move.Lawful.rank_lt lawful changed
    intro e' he'
    rcases List.mem_cons.1 he' with rfl | he'
    · exact hlt
    · exact Nat.lt_trans hlt (ih e' he')

/-- A path never comes back: its statuses are pairwise distinct. -/
theorem nodup (h : Path start first final) : (start :: first.map HistoryEntry.target).Nodup := by
  induction h with
  | refl status => simp
  | @step e rest final lawful changed path ih =>
    refine List.nodup_cons.2 ⟨?_, ih⟩
    intro hmem
    obtain ⟨e', he', hsource⟩ := List.mem_map.1 hmem
    have hlt := (Path.step lawful changed path).rank_lt e' he'
    rw [hsource] at hlt
    exact Nat.lt_irrefl _ hlt

end Status.Path

/-- The entry of a piece of work leads from the status that the booking had to the one that it
has. -/
theorem Writes.Follows.path {w : Writes} {actor : Actor} {p : Progress} (h : w.Follows actor p)
    {start : Status} (known : p.status? = some start) {id booking : Int} {now : Instant} :
    ∃ final, w.progress.status? = some final ∧
      Status.Path start (w.entries id booking now actor) final := by
  unfold entries
  have hstays := h.status_of_stays
  cases h with
  | stays move status =>
    refine ⟨start, (hstays move).trans known, ?_⟩
    rw [move]
    exact .refl start
  | moves m move lawful role source changed target =>
    have hm : start = m.source := Option.some.inj (known.symm.trans source)
    refine ⟨m.target, by rw [Progress.status?, target, Status.ofStored?_name], ?_⟩
    rw [move, hm]
    exact .step (e := ⟨_, _, m.source, m.target, m.action, _, m.role, _⟩) lawful changed
      (.refl m.target)

/-! ## Where a booking stands -/

/-- Where a booking stands. One that is not there yet stands at the beginning. -/
def Store.standing? (s : Store) (booking : Int) : Option Status :=
  match s.bookings.find? booking with
  | none => some .created
  | some b => b.status?

/-- What `added` has to be for the history of `t` to go on from that of `s`: it comes behind all
older entries, under greater and greater numbers, and its entries for the booking lead from where
the booking stood to where it stands. -/
structure Store.GoesOn (booking : Int) (s t : Store) (added : List HistoryEntry) : Prop where
  rows : t.history.rows = s.history.rows ++ added
  newer : ∀ old ∈ s.history.rows, ∀ new ∈ added, old.id < new.id
  increasing : added.Pairwise fun a b => a.id < b.id
  path : ∀ start, s.standing? booking = some start →
    ∃ final, t.standing? booking = some final ∧
      Status.Path start (added.filter fun e => e.booking = booking) final

namespace Store.GoesOn

variable {booking : Int} {s t u : Store} {added more : List HistoryEntry}

/-- Where neither the history nor the standing of the booking changes, nothing is added. -/
theorem of_eq (rows : t.history.rows = s.history.rows)
    (standing : t.standing? booking = s.standing? booking) : s.GoesOn booking t [] where
  rows := by rw [rows, List.append_nil]
  newer := by simp
  increasing := .nil
  path start h := ⟨start, standing.trans h, .refl start⟩

/-- Two parts of a history are one. -/
theorem trans (h : s.GoesOn booking t added) (h' : t.GoesOn booking u more) :
    s.GoesOn booking u (added ++ more) where
  rows := by rw [h'.rows, h.rows, List.append_assoc]
  newer old hold new hnew := by
    rcases List.mem_append.1 hnew with hnew | hnew
    · exact h.newer old hold new hnew
    · exact h'.newer old (by rw [h.rows]; exact List.mem_append_left _ hold) new hnew
  increasing := by
    refine List.pairwise_append.2 ⟨h.increasing, h'.increasing, fun a ha b hb => ?_⟩
    exact h'.newer a (by rw [h.rows]; exact List.mem_append_right _ ha) b hb
  path start hs := by
    obtain ⟨middle, hm, hp⟩ := h.path start hs
    obtain ⟨final, hf, hp'⟩ := h'.path middle hm
    refine ⟨final, hf, ?_⟩
    rw [List.filter_append]
    exact hp.append hp'

end Store.GoesOn

/-! ## One change -/

namespace Store

variable {s t : Store} {now : Instant} {actor : Actor}

/-- After a commit, the booking that was worked on stands where the work has put it. -/
theorem standing?_commit_self {booking : Int} {b : Booking} {w : Writes}
    (found : s.bookings.find? booking = some b) :
    (s.commit now actor b w).standing? booking = w.progress.status? := by
  rw [standing?, find?_commit_self found]
  exact Booking.advance_status? now b w.progress w.rounded

/-- A commit adds the move of its work to the history, and the booking goes where the move goes. -/
theorem goesOn_commit {booking : Int} {b : Booking} {w : Writes}
    (found : s.bookings.find? b.id = some b) (follows : w.Follows actor b.progress) :
    s.GoesOn booking (s.commit now actor b w) (w.entries s.history.nextId b.id now actor) where
  rows := commit_history s now actor b w
  newer old hold new hnew := by
    rw [(Writes.mem_entries hnew).1]
    exact Table.lt_nextId hold
  increasing := Writes.pairwise_entries
  path start hstart := by
    by_cases hb : booking = b.id
    · -- The booking that was worked on: its own move is the path.
      rw [standing?, hb, found] at hstart
      rw [hb, standing?_commit_self found, Writes.filter_entries_self]
      exact follows.path hstart
    · -- Any other booking: it stays where it is, and the entry is not its own.
      refine ⟨start, ?_, ?_⟩
      · rw [standing?, find?_commit_of_ne hb]
        exact hstart
      · rw [Writes.filter_entries_of_ne hb]
        exact .refl start

/-- New bookings stand at the beginning, where they stood before they were there. -/
theorem standing?_grows {more : List Booking} (booking : Int) (h : s.Grows t more)
    (fresh : ∀ b ∈ more, ∃ category, b.progress = freshProgress category) :
    t.standing? booking = s.standing? booking := by
  unfold standing?
  rw [h.find?_eq booking]
  cases s.bookings.find? booking with
  | some b => rfl
  | none =>
    cases hb : (⟨more⟩ : Table Booking).find? booking with
    | none => rfl
    | some b =>
      obtain ⟨category, hp⟩ := fresh b (Table.mem_of_find? hb)
      change b.progress.status? = some .created
      rw [hp]
      exact Status.ofStored?_name .created

/-- Whatever changes, the history goes on. -/
theorem Change.goesOn (h : s.Change now actor t) (booking : Int) :
    ∃ added, s.GoesOn booking t added := by
  rcases h.worked_or_grows with ⟨b, w, found, worked, rfl⟩ | ⟨more, grows, fresh⟩
  · exact ⟨_, goesOn_commit found worked.follows⟩
  · exact ⟨[], .of_eq (by rw [grows.history]) (standing?_grows booking grows fresh)⟩

end Store

/-! ## Runs -/

/-- Along any run without a filling of the store, the history goes on. -/
theorem Service.run_goesOn (service : Service) (steps : List Step)
    (unseeded : ∀ s ∈ steps, s.event ≠ .seed) (booking : Int) :
    ∃ added, service.world.store.GoesOn booking (service.run steps).world.store added := by
  refine run_induction (R := fun s t => ∃ added, s.GoesOn booking t added) ?_ ?_ steps ?_ service
  · exact fun s => ⟨[], .of_eq rfl rfl⟩
  · rintro s t u ⟨added, h⟩ ⟨more, h'⟩
    exact ⟨added ++ more, h.trans h'⟩
  · intro s hs service
    rcases service.step_change s with h | ⟨actor, -, h⟩ | ⟨hseed, -⟩
    · exact ⟨[], .of_eq (by rw [h]) (by rw [h])⟩
    · exact h.goesOn booking
    · exact absurd hseed (unseeded s hs)

/-- The history of a booking leads, without a gap and along the table, from where the booking stood
before a run to where it stands after it, and no status is reached twice. -/
theorem history_is_path (service : Service) (steps : List Step)
    (unseeded : ∀ s ∈ steps, s.event ≠ .seed) (booking : Int) (start : Status)
    (known : service.world.store.standing? booking = some start) :
    ∃ added final,
      (service.run steps).world.store.historyOf booking =
          service.world.store.historyOf booking ++ added ∧
        (added.Pairwise fun a b => a.id < b.id) ∧
        (∀ old ∈ service.world.store.history.rows, ∀ new ∈ added, old.id < new.id) ∧
        (service.run steps).world.store.standing? booking = some final ∧
        Status.Path start added final ∧
        (∀ e ∈ added, e.move.Lawful ∧ (e.role = .admin ∨ e.role = .driver) ∧
          e.source ≠ e.target) ∧
        (start :: added.map HistoryEntry.target).Nodup := by
  obtain ⟨added, h⟩ := service.run_goesOn steps unseeded booking
  obtain ⟨final, hfinal, path⟩ := h.path start known
  refine ⟨_, final, ?_, h.increasing.filter _, ?_, hfinal, path, ?_, path.nodup⟩
  · rw [Store.historyOf, h.rows, List.filter_append]
    rfl
  · exact fun old hold new hnew => h.newer old hold new (List.mem_filter.1 hnew).1
  · intro e he
    obtain ⟨lawful, changed⟩ := path.lawful e he
    exact ⟨lawful, lawful.role, changed⟩

/-- A booking under an older name is assigned, started and cancelled by its driver. -/
theorem history_of_cancelled_duty :
    let service := Service.single ⟨"SCHEDULED", none, 1, none, none, none, none⟩
    let steps : List Step :=
      [⟨⟨1⟩, ⟨1⟩, .act ⟨3, .superAdmin⟩ 1 .assign ⟨some 7, none, none, none, none⟩⟩,
        ⟨⟨2⟩, ⟨2⟩, .act ⟨7, .driver⟩ 1 .start .none⟩,
        ⟨⟨3⟩, ⟨3⟩, .act ⟨7, .driver⟩ 1 .cancel .none⟩]
    ∃ added final,
      (service.run steps).world.store.historyOf 1 = added ∧
        added.map HistoryEntry.target = [.assigned, .inProgress, .cancelled] ∧
        (service.run steps).world.store.standing? 1 = some final ∧
        Status.Path .created added final ∧ (.created :: added.map HistoryEntry.target).Nodup := by
  intro service steps
  obtain ⟨added, final, hadded, -, -, hfinal, path, -, nodup⟩ :=
    history_is_path service steps (by simp [steps]) 1 .created (by decide)
  have htargets : ((service.run steps).world.store.historyOf 1).map HistoryEntry.target =
      [.assigned, .inProgress, .cancelled] := by decide
  refine ⟨added, final, hadded, ?_, hfinal, path, nodup⟩
  rw [← htargets, hadded]
  rfl

end WastePickup
