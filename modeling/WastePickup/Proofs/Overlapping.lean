import WastePickup.Proofs.DriverRows

/-!
# Collections that overlap

A request holds the lock of its booking from the moment it reads the rows to the moment it commits
what it writes. The lock keeps others away from the booking, and from nothing else: the row of the
driver is read without a lock, and the count of his pickups is written as one more than what was
read. So where a driver collects two bookings at a time, both may have read the same count.

An update is cut into its two halves here (`World.readUpdate`, `World.commitUpdate`), and the halves
of any number of collections by one driver are put in any order (`Moment`, `Traffic.run`). A log
tells when first collections read and when they were committed. A collection is overtaken if another
one is committed between its two halves; then one of the two pickups is lost, and otherwise none is.

* `lockedUpdate_eq_halves`, `world_of_undivided`: the halves, one right after the other, are the
  update.
* `Tallies.step`: the count and the log agree after each moment, if they did before.
* `pickups_are_lost_iff_overtaken`: how far the count grows, whatever the order of the halves is.
-/

namespace WastePickup

/-! ## Updates in two halves -/

namespace World

/-- The first half of an update: take the lock, read the booking and do the work. What is to be
written is kept, with the booking as it was read; where the work is refused, the lock is released
again. -/
def readUpdate (w : World) (token : Token) (booking : Int) (work : Work) :
    World × Except Refusal (Booking × Writes) :=
  let lock := Lock.forBooking booking updateTtl token
  match w.locks.acquire lock with
  | none => (w, .error (.bookingLocked booking))
  | some taken =>
    match w.store.bookings.lookUp booking with
    | .error refusal => (⟨w.store, taken.release lock⟩, .error refusal)
    | .ok none => (⟨w.store, taken.release lock⟩, .error .bookingNotFound)
    | .ok (some b) =>
      match work w.store b.progress with
      | .error refusal => (⟨w.store, taken.release lock⟩, .error refusal)
      | .ok writes => (⟨w.store, taken⟩, .ok (b, writes))

/-- The second half: commit what is to be written and release the lock. -/
def commitUpdate (w : World) (token : Token) (now : Instant) (actor : Actor) (b : Booking)
    (writes : Writes) : World :=
  ⟨w.store.commit now actor b writes, w.locks.release (Lock.forBooking b.id updateTtl token)⟩

variable {w : World} {token : Token} {booking : Int} {work : Work}

/-- The halves, one right after the other, are the update. -/
theorem lockedUpdate_eq_halves (now : Instant) (actor : Actor) :
    w.lockedUpdate token now actor booking work =
      match w.readUpdate token booking work with
      | (next, .error refusal) => (next, .error refusal)
      | (next, .ok (b, writes)) =>
        (next.commitUpdate token now actor b writes,
          .ok (b.advance now writes.progress writes.rounded)) := by
  unfold lockedUpdate readUpdate Store.revise
  cases htaken : w.locks.acquire (Lock.forBooking booking updateTtl token) with
  | none => simp only [htaken]
  | some taken =>
    simp only [htaken]
    cases found : w.store.bookings.lookUp booking with
    | error refusal => rfl
    | ok row =>
      cases row with
      | none => rfl
      | some b =>
        have hid : b.id = booking := Table.id_of_find? (Table.lookUp_eq_ok_iff.1 found).2
        simp only
        cases work w.store b.progress with
        | error refusal => rfl
        | ok writes => simp only [commitUpdate, hid]

/-- Reading writes nothing. -/
theorem readUpdate_store : (w.readUpdate token booking work).1.store = w.store := by
  unfold readUpdate
  simp only
  split
  · rfl
  · split
    · rfl
    · rfl
    · split
      · rfl
      · rfl

/-- What is kept comes from the work on the booking that is found. -/
theorem readUpdate_eq_ok {next : World} {b : Booking} {writes : Writes}
    (h : w.readUpdate token booking work = (next, .ok (b, writes))) :
    w.store.bookings.find? booking = some b ∧ work w.store b.progress = .ok writes := by
  unfold readUpdate at h
  simp only at h
  split at h
  · cases h
  · split at h
    · cases h
    · cases h
    · rename_i found
      split at h
      · cases h
      · rename_i hwork
        cases h
        exact ⟨(Table.lookUp_eq_ok_iff.1 found).2, hwork⟩

end World

/-! ## Traffic -/

/-- A request of a driver to collect a booking. -/
structure Collection where
  token : Token
  now : Instant
  booking : Int
  given : Particulars

/-- The work of a collection by a driver. -/
def Collection.work (c : Collection) (driver : Int) : Work :=
  fun s p => s.perform c.now ⟨driver, .driver⟩ .collect c.given p

/-- A collection between its two halves, with the booking that it has read and what it is to write.
The driver's row is among this as it was read, with another availability and another count. As
collections change nothing else of it, committing the row is committing these two columns. -/
structure UnderWay where
  ticket : Nat
  collection : Collection
  row : Booking
  writes : Writes

/-- What the log tells about a first collection. -/
inductive Mark where
  | read (ticket : Nat)
  | committed (ticket : Nat)
  deriving DecidableEq

/-- One half of a collection. -/
inductive Moment where
  | reads (collection : Collection)
  | commits (ticket : Nat)

/-- The collections of a driver at one moment: the world, the tickets that were given out, what is
under way, and the log of first collections, the newest mark first. -/
structure Traffic where
  world : World
  tickets : Nat
  underWay : List UnderWay
  log : List Mark

namespace Mark

/-- Whether a collection was committed. -/
def isCommitted : Mark → Bool
  | read _ => false
  | committed _ => true

/-- How many collections were committed. -/
def collected (log : List Mark) : Nat :=
  log.countP isCommitted

/-- Whether a collection was overtaken: another one was committed after it had read, and before it
was committed itself. -/
def overtaken : List Mark → Bool
  | [] => false
  | read _ :: older => overtaken older
  | committed ticket :: older =>
    (older.takeWhile (· ≠ read ticket)).any isCommitted || overtaken older

end Mark

namespace Traffic

/-- Nothing is under way. -/
def start (w : World) : Traffic :=
  ⟨w, 0, [], []⟩

/-- One half of a collection by a driver. A collection that is refused when it reads goes no
further; the log leaves out corrections of earlier collections. -/
def step (driver : Int) (t : Traffic) : Moment → Traffic
  | .reads c =>
    match t.world.readUpdate c.token c.booking (c.work driver) with
    | (world, .error _) => { t with world }
    | (world, .ok (row, writes)) =>
      { world
        tickets := t.tickets + 1
        underWay := ⟨t.tickets, c, row, writes⟩ :: t.underWay
        log := if writes.move.isSome then .read t.tickets :: t.log else t.log }
  | .commits ticket =>
    match t.underWay.find? (·.ticket = ticket) with
    | none => t
    | some u =>
      { t with
        world := t.world.commitUpdate u.collection.token u.collection.now ⟨driver, .driver⟩ u.row
          u.writes
        underWay := t.underWay.filter (·.ticket ≠ ticket)
        log := if u.writes.move.isSome then .committed ticket :: t.log else t.log }

/-- The halves of collections by a driver, one after the other. -/
def run (driver : Int) (t : Traffic) (moments : List Moment) : Traffic :=
  moments.foldl (step driver) t

/-- A collection whose halves come one right after the other is what it is on its own. -/
theorem world_of_undivided {driver : Int} {t : Traffic}
    (fresh : ∀ u ∈ t.underWay, u.ticket < t.tickets) (c : Collection) :
    ((t.step driver (.reads c)).step driver (.commits t.tickets)).world =
      (t.world.applyAction c.token c.now ⟨driver, .driver⟩ c.booking .collect c.given).1 := by
  have happly : t.world.applyAction c.token c.now ⟨driver, .driver⟩ c.booking .collect c.given =
      t.world.lockedUpdate c.token c.now ⟨driver, .driver⟩ c.booking (c.work driver) := rfl
  rw [happly, World.lockedUpdate_eq_halves]
  unfold step
  simp only
  generalize t.world.readUpdate c.token c.booking (c.work driver) = result
  obtain ⟨world, _ | ⟨row, writes⟩⟩ := result
  · have hnone : t.underWay.find? (·.ticket = t.tickets) = none := by
      rw [List.find?_eq_none]
      intro u hu
      have hlt := fresh u hu
      rw [decide_eq_true_eq]
      omega
    simp only [hnone]
  · simp

end Traffic

/-! ## Counting -/

/-- A count that started somewhere agrees with a log: it has grown by the committed collections at
most, and by all of them exactly if none of them was overtaken. -/
structure Mark.Agrees (start count : Int) (log : List Mark) : Prop where
  le : count ≤ start + collected log
  eq_iff : count = start + collected log ↔ overtaken log = false

namespace Mark

variable {start count : Int} {ticket : Nat} {log mid old : List Mark}

/-- A count agrees with a log in which nothing stands yet. -/
theorem agrees_nil (start : Int) : Agrees start start [] := by
  refine ⟨?_, ?_⟩
  · simp [collected]
  · simp [collected, overtaken]

/-- What was read is not collected. -/
@[simp] theorem collected_read : collected (.read ticket :: log) = collected log := by
  simp [collected, isCommitted]

/-- What was committed is collected once. -/
@[simp] theorem collected_committed :
    collected (.committed ticket :: log) = collected log + 1 := by
  simp [collected, List.countP_cons, isCommitted]

/-- What is collected in two parts of a log adds up. -/
@[simp] theorem collected_append : collected (mid ++ old) = collected mid + collected old :=
  List.countP_append

/-- Reading changes neither. -/
theorem Agrees.read (h : Agrees start count log) (ticket : Nat) :
    Agrees start count (.read ticket :: log) := by
  refine ⟨?_, ?_⟩
  · rw [collected_read]
    exact h.le
  · rw [collected_read]
    exact h.eq_iff

/-- Where nothing was committed lately, nothing was overtaken lately. -/
theorem overtaken_append (quiet : ∀ mark ∈ mid, mark.isCommitted = false) :
    overtaken (mid ++ old) = overtaken old := by
  induction mid with
  | nil => rfl
  | cons mark rest ih =>
    have hrest := ih fun m hm => quiet m (List.mem_cons_of_mem _ hm)
    cases mark with
    | read ticket => exact hrest
    | committed ticket => exact absurd (quiet _ List.mem_cons_self) (by simp [isCommitted])

/-- A commit overtakes nobody and is overtaken by what was committed since it read. -/
theorem overtaken_committed (unread : .read ticket ∉ mid) :
    overtaken (.committed ticket :: (mid ++ .read ticket :: old)) = false ↔
      collected mid = 0 ∧ overtaken old = false := by
  have hsince : (mid ++ .read ticket :: old).takeWhile (· ≠ .read ticket) = mid := by
    rw [List.takeWhile_append_of_pos]
    · simp
    · intro mark hmark
      rw [decide_eq_true_eq]
      rintro rfl
      exact unread hmark
  have hquiet : mid.any isCommitted = false ↔ collected mid = 0 := by
    rw [collected, List.countP_eq_zero, List.any_eq_false]
  rw [overtaken, hsince, Bool.or_eq_false_iff, hquiet]
  constructor
  · rintro ⟨quiet, rest⟩
    refine ⟨quiet, ?_⟩
    rwa [overtaken_append, overtaken] at rest
    simpa [collected] using quiet
  · rintro ⟨quiet, rest⟩
    refine ⟨quiet, ?_⟩
    rwa [overtaken_append, overtaken]
    simpa [collected] using quiet

/-- A collection writes one more than it has read, whatever was committed since. -/
theorem Agrees.committed (h : Agrees start count old) (unread : .read ticket ∉ mid) :
    Agrees start (count + 1) (.committed ticket :: (mid ++ .read ticket :: old)) := by
  have hcollected : collected (.committed ticket :: (mid ++ .read ticket :: old)) =
      collected mid + collected old + 1 := by
    simp
  have hle := h.le
  refine ⟨?_, ?_⟩
  · rw [hcollected]
    omega
  · rw [hcollected, overtaken_committed unread, ← h.eq_iff]
    omega

end Mark

/-! ## Step by step -/

/-- The row of a driver with another availability and another count of pickups. -/
def Driver.counting (d : Driver) (status : String) (count : Int) : Driver :=
  { d with status := status, pickupCount := count }

/-- A driver whose pickups are counted keeps his number. -/
@[simp] theorem Driver.counting_id (d : Driver) (status : String) (count : Int) :
    Row.id (d.counting status count) = d.id := rfl

/-- What a collection under way is to write about a driver. A correction leaves him alone. A first
collection counts one pickup more than there were when it read, and what it read agreed with the log
as it was then. -/
inductive UnderWay.Awaits (d : Driver) (log : List Mark) (u : UnderWay) : Prop where
  | corrects (move : u.writes.move = none) (writes : u.writes.driver = none) : Awaits d log u
  | collects {count : Int} (mid old : List Mark) (move : u.writes.move.isSome = true)
      (writes : u.writes.driver = some (d.counting Availability.online.name (count + 1)))
      (since : log = mid ++ .read u.ticket :: old) (unread : .read u.ticket ∉ mid)
      (agrees : Mark.Agrees d.pickupCount count old) : Awaits d log u

/-- What happens to others is added to the log. -/
theorem UnderWay.Awaits.cons {d : Driver} {log : List Mark} {u : UnderWay} {mark : Mark}
    (h : u.Awaits d log) (other : mark ≠ .read u.ticket) : u.Awaits d (mark :: log) := by
  cases h with
  | corrects move writes => exact .corrects move writes
  | collects mid old move writes since unread agrees =>
    refine .collects (mark :: mid) old move writes ?_ ?_ agrees
    · rw [since, List.cons_append]
    · rw [List.mem_cons, not_or]
      exact ⟨other.symm, unread⟩

/-- What the collection of a driver writes: nothing about him if it corrects an earlier one, and
else one pickup more in his row. -/
theorem Collection.driver_of_work {c : Collection} {driver : Int} {s : Store} {p : Progress}
    {writes : Writes} (work : c.work driver s p = .ok writes) {d : Driver}
    (found : s.drivers.find? driver = some d) :
    (writes.move = none ∧ writes.driver = none) ∨
      (writes.move.isSome = true ∧
        writes.driver = some (d.counting Availability.online.name (d.pickupCount + 1))) := by
  have hdriver := Store.perform_driver work
  have hmine : p.driver = some driver := (Store.perform_eq_ok_iff.1 work).1 rfl
  obtain ⟨-, m, e, hm, -, -, rfl⟩ := Store.perform_eq_ok_iff.1 work
  obtain ⟨-, haction, hrole, -⟩ := Store.planMove_eq_ok_iff.1 hm
  rw [hdriver]
  by_cases changed : m.changed = true
  · right
    have hown : m.role = .driver := hrole
    simp [changed, Writes.ownMove?, hown, hmine, haction, Store.driverWith, found,
      Action.availability, Action.pickups, Driver.counting]
  · left
    simp [changed, Writes.ownMove?]

/-- What is committed adds one row to the history if it moves the booking, and none if not. -/
theorem Store.length_history_commit (s : Store) (now : Instant) (actor : Actor) (b : Booking)
    (writes : Writes) : (s.commit now actor b writes).history.rows.length =
      s.history.rows.length + if writes.move.isSome then 1 else 0 := by
  rw [commit_history, List.length_append, Writes.entries]
  cases writes.move with
  | none => rfl
  | some m => rfl

namespace Traffic

/-- The count in the row of a driver and the log agree, and what is under way keeps it so. The log
tells as many committed collections as the history has rows more than at first. -/
structure Tallies (recorded : Nat) (d : Driver) (t : Traffic) : Prop where
  history : t.world.store.history.rows.length = recorded + Mark.collected t.log
  row : ∃ status count, t.world.store.drivers.find? d.id = some (d.counting status count) ∧
    Mark.Agrees d.pickupCount count t.log
  fresh : ∀ u ∈ t.underWay, u.ticket < t.tickets
  awaits : ∀ u ∈ t.underWay, u.Awaits d t.log

variable {recorded : Nat} {d : Driver} {t : Traffic}

/-- A collection that reads keeps the tally. -/
theorem Tallies.reads (h : t.Tallies recorded d) (c : Collection) :
    (t.step d.id (.reads c)).Tallies recorded d := by
  obtain ⟨status, count, found, agrees⟩ := h.row
  have hstore : (t.world.readUpdate c.token c.booking (c.work d.id)).1.store = t.world.store :=
    World.readUpdate_store
  unfold step
  simp only
  split
  · rename_i world refusal hread
    rw [hread] at hstore
    refine ⟨?_, ⟨status, count, ?_, agrees⟩, h.fresh, h.awaits⟩
    · rw [hstore]
      exact h.history
    · rw [hstore]
      exact found
  · rename_i world row writes hread
    rw [hread] at hstore
    obtain ⟨-, hwork⟩ := World.readUpdate_eq_ok hread
    have hrow : world.store.drivers.find? d.id = some (d.counting status count) := by
      rw [hstore]
      exact found
    have hhistory : world.store.history.rows.length = recorded + Mark.collected t.log := by
      rw [hstore]
      exact h.history
    have hother : ∀ u ∈ t.underWay, Mark.read t.tickets ≠ .read u.ticket := by
      intro u hu heq
      have hlt := h.fresh u hu
      rw [Mark.read.injEq] at heq
      omega
    have hfresh : ∀ u ∈ (⟨t.tickets, c, row, writes⟩ : UnderWay) :: t.underWay,
        u.ticket < t.tickets + 1 := by
      intro u hu
      rcases List.mem_cons.1 hu with rfl | hu
      · exact Nat.lt_succ_self _
      · exact Nat.lt_succ_of_lt (h.fresh u hu)
    rcases c.driver_of_work hwork found with ⟨hmove, hdriver⟩ | ⟨hmove, hdriver⟩
    · refine ⟨?_, ⟨status, count, hrow, ?_⟩, hfresh, ?_⟩
      · simpa [hmove] using hhistory
      · simpa [hmove] using agrees
      · intro u hu
        rcases List.mem_cons.1 hu with rfl | hu
        · exact .corrects hmove hdriver
        · simpa [hmove] using h.awaits u hu
    · refine ⟨?_, ⟨status, count, hrow, ?_⟩, hfresh, ?_⟩
      · simpa [hmove] using hhistory
      · simpa [hmove] using agrees.read t.tickets
      · intro u hu
        simp only [hmove, if_true]
        rcases List.mem_cons.1 hu with rfl | hu
        · exact .collects [] t.log hmove hdriver rfl List.not_mem_nil agrees
        · exact (h.awaits u hu).cons (hother u hu)

/-- A collection that is committed keeps the tally, whatever was committed since it read. -/
theorem Tallies.commits (h : t.Tallies recorded d) (ticket : Nat) :
    (t.step d.id (.commits ticket)).Tallies recorded d := by
  obtain ⟨status, count, found, agrees⟩ := h.row
  unfold step
  simp only
  split
  · exact h
  · rename_i u hu
    have hmem : u ∈ t.underWay := List.mem_of_find?_eq_some hu
    have hticket : u.ticket = ticket := by simpa using List.find?_some hu
    have hrest : ∀ v ∈ t.underWay.filter (·.ticket ≠ ticket), v ∈ t.underWay :=
      fun v hv => List.mem_of_mem_filter hv
    have hfresh : ∀ v ∈ t.underWay.filter (·.ticket ≠ ticket), v.ticket < t.tickets :=
      fun v hv => h.fresh v (hrest v hv)
    have hhistory := t.world.store.length_history_commit u.collection.now ⟨d.id, .driver⟩ u.row
      u.writes
    rw [h.history] at hhistory
    cases h.awaits u hmem with
    | corrects move writes =>
      refine ⟨?_, ⟨status, count, ?_, ?_⟩, hfresh, ?_⟩
      · simpa [World.commitUpdate, move] using hhistory
      · simpa [World.commitUpdate, writes] using found
      · simpa [move] using agrees
      · intro v hv
        simpa [move] using h.awaits v (hrest v hv)
    | @collects before mid old move writes since unread agrees =>
      refine ⟨?_, ⟨Availability.online.name, before + 1, ?_, ?_⟩, hfresh, ?_⟩
      · simpa [World.commitUpdate, move, Nat.add_assoc] using hhistory
      · simp only [World.commitUpdate, Store.commit_drivers, writes, Table.find?_replace,
          Driver.counting_id, if_true, found]
        rfl
      · simp only [move, if_true]
        rw [since, ← hticket]
        exact agrees.committed unread
      · intro v hv
        simp only [move, if_true]
        exact (h.awaits v (hrest v hv)).cons (by simp)

/-- Each half of a collection keeps the tally. -/
theorem Tallies.step (h : t.Tallies recorded d) (moment : Moment) :
    (t.step d.id moment).Tallies recorded d := by
  cases moment with
  | reads c => exact h.reads c
  | commits ticket => exact h.commits ticket

/-- So do all of them, in any order. -/
theorem Tallies.run (h : t.Tallies recorded d) (moments : List Moment) :
    (t.run d.id moments).Tallies recorded d := by
  induction moments generalizing t with
  | nil => exact h
  | cons moment rest ih => exact ih (h.step moment)

end Traffic

/-- However the halves of a driver's collections are put in order, nothing but his availability and
his count of pickups changes about him. The count grows at most by the first collections that were
committed, each of which is in the history, and it has grown by as many exactly if none of them was
overtaken. -/
theorem pickups_are_lost_iff_overtaken (w : World) {driver : Int} {d : Driver}
    (found : w.store.drivers.find? driver = some d) (moments : List Moment) :
    let t := (Traffic.start w).run driver moments
    let collected := Mark.collected t.log
    t.world.store.history.rows.length = w.store.history.rows.length + collected ∧
      ∃ status count, t.world.store.drivers.find? driver = some (d.counting status count) ∧
        count ≤ d.pickupCount + collected ∧
        (count = d.pickupCount + collected ↔ Mark.overtaken t.log = false) := by
  intro t collected
  obtain rfl : d.id = driver := Table.id_of_find? found
  have hstart : (Traffic.start w).Tallies w.store.history.rows.length d :=
    ⟨rfl, ⟨d.status, d.pickupCount, found, Mark.agrees_nil _⟩, by simp [Traffic.start],
      by simp [Traffic.start]⟩
  have hrun := hstart.run moments
  obtain ⟨status, count, hrow, agrees⟩ := hrun.row
  exact ⟨hrun.history, status, count, hrow, agrees.le, agrees.eq_iff⟩

/-- A driver collects two bookings, one after the other: both pickups are counted. -/
theorem pickups_in_turn_are_counted :
    let duty (id : Int) : Booking :=
      { Booking.single ⟨"IN_PROGRESS", some 7, 1, none, none, none, none⟩ with id := id }
    let w : World :=
      ⟨{ Store.single (duty 1).progress with
          pricing := ⟨[⟨1, 1, 40.0, 60.0, true, ⟨0⟩⟩]⟩
          bookings := ⟨[duty 1, duty 2]⟩ }, .empty⟩
    let collect (n : Nat) : Collection := ⟨⟨n⟩, ⟨n⟩, n, ⟨none, some (.float 3.0), none, none, none⟩⟩
    let t := (Traffic.start w).run 7
      [.reads (collect 1), .commits 0, .reads (collect 2), .commits 1]
    t.underWay.length = 0 ∧ t.world.store.history.rows.length = 2 ∧
      (t.world.store.drivers.find? 7).map Driver.pickupCount = some 2 := by
  intro duty w collect t
  have both : Mark.collected t.log = 2 := by decide +kernel
  have inTurn : Mark.overtaken t.log = false := by decide +kernel
  have found : w.store.drivers.find? 7 = some ⟨7, "Saman Kumara", true, "ONLINE", 0⟩ := by
    decide +kernel
  obtain ⟨recorded, status, count, hrow, -, counted⟩ := pickups_are_lost_iff_overtaken w found
    [.reads (collect 1), .commits 0, .reads (collect 2), .commits 1]
  refine ⟨by decide +kernel, ?_, ?_⟩
  · rw [recorded, both]
    rfl
  · rw [hrow, counted.2 inTurn, both]
    rfl

/-- He collects them at a time, and both requests read his row before either is committed: both
bookings are collected, both collections are in the history, and one pickup is counted. -/
theorem overlapping_pickup_is_lost :
    let duty (id : Int) : Booking :=
      { Booking.single ⟨"IN_PROGRESS", some 7, 1, none, none, none, none⟩ with id := id }
    let w : World :=
      ⟨{ Store.single (duty 1).progress with
          pricing := ⟨[⟨1, 1, 40.0, 60.0, true, ⟨0⟩⟩]⟩
          bookings := ⟨[duty 1, duty 2]⟩ }, .empty⟩
    let collect (n : Nat) : Collection := ⟨⟨n⟩, ⟨n⟩, n, ⟨none, some (.float 3.0), none, none, none⟩⟩
    let t := (Traffic.start w).run 7
      [.reads (collect 1), .reads (collect 2), .commits 0, .commits 1]
    t.underWay.length = 0 ∧ t.world.locks = .empty ∧
      t.world.store.bookings.rows.map Booking.status? = [some .collected, some .collected] ∧
      t.world.store.history.rows.map HistoryEntry.booking = [1, 2] ∧
      (w.store.drivers.find? 7).map Driver.pickupCount = some 0 ∧
      (t.world.store.drivers.find? 7).map Driver.pickupCount = some 1 := by
  intro duty w collect t
  exact ⟨by decide +kernel, by decide +kernel, by decide +kernel, by decide +kernel,
    by decide +kernel, by decide +kernel⟩

end WastePickup
