import WastePickup.Booking.Work

/-!
# What a piece of work comes to

A piece of work is either turned down or gives writes. For every function that may turn it down
there is one lemma here that says when it goes through and with what; nothing later opens these
functions again.

* `perform_eq_ok_iff`, `adminWork_eq_ok_iff`: the stages of a piece of work, each of which has to
  go through.
* `Worked.follows`: whatever the work is, the status stays where it is, or it moves along one row
  of the table and the move is handed over for the history (`Writes.Follows`).
-/

namespace WastePickup

/-- A chain of two steps goes through when both do. -/
theorem bind_eq_ok_iff {ε α β : Type} {x : Except ε α} {f : α → Except ε β} {b : β} :
    (x >>= f) = .ok b ↔ ∃ a, x = .ok a ∧ f a = .ok b := by
  cases x with
  | error e => simp [bind, Except.bind]
  | ok a => simp [bind, Except.bind]

/-- It fails when one of them does. -/
theorem bind_eq_error_iff {ε α β : Type} {x : Except ε α} {f : α → Except ε β} {e : ε} :
    (x >>= f) = .error e ↔ x = .error e ∨ ∃ a, x = .ok a ∧ f a = .error e := by
  cases x with
  | error e' => simp [bind, Except.bind]
  | ok a => simp [bind, Except.bind]

/-! ## Moves -/

namespace Move

/-- A move along a row of the table, taken in the role that the row is for. -/
def Lawful (m : Move) : Prop :=
  ∃ rule, Rule.of m.role m.action = some rule ∧ m.source ∈ rule.sources ∧ m.target = rule.target

/-- Only drivers and admins have rows in the table. -/
theorem Lawful.role {m : Move} (h : m.Lawful) : m.role = .admin ∨ m.role = .driver := by
  obtain ⟨rule, hr, -⟩ := h
  cases hm : m.role with
  | admin => exact .inl rfl
  | driver => exact .inr rfl
  | customer => rw [hm] at hr; cases hr
  | superAdmin => rw [hm] at hr; cases hr

end Move

/-- A move is planned exactly along the table, from where the booking stands. -/
theorem Store.planMove_eq_ok_iff {role : Role} {action : Action} {p : Progress} {m : Move} :
    planMove role action p = .ok m ↔
      p.status? = some m.source ∧ m.action = action ∧ m.role = role.acting ∧ m.Lawful := by
  unfold planMove
  cases hs : p.status? with
  | none => simp
  | some status =>
    have hplan : (Move.plan status role action).mapError Refusal.transition = .ok m ↔
        Move.plan status role action = .ok m := by
      cases Move.plan status role action with
      | error refusal => exact ⟨nofun, nofun⟩
      | ok planned => exact ⟨fun h => by cases h; rfl, fun h => by cases h; rfl⟩
    simp only [hplan, Move.plan_eq_ok_iff, Move.Lawful, Option.some.injEq]
    constructor
    · rintro ⟨rule, hr, hmem, rfl⟩
      exact ⟨rfl, rfl, rfl, rule, hr, hmem, rfl⟩
    · rintro ⟨rfl, rfl, hrole, rule, hr, hmem, ht⟩
      refine ⟨rule, hrole ▸ hr, hmem, ?_⟩
      rw [← ht, ← hrole]

namespace Store

variable {s : Store} {now : Instant} {actor : Actor} {p q : Progress} {w : Writes}

/-! ## Stages -/

/-- An action goes through when the right driver asks, the move is in the table, the side effects
are possible and the move can be recorded. -/
theorem perform_eq_ok_iff {action : Action} {given : Particulars} :
    s.perform now actor action given p = .ok w ↔
      (actor.role = .driver → p.driver = some actor.id) ∧
        ∃ m e, planMove actor.role action p = .ok m ∧ s.effect now actor.role m given p = .ok e ∧
          requireRecordable actor m e = .ok () ∧
          w = ⟨{ e.progress with status := m.target.name }, e.driver,
            if m.changed then some m else none, e.rounded⟩ := by
  unfold perform
  by_cases hd : actor.role = .driver ∧ p.driver ≠ some actor.id
  · rw [if_pos hd]
    simp [hd.1, hd.2]
  · rw [if_neg hd]
    have hd' : actor.role = .driver → p.driver = some actor.id := by
      intro hr
      exact Decidable.byContradiction fun hp => hd ⟨hr, hp⟩
    simp only [bind_eq_ok_iff, pure, Except.pure, Except.ok.injEq]
    constructor
    · rintro ⟨m, hm, e, he, ⟨⟩, hrec, rfl⟩
      exact ⟨hd', m, e, hm, he, hrec, rfl⟩
    · rintro ⟨-, m, e, hm, he, hrec, rfl⟩
      exact ⟨m, hm, e, he, (), hrec, rfl⟩

/-- Something may be changed exactly on a booking whose status is known and not closed. -/
theorem requireOpen_eq_ok_iff {refusal : Refusal} :
    requireOpen refusal p = .ok () ↔
      ∃ status, p.status? = some status ∧ status.isClosed = false := by
  unfold requireOpen
  cases p.status? with
  | none => simp
  | some status => cases hc : status.isClosed <;> simp [hc]

/-- A driver is swapped for another, approved one on an open booking. -/
theorem swapDriver_eq_ok_iff {driver : Option Int} :
    s.swapDriver driver p = .ok q ↔
      ((driver = none ∨ p.driver = driver) ∧ q = p) ∨
        ∃ id, driver = some id ∧ p.driver ≠ some id ∧ requireOpen .closedToDrivers p = .ok () ∧
          s.requireApproved id = .ok () ∧ q = { p with driver := some id } := by
  unfold swapDriver
  cases driver with
  | none => simp [eq_comm]
  | some id =>
    by_cases hp : p.driver = some id
    · simp [hp, eq_comm]
    · simp only [hp, if_false, bind_eq_ok_iff, pure, Except.pure, Except.ok.injEq]
      constructor
      · rintro ⟨⟨⟩, ho, ⟨⟩, ha, rfl⟩
        exact .inr ⟨id, rfl, hp, ho, ha, rfl⟩
      · rintro (⟨hq, -⟩ | ⟨id', hid, -, ho, ha, rfl⟩)
        · rcases hq with hq | hq
          · cases hq
          · cases hq
        · cases hid
          exact ⟨(), ho, (), ha, rfl⟩

/-- Amounts are corrected on an open booking; where none is given, nothing is checked. -/
theorem correctAmounts_eq_ok_iff {weight amount : Option Number.Given} :
    s.correctAmounts weight amount p = .ok q ↔
      (weight = none ∧ amount = none ∧ q = p) ∨
        (¬(weight = none ∧ amount = none) ∧ requireOpen .closedToAmounts p = .ok () ∧
          s.withAmounts weight amount p = .ok q) := by
  unfold correctAmounts
  by_cases hn : weight = none ∧ amount = none
  · simp [hn, eq_comm]
  · simp only [hn, if_false, bind_eq_ok_iff, not_false_eq_true, true_and]
    constructor
    · rintro ⟨⟨⟩, ho, hq⟩
      exact .inr ⟨ho, hq⟩
    · rintro (⟨hw, ha, -⟩ | ⟨ho, hq⟩)
      · exact absurd ⟨hw, ha⟩ hn
      · exact ⟨(), ho, hq⟩

/-- Where nothing may be changed, a swap that goes through leaves the progress as it is. -/
theorem swapDriver_of_not_open {driver : Option Int}
    (closed : requireOpen .closedToDrivers p ≠ .ok ()) (h : s.swapDriver driver p = .ok q) :
    q = p := by
  rcases swapDriver_eq_ok_iff.1 h with ⟨-, rfl⟩ | ⟨id, -, -, hopen, -, -⟩
  · rfl
  · exact absurd hopen closed

/-- Where nothing may be changed, a correction that goes through has been given no amounts. -/
theorem correctAmounts_of_not_open {weight amount : Option Number.Given}
    (closed : requireOpen .closedToAmounts p ≠ .ok ())
    (h : s.correctAmounts weight amount p = .ok q) : weight = none ∧ amount = none ∧ q = p := by
  rcases correctAmounts_eq_ok_iff.1 h with hnone | ⟨-, hopen, -⟩
  · exact hnone
  · exact absurd hopen closed

/-- Putting in amounts changes the weight and the amount at most. -/
theorem withAmounts_eq_ok {weight amount : Option Number.Given}
    (h : s.withAmounts weight amount p = .ok q) :
    ∃ w a, q = { p with weight := w, amount := a } := by
  unfold withAmounts at h
  simp only [bind_eq_ok_iff, pure, Except.pure, Except.ok.injEq] at h
  obtain ⟨w, -, a, -, rfl⟩ := h
  exact ⟨_, _, rfl⟩

/-- The work of an admin goes through when its three stages do; completing has put in the amounts
already, so that it has no third stage. -/
theorem adminWork_eq_ok_iff {request : AdminRequest} :
    s.adminWork now actor request p = .ok w ↔
      ∃ v swapped corrected, s.adminAction now actor request p = .ok v ∧
        s.swapDriver request.driver v.progress = .ok swapped ∧
        (if request.action = some .complete then corrected = swapped
          else s.correctAmounts request.weight request.amount swapped = .ok corrected) ∧
        w = { v with
          progress := corrected
          rounded := isRounded request.weight || isRounded request.amount } := by
  unfold adminWork
  by_cases hc : request.action = some .complete
  · simp only [hc, if_true, bind_eq_ok_iff, pure, Except.pure, Except.ok.injEq]
    constructor
    · rintro ⟨v, hv, swapped, hs, corrected, rfl, rfl⟩
      exact ⟨v, swapped, swapped, hv, hs, rfl, rfl⟩
    · rintro ⟨v, swapped, corrected, hv, hs, rfl, rfl⟩
      exact ⟨v, hv, corrected, hs, corrected, rfl, rfl⟩
  · simp only [hc, if_false, bind_eq_ok_iff, pure, Except.pure, Except.ok.injEq]
    constructor
    · rintro ⟨v, hv, swapped, hs, corrected, hq, rfl⟩
      exact ⟨v, swapped, corrected, hv, hs, hq, rfl⟩
    · rintro ⟨v, swapped, corrected, hv, hs, hq, rfl⟩
      exact ⟨v, hv, swapped, hs, corrected, hq, rfl⟩

/-- A driver swap leaves the status alone. -/
theorem swapDriver_status {driver : Option Int} (h : s.swapDriver driver p = .ok q) :
    q.status = p.status := by
  rcases swapDriver_eq_ok_iff.1 h with ⟨-, rfl⟩ | ⟨id, -, -, -, -, rfl⟩
  · rfl
  · rfl

/-- A correction of amounts leaves the status alone. -/
theorem correctAmounts_status {weight amount : Option Number.Given}
    (h : s.correctAmounts weight amount p = .ok q) : q.status = p.status := by
  rcases correctAmounts_eq_ok_iff.1 h with ⟨-, -, rfl⟩ | ⟨-, -, hq⟩
  · rfl
  · obtain ⟨w, a, rfl⟩ := withAmounts_eq_ok hq
    rfl

end Store

/-! ## Any piece of work -/

/-- The writes come from a piece of work that somebody had done on a booking as it stood: an
action, or an update by an admin. -/
inductive Store.Worked (s : Store) (now : Instant) (actor : Actor) (p : Progress) (w : Writes) :
    Prop where
  | acted {action : Action} {given : Particulars}
      (h : s.perform now actor action given p = .ok w) : Worked s now actor p w
  | updated {request : AdminRequest} (isAdmin : actor.role.isAdmin = true)
      (h : s.adminWork now actor request p = .ok w) : Worked s now actor p w

/-- What writes do to the status of a booking: it stays, perhaps under its present name, and
nothing is recorded; or it moves along the table and the move is recorded. -/
inductive Writes.Follows (w : Writes) (actor : Actor) (p : Progress) : Prop where
  | stays (move : w.move = none)
      (status : w.progress.status = p.status ∨
        ∃ known, p.status? = some known ∧ w.progress.status = known.name) : Follows w actor p
  | moves (m : Move) (move : w.move = some m) (lawful : m.Lawful)
      (role : m.role = actor.role.acting) (source : p.status? = some m.source)
      (changed : m.source ≠ m.target) (target : w.progress.status = m.target.name) :
      Follows w actor p

namespace Store

variable {s : Store} {now : Instant} {actor : Actor} {p : Progress} {w : Writes}

/-- An action moves the status along the table, if it moves it. -/
theorem perform_follows {action : Action} {given : Particulars}
    (h : s.perform now actor action given p = .ok w) : w.Follows actor p := by
  obtain ⟨-, m, e, hm, -, -, rfl⟩ := perform_eq_ok_iff.1 h
  obtain ⟨hs, -, hr, hl⟩ := planMove_eq_ok_iff.1 hm
  by_cases hc : m.source = m.target
  · exact .stays (by simp [Move.changed, hc]) (.inr ⟨m.source, hs, by simp [hc]⟩)
  · exact .moves m (by simp [Move.changed, hc]) hl hr hs hc rfl

/-- So does an update by an admin: what comes after its action leaves the status alone. -/
theorem adminWork_follows {request : AdminRequest}
    (h : s.adminWork now actor request p = .ok w) : w.Follows actor p := by
  obtain ⟨v, swapped, corrected, hv, hswap, hcorrect, rfl⟩ := adminWork_eq_ok_iff.1 h
  have hstatus : corrected.status = v.progress.status := by
    rw [← swapDriver_status hswap]
    split at hcorrect
    · rw [hcorrect]
    · exact correctAmounts_status hcorrect
  have hfollows : v.Follows actor p := by
    unfold adminAction at hv
    split at hv
    · cases hv
      exact .stays rfl (.inl rfl)
    · exact perform_follows hv
  cases hfollows with
  | stays move status => exact .stays move (by simpa [hstatus] using status)
  | moves m move lawful role source changed target =>
    exact .moves m move lawful role source changed (hstatus.trans target)

/-- Whatever the work is, the status stays or moves along the table. -/
theorem Worked.follows (h : s.Worked now actor p w) : w.Follows actor p := by
  cases h with
  | acted h => exact perform_follows h
  | updated _ h => exact adminWork_follows h

end Store

namespace Writes.Follows

variable {w : Writes} {actor : Actor} {p : Progress}

/-- A known status is known afterwards. -/
theorem exists_status (h : w.Follows actor p) {known : Status} (hp : p.status? = some known) :
    ∃ status, w.progress.status? = some status := by
  cases h with
  | stays _ status =>
    rcases status with hs | ⟨known', -, hs⟩
    · exact ⟨known, by rw [Progress.status?, hs]; exact hp⟩
    · exact ⟨known', by rw [Progress.status?, hs, Status.ofStored?_name]⟩
  | moves m _ _ _ _ _ target =>
    exact ⟨m.target, by rw [Progress.status?, target, Status.ofStored?_name]⟩

/-- A status that stays is the same status, whatever name it stood under. -/
theorem status_of_stays (h : w.Follows actor p) (hm : w.move = none) :
    w.progress.status? = p.status? := by
  cases h with
  | stays _ status =>
    rcases status with hs | ⟨known, hk, hs⟩
    · rw [Progress.status?, hs]
      rfl
    · rw [Progress.status?, hs, Status.ofStored?_name, hk]
  | moves m move => rw [move] at hm; cases hm

/-- The status that is written is the one that was there, or a status under its present name. -/
theorem written (h : w.Follows actor p) :
    w.progress.status = p.status ∨ ∃ status : Status, w.progress.status = status.name := by
  cases h with
  | stays _ status =>
    rcases status with hs | ⟨known, -, hs⟩
    · exact .inl hs
    · exact .inr ⟨known, hs⟩
  | moves m _ _ _ _ _ target => exact .inr ⟨m.target, target⟩

end Writes.Follows

end WastePickup
