import Mathlib.Data.List.Induction
import Mathlib.Data.List.Nodup
import Mathlib.Data.Set.Function
import WastePickup.Lock

/-!
# Who owns a lock

Any number of locks are taken and dropped over one shared store, in any order, and the environment
lets keys expire in between. Nobody keeps a list of who owns what: the store only knows tokens. That
it knows enough is seen from what has happened (`LockStore.record`). A lock owns its key if its
latest taking has been followed by no release of its own and by no expiry (`Lock.Owns`), and the
store holds just the keys that are owned, each under the token of its owner.

This is what protects the successor of a lock that has expired: a late release comes from somebody
who owns nothing any more, and changes nothing.

* `LockStore.does_perform`: all that an event can do.
* `Lock.owns_concat`: how one event changes who owns what.
* `LockStore.Tells.of_does`: every event keeps the store and the record together.
* `store_knows_owners`: what the store knows after any events.
-/

namespace WastePickup

/-! ## What has happened -/

/-- The events that have happened, each with what it reported. -/
abbrev LockRecord := List (LockEvent × LockReport)

namespace LockStore

/-- The store after some events. -/
def run (store : LockStore) (events : List LockEvent) : LockStore :=
  events.foldl (fun store e => (store.perform e).1) store

/-- The events with what they report, one after the other. -/
def record (store : LockStore) : List LockEvent → LockRecord
  | [] => []
  | e :: rest => (e, (store.perform e).2) :: (store.perform e).1.record rest

/-- The last event comes to the store that those before it have left. -/
theorem run_concat (store : LockStore) (events : List LockEvent) (e : LockEvent) :
    store.run (events ++ [e]) = ((store.run events).perform e).1 := by
  simp [run]

/-- The record of events goes on with the report of the last one. -/
theorem record_concat (store : LockStore) (events : List LockEvent) (e : LockEvent) :
    store.record (events ++ [e]) =
      store.record events ++ [(e, ((store.run events).perform e).2)] := by
  induction events generalizing store with
  | nil => rfl
  | cons first rest ih => simp only [List.cons_append, record, ih, run, List.foldl_cons]

end LockStore

namespace LockEvent

/-- The lock that an event is about; a key expires by itself. -/
def lock? : LockEvent → Option Lock
  | acquire lock | release lock | enter lock | exit lock => some lock
  | expire _ => none

/-- The key that an event is about. -/
def key : LockEvent → String
  | acquire lock | release lock | enter lock | exit lock => lock.key
  | expire key => key

/-- A lock tries to take its key. -/
inductive Tries (lock : Lock) : LockEvent → Prop where
  | acquire : Tries lock (.acquire lock)
  | enter : Tries lock (.enter lock)

/-- A lock drops its key, if it is its own. -/
inductive Drops (lock : Lock) : LockEvent → Prop where
  | release : Drops lock (.release lock)
  | exit : Drops lock (.exit lock)

end LockEvent

namespace Lock

variable {lock : Lock} {past : LockRecord} {x : LockEvent × LockReport}

/-- The event is a try of the lock that succeeds. -/
def Takes (lock : Lock) (x : LockEvent × LockReport) : Prop :=
  x.1.Tries lock ∧ x.2 = .flag true

/-- The lock owns nothing after the event: it drops its key, or its key expires. -/
def Ends (lock : Lock) (x : LockEvent × LockReport) : Prop :=
  x.1.Drops lock ∨ x.1 = .expire lock.key

/-- A lock owns its key: its latest successful try has been followed by no event that ends this. -/
def Owns (lock : Lock) (past : LockRecord) : Prop :=
  ∃ before taking after, past = before ++ taking :: after ∧ lock.Takes taking ∧
    ∀ x ∈ after, ¬lock.Takes x ∧ ¬lock.Ends x

/-- Nothing is owned before anything has happened. -/
theorem not_owns_nil : ¬lock.Owns [] := by
  rintro ⟨before, taking, after, h, -⟩
  exact absurd h.symm (by simp)

/-- An event makes an owner of the lock that takes its key by it; all others own what they owned
before, unless the event ends it. -/
theorem owns_concat :
    lock.Owns (past ++ [x]) ↔ lock.Takes x ∨ lock.Owns past ∧ ¬lock.Ends x := by
  constructor
  · rintro ⟨before, taking, after, h, takes, later⟩
    rcases List.eq_nil_or_concat after with rfl | ⟨after, last, rfl⟩
    · obtain rfl : x = taking := List.singleton_inj.1 (List.append_inj' h rfl).2
      exact .inl takes
    · have h' : past ++ [x] = (before ++ taking :: after) ++ [last] := by simpa using h
      obtain ⟨hpast, hx⟩ := List.append_inj' h' rfl
      obtain rfl : x = last := List.singleton_inj.1 hx
      refine .inr ⟨⟨before, taking, after, hpast, takes, ?_⟩, (later x (by simp)).2⟩
      intro y hy
      exact later y (by simp [hy])
  · rintro (takes | ⟨⟨before, taking, after, rfl, takes, later⟩, stays⟩)
    · exact ⟨past, x, [], rfl, takes, by simp⟩
    · by_cases hx : lock.Takes x
      · exact ⟨_, x, [], rfl, hx, by simp⟩
      · refine ⟨before, taking, after ++ [x], by simp, takes, ?_⟩
        intro y hy
        rcases List.mem_append.1 hy with hy | hy
        · exact later y hy
        · rw [List.mem_singleton.1 hy]
          exact ⟨hx, stays⟩

end Lock

/-! ## What an event does -/

namespace LockEvent

variable {lock : Lock} {e : LockEvent}

/-- To try for a lock is to do something with its key. -/
theorem Tries.key_eq (h : e.Tries lock) : e.key = lock.key := by
  cases h <;> rfl

/-- To drop a lock is to do something with its key. -/
theorem Drops.key_eq (h : e.Drops lock) : e.key = lock.key := by
  cases h <;> rfl

/-- To try for a lock is to do something with that lock. -/
theorem Tries.lock?_eq (h : e.Tries lock) : e.lock? = some lock := by
  cases h <;> rfl

/-- To drop a lock is to do something with that lock. -/
theorem Drops.lock?_eq (h : e.Drops lock) : e.lock? = some lock := by
  cases h <;> rfl

end LockEvent

namespace LockStore

variable {store : LockStore} {e : LockEvent} {key : String}

/-- The row under which a lock holds its key. -/
def rowOf (lock : Lock) : String × Holding :=
  (lock.key, ⟨lock.token, lock.ttl⟩)

/-- All that an event can do: a lock takes a key that is free; a try fails, since the key is held; a
lock drops what it holds; a key expires. -/
inductive Does (store : LockStore) : LockEvent → LockReport → LockStore → Prop where
  | taken {lock : Lock} {e : LockEvent} (tries : e.Tries lock)
      (free : store.holder? lock.key = none) :
      Does store e (.flag true) ⟨store.held ++ [rowOf lock]⟩
  | failed {lock : Lock} {e : LockEvent} {report : LockReport} (tries : e.Tries lock)
      (held : store.holder? lock.key ≠ none) (fails : report ≠ .flag true) :
      Does store e report store
  | dropped {lock : Lock} {e : LockEvent} (drops : e.Drops lock) :
      Does store e .done (store.release lock)
  | expired {key : String} {report : LockReport} :
      Does store (.expire key) report (store.expire key)

/-- A key that is free is taken, and one that is held is not. -/
theorem acquire_cases (store : LockStore) (lock : Lock) :
    store.holder? lock.key = none ∧ store.acquire lock = some ⟨store.held ++ [rowOf lock]⟩ ∨
      store.holder? lock.key ≠ none ∧ store.acquire lock = none := by
  unfold acquire
  cases h : store.holder? lock.key with
  | none => exact .inl ⟨rfl, rfl⟩
  | some holding => exact .inr ⟨by simp, rfl⟩

/-- Every event does one of the things that can be done. -/
theorem does_perform (store : LockStore) (e : LockEvent) :
    store.Does e (store.perform e).2 (store.perform e).1 := by
  cases e with
  | acquire lock =>
    rcases store.acquire_cases lock with ⟨free, h⟩ | ⟨held, h⟩
    · simp only [perform, h]
      exact .taken .acquire free
    · simp only [perform, h]
      exact .failed .acquire held (by simp)
  | enter lock =>
    rcases store.acquire_cases lock with ⟨free, h⟩ | ⟨held, h⟩
    · simp only [perform, h]
      exact .taken .enter free
    · simp only [perform, h]
      exact .failed .enter held (by simp)
  | release lock => exact .dropped .release
  | exit lock => exact .dropped .exit
  | expire key => exact .expired

/-- Who holds a key is not changed by dropping rows of other keys. -/
theorem holder?_filter {rows : List (String × Holding)} {keeps : String × Holding → Bool}
    (h : ∀ row ∈ rows, row.1 = key → keeps row = true) :
    (⟨rows.filter keeps⟩ : LockStore).holder? key = (⟨rows⟩ : LockStore).holder? key := by
  unfold holder?
  apply congrArg (Option.map Prod.snd)
  induction rows with
  | nil => rfl
  | cons row rest ih =>
    have hrest := ih fun row' hrow' => h row' (List.mem_cons_of_mem row hrow')
    by_cases hkey : row.1 = key
    · simp [h row List.mem_cons_self hkey, hkey]
    · by_cases hkeeps : keeps row = true
      · simpa [hkeeps, hkey] using hrest
      · simpa [hkeeps, hkey] using hrest

/-- An expiry leaves all other keys as they are. -/
theorem holder?_expire_of_ne {expired : String} (h : key ≠ expired) :
    (store.expire expired).holder? key = store.holder? key := by
  apply holder?_filter
  intro row _ hrow
  simpa [hrow] using h

/-- So does every event that is about another key. -/
theorem holder?_perform_of_ne (h : key ≠ e.key) :
    (store.perform e).1.holder? key = store.holder? key := by
  have hdoes := store.does_perform e
  generalize (store.perform e).1 = next at hdoes ⊢
  generalize (store.perform e).2 = report at hdoes
  cases hdoes with
  | @taken lock _ tries free =>
    have hne : ¬lock.key = key := fun heq => h (heq ▸ tries.key_eq.symm)
    simp [holder?, rowOf, List.find?_append, hne]
  | failed => rfl
  | @dropped lock _ drops =>
    apply holder?_filter
    intro row _ hrow
    have hne : ¬key = lock.key := fun heq => h (heq.trans drops.key_eq.symm)
    simp [hrow, hne]
  | expired => exact holder?_expire_of_ne h

/-- A try fails exactly on a key that is held, and then leaves the store as it was. -/
theorem perform_of_tries {lock : Lock} (tries : e.Tries lock) :
    ((store.perform e).2 = .flag true ↔ store.holder? lock.key = none) ∧
      ((store.perform e).2 ≠ .flag true → (store.perform e).1 = store) := by
  rcases store.acquire_cases lock with ⟨free, h⟩ | ⟨held, h⟩
  · cases tries <;> simp [perform, h, free]
  · cases tries <;> simp [perform, h, held]

end LockStore

/-! ## Who owns what after an event -/

namespace Lock

variable {lock other : Lock} {past : LockRecord} {e : LockEvent} {report : LockReport}

/-- By a try that succeeds, its lock becomes an owner; nobody loses anything. -/
theorem owns_of_tries (tries : e.Tries lock) :
    other.Owns (past ++ [(e, report)]) ↔
      other = lock ∧ report = .flag true ∨ other.Owns past := by
  have htakes : other.Takes (e, report) ↔ other = lock ∧ report = .flag true := by
    apply and_congr_left'
    constructor
    · intro h
      cases tries <;> cases h <;> rfl
    · rintro rfl
      exact tries
  have hends : ¬other.Ends (e, report) := by
    rintro (h | h)
    · cases tries <;> cases h
    · cases tries <;> cases h
  rw [owns_concat, htakes]
  simp only [hends, not_false_eq_true, and_true]

/-- By a drop, its lock owns nothing any more; nobody else loses or gets anything. -/
theorem owns_of_drops (drops : e.Drops lock) :
    other.Owns (past ++ [(e, report)]) ↔ other.Owns past ∧ other ≠ lock := by
  have htakes : ¬other.Takes (e, report) := by
    rintro ⟨h, -⟩
    cases drops <;> cases h
  have hends : other.Ends (e, report) ↔ other = lock := by
    constructor
    · rintro (h | h)
      · cases drops <;> cases h <;> rfl
      · cases drops <;> cases h
    · rintro rfl
      exact .inl drops
  rw [owns_concat, hends]
  simp only [htakes, false_or, ne_eq]

/-- By an expiry, the locks of the key own nothing any more. -/
theorem owns_of_expire {key : String} :
    other.Owns (past ++ [(.expire key, report)]) ↔ other.Owns past ∧ other.key ≠ key := by
  have htakes : ¬other.Takes (.expire key, report) := by
    rintro ⟨h, -⟩
    cases h
  have hends : other.Ends (.expire key, report) ↔ other.key = key := by
    constructor
    · rintro (h | h)
      · cases h
      · exact (LockEvent.expire.inj h).symm
    · rintro rfl
      exact .inr rfl
  rw [owns_concat, hends]
  simp only [htakes, false_or, ne_eq]

end Lock

/-! ## The store and the record -/

namespace LockStore

variable {store next : LockStore} {locks : Set Lock} {past : LockRecord} {lock : Lock}

/-- What the store tells is what has happened: no key is held twice, and the rows are those of the
locks that own their keys. -/
structure Tells (store : LockStore) (locks : Set Lock) (past : LockRecord) : Prop where
  nodup : (store.held.map Prod.fst).Nodup
  mem_iff : ∀ row, row ∈ store.held ↔ ∃ lock ∈ locks, lock.Owns past ∧ row = rowOf lock

namespace Tells

/-- Before anything has happened, nobody owns anything and nothing is held. -/
theorem empty : LockStore.empty.Tells locks [] where
  nodup := List.nodup_nil
  mem_iff row := by
    constructor
    · intro h
      cases h
    · rintro ⟨lock, -, owns, -⟩
      exact absurd owns Lock.not_owns_nil

/-- An event keeps the store and the record together. A drop takes the row of its own lock and no
other, because the tokens tell the locks apart. -/
theorem of_does {e : LockEvent} {report : LockReport} (h : store.Tells locks past)
    (distinct : Set.InjOn Lock.token locks) (among : ∀ lock ∈ e.lock?, lock ∈ locks)
    (does : store.Does e report next) : next.Tells locks (past ++ [(e, report)]) := by
  cases does with
  | @taken lock _ tries free =>
    have hfree := holder?_eq_none_iff.1 free
    refine ⟨?_, fun row => ?_⟩
    · rw [List.map_append, List.nodup_append]
      refine ⟨h.nodup, List.nodup_singleton _, ?_⟩
      intro key hkey key' hkey'
      obtain ⟨row, hrow, rfl⟩ := List.mem_map.1 hkey
      rw [List.mem_singleton.1 hkey']
      exact hfree row hrow
    · show row ∈ store.held ++ [rowOf lock] ↔ _
      rw [List.mem_append, List.mem_singleton, h.mem_iff]
      simp only [Lock.owns_of_tries tries, and_true]
      constructor
      · rintro (⟨other, hother, owns, rfl⟩ | rfl)
        · exact ⟨other, hother, .inr owns, rfl⟩
        · exact ⟨lock, among lock tries.lock?_eq, .inl rfl, rfl⟩
      · rintro ⟨other, hother, rfl | owns, rfl⟩
        · exact .inr rfl
        · exact .inl ⟨other, hother, owns, rfl⟩
  | failed tries held fails =>
    refine ⟨h.nodup, fun row => ?_⟩
    simp only [h.mem_iff, Lock.owns_of_tries tries, fails, and_false, false_or]
  | @dropped lock _ drops =>
    refine ⟨h.nodup.sublist (List.filter_sublist.map _), fun row => ?_⟩
    simp only [release, List.mem_filter, h.mem_iff, Lock.owns_of_drops drops]
    constructor
    · rintro ⟨⟨other, hother, owns, rfl⟩, hkept⟩
      refine ⟨other, hother, ⟨owns, ?_⟩, rfl⟩
      rintro rfl
      simp [rowOf] at hkept
    · rintro ⟨other, hother, ⟨owns, hne⟩, rfl⟩
      have htoken : other.token ≠ lock.token := fun heq =>
        hne (distinct hother (among lock drops.lock?_eq) heq)
      exact ⟨⟨other, hother, owns, rfl⟩, by simp [rowOf, htoken]⟩
  | expired =>
    refine ⟨h.nodup.sublist (List.filter_sublist.map _), fun row => ?_⟩
    simp only [expire, List.mem_filter, h.mem_iff, Lock.owns_of_expire]
    constructor
    · rintro ⟨⟨other, hother, owns, rfl⟩, hkept⟩
      exact ⟨other, hother, ⟨owns, of_decide_eq_true hkept⟩, rfl⟩
    · rintro ⟨other, hother, ⟨owns, hne⟩, rfl⟩
      exact ⟨⟨other, hother, owns, rfl⟩, decide_eq_true hne⟩

/-- So do any events, one after the other. -/
theorem run (distinct : Set.InjOn Lock.token locks) (events : List LockEvent)
    (among : ∀ e ∈ events, ∀ lock ∈ e.lock?, lock ∈ locks) :
    (LockStore.empty.run events).Tells locks (LockStore.empty.record events) := by
  induction events using List.reverseRecOn with
  | nil => exact empty
  | append_singleton earlier e ih =>
    have htells := ih fun e' he' => among e' (List.mem_append_left _ he')
    rw [run_concat, record_concat]
    apply htells.of_does distinct _ (does_perform _ e)
    exact among e (List.mem_append_right _ (List.mem_singleton.2 rfl))

/-- A key is held just as its row says. -/
theorem holder?_eq_some_iff (h : store.Tells locks past) {key : String} {holding : Holding} :
    store.holder? key = some holding ↔
      ∃ lock ∈ locks, lock.Owns past ∧ (key, holding) = rowOf lock := by
  rw [← h.mem_iff]
  unfold holder?
  constructor
  · intro hfound
    obtain ⟨⟨key', holding'⟩, hfind, rfl⟩ := Option.map_eq_some_iff.1 hfound
    obtain rfl : key' = key := by simpa using List.find?_some hfind
    exact List.mem_of_find?_eq_some hfind
  · intro hmem
    cases hfind : store.held.find? fun row => row.1 = key with
    | none => exact absurd (decide_eq_true rfl) (List.find?_eq_none.1 hfind _ hmem)
    | some row =>
      have hkey : row.1 = key := by simpa using List.find?_some hfind
      rw [List.inj_on_of_nodup_map h.nodup (List.mem_of_find?_eq_some hfind) hmem hkey]
      rfl

/-- A key is free just if no lock owns it. -/
theorem holder?_eq_none_iff (h : store.Tells locks past) {key : String} :
    store.holder? key = none ↔ ∀ lock ∈ locks, lock.key = key → ¬lock.Owns past := by
  rw [LockStore.holder?_eq_none_iff]
  constructor
  · intro hfree lock hlock hkey owns
    exact hfree (rowOf lock) ((h.mem_iff _).2 ⟨lock, hlock, owns, rfl⟩) hkey
  · intro hfree row hrow hkey
    obtain ⟨lock, hlock, owns, rfl⟩ := (h.mem_iff row).1 hrow
    exact hfree lock hlock hkey owns

end Tells

/-- What the store knows of the locks over it, from what has happened. -/
structure KnowsOwners (store : LockStore) (locks : Set Lock) (past : LockRecord) : Prop where
  /-- A key is mapped to the token of a lock just if it is the key of the lock, which owns it. -/
  holder_iff : ∀ lock ∈ locks, ∀ key : String,
    (store.holder? key).map Holding.token = some lock.token ↔ key = lock.key ∧ lock.Owns past
  /-- A try succeeds just if nobody owns the key. -/
  taken_iff : ∀ lock ∈ locks, ∀ e : LockEvent, e.Tries lock →
    ((store.perform e).2 = .flag true ↔
      ∀ other ∈ locks, other.key = lock.key → ¬other.Owns past)
  /-- A key has one owner at most. -/
  owner_unique : ∀ lock ∈ locks, ∀ other ∈ locks, lock.key = other.key →
    lock.Owns past → other.Owns past → lock = other
  /-- The owner himself cannot take the key again, and stays its owner. -/
  again : ∀ lock ∈ locks, lock.Owns past → ∀ e : LockEvent, e.Tries lock →
    (store.perform e).2 ≠ .flag true ∧ (store.perform e).1 = store ∧
      lock.Owns (past ++ [(e, (store.perform e).2)])
  /-- Whoever owns nothing, or no longer owns it, drops nothing. -/
  late : ∀ lock ∈ locks, ¬lock.Owns past → ∀ e : LockEvent, e.Drops lock →
    (store.perform e).1 = store
  /-- A section that cannot be entered says so, and changes nothing. -/
  shut : ∀ lock ∈ locks, (store.perform (.enter lock)).2 ≠ .flag true →
    store.perform (.enter lock) = (store, .notAcquired lock.key)
  /-- Whatever happens to one key leaves all other keys with their holders. -/
  apart : ∀ (e : LockEvent) (key : String), key ≠ e.key →
    (store.perform e).1.holder? key = store.holder? key

/-- A store that tells what has happened knows the owners. -/
theorem Tells.knowsOwners (h : store.Tells locks past) (distinct : Set.InjOn Lock.token locks) :
    store.KnowsOwners locks past where
  holder_iff lock hlock key := by
    rw [Option.map_eq_some_iff]
    constructor
    · rintro ⟨holding, hholder, htoken⟩
      obtain ⟨other, hother, owns, hrow⟩ := h.holder?_eq_some_iff.1 hholder
      obtain ⟨rfl, rfl⟩ := Prod.mk.inj hrow
      obtain rfl : other = lock := distinct hother hlock htoken
      exact ⟨rfl, owns⟩
    · rintro ⟨rfl, owns⟩
      exact ⟨⟨lock.token, lock.ttl⟩, h.holder?_eq_some_iff.2 ⟨lock, hlock, owns, rfl⟩, rfl⟩
  taken_iff lock _ e tries := (perform_of_tries tries).1.trans h.holder?_eq_none_iff
  owner_unique lock hlock other hother hkey owns owns' := by
    have hholder := h.holder?_eq_some_iff.2 ⟨lock, hlock, owns, rfl⟩
    have hholder' := h.holder?_eq_some_iff.2 ⟨other, hother, owns', rfl⟩
    rw [hkey, hholder'] at hholder
    apply distinct hlock hother
    exact (congrArg Holding.token (Option.some.inj hholder)).symm
  again lock hlock owns e tries := by
    have hfails : (store.perform e).2 ≠ .flag true := fun htaken =>
      h.holder?_eq_none_iff.1 ((perform_of_tries tries).1.1 htaken) lock hlock rfl owns
    exact ⟨hfails, (perform_of_tries tries).2 hfails, (Lock.owns_of_tries tries).2 (.inr owns)⟩
  late lock hlock notOwns e drops := by
    have hdrop : (store.perform e).1 = store.release lock := by
      cases drops <;> rfl
    rw [hdrop]
    apply release_of_not_holder
    intro row hrow _ htoken
    obtain ⟨other, hother, owns, rfl⟩ := (h.mem_iff row).1 hrow
    obtain rfl : other = lock := distinct hother hlock htoken
    exact notOwns owns
  shut lock _ hfails := by
    rcases store.acquire_cases lock with ⟨free, -⟩ | ⟨-, hacquire⟩
    · exact absurd ((perform_of_tries .enter).1.2 free) hfails
    · simp only [perform, hacquire]
  apart e key hkey := holder?_perform_of_ne hkey

end LockStore

/-- After any events of any locks whose tokens are distinct, beginning with a store that holds
nothing, the store knows who owns what. -/
theorem store_knows_owners {locks : Set Lock} (distinct : Set.InjOn Lock.token locks)
    (events : List LockEvent) (among : ∀ e ∈ events, ∀ lock ∈ e.lock?, lock ∈ locks) :
    (LockStore.empty.run events).KnowsOwners locks (LockStore.empty.record events) :=
  (LockStore.Tells.run distinct events among).knowsOwners distinct

/-- A lock whose key has expired and been taken by another releases nothing: its successor holds
the key on. -/
theorem late_release_spares_successor :
    let first := Lock.forBooking 1 10 ⟨1⟩
    let second := Lock.forBooking 1 10 ⟨2⟩
    let events : List LockEvent :=
      [.acquire first, .expire first.key, .acquire second, .release first]
    (LockStore.empty.run events).KnowsOwners {first, second} (LockStore.empty.record events) ∧
      second.Owns (LockStore.empty.record events) ∧
      (LockStore.empty.run events).holder? first.key = some ⟨⟨2⟩, 10⟩ := by
  intro first second events
  have distinct : Set.InjOn Lock.token {first, second} := by
    intro lock hlock other hother htoken
    rcases hlock with rfl | rfl <;> rcases hother with rfl | rfl
    · rfl
    · cases htoken
    · cases htoken
    · rfl
  have among : ∀ e ∈ events, ∀ lock ∈ e.lock?, lock ∈ ({first, second} : Set Lock) := by
    simp [events, LockEvent.lock?]
  have h := store_knows_owners distinct events among
  have hholder : (LockStore.empty.run events).holder? first.key = some ⟨⟨2⟩, 10⟩ := by
    decide +kernel
  refine ⟨h, ?_, hholder⟩
  exact ((h.holder_iff second (.inr rfl) first.key).1 (by rw [hholder]; rfl)).2

end WastePickup
