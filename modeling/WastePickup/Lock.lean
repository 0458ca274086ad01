/-!
# Locks

A lock has a key, a time to live and a token of its own. A shared store maps each held key to the
token that holds it. Acquiring succeeds only on a free key; releasing drops a key only if the own
token holds it, so a lock that has expired and been taken by somebody else stays with its new
holder. A key also becomes free when its time runs out, which is an event of the environment.

* `acquire_isSome_iff`: acquiring succeeds exactly on a free key.
* `release_acquire`: releasing what was just acquired gives back the store as it was.
* `release_of_not_holder`: releasing what one does not hold changes nothing.
-/

namespace WastePickup

/-- What tells the locks of different holders apart. -/
structure Token where
  id : Nat
  deriving DecidableEq

/-- A lock that may be taken on a key. -/
structure Lock where
  key : String
  /-- Seconds until the key becomes free by itself. -/
  ttl : Int
  token : Token
  deriving DecidableEq

namespace Lock

/-- The time to live where none is given. -/
def defaultTtl : Int := 10

/-- A lock on a name. -/
def on (name : String) (ttl : Int) (token : Token) : Lock :=
  ⟨"lock:" ++ name, ttl, token⟩

/-- The lock that guards one booking. -/
def forBooking (booking : Int) (ttl : Int) (token : Token) : Lock :=
  on ("booking:" ++ toString booking) ttl token

end Lock

/-- Who holds a key. -/
structure Holding where
  token : Token
  ttl : Int
  deriving DecidableEq

/-- The held keys. -/
structure LockStore where
  held : List (String × Holding)
  deriving DecidableEq

namespace LockStore

/-- No key is held. -/
def empty : LockStore := ⟨[]⟩

/-- Who holds a key, if anybody does. -/
def holder? (store : LockStore) (key : String) : Option Holding :=
  (store.held.find? fun entry => entry.1 = key).map Prod.snd

/-- Take a key that is free. -/
def acquire (lock : Lock) (store : LockStore) : Option LockStore :=
  match store.holder? lock.key with
  | some _ => none
  | none => some ⟨store.held ++ [(lock.key, ⟨lock.token, lock.ttl⟩)]⟩

/-- Drop a key if the lock's own token holds it. -/
def release (lock : Lock) (store : LockStore) : LockStore :=
  ⟨store.held.filter fun entry => !(entry.1 = lock.key && entry.2.token = lock.token)⟩

/-- The time of a key runs out. -/
def expire (key : String) (store : LockStore) : LockStore :=
  ⟨store.held.filter fun entry => entry.1 ≠ key⟩

/-- Acquiring succeeds exactly on a free key. -/
theorem acquire_isSome_iff {lock : Lock} {store : LockStore} :
    (store.acquire lock).isSome ↔ store.holder? lock.key = none := by
  unfold acquire
  split <;> simp_all

/-- A key has no holder exactly when no lock is held under it. -/
theorem holder?_eq_none_iff {store : LockStore} {key : String} :
    store.holder? key = none ↔ ∀ entry ∈ store.held, entry.1 ≠ key := by
  simp [holder?, List.find?_eq_none]

/-- Releasing what one does not hold changes nothing. -/
theorem release_of_not_holder {lock : Lock} {store : LockStore}
    (h : ∀ entry ∈ store.held, entry.1 = lock.key → entry.2.token ≠ lock.token) :
    store.release lock = store := by
  have e : store.held.filter (fun entry => !(entry.1 = lock.key && entry.2.token = lock.token)) =
      store.held := by
    refine List.filter_eq_self.2 fun entry he => ?_
    by_cases hk : entry.1 = lock.key
    · simp [hk, h entry he hk]
    · simp [hk]
  cases store
  simp_all [release]

/-- Releasing what was just acquired gives back the store as it was. -/
theorem release_acquire {lock : Lock} {store taken : LockStore}
    (h : store.acquire lock = some taken) : taken.release lock = store := by
  have hfree : store.holder? lock.key = none := by
    rw [← acquire_isSome_iff, h]; rfl
  have hne := holder?_eq_none_iff.1 hfree
  have ht : taken = ⟨store.held ++ [(lock.key, ⟨lock.token, lock.ttl⟩)]⟩ := by
    simpa [acquire, hfree, eq_comm] using h
  subst ht
  cases store
  simp only [release, List.filter_append, LockStore.mk.injEq]
  rw [List.filter_eq_self.2 fun entry he => by simp [hne entry he]]
  simp

end LockStore

/-! ## Events -/

/-- Something that happens to the shared store. -/
inductive LockEvent where
  | acquire (lock : Lock)
  | release (lock : Lock)
  /-- Acquire at the beginning of a guarded section. -/
  | enter (lock : Lock)
  /-- Release at the end of a guarded section. -/
  | exit (lock : Lock)
  | expire (key : String)
  deriving DecidableEq

/-- What an event reports. -/
inductive LockReport where
  /-- Whether the key was taken, or whether an expired key was held. -/
  | flag (b : Bool)
  | done
  /-- A guarded section that cannot be entered. -/
  | notAcquired (key : String)
  deriving DecidableEq

/-- A section that cannot be entered says which key is held. -/
def notAcquiredMessage (key : String) : String :=
  "Could not acquire lock: " ++ key

/-- The effect and the report of one event. -/
def LockStore.perform (store : LockStore) : LockEvent → LockStore × LockReport
  | .acquire lock =>
    match store.acquire lock with
    | some taken => (taken, .flag true)
    | none => (store, .flag false)
  | .enter lock =>
    match store.acquire lock with
    | some taken => (taken, .flag true)
    | none => (store, .notAcquired lock.key)
  | .release lock => (store.release lock, .done)
  | .exit lock => (store.release lock, .done)
  | .expire key => (store.expire key, .flag (store.holder? key).isSome)

end WastePickup
