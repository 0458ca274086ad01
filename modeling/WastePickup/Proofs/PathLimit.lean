import WastePickup.Proofs.Asking

/-!
# The limit of a path

The requests to a path are counted for a minute, and a path is served no more of them than its
limit. The clock of the counts is not modelled: the minute of a path is over when `Event.forget`
says so, and its count begins anew. Only a request that is carried out is counted, and only for its
own path; one that is turned away, for whatever reason, is not.

* `Service.step_counts`: what a step does to the count of a path.
* `Service.servedAt_run_le`: along every run, no path is served more than its limit in a minute.
* `Service.serve_of_forgotten`: once its minute is over, a path is served again.
-/

namespace WastePickup

/-- The entry of a key stays when those of another are dropped. -/
theorem lookup_filter_of_ne {α β : Type} [DecidableEq α] {key other : α} (h : other ≠ key)
    (entries : List (α × β)) :
    (entries.filter fun entry => entry.1 ≠ key).lookup other = entries.lookup other := by
  induction entries with
  | nil => rfl
  | cons entry rest ih =>
    obtain ⟨name, value⟩ := entry
    by_cases hname : name = key
    · have hother : (other == name) = false := beq_false_of_ne (hname ▸ h)
      rw [List.filter_cons_of_neg (by simp [hname]), List.lookup_cons, hother]
      exact ih
    · rw [List.filter_cons_of_pos (by simp [hname]), List.lookup_cons, List.lookup_cons, ih]

/-- A key whose entries are dropped has none left. -/
theorem lookup_filter_self {α β : Type} [DecidableEq α] (key : α) (entries : List (α × β)) :
    (entries.filter fun entry => entry.1 ≠ key).lookup key = none := by
  induction entries with
  | nil => rfl
  | cons entry rest ih =>
    obtain ⟨name, value⟩ := entry
    by_cases hname : name = key
    · rw [List.filter_cons_of_neg (by simp [hname])]
      exact ih
    · have hkey : (key == name) = false := beq_false_of_ne (Ne.symm hname)
      rw [List.filter_cons_of_pos (by simp [hname]), List.lookup_cons, hkey]
      exact ih

namespace Service

variable {service : Service} {path : String}

/-! ## Counts -/

/-- A count that begins anew begins with nothing. -/
theorem servedAt_forget (service : Service) (path : String) :
    (service.forget path).servedAt path = 0 := by
  rw [servedAt, forget, lookup_filter_self]
  rfl

/-- The count of a path begins anew without those of others. -/
theorem servedAt_forget_of_ne {other : String} (h : other ≠ path) :
    (service.forget path).servedAt other = service.servedAt other := by
  rw [servedAt, servedAt, forget, lookup_filter_of_ne h]

/-- A request that is counted is one more. -/
theorem servedAt_count (service : Service) (path : String) :
    (service.count path).servedAt path = service.servedAt path + 1 := by
  rw [servedAt, count, List.lookup_cons_self]
  rfl

/-- A request is counted for its own path only. -/
theorem servedAt_count_of_ne {other : String} (h : other ≠ path) :
    (service.count path).servedAt other = service.servedAt other := by
  have hne : (other == path) = false := beq_false_of_ne h
  rw [servedAt, count, List.lookup_cons, hne]
  exact servedAt_forget_of_ne h

/-! ## Steps and runs -/

/-- What an event makes of the count of a path: it stays, one more request has been carried out for
which there was room, or it begins anew. -/
inductive Counts (service next : Service) (event : Event) (path : String) : Prop where
  | kept (same : next.servedAt path = service.servedAt path)
  | counted {r : Request} (event_eq : event = .request r)
      (path_eq : (Target.ofText r.target).path = path) (room : service.servedAt path < limit)
      (next_eq : next.servedAt path = service.servedAt path + 1)
  | forgotten (event_eq : event = .forget path) (next_eq : next.servedAt path = 0)

/-- What a step does to the count of a path. -/
theorem step_counts (service : Service) (s : Step) (path : String) :
    service.Counts (service.step s).1 s.event path := by
  obtain ⟨token, now, event⟩ := s
  cases event with
  | request r =>
    simp only [step]
    rcases serve_uniform r with ⟨reply, hserve⟩ | ⟨actor, command, -, hserve⟩
    · rw [hserve]
      exact .kept rfl
    · rw [hserve, runLimited]
      by_cases full : limit ≤ service.servedAt (Target.ofText r.target).path
      · rw [if_pos full]
        exact .kept rfl
      · rw [if_neg full]
        by_cases hpath : path = (Target.ofText r.target).path
        · subst hpath
          exact .counted rfl rfl (Nat.lt_of_not_le full) (service.servedAt_count _)
        · exact .kept (servedAt_count_of_ne hpath)
  | seed =>
    simp only [step]
    split
    · exact .kept rfl
    · exact .kept rfl
  | forget other =>
    by_cases hpath : path = other
    · subst hpath
      exact .forgotten rfl (service.servedAt_forget path)
    · exact .kept (servedAt_forget_of_ne hpath)
  | act | adminUpdate | list | hold | drop => exact .kept rfl

/-- A step that neither is a request to a path nor begins its count anew leaves the count. -/
theorem servedAt_step_of_ne {s : Step}
    (others : ∀ r, s.event = .request r → path ≠ (Target.ofText r.target).path)
    (keeps : s.event ≠ .forget path) :
    (service.step s).1.servedAt path = service.servedAt path := by
  cases service.step_counts s path with
  | kept same => exact same
  | counted event_eq path_eq => exact absurd path_eq.symm (others _ event_eq)
  | forgotten event_eq => exact absurd event_eq keeps

/-- Along every run, no path is served more than its limit in a minute. -/
theorem servedAt_run_le (within : ∀ path, service.servedAt path ≤ limit) (steps : List Step)
    (path : String) : (service.run steps).servedAt path ≤ limit := by
  induction steps generalizing service with
  | nil => exact within path
  | cons s rest ih =>
    rw [run_cons]
    apply ih
    intro path
    cases service.step_counts s path with
    | kept same => rw [same]; exact within path
    | counted _ _ room next_eq => rw [next_eq]; exact room
    | forgotten _ next_eq => rw [next_eq]; exact Nat.zero_le limit

/-- Once the minute of its path is over, a request that asks for a command is carried out, however
often the path had been served. -/
theorem serve_of_forgotten {r : Request} {actor : Actor} {command : Command} (token : Token)
    (now : Instant) (asks : r.Asks actor command) (health : command ≠ .health) :
    ((service.forget (Target.ofText r.target).path).serve token now r).2 =
      .ofOutcome (command.run service.world token now actor).2 := by
  apply serve_of_asks token now asks health
  rw [servedAt_forget]
  decide

end Service

end WastePickup
