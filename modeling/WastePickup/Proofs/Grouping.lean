import Mathlib.Algebra.BigOperators.Group.List.Lemmas
import Mathlib.Algebra.Ring.Nat
import Mathlib.Data.List.Count
import WastePickup.Metrics

/-!
# Counters by groups and by rows

The counters are put together from groups: what the store counts, and adds up, under each text. They
can be read off the rows one by one as well. The two ways agree. A text is counted under the status
that it stands for, however many texts stand for that status; the first text that is no status is
the same in both; and completed bookings have one text only, so that their revenue is the sum of one
group, added up in the order of its rows.

* `find?_eraseDups`, `nodup_eraseDups`: what grouping keeps of a list.
* `Metrics.tally_of_known`, `Metrics.tally_of_unknown`: what comes of adding groups.
* `Metrics.statuses_of_known`, `Metrics.statuses_of_unknown`: what comes of reading rows.
* `Store.metrics_eq`: the counters of a store are those of its rows.
-/

namespace WastePickup

/-! ## Lists without repetitions -/

section Distinct

variable {α : Type} [DecidableEq α]

/-- The first element of a kind stays the first when repetitions are left out. -/
theorem find?_eraseDups (p : α → Bool) : (xs : List α) → xs.eraseDups.find? p = xs.find? p
  | [] => rfl
  | x :: rest => by
    rw [List.eraseDups_cons, List.find?_cons, List.find?_cons]
    cases hp : p x with
    | true => rfl
    | false =>
      -- What is left out equals `x`, and is not of the kind.
      have hkind : (fun y => decide (((!y == x) = true) ∧ p y = true)) = p := by
        funext y
        by_cases hy : y = x <;> simp [hy, hp]
      dsimp only
      rw [find?_eraseDups p, List.find?_filter, hkind]
termination_by xs => xs.length
decreasing_by exact Nat.lt_succ_of_le (List.length_filter_le _ _)

/-- Nothing is repeated when repetitions are left out. -/
theorem nodup_eraseDups : (xs : List α) → xs.eraseDups.Nodup
  | [] => List.nodup_nil
  | x :: rest => by
    rw [List.eraseDups_cons, List.nodup_cons]
    refine ⟨?_, nodup_eraseDups _⟩
    simp [List.mem_eraseDups]
termination_by xs => xs.length
decreasing_by exact Nat.lt_succ_of_le (List.length_filter_le _ _)

/-- The elements of a kind, counted one by one, add up to their number. -/
theorem sum_count_eraseDups (p : α → Bool) (xs : List α) :
    ((xs.eraseDups.filter p).map fun x => xs.count x).sum = xs.countP p := by
  have hperm : xs.eraseDups.Perm xs.dedup :=
    (List.perm_ext_iff_of_nodup (nodup_eraseDups xs) xs.nodup_dedup).2 fun x => by
      rw [List.mem_eraseDups, List.mem_dedup]
  rw [← List.sum_map_count_dedup_filter_eq_countP]
  exact ((hperm.filter p).map _).sum_eq

/-- Where repetitions are left out, an element stands once if it is there at all. -/
theorem filter_eq_eraseDups (x : α) (xs : List α) :
    (xs.eraseDups.filter fun y => y = x) = if x ∈ xs then [x] else [] := by
  have hcount : xs.eraseDups.count x = if x ∈ xs then 1 else 0 := by
    rw [(nodup_eraseDups xs).count]
    simp only [List.mem_eraseDups]
  rw [List.filter_eq, hcount]
  split <;> rfl

end Distinct

namespace Metrics

/-! ## Groups -/

variable {groups : List (String × Nat)} {rows : List Booking}

/-- Groups whose texts are all known are added to the counters of their statuses. -/
theorem tally_of_known (known : ∀ group ∈ groups, Status.ofStored? group.1 ≠ none)
    (byStatus : Status → Nat) :
    tally byStatus groups = .ok fun status => byStatus status +
      ((groups.filter fun group => Status.ofStored? group.1 = some status).map Prod.snd).sum := by
  induction groups generalizing byStatus with
  | nil => rfl
  | cons group rest ih =>
    obtain ⟨text, count⟩ := group
    obtain ⟨status, hstatus⟩ := Option.ne_none_iff_exists'.1 (known (text, count) (by simp))
    simp only [tally, hstatus, ih fun g hg => known g (List.mem_cons_of_mem _ hg)]
    congr 1
    funext c
    by_cases hc : c = status
    · simp [add, hc, hstatus, Nat.add_assoc]
    · simp [add, hc, hstatus, Ne.symm hc]

/-- The first group whose text is unknown is refused. -/
theorem tally_of_unknown {group : String × Nat}
    (found : groups.find? (fun group => (Status.ofStored? group.1).isNone) = some group)
    (byStatus : Status → Nat) : tally byStatus groups = .error (.unknownStatus group.1) := by
  induction groups generalizing byStatus with
  | nil => cases found
  | cons first rest ih =>
    obtain ⟨text, count⟩ := first
    rw [List.find?_cons] at found
    cases hstatus : Status.ofStored? text with
    | none =>
      simp only [hstatus, Option.isNone_none, Option.some.injEq] at found
      simp only [tally, hstatus, ← found]
    | some status =>
      simp only [hstatus, Option.isNone_some] at found
      simp only [tally, hstatus, ih found]

/-! ## Rows -/

/-- The statuses of all bookings, or the refusal of the first one that has none. -/
def statuses : List Booking → Except Refusal (List Status)
  | [] => .ok []
  | b :: rest =>
    match b.status? with
    | none => .error (.unknownStatus b.progress.status)
    | some status => (statuses rest).map (status :: ·)

/-- The statuses of bookings can be listed where all of them are known. -/
theorem statuses_of_known (known : ∀ b ∈ rows, b.status? ≠ none) :
    ∃ list, statuses rows = .ok list ∧ rows.map Booking.status? = list.map some := by
  induction rows with
  | nil => exact ⟨[], rfl, rfl⟩
  | cons b rest ih =>
    obtain ⟨status, hstatus⟩ := Option.ne_none_iff_exists'.1 (known b List.mem_cons_self)
    obtain ⟨list, hok, hmap⟩ := ih fun b hb => known b (List.mem_cons_of_mem _ hb)
    refine ⟨status :: list, ?_, ?_⟩
    · simp only [statuses, hstatus, hok, Except.map]
    · rw [List.map_cons, List.map_cons, hstatus, hmap]

/-- The first booking whose text is unknown is refused. -/
theorem statuses_of_unknown {text : String}
    (found : (texts rows).find? (fun text => (Status.ofStored? text).isNone) = some text) :
    statuses rows = .error (.unknownStatus text) := by
  induction rows with
  | nil => cases found
  | cons b rest ih =>
    rw [texts, List.map_cons, List.find?_cons] at found
    have hread : b.status? = Status.ofStored? b.progress.status := rfl
    cases hstatus : Status.ofStored? b.progress.status with
    | none =>
      simp only [hstatus, Option.isNone_none, Option.some.injEq] at found
      simp only [statuses, hread, hstatus]
      rw [found]
    | some status =>
      simp only [hstatus, Option.isNone_some] at found
      simp only [statuses, hread, hstatus, ih found, Except.map]

/-- A list of the statuses of bookings is as long as theirs, and holds each status as often as
bookings are in it. -/
theorem count_of_map {list : List Status} (h : rows.map Booking.status? = list.map some)
    (status : Status) : list.count status = rows.countP fun b => b.status? = some status := by
  have hinjective : Function.Injective (some : Status → Option Status) :=
    fun _ _ => Option.some.inj
  rw [← List.count_map_of_injective list some hinjective, ← h, List.count, List.countP_map]
  apply List.countP_congr
  intro b _
  simp

/-! ## Groups and rows -/

/-- All bookings are in one of the groups. -/
theorem totalOf_countByText (rows : List Booking) : totalOf (countByText rows) = rows.length := by
  have hall : (texts rows).eraseDups.filter (fun _ => true) = (texts rows).eraseDups :=
    List.filter_true _
  have hcount := sum_count_eraseDups (fun _ => true) (texts rows)
  rw [hall, List.countP_true, texts, List.length_map] at hcount
  rw [totalOf, countByText, List.foldl_map, ← hcount, List.sum_eq_foldl, List.foldl_map]
  rfl

/-- The groups of a status hold as many bookings as are in that status. -/
theorem sum_countByText_filter (rows : List Booking) (status : Status) :
    (((countByText rows).filter fun group =>
      Status.ofStored? group.1 = some status).map Prod.snd).sum =
      rows.countP fun b => b.status? = some status := by
  have hcount := sum_count_eraseDups (fun text => Status.ofStored? text = some status) (texts rows)
  rw [texts, List.countP_map] at hcount
  rw [countByText, List.filter_map, List.map_map]
  exact hcount

/-- Completed bookings are stored under one text only. -/
theorem ofStored?_eq_completed_iff {text : String} :
    Status.ofStored? text = some .completed ↔ text = Status.completed.name := by
  constructor
  · intro h
    obtain ⟨stored, hname, hcanonical⟩ := Option.map_eq_some_iff.1 h
    have hstored : stored = .completed := by
      cases stored <;> first | rfl | cases hcanonical
    rw [← Named.name_of_ofName? hname, hstored]
    rfl
  · rintro rfl
    exact Status.ofStored?_name .completed

/-- The revenue is the sum of the completed bookings. -/
theorem revenueOf_amountByText (rows : List Booking) :
    revenueOf (amountByText rows) =
      0.0 + sumAmounts (rows.filter fun b => b.status? = some .completed) := by
  let amount (text : String) : Float :=
    sumAmounts (rows.filter fun b => b.progress.status = text)
  have hgroups : (amountByText rows).filter
      (fun group => (Status.ofStored? group.1).any Status.isCompleted) =
      (if Status.completed.name ∈ texts rows then [Status.completed.name] else []).map
        fun text => (text, amount text) := by
    rw [← filter_eq_eraseDups, amountByText, List.filter_map]
    congr 2
    funext text
    rw [Bool.eq_iff_iff, decide_eq_true_iff, ← ofStored?_eq_completed_iff, Function.comp_apply]
    cases Status.ofStored? text <;> simp [Status.isCompleted]
  have hrows : (rows.filter fun b => b.status? = some .completed) =
      rows.filter fun b => b.progress.status = Status.completed.name := by
    simp only [Booking.status?, Progress.status?, ofStored?_eq_completed_iff]
  rw [revenueOf, hrows, hgroups]
  by_cases stored : Status.completed.name ∈ texts rows
  · rw [if_pos stored]
    rfl
  · have hnone : (rows.filter fun b => b.progress.status = Status.completed.name) = [] := by
      rw [List.filter_eq_nil_iff]
      intro b hb
      rw [decide_eq_true_iff]
      exact fun h => stored (h ▸ List.mem_map_of_mem hb)
    rw [if_neg stored, hnone]
    rfl

end Metrics

/-- The counters of a store are those of its rows, taken one by one. -/
theorem Store.metrics_eq (s : Store) :
    s.metrics = (Metrics.statuses s.bookings.rows).map fun list =>
      let completed := s.bookings.rows.filter fun b => b.status? = some .completed
      ⟨list.length, fun status => list.count status,
        Number.floatCents (0.0 + Metrics.sumAmounts completed)⟩ := by
  let rows := s.bookings.rows
  let unknown (text : String) : Bool := (Status.ofStored? text).isNone
  have hfind : (Metrics.countByText rows).find? (fun group => unknown group.1) =
      ((Metrics.texts rows).find? unknown).map fun text =>
        (text, (Metrics.texts rows).count text) := by
    rw [Metrics.countByText, List.find?_map]
    exact congrArg _ (find?_eraseDups unknown _)
  cases found : (Metrics.texts rows).find? unknown with
  | some text =>
    rw [found] at hfind
    rw [metrics, Metrics.tally_of_unknown hfind, Metrics.statuses_of_unknown found]
    rfl
  | none =>
    have htexts : ∀ text ∈ Metrics.texts rows, Status.ofStored? text ≠ none := by
      intro text mem
      have := List.find?_eq_none.1 found text mem
      simpa [unknown] using this
    have hgroups : ∀ group ∈ Metrics.countByText rows, Status.ofStored? group.1 ≠ none := by
      intro group mem
      obtain ⟨text, htext, rfl⟩ := List.mem_map.1 mem
      exact htexts text (List.mem_eraseDups.1 htext)
    obtain ⟨list, hlist, hmap⟩ := Metrics.statuses_of_known fun b hb =>
      htexts b.progress.status (List.mem_map_of_mem hb)
    have hlength : list.length = rows.length := by
      rw [← List.length_map some, ← hmap, List.length_map]
    have hcounts : (fun status => 0 + (((Metrics.countByText rows).filter fun group =>
        Status.ofStored? group.1 = some status).map Prod.snd).sum) =
        fun status => list.count status := by
      funext status
      rw [Nat.zero_add, Metrics.sum_countByText_filter, Metrics.count_of_map hmap]
    have hrevenue := Metrics.revenueOf_amountByText rows
    have htotal := Metrics.totalOf_countByText rows
    rw [metrics, Metrics.tally_of_known hgroups, hlist, hcounts]
    simp only [bind, Except.bind, pure, Except.pure, Except.map]
    rw [htotal, hrevenue, hlength]

end WastePickup
