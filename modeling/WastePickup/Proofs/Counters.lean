import Mathlib.Algebra.BigOperators.Group.List.Basic
import Mathlib.Algebra.Ring.Nat
import WastePickup.Proofs.Asking
import WastePickup.Proofs.Grouping
import WastePickup.Proofs.Paging

/-!
# Counters and lists

The counters count the rows of each status, under whichever name it is stored. The lists go the
other way: a status that is asked for is expanded to the names that it may be stored under. The two
translations are inverse to each other, so a counter of a status is the total of the list by that
status, and no row is lost or counted twice.

Only rows in a known status can be counted; where there is another one, there are no counters at
all.

* `Status.sum_count`: statuses of a list, counted one by one, add up to its length.
* `Store.exists_metrics`: where all statuses are known, there are counters, and what they say.
* `Store.total_eq`: the totals of the lists, in the same terms.
* `counters_agree_with_lists`: what requests for counters and for lists are answered.
-/

namespace WastePickup

/-! ## Counting -/

/-- The statuses of a list, counted one by one, add up to its length. -/
theorem Status.sum_count (statuses : List Status) :
    ((Named.all : List Status).map fun c => statuses.count c).sum = statuses.length := by
  induction statuses with
  | nil => rfl
  | cons status rest ih =>
    have hone : ((Named.all : List Status).map fun c => if status == c then 1 else 0).sum = 1 := by
      cases status <;> rfl
    simp only [List.count_cons]
    rw [List.sum_map_add, ih, hone, List.length_cons]

namespace Store

/-- All bookings are in a known status. -/
def AllKnown (s : Store) : Prop :=
  ∀ b ∈ s.bookings.rows, b.status? ≠ none

/-- How many bookings are in a status, under whichever name it is stored. -/
def countIn (s : Store) (status : Status) : Nat :=
  s.bookings.rows.countP fun b => b.status? = some status

end Store

/-- Where all of them are in a known status, bookings can be shown to any role. -/
theorem BookingView.ofList_of_known (viewer : Role) (rows : List Booking)
    (known : ∀ b ∈ rows, b.status? ≠ none) : ∃ views, ofList viewer rows = .ok views := by
  induction rows with
  | nil => exact ⟨[], rfl⟩
  | cons b rest ih =>
    obtain ⟨status, hstatus⟩ := Option.ne_none_iff_exists'.1 (known b List.mem_cons_self)
    obtain ⟨views, hviews⟩ := ih fun b hb => known b (List.mem_cons_of_mem _ hb)
    refine ⟨.ofStatus viewer b status :: views, ?_⟩
    simp only [ofList, of, hstatus, hviews, Except.map]

namespace Store

variable {s : Store}

/-- Where all statuses are known, they can be listed, and the list tells how many bookings there
are and how many in each status. -/
theorem exists_statuses (known : s.AllKnown) :
    ∃ statuses, Metrics.statuses s.bookings.rows = .ok statuses ∧
      statuses.length = s.bookings.rows.length ∧ (fun c => statuses.count c) = s.countIn := by
  obtain ⟨statuses, hok, hmap⟩ := Metrics.statuses_of_known known
  refine ⟨statuses, hok, ?_, funext (Metrics.count_of_map hmap)⟩
  rw [← List.length_map some, ← hmap, List.length_map]

/-- Then there are counters: how many bookings there are, and how many in each status. -/
theorem exists_metrics (known : s.AllKnown) :
    ∃ revenue, s.metrics = .ok ⟨s.bookings.rows.length, s.countIn, revenue⟩ := by
  obtain ⟨statuses, hok, hlength, hcount⟩ := s.exists_statuses known
  rw [metrics_eq, hok, ← hlength, ← hcount]
  exact ⟨_, rfl⟩

/-- Each booking is counted once. -/
theorem sum_countIn (known : s.AllKnown) :
    ((Named.all : List Status).map s.countIn).sum = s.bookings.rows.length := by
  obtain ⟨statuses, -, hlength, hcount⟩ := s.exists_statuses known
  rw [← hcount, Status.sum_count, hlength]

/-! ## Lists -/

/-- The total of a list of all customers and drivers is what is counted: the bookings in the status
that it is asked for, or all of them. -/
theorem total_eq (s : Store) (status : Option Status) :
    s.total ⟨none, none, status⟩ = status.elim s.bookings.rows.length s.countIn := by
  cases status with
  | none =>
    show s.bookings.rows.countP _ = s.bookings.rows.length
    rw [List.countP_eq_length]
    intro b _
    rfl
  | some status =>
    apply List.countP_congr
    intro b _
    rw [BookingFilter.accepts_iff_wants, decide_eq_true_eq]
    constructor
    · intro h
      exact h.status status rfl
    · intro h
      exact ⟨by simp, by simp, fun c hc => by rwa [← Option.some.inj hc]⟩

/-- Where all statuses are known, a page can be shown. -/
theorem exists_pageView (known : s.AllKnown) (viewer : Role) {f : BookingFilter} {page size : Int}
    (fits : f.Fits page size) :
    ∃ views, s.pageView viewer f page size = .ok (.page views (s.total f) page size) := by
  obtain ⟨views, hviews⟩ := BookingView.ofList_of_known viewer (s.page f page size) fun b hb =>
    known b (mem_listed_iff.1 (mem_listed_of_mem_page hb)).1
  refine ⟨views, ?_⟩
  unfold pageView
  rw [pageAndTotal_of_fits fits]
  simp only [bind, Except.bind, hviews, pure, Except.pure]

end Store

/-! ## Requests -/

/-- Where all statuses are known, the counters and the lists agree, whenever they are asked for and
by whom. The counters are answered. For every status they hold how many bookings are in it, under
its present name, and these numbers add up to the counter of all bookings. A list of all customers
by a status is answered with the same number as its total, on every page whose numbers can be put to
the store, and a list of all bookings with the counter of all. Each booking is in one status. -/
theorem counters_agree_with_lists (service : Service) (known : service.world.store.AllKnown) :
    let s := service.world.store
    let all := s.bookings.rows.length
    ∃ counters : Json,
      (∀ token now (r : Request) actor, r.Asks actor .metrics →
        (service.serve token now r).2 = service.limited r (.ok ⟨200, some counters⟩)) ∧
      counters.at? [.field "by_status"] =
        some (.obj ((Named.all : List Status).map fun c => (c.name, .int (s.countIn c)))) ∧
      counters.at? [.field "total_bookings"] = some (.int all) ∧
      ((Named.all : List Status).map s.countIn).sum = all ∧
      counters.at? [.field "completed_bookings"] = some (.int (s.countIn .completed)) ∧
      counters.at? [.field "payment_due_bookings"] = some (.int (s.countIn .collected)) ∧
      counters.at? [.field "cancelled_bookings"] = some (.int (s.countIn .cancelled)) ∧
      (∀ token now (r : Request) actor status page size,
        r.Asks actor (.allBookings status page size) →
        BookingFilter.Fits ⟨none, none, status⟩ page size →
        ∃ list : Json,
          (service.serve token now r).2 = service.limited r (.ok ⟨200, some list⟩) ∧
          list.at? [.field "total"] = some (.int ↑(status.elim all s.countIn))) ∧
      ∀ b ∈ s.bookings.rows, ∃! status, b.status? = some status := by
  intro s all
  obtain ⟨revenue, hmetrics⟩ := s.exists_metrics known
  let m : Metrics := ⟨all, s.countIn, revenue⟩
  refine ⟨Answer.ofMetrics m, ?asked, rfl, rfl, s.sum_countIn known, rfl, rfl, rfl, ?listed, ?once⟩
  case asked =>
    intro token now r actor asks
    have hrun : (Command.metrics.run service.world token now actor).2 = .ok (.metrics m) := by
      show s.metrics.map Answer.metrics = _
      rw [hmetrics]
      rfl
    rw [Service.serve_of_asks_limited token now asks (by simp), hrun]
    rfl
  case listed =>
    intro token now r actor status page size asks fits
    obtain ⟨views, hviews⟩ := s.exists_pageView known actor.role fits
    rw [s.total_eq] at hviews
    refine ⟨(Answer.page views (status.elim all s.countIn) page size).toJson, ?_, rfl⟩
    have hrun : ((Command.allBookings status page size).run service.world token now actor).2 =
        .ok (.page views (status.elim all s.countIn) page size) := hviews
    rw [Service.serve_of_asks_limited token now asks (by simp), hrun]
    rfl
  case once =>
    intro b mem
    obtain ⟨status, hstatus⟩ := Option.ne_none_iff_exists'.1 (known b mem)
    refine ⟨status, hstatus, fun other hother => ?_⟩
    exact Option.some.inj (hother.symm.trans hstatus)

/-- Two new bookings, one of them under the old name of the status, and one whose payment is due,
under its old name: the counters hold two and one, and the list of new bookings tells two. -/
theorem old_names_are_counted :
    let row (id : Int) (status : String) : Booking :=
      { Booking.single ⟨status, none, 1, none, none, none, none⟩ with id := id }
    let service : Service := ⟨⟨{ Store.single (row 1 "CREATED").progress with
      bookings := ⟨[row 1 "CREATED", row 2 "SCHEDULED", row 3 "PAID"]⟩ }, .empty⟩, []⟩
    let ask (target : String) : Request :=
      ⟨"GET", target, [("X-Actor-Id", "3"), ("X-Actor-Role", "ADMIN")], .absent⟩
    ∃ counters list : Json,
      (service.serve ⟨1⟩ ⟨1⟩ (ask "/api/v1/admin/metrics")).2 = .ok ⟨200, some counters⟩ ∧
      counters.at? [.field "payment_due_bookings"] = some (.int 1) ∧
      counters.at? [.field "total_bookings"] = some (.int 3) ∧
      (service.serve ⟨2⟩ ⟨2⟩ (ask "/api/v1/admin/bookings?status=CREATED")).2 =
        .ok ⟨200, some list⟩ ∧
      list.at? [.field "total"] = some (.int 2) := by
  intro row service ask
  have known : service.world.store.AllKnown := by
    unfold Store.AllKnown
    decide +kernel
  obtain ⟨counters, hcounters, -, total, -, -, due, -, lists, -⟩ :=
    counters_agree_with_lists service known
  have asks : (ask "/api/v1/admin/metrics").Asks ⟨3, .admin⟩ .metrics := by
    have leads : (ask "/api/v1/admin/metrics").LeadsTo .metrics "" := by decide +kernel
    exact .intro leads (by decide +kernel) (by decide) rfl
  have asksList : (ask "/api/v1/admin/bookings?status=CREATED").Asks ⟨3, .admin⟩
      (.allBookings (some .created) 1 10) := by
    have leads : (ask "/api/v1/admin/bookings?status=CREATED").LeadsTo .allBookings "" := by
      decide +kernel
    exact .intro leads (by decide +kernel) (by decide) (by decide +kernel)
  have fits : BookingFilter.Fits ⟨none, none, some .created⟩ 1 10 :=
    ⟨by simp, by simp, by decide, by decide⟩
  obtain ⟨list, hlist, count⟩ := lists ⟨2⟩ ⟨2⟩ _ _ _ _ _ asksList fits
  have created : service.world.store.countIn .created = 2 := by decide +kernel
  have collected : service.world.store.countIn .collected = 1 := by decide +kernel
  refine ⟨counters, list, ?_, ?_, total, ?_, ?_⟩
  · rw [hcounters ⟨1⟩ ⟨1⟩ _ _ asks]
    rfl
  · rw [due, collected]
    rfl
  · rw [hlist]
    rfl
  · rw [count]
    show some (Json.int ↑(service.world.store.countIn .created)) = _
    rw [created]
    rfl

end WastePickup
