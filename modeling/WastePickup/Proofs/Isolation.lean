import Mathlib.Data.List.Sort
import WastePickup.Calendar.DayNumber
import WastePickup.Proofs.Reach

/-!
# Nobody sees the bookings of others

A customer reads his own bookings and a driver those in his hands. What either of them is answered
depends on these bookings and on which numbers are given to bookings at all, and on nothing else in
the store: neither a count, nor the order of a list, nor a failure tells anything about the rest.
A role that an endpoint does not admit is turned away before the store is looked at.

Two stores may hold the same bookings in another order. Lists are sorted by a time or a date and
then by number, so that the order of the table does not show, provided that the numbers tell
bookings apart; for dates this takes that no two of them have the same day number
(`Date.toDays_injective`).

* `Store.AgreeFor`: two stores hold the same bookings of somebody, and bookings under the same
  numbers.
* `AgreeFor.listed_eq`, `AgreeFor.dutiesOf_eq`, `AgreeFor.find?_cases`: what lists and look-ups give
  in such stores.
* `reads_show_own_bookings`: requests for reading by customers and drivers.
-/

namespace WastePickup

/-! ## Sorting -/

/-- Sorting gives the same list, in whatever order the rows come, if what it compares by puts any
two of them in one order only. -/
theorem mergeSort_eq_of_perm {α : Type} {le r : α → α → Bool} {l l' : List α} (perm : l.Perm l')
    (trans : ∀ a b c, r a b = true → r b c = true → r a c = true)
    (total : ∀ a b, (r a b || r b a) = true) (agree : ∀ a ∈ l, ∀ b ∈ l, le a b = r a b)
    (antisymm : ∀ a ∈ l, ∀ b ∈ l, r a b = true → r b a = true → a = b) :
    l.mergeSort le = l'.mergeSort le := by
  have hsame : ∀ rows : List α, rows.Perm l → rows.mergeSort le = rows.mergeSort r := by
    intro rows hrows
    have h : (rows.mergeSort le).map id = (rows.map id).mergeSort r := by
      apply List.map_mergeSort
      intro a ha b hb
      exact agree a (hrows.mem_iff.1 ha) b (hrows.mem_iff.1 hb)
    rwa [List.map_id, List.map_id] at h
  rw [hsame l (.refl l), hsame l' perm.symm]
  have hperm : (l.mergeSort r).Perm (l'.mergeSort r) :=
    (List.mergeSort_perm l r).trans (perm.trans (List.mergeSort_perm l' r).symm)
  refine hperm.eq_of_pairwise ?_ (List.pairwise_mergeSort trans total l)
    (List.pairwise_mergeSort trans total l')
  intro a b ha hb
  exact antisymm a (List.mem_mergeSort.1 ha) b (perm.mem_iff.2 (List.mem_mergeSort.1 hb))

namespace BookingFilter

/-- The newest come first, and of those of one time the one with the greatest number. -/
theorem newerFirst_iff {a b : Booking} :
    newerFirst a b = true ↔ b.pickup.createdAt.micros < a.pickup.createdAt.micros ∨
      b.pickup.createdAt.micros = a.pickup.createdAt.micros ∧ b.id ≤ a.id := by
  have htime : a.pickup.createdAt = b.pickup.createdAt ↔
      a.pickup.createdAt.micros = b.pickup.createdAt.micros := by
    cases a.pickup.createdAt
    cases b.pickup.createdAt
    simp
  unfold newerFirst
  split
  · rename_i h
    rw [decide_eq_true_eq]
    have := htime.1 h
    omega
  · rename_i h
    rw [decide_eq_true_eq]
    have : a.pickup.createdAt.micros ≠ b.pickup.createdAt.micros := fun heq => h (htime.2 heq)
    omega

/-- To be newer goes on from one booking to the next. -/
theorem newerFirst_trans (a b c : Booking) (hab : newerFirst a b = true)
    (hbc : newerFirst b c = true) : newerFirst a c = true := by
  rw [newerFirst_iff] at hab hbc ⊢
  omega

/-- Of any two bookings, one may come before the other. -/
theorem newerFirst_total (a b : Booking) : (newerFirst a b || newerFirst b a) = true := by
  rw [Bool.or_eq_true, newerFirst_iff, newerFirst_iff]
  omega

/-- Pickups in the order of their days, and those of one day in the order of their numbers. -/
def byDay (a b : Booking) : Bool :=
  a.pickup.scheduledDate.toDays < b.pickup.scheduledDate.toDays ||
    a.pickup.scheduledDate.toDays = b.pickup.scheduledDate.toDays && a.id ≤ b.id

/-- Duties come by their day, and on one day by their number. -/
theorem byDay_iff {a b : Booking} :
    byDay a b = true ↔ a.pickup.scheduledDate.toDays < b.pickup.scheduledDate.toDays ∨
      a.pickup.scheduledDate.toDays = b.pickup.scheduledDate.toDays ∧ a.id ≤ b.id := by
  simp [byDay]

/-- Where dates are valid, what is due first is so by its day. -/
theorem dueFirst_eq_byDay {a b : Booking} (ha : a.pickup.scheduledDate.isValid = true)
    (hb : b.pickup.scheduledDate.isValid = true) : dueFirst a b = byDay a b := by
  rw [Bool.eq_iff_iff, byDay_iff]
  unfold dueFirst
  split
  · rename_i h
    rw [decide_eq_true_eq, h]
    omega
  · rename_i h
    have hne : a.pickup.scheduledDate.toDays ≠ b.pickup.scheduledDate.toDays :=
      fun heq => h (Date.toDays_injective ha hb heq)
    rw [decide_eq_true_eq]
    omega

end BookingFilter

/-! ## Own bookings -/

/-- Whether a booking is somebody's own: that of its customer, or in the hands of its driver. To
admins all bookings are open. -/
def Booking.isOf (b : Booking) (actor : Actor) : Bool :=
  match actor.role with
  | .customer => b.pickup.user = actor.id
  | .driver => b.progress.driver = some actor.id
  | .admin | .superAdmin => true

/-- Two stores hold the same bookings of somebody, and bookings under the same numbers. Numbers tell
bookings apart, and pickups are due on real dates. -/
structure Store.AgreeFor (actor : Actor) (s t : Store) : Prop where
  keys : s.bookings.ids.Nodup ∧ t.bookings.ids.Nodup
  ids : ∀ booking, booking ∈ s.bookings.ids ↔ booking ∈ t.bookings.ids
  own : ∀ b : Booking, b.isOf actor = true → (b ∈ s.bookings.rows ↔ b ∈ t.bookings.rows)
  dates : ∀ b ∈ s.bookings.rows, b.isOf actor = true → b.pickup.scheduledDate.isValid = true

/-- A booking is found exactly where its number is given and tells bookings apart. -/
theorem Table.find?_eq_some_iff_mem {t : Table Booking} (keys : t.ids.Nodup) {booking : Int}
    {b : Booking} : t.find? booking = some b ↔ b ∈ t.rows ∧ b.id = booking := by
  constructor
  · intro h
    exact ⟨mem_of_find? h, id_of_find? h⟩
  · rintro ⟨mem, rfl⟩
    have hsome : (t.rows.find? fun row => Row.id row = b.id).isSome :=
      List.find?_isSome.2 ⟨b, mem, decide_eq_true rfl⟩
    obtain ⟨found, h⟩ := Option.isSome_iff_exists.1 hsome
    have hid : Row.id found = b.id := id_of_find? (t := t) h
    obtain rfl : b = found := List.inj_on_of_nodup_map keys mem (mem_of_find? (t := t) h) hid.symm
    exact h

/-- A booking is not found if its number is not in use. -/
theorem Table.find?_eq_none_iff_ids {t : Table Booking} {booking : Int} :
    t.find? booking = none ↔ booking ∉ t.ids := by
  simp [find?, ids]

namespace Store.AgreeFor

variable {actor : Actor} {s t : Store}

/-- The rows that a check accepts which accepts own bookings only. -/
theorem perm_filter (agree : AgreeFor actor s t) {p : Booking → Bool}
    (own : ∀ b, p b = true → b.isOf actor = true) :
    (t.bookings.rows.filter p).Perm (s.bookings.rows.filter p) := by
  have hs : s.bookings.rows.Nodup := List.Nodup.of_map _ agree.keys.1
  have ht : t.bookings.rows.Nodup := List.Nodup.of_map _ agree.keys.2
  apply (List.perm_ext_iff_of_nodup (ht.filter p) (hs.filter p)).2
  intro b
  rw [List.mem_filter, List.mem_filter]
  constructor
  · rintro ⟨mem, hp⟩
    exact ⟨(agree.own b (own b hp)).2 mem, hp⟩
  · rintro ⟨mem, hp⟩
    exact ⟨(agree.own b (own b hp)).1 mem, hp⟩

/-- Bookings under one number are one booking. -/
theorem eq_of_id (agree : AgreeFor actor s t) {p : Booking → Bool} {a b : Booking}
    (ha : a ∈ t.bookings.rows.filter p) (hb : b ∈ t.bookings.rows.filter p) (hid : a.id = b.id) :
    a = b :=
  List.inj_on_of_nodup_map agree.keys.2 (List.mem_of_mem_filter ha) (List.mem_of_mem_filter hb) hid

/-- A list of own bookings is the same in both stores. -/
theorem listed_eq (agree : AgreeFor actor s t) {f : BookingFilter}
    (own : ∀ b, f.accepts b = true → b.isOf actor = true) : t.listed f = s.listed f := by
  apply mergeSort_eq_of_perm (agree.perm_filter own) (r := BookingFilter.newerFirst)
    BookingFilter.newerFirst_trans BookingFilter.newerFirst_total
  · intro a _ b _
    rfl
  · intro a ha b hb hab hba
    rw [BookingFilter.newerFirst_iff] at hab hba
    exact agree.eq_of_id ha hb (by omega)

/-- So are the bookings in the hands of a driver. -/
theorem dutiesOf_eq (agree : AgreeFor actor s t) (role : actor.role = .driver) :
    t.dutiesOf actor.id = s.dutiesOf actor.id := by
  have own : ∀ b : Booking, decide (b.progress.driver = some actor.id) = true →
      b.isOf actor = true := by
    intro b hb
    simpa [Booking.isOf, role] using hb
  have hperm := agree.perm_filter own
  apply mergeSort_eq_of_perm hperm (r := BookingFilter.byDay)
  · intro a b c hab hbc
    rw [BookingFilter.byDay_iff] at hab hbc ⊢
    omega
  · intro a b
    rw [Bool.or_eq_true, BookingFilter.byDay_iff, BookingFilter.byDay_iff]
    omega
  · intro a ha b hb
    have valid : ∀ row ∈ t.bookings.rows.filter (fun b => b.progress.driver = some actor.id),
        row.pickup.scheduledDate.isValid = true := by
      intro row hrow
      obtain ⟨mem, hdriver⟩ := List.mem_filter.1 (hperm.mem_iff.1 hrow)
      exact agree.dates row mem (own row hdriver)
    exact BookingFilter.dueFirst_eq_byDay (valid a ha) (valid b hb)
  · intro a ha b hb hab hba
    rw [BookingFilter.byDay_iff] at hab hba
    exact agree.eq_of_id ha hb (by omega)

/-- Under a number there is no booking in either store, or the same own booking in both, or somebody
else's in each. -/
theorem find?_cases (agree : AgreeFor actor s t) (booking : Int) :
    (s.bookings.find? booking = none ∧ t.bookings.find? booking = none) ∨
      (∃ b, b.isOf actor = true ∧ s.bookings.find? booking = some b ∧
        t.bookings.find? booking = some b) ∨
      ∃ b b', b.isOf actor = false ∧ b'.isOf actor = false ∧
        s.bookings.find? booking = some b ∧ t.bookings.find? booking = some b' := by
  cases hs : s.bookings.find? booking with
  | none =>
    refine .inl ⟨rfl, ?_⟩
    rw [Table.find?_eq_none_iff_ids] at hs ⊢
    exact fun mem => hs ((agree.ids booking).2 mem)
  | some b =>
    obtain ⟨hmem, hid⟩ := (Table.find?_eq_some_iff_mem agree.keys.1).1 hs
    cases hown : b.isOf actor with
    | true =>
      refine .inr (.inl ⟨b, hown, rfl, ?_⟩)
      exact (Table.find?_eq_some_iff_mem agree.keys.2).2 ⟨(agree.own b hown).1 hmem, hid⟩
    | false =>
      cases ht : t.bookings.find? booking with
      | none =>
        rw [Table.find?_eq_none_iff_ids, ← agree.ids booking] at ht
        exact absurd (List.mem_map.2 ⟨b, hmem, hid⟩) ht
      | some b' =>
        obtain ⟨hmem', hid'⟩ := (Table.find?_eq_some_iff_mem agree.keys.2).1 ht
        refine .inr (.inr ⟨b, b', hown, ?_, rfl, rfl⟩)
        -- An own booking in the other store would be found in this one.
        apply Bool.eq_false_iff.2
        intro hown'
        have h := (Table.find?_eq_some_iff_mem agree.keys.1).2
          ⟨(agree.own b' hown').2 hmem', hid'⟩
        rw [hs] at h
        cases h
        rw [hown] at hown'
        cases hown'

/-- One booking is shown in the same way, if it may be seen by those whose own it is. -/
theorem bookingView_eq (agree : AgreeFor actor s t) (viewer : Role) (booking : Int)
    {maySee : Booking → Bool} (own : ∀ b, maySee b = b.isOf actor) (refusal : Refusal) :
    t.bookingView viewer booking maySee refusal = s.bookingView viewer booking maySee refusal := by
  unfold bookingView Table.lookUp
  cases requireFits booking with
  | error refusal => rfl
  | ok fits =>
    rcases agree.find?_cases booking with ⟨hs, ht⟩ | ⟨b, -, hs, ht⟩ | ⟨b, b', hb, hb', hs, ht⟩
    · rw [hs, ht]
    · rw [hs, ht]
    · simp only [hs, ht, bind, Except.bind, own, hb, hb', Bool.false_eq_true, if_false]

end Store.AgreeFor

/-! ## What is shown -/

namespace BookingView

/-- Every view of a list is the view of one of its bookings. -/
theorem exists_of_mem_ofList {viewer : Role} {bookings : List Booking} {views : List BookingView}
    (h : ofList viewer bookings = .ok views) {view : BookingView} (mem : view ∈ views) :
    ∃ b ∈ bookings, of viewer b = .ok view := by
  induction bookings generalizing views with
  | nil =>
    cases h
    cases mem
  | cons b rest ih =>
    rw [ofList] at h
    cases hb : of viewer b with
    | error refusal => simp only [hb] at h; cases h
    | ok first =>
      cases hrest : ofList viewer rest with
      | error refusal => simp only [hb, hrest] at h; cases h
      | ok others =>
        simp only [hb, hrest] at h
        cases h
        rcases List.mem_cons.1 mem with rfl | mem
        · exact ⟨b, List.mem_cons_self, hb⟩
        · obtain ⟨b', hmem, hview⟩ := ih hrest mem
          exact ⟨b', List.mem_cons_of_mem b hmem, hview⟩

end BookingView

/-- A view shows a booking of a store that is somebody's own. -/
def BookingView.IsOf (view : BookingView) (actor : Actor) (s : Store) : Prop :=
  ∃ b ∈ s.bookings.rows, b.isOf actor = true ∧ BookingView.of actor.role b = .ok view

/-- An answer shows nothing of a store but bookings that are somebody's own. -/
inductive Answer.ShowsOwn (actor : Actor) (s : Store) : Answer → Prop where
  | booking {view : BookingView} (own : view.IsOf actor s) : ShowsOwn actor s (.booking view)
  | bookings {views : List BookingView} (own : ∀ view ∈ views, view.IsOf actor s) :
      ShowsOwn actor s (.bookings views)
  | page {views : List BookingView} (own : ∀ view ∈ views, view.IsOf actor s) (total : Nat)
      (number size : Int) : ShowsOwn actor s (.page views total number size)

namespace Store

variable {s : Store} {actor : Actor} {answer : Answer}

/-- A page is a part of its list. -/
theorem mem_listed_of_mem_page {f : BookingFilter} {page size : Int} {b : Booking}
    (h : b ∈ s.page f page size) : b ∈ s.listed f := by
  unfold Store.page at h
  simp only at h
  split at h
  · exact List.mem_of_mem_drop h
  · exact List.mem_of_mem_drop (List.mem_of_mem_take h)

/-- A page of own bookings shows own bookings. -/
theorem pageView_showsOwn {f : BookingFilter} {page size : Int}
    (own : ∀ b, f.accepts b = true → b.isOf actor = true)
    (h : s.pageView actor.role f page size = .ok answer) : answer.ShowsOwn actor s := by
  obtain ⟨⟨bookings, total⟩, hpage, h⟩ := bind_eq_ok_iff.1 h
  obtain ⟨views, hviews, h⟩ := bind_eq_ok_iff.1 h
  cases h
  obtain ⟨-, -, hpage⟩ := bind_eq_ok_iff.1 hpage
  cases hpage
  refine .page (fun view mem => ?_) _ _ _
  obtain ⟨b, hmem, hview⟩ := BookingView.exists_of_mem_ofList hviews mem
  obtain ⟨hrow, haccepts⟩ := mem_listed_iff.1 (mem_listed_of_mem_page hmem)
  exact ⟨b, hrow, own b haccepts, hview⟩

/-- The duties of a driver are his own. -/
theorem dutiesView_showsOwn (role : actor.role = .driver) (h : s.dutiesView actor = .ok answer) :
    answer.ShowsOwn actor s := by
  obtain ⟨-, -, h⟩ := bind_eq_ok_iff.1 h
  obtain ⟨views, hviews, h⟩ := bind_eq_ok_iff.1 h
  cases h
  refine .bookings fun view mem => ?_
  obtain ⟨b, hmem, hview⟩ := BookingView.exists_of_mem_ofList hviews mem
  obtain ⟨hrow, hdriver⟩ := List.mem_filter.1 (List.mem_mergeSort.1 hmem)
  refine ⟨b, hrow, ?_, hview⟩
  simpa [Booking.isOf, role] using hdriver

/-- One booking is shown to the one whose own it is. -/
theorem bookingView_showsOwn {booking : Int} {maySee : Booking → Bool} {refusal : Refusal}
    (own : ∀ b, maySee b = b.isOf actor)
    (h : s.bookingView actor.role booking maySee refusal = .ok answer) :
    answer.ShowsOwn actor s := by
  obtain ⟨found, hfound, h⟩ := bind_eq_ok_iff.1 h
  have hfind := (Table.lookUp_eq_ok_iff.1 hfound).2
  cases found with
  | none => cases h
  | some b =>
    simp only at h
    split at h
    · rename_i hsees
      cases hview : BookingView.of actor.role b with
      | error refusal => rw [hview] at h; cases h
      | ok view =>
        rw [hview] at h
        cases h
        exact .booking ⟨b, Table.mem_of_find? hfind, own b ▸ hsees, hview⟩
    · cases h

end Store

/-! ## Requests -/

/-- A customer asks for bookings of his own, or a driver for those in his hands. -/
inductive Command.ReadsOwn (actor : Actor) : Command → Prop where
  | ownBookings (role : actor.role = .customer) (status : Option Status) (page size : Int) :
      ReadsOwn actor (.ownBookings status page size)
  | oneBooking (role : actor.role = .customer) (booking : Int) :
      ReadsOwn actor (.oneBooking booking)
  | duties (role : actor.role = .driver) : ReadsOwn actor .duties
  | oneDuty (role : actor.role = .driver) (booking : Int) : ReadsOwn actor (.oneDuty booking)

namespace Command.ReadsOwn

variable {actor : Actor} {command : Command} {s t : Store}

/-- The list of a customer is of his own bookings. -/
theorem isOf_of_accepts (role : actor.role = .customer) (status : Option Status) (b : Booking)
    (h : BookingFilter.accepts ⟨some actor.id, none, status⟩ b = true) : b.isOf actor = true := by
  simp only [BookingFilter.accepts, Bool.and_eq_true] at h
  simpa [Booking.isOf, role] using h.1.1

/-- A customer may see one booking exactly if it is his own. -/
theorem maySee_of_customer (role : actor.role = .customer) (b : Booking) :
    (actor.role.isAdmin || decide (b.pickup.user = actor.id)) = b.isOf actor := by
  simp [Booking.isOf, role, Role.isAdmin, Role.acting]

/-- A driver may see one booking exactly if it is in his hands. -/
theorem maySee_of_driver (role : actor.role = .driver) (b : Booking) :
    decide (b.progress.driver = some actor.id) = b.isOf actor := by
  simp [Booking.isOf, role]

/-- Whoever asks for his own bookings gets the same from two stores that agree on these, whatever
else they hold. -/
theorem run_eq (reads : command.ReadsOwn actor) (agree : s.AgreeFor actor t)
    (locks locks' : LockStore) (token token' : Token) (now now' : Instant) :
    (command.run ⟨t, locks'⟩ token' now' actor).2 = (command.run ⟨s, locks⟩ token now actor).2 := by
  cases reads with
  | ownBookings role status page size =>
    have hlisted := agree.listed_eq (isOf_of_accepts role status)
    simp only [run, World.reading, Store.pageView, Store.pageAndTotal_congr hlisted]
  | oneBooking role booking =>
    exact agree.bookingView_eq actor.role booking (maySee_of_customer role) .otherCustomer
  | duties role =>
    simp only [run, World.reading, Store.dutiesView, agree.dutiesOf_eq role]
  | oneDuty role booking =>
    exact agree.bookingView_eq actor.role booking (maySee_of_driver role) .notAssignedToDriver

/-- He is shown nothing but these. -/
theorem showsOwn (reads : command.ReadsOwn actor) {w : World} {token : Token} {now : Instant}
    {answer : Answer} (h : (command.run w token now actor).2 = .ok answer) :
    answer.ShowsOwn actor w.store := by
  cases reads with
  | ownBookings role status page size =>
    exact Store.pageView_showsOwn (isOf_of_accepts role status) h
  | oneBooking role booking => exact Store.bookingView_showsOwn (maySee_of_customer role) h
  | duties role => exact Store.dutiesView_showsOwn role h
  | oneDuty role booking => exact Store.bookingView_showsOwn (maySee_of_driver role) h

end Command.ReadsOwn

namespace Endpoint

/-- Where customers and drivers read their own bookings. -/
def ownReads : List Endpoint :=
  [ownBookings, oneBooking, duties, oneDuty]

variable {e : Endpoint}

/-- Nothing is read from a body there, nor is it looked whether the service is up. -/
theorem asks_of_ownReads (reads : e ∈ ownReads) : e ≠ .health ∧ ∀ body, e.CanRead body := by
  refine ⟨?_, fun body takes => ?_⟩
  · rintro rfl
    exact absurd reads (by decide)
  · have htakes : e.takesBody = false := by
      simp only [ownReads, List.mem_cons, List.not_mem_nil, or_false] at reads
      rcases reads with rfl | rfl | rfl | rfl <;> rfl
    rw [htakes] at takes
    cases takes

/-- What customers and drivers ask for there is what is their own. -/
theorem readsOwn_of_read {actor : Actor} (reads : e ∈ ownReads)
    (role : actor.role = .customer ∨ actor.role = .driver) (admits : actor.role ∈ e.roles)
    {number : String} {query : Json.Object} {body : Body} {command : Command}
    (h : e.read number query body = .ok command) : command.ReadsOwn actor := by
  simp only [ownReads, List.mem_cons, List.not_mem_nil, or_false] at reads
  rcases reads with rfl | rfl | rfl | rfl
  · obtain ⟨g, size, hg, -, rfl⟩ := Checked.seq_eq_ok_iff.1 h
    obtain ⟨status, page, -, -, rfl⟩ := Checked.map_seq_eq_ok_iff.1 hg
    exact .ownBookings (List.mem_singleton.1 admits) status page size
  · obtain ⟨booking, -, rfl⟩ := Checked.map_eq_ok_iff.1 h
    refine .oneBooking (role.resolve_right fun driver => ?_) booking
    rw [driver] at admits
    exact absurd admits (by decide)
  · cases h
    exact .duties (List.mem_singleton.1 admits)
  · obtain ⟨booking, -, rfl⟩ := Checked.map_eq_ok_iff.1 h
    exact .oneDuty (List.mem_singleton.1 admits) booking

end Endpoint

namespace Reply

variable {response : Response}

/-- A report of issues is no success. -/
theorem code_of_ofIssues {body : Body} {issues : List Issue}
    (h : ofIssues body issues = .ok response) : response.code = 422 := by
  unfold ofIssues at h
  split at h
  · cases h
  · cases h
    rfl

/-- A success is an answer. -/
theorem exists_of_ofOutcome {outcome : Except Refusal Answer}
    (h : ofOutcome outcome = .ok response) (code : response.code < 400) :
    ∃ answer, outcome = .ok answer ∧ response.body = some answer.toJson := by
  cases outcome with
  | ok answer =>
    cases h
    exact ⟨answer, rfl, rfl⟩
  | error refusal =>
    simp only [ofOutcome] at h
    split at h
    · cases h
    · cases h
      exact absurd refusal.le_code (Nat.not_le_of_lt code)

end Reply

namespace Service

variable {service : Service} {token : Token} {now : Instant} {r : Request} {e : Endpoint}
  {number : String} {actor : Actor}

/-- Whoever is not admitted is told so, whatever the service holds. -/
theorem serve_of_not_admitted (leads : r.LeadsTo e number) (health : e ≠ .health)
    (canRead : e.CanRead r.body) (caller : readActor r.headers = .ok actor)
    (admits : actor.role ∉ e.roles) :
    service.serve token now r = (service, .ok (.notAuthorized actor.role)) := by
  rw [serve_of_leads service token now leads, serveAt_of_canRead health canRead, caller]
  exact if_pos admits

/-- A success is the answer to what was asked for. -/
theorem answer_of_serve (leads : r.LeadsTo e number) (health : e ≠ .health)
    (canRead : e.CanRead r.body) {response : Response}
    (h : (service.serve token now r).2 = .ok response) (code : response.code < 400) :
    ∃ actor command answer, r.Asks actor command ∧
      (command.run service.world token now actor).2 = .ok answer ∧
      response.body = some answer.toJson := by
  rw [serve_of_leads service token now leads, serveAt_of_canRead health canRead] at h
  cases caller : readActor r.headers with
  | failed first others =>
    simp only [caller] at h
    rw [Reply.code_of_ofIssues h] at code
    exact absurd code (by decide)
  | ok actor =>
    simp only [caller] at h
    by_cases admits : actor.role ∈ e.roles
    · rw [if_neg (not_not_intro admits)] at h
      cases read : e.read number (Target.ofText r.target).query r.body with
      | failed first others =>
        simp only [read] at h
        rw [Reply.code_of_ofIssues h] at code
        exact absurd code (by decide)
      | ok command =>
        simp only [read, runLimited] at h
        split at h
        · cases h
          exact absurd code (by decide)
        · obtain ⟨answer, hrun, hbody⟩ := Reply.exists_of_ofOutcome h code
          exact ⟨actor, command, answer, .intro leads caller admits read, hrun, hbody⟩
    · rw [if_pos admits] at h
      cases h
      exact absurd (show 403 < 400 from code) (by decide)

end Service

/-- Customers and drivers who ask where they read their own bookings ask for these. -/
theorem Request.Asks.readsOwn {r : Request} {actor : Actor} {command : Command} {e : Endpoint}
    {number : String} (asks : r.Asks actor command) (leads : r.LeadsTo e number)
    (reads : e ∈ Endpoint.ownReads) (role : actor.role = .customer ∨ actor.role = .driver) :
    command.ReadsOwn actor := by
  obtain @⟨e', number', leads', -, admits, read⟩ := asks
  obtain ⟨rfl, rfl⟩ := leads.unique leads'
  exact Endpoint.readsOwn_of_read reads role admits read

/-- A customer or driver who reads his own bookings is answered alike from any two stores that agree
on these and on which numbers are given, and is shown nothing but these. Whoever is not admitted by
an endpoint is told so, whatever the service holds. -/
theorem reads_show_own_bookings (service : Service) (token : Token) (now : Instant) (r : Request)
    (e : Endpoint) (number : String) (actor : Actor) (leads : r.LeadsTo e number)
    (caller : Service.readActor r.headers = .ok actor) :
    (e ∈ Endpoint.ownReads → actor.role = .customer ∨ actor.role = .driver →
      (∀ t locks token' now', service.world.store.AgreeFor actor t →
        ((service.withWorld ⟨t, locks⟩).serve token' now' r).2 = (service.serve token now r).2) ∧
      ∀ response, (service.serve token now r).2 = .ok response → response.code = 200 →
        ∃ answer : Answer, response.body = some answer.toJson ∧
          answer.ShowsOwn actor service.world.store) ∧
    (e ≠ .health → e.CanRead r.body → actor.role ∉ e.roles →
      ∀ (other : Service) token' now',
        other.serve token' now' r = (other, .ok (.notAuthorized actor.role))) := by
  refine ⟨fun reads role => ⟨?alike, ?own⟩, fun health canRead admits other token' now' =>
    Service.serve_of_not_admitted leads health canRead caller admits⟩
  case alike =>
    intro t locks token' now' agree
    rcases Service.serve_uniform r with ⟨reply, h⟩ | ⟨actor', command, asks, h⟩
    · rw [h, h]
    · obtain rfl := asks.actor_eq caller
      have hrun := (asks.readsOwn leads reads role).run_eq agree service.world.locks locks token
        token' now now'
      have hserved : (service.withWorld ⟨t, locks⟩).servedAt (Target.ofText r.target).path =
          service.servedAt (Target.ofText r.target).path := rfl
      rw [h, h, Service.runLimited, Service.runLimited, hserved]
      split
      · rfl
      · exact congrArg Reply.ofOutcome hrun
  case own =>
    intro response h code
    obtain ⟨health, canRead⟩ := Endpoint.asks_of_ownReads reads
    obtain ⟨actor', command, answer, asks, hrun, hbody⟩ :=
      Service.answer_of_serve leads health (canRead r.body) h (by omega)
    obtain rfl := asks.actor_eq caller
    exact ⟨answer, hbody, (asks.readsOwn leads reads role).showsOwn hrun⟩

/-- A row of somebody else that holds no status, and comes first, does not show in a customer's
list; nor is he told anything about drivers. -/
theorem list_beside_corrupt_row :
    let own := Booking.single ⟨"CREATED", none, 1, none, none, none, none⟩
    let other (status : String) : Booking :=
      { own with id := 2, pickup.user := 3, progress.status := status }
    let service (bookings : List Booking) : Service :=
      ⟨⟨{ Store.single own.progress with bookings := ⟨bookings⟩ }, .empty⟩, []⟩
    let request (path : String) : Request :=
      ⟨"GET", path, [("X-Actor-Id", "2"), ("X-Actor-Role", "CUSTOMER")], .absent⟩
    ((service [other "LOST", own]).serve ⟨1⟩ ⟨1⟩ (request "/api/v1/bookings")).2 =
        ((service [own, other "CREATED"]).serve ⟨1⟩ ⟨1⟩ (request "/api/v1/bookings")).2 ∧
      ∀ service : Service, service.serve ⟨1⟩ ⟨1⟩ (request "/api/v1/driver/bookings") =
        (service, .ok (.notAuthorized .customer)) := by
  intro own other service request
  have caller : Service.readActor [("X-Actor-Id", "2"), ("X-Actor-Role", "CUSTOMER")] =
      .ok ⟨2, .customer⟩ := by decide +kernel
  have agree : (service [own, other "CREATED"]).world.store.AgreeFor ⟨2, .customer⟩
      (service [other "LOST", own]).world.store := by
    refine ⟨by decide, fun booking => ?ids, fun b hown => ?own, ?dates⟩
    case ids =>
      show booking ∈ [1, 2] ↔ booking ∈ [2, 1]
      simp [or_comm]
    case own =>
      have hother : ∀ status, b ≠ other status := by
        rintro status rfl
        cases hown
      show b ∈ [own, other "CREATED"] ↔ b ∈ [other "LOST", own]
      simp [hother]
    case dates =>
      show ∀ b ∈ [own, other "CREATED"], _ → _
      simp [own, other, Booking.single]
      decide
  refine ⟨?_, fun service => ?_⟩
  · exact ((reads_show_own_bookings (service [own, other "CREATED"]) ⟨1⟩ ⟨1⟩
      (request "/api/v1/bookings") .ownBookings "" ⟨2, .customer⟩ (by decide +kernel)
      caller).1 (by decide) (.inl rfl)).1 _ .empty ⟨1⟩ ⟨1⟩ agree
  · exact (reads_show_own_bookings service ⟨1⟩ ⟨1⟩ (request "/api/v1/driver/bookings") .duties ""
      ⟨2, .customer⟩ (by decide +kernel) caller).2 (by decide)
      ((Endpoint.asks_of_ownReads (by decide)).2 .absent) (by decide) service ⟨1⟩ ⟨1⟩

end WastePickup
