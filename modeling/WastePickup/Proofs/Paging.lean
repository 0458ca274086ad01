import WastePickup.Proofs.Canonical
import WastePickup.Proofs.Isolation

/-!
# Pages of a list

A list of bookings is read page by page. Each page is cut out of the whole list, which is made anew
for every page: the rows that the filter wants, newest first. So the pages of one size, one behind
the other, are the list, whatever the size is, as long as the table stays as it is.

Rows that were created at the same time are told apart by their numbers, so that their order does
not depend on the order of the table.

* `BookingFilter.Wants`: what a filter asks for, by the status that a row is read as.
* `pairwise_listed`: the list is strictly ordered.
* `flatMap_pages`: by induction on their number, the first pages are the beginning of the list.
* `pages_make_up_list`: what the pages of a list hold, each and all together.
-/

namespace WastePickup

/-! ## Filters -/

/-- A filter wants a booking: it is of the customer, in the hands of the driver and in the status
that are asked for, whatever name the status is stored under. -/
structure BookingFilter.Wants (f : BookingFilter) (b : Booking) : Prop where
  user : ∀ user ∈ f.user, b.pickup.user = user
  driver : ∀ driver ∈ f.driver, b.progress.driver = some driver
  status : ∀ status ∈ f.status, b.status? = some status

/-- The numbers of a request for a page can be put to the store. -/
structure BookingFilter.Fits (f : BookingFilter) (page size : Int) : Prop where
  user : ∀ user ∈ f.user, Number.fits64 user = true
  driver : ∀ driver ∈ f.driver, Number.fits64 driver = true
  offset : Number.fits64 ((page - 1) * size) = true
  size : Number.fits64 size = true

/-- One booking is newer than another, or it is of the same time and has the greater number. -/
def Booking.Newer (a b : Booking) : Prop :=
  b.pickup.createdAt.micros < a.pickup.createdAt.micros ∨
    b.pickup.createdAt.micros = a.pickup.createdAt.micros ∧ b.id < a.id

namespace BookingFilter

variable {f : BookingFilter}

/-- A filter by status expands to the stored names of the status; it accepts what it wants. -/
theorem accepts_iff_wants {b : Booking} : f.accepts b = true ↔ f.Wants b := by
  obtain ⟨user, driver, status⟩ := f
  have hstatus : (status.all fun c => c.aliases.any fun s => s.name = b.progress.status) = true ↔
      ∀ c ∈ status, b.status? = some c := by
    simp only [Option.all_eq_true, Status.any_aliases_eq, decide_eq_true_eq]
    exact Iff.rfl
  unfold accepts
  rw [Bool.and_eq_true, Bool.and_eq_true, hstatus, Option.all_eq_true, Option.all_eq_true]
  simp only [decide_eq_true_eq]
  constructor
  · rintro ⟨⟨huser, hdriver⟩, hstatus⟩
    exact ⟨huser, hdriver, hstatus⟩
  · intro h
    exact ⟨⟨h.user, h.driver⟩, h.status⟩

/-- The numbers of a request for a page, in the order in which they are put to the store. -/
theorem forall_fits64_iff_fits {page size : Int} :
    (∀ n ∈ f.user.toList ++ f.driver.toList ++ [(page - 1) * size, size],
      Number.fits64 n = true) ↔ f.Fits page size := by
  constructor
  · intro h
    refine ⟨fun user huser => h user ?_, fun driver hdriver => h driver ?_, h _ ?_, h _ ?_⟩
    · simp [Option.mem_def.1 huser]
    · simp [Option.mem_def.1 hdriver]
    · simp
    · simp
  · intro h n hn
    simp only [List.mem_append, Option.mem_toList, List.mem_cons, List.not_mem_nil, or_false] at hn
    rcases hn with (huser | hdriver) | rfl | rfl
    · exact h.user n huser
    · exact h.driver n hdriver
    · exact h.offset
    · exact h.size

end BookingFilter

namespace Store

variable {s : Store} {f : BookingFilter}

/-- A request for a page is answered if its numbers can be put to the store. -/
theorem pageAndTotal_of_fits {page size : Int} (fits : f.Fits page size) :
    s.pageAndTotal f page size = .ok (s.page f page size, s.total f) := by
  unfold pageAndTotal
  rw [requireAllFit_eq_ok_iff.2 (BookingFilter.forall_fits64_iff_fits.2 fits)]
  rfl

/-- A page whose numbers cannot be put to the store breaks down. -/
theorem pageAndTotal_of_not_fits {page size : Int} (exceeds : ¬f.Fits page size) :
    s.pageAndTotal f page size = .error (.broken .numberTooLarge) := by
  unfold pageAndTotal
  rw [requireAllFit_of_not_fit (mt BookingFilter.forall_fits64_iff_fits.1 exceeds)]
  rfl

/-! ## The whole list -/

/-- The list holds the bookings that the filter wants. -/
theorem mem_listed_iff_wants {b : Booking} :
    b ∈ s.listed f ↔ b ∈ s.bookings.rows ∧ f.Wants b := by
  rw [mem_listed_iff, BookingFilter.accepts_iff_wants]

/-- No two rows of the list have the same number. -/
theorem nodup_ids_listed (keys : s.bookings.ids.Nodup) : ((s.listed f).map Booking.id).Nodup := by
  have hperm : (s.listed f).Perm (s.bookings.rows.filter f.accepts) := List.mergeSort_perm _ _
  rw [(hperm.map Booking.id).nodup_iff]
  exact (List.filter_sublist.map Booking.id).nodup keys

/-- The list is strictly ordered: newest first, and by number where the time is the same. -/
theorem pairwise_listed (keys : s.bookings.ids.Nodup) : (s.listed f).Pairwise Booking.Newer := by
  have hsorted : (s.listed f).Pairwise fun a b => BookingFilter.newerFirst a b = true :=
    List.pairwise_mergeSort BookingFilter.newerFirst_trans BookingFilter.newerFirst_total _
  have hids : (s.listed f).Pairwise fun a b => a.id ≠ b.id :=
    List.pairwise_map.1 (nodup_ids_listed keys)
  refine List.Pairwise.imp₂ ?_ hsorted hids
  intro a b hle hne
  rw [BookingFilter.newerFirst_iff] at hle
  unfold Booking.Newer
  omega

/-- So every booking stands in it once. -/
theorem nodup_listed (keys : s.bookings.ids.Nodup) : (s.listed f).Nodup :=
  List.Nodup.of_map _ (nodup_ids_listed keys)

end Store

/-! ## Pages -/

/-- How many pages of a size a list of some length takes: the quotient, rounded up. -/
def pageCount (length size : Nat) : Nat :=
  (length + size - 1) / size

/-- A page is needed exactly if the list reaches beyond the pages before it. -/
theorem lt_pageCount_iff {length size page : Nat} (pos : 0 < size) :
    page < pageCount length size ↔ page * size < length := by
  unfold pageCount
  rw [Nat.lt_iff_add_one_le, Nat.le_div_iff_mul_le pos, Nat.add_one_mul]
  omega

/-- All rows have room on their pages. -/
theorem length_le_pageCount_mul {size : Nat} (pos : 0 < size) (length : Nat) :
    length ≤ pageCount length size * size := by
  have h := mt (lt_pageCount_iff pos).2 (Nat.lt_irrefl (pageCount length size))
  omega

/-- The first pages, one behind the other, are the beginning of the list. -/
theorem flatMap_pages {α : Type} (l : List α) (size count : Nat) :
    ((List.range count).flatMap fun i => (l.drop (i * size)).take size) =
      l.take (count * size) := by
  induction count with
  | zero => simp
  | succ count ih =>
    rw [List.range_succ, List.flatMap_append, ih, Nat.succ_mul, List.take_add]
    simp

namespace Store

variable {s : Store} {f : BookingFilter}

/-- A page counted from one is cut out of the list behind the pages before it. -/
theorem page_succ (s : Store) (f : BookingFilter) (i size : Nat) :
    s.page f (i + 1 : Nat) size = ((s.listed f).drop (i * size)).take size := by
  have hoffset : (((i + 1 : Nat) - 1 : Int) * size).toNat = i * size := by
    rw [Int.natCast_succ, Int.add_sub_cancel, ← Int.natCast_mul, Int.toNat_natCast]
  have hsize : ¬(size : Int) < 0 := by omega
  simp only [page, hoffset, hsize, if_false, Int.toNat_natCast]

/-- A page before the last one is full. -/
theorem length_page {page size : Nat} (first : 0 < page)
    (before : page < pageCount (s.total f) size) (pos : 0 < size) :
    (s.page f page size).length = size := by
  obtain ⟨i, rfl⟩ := Nat.exists_eq_succ_of_ne_zero (Nat.pos_iff_ne_zero.1 first)
  have hreach := (lt_pageCount_iff pos).1 before
  rw [Nat.succ_mul] at hreach
  rw [page_succ, List.length_take, List.length_drop, length_listed]
  omega

/-- A page behind the last one is empty. -/
theorem page_eq_nil {page size : Nat} (after : pageCount (s.total f) size < page)
    (pos : 0 < size) : s.page f page size = [] := by
  obtain ⟨i, rfl⟩ := Nat.exists_eq_succ_of_ne_zero (Nat.ne_zero_of_lt after)
  have hbehind : s.total f ≤ i * size := by
    have hle : pageCount (s.total f) size ≤ i := Nat.le_of_lt_succ after
    exact (length_le_pageCount_mul pos _).trans (Nat.mul_le_mul_right size hle)
  rw [page_succ, List.drop_eq_nil_of_le, List.take_nil]
  rw [length_listed]
  exact hbehind

/-- All pages together are the list. -/
theorem flatMap_page (s : Store) (f : BookingFilter) {size : Nat} (pos : 0 < size) :
    ((List.range (pageCount (s.total f) size)).flatMap fun i => s.page f (i + 1 : Nat) size) =
      s.listed f := by
  simp only [page_succ, flatMap_pages]
  apply List.take_of_length_le
  rw [length_listed]
  exact length_le_pageCount_mul pos _

end Store

/-- Reading a list page by page, in pages of any size, loses and repeats nothing. Every page whose
numbers can be put to the store is answered, with the same total, and no other is. One behind the
other, the pages hold each booking that the filter wants once, in strict order; those before the
last are full, and those behind it are empty. -/
theorem pages_make_up_list (s : Store) (f : BookingFilter) (size : Nat)
    (keys : s.bookings.ids.Nodup) (pos : 0 < size) :
    let last := pageCount (s.total f) size
    let items := (List.range last).flatMap fun i => s.page f (i + 1 : Nat) size
    (∀ page : Int, (f.Fits page size → s.pageAndTotal f page size =
        .ok (s.page f page size, s.total f)) ∧
      (¬f.Fits page size → s.pageAndTotal f page size = .error (.broken .numberTooLarge))) ∧
      items.Pairwise Booking.Newer ∧ items.Nodup ∧ items.length = s.total f ∧
      (∀ b, b ∈ items ↔ b ∈ s.bookings.rows ∧ f.Wants b) ∧
      (∀ page : Nat, 0 < page → page < last → (s.page f page size).length = size) ∧
      ∀ page : Nat, last < page → s.page f page size = [] := by
  intro last items
  have hitems : items = s.listed f := s.flatMap_page f pos
  rw [hitems]
  refine ⟨?_, Store.pairwise_listed keys, Store.nodup_listed keys, s.length_listed f,
    fun b => Store.mem_listed_iff_wants, ?_, ?_⟩
  · intro page
    exact ⟨Store.pageAndTotal_of_fits, Store.pageAndTotal_of_not_fits⟩
  · intro page first before
    exact Store.length_page first before pos
  · intro page after
    exact Store.page_eq_nil after pos

/-- Two bookings of one time, under the old and the new name of a status, read in pages of one: they
come in order, and the third page is empty. -/
theorem pages_of_new_bookings :
    let row (id : Int) (status : String) : Booking :=
      { Booking.single ⟨status, none, 1, none, none, none, none⟩ with id := id }
    let s : Store := { Store.single (row 1 "CREATED").progress with
      bookings := ⟨[row 1 "CREATED", row 2 "SCHEDULED", row 3 "ASSIGNED"]⟩ }
    let f : BookingFilter := ⟨none, none, some .created⟩
    let items := s.page f 1 1 ++ s.page f 2 1
    items.Pairwise Booking.Newer ∧ (∀ b, b ∈ items ↔ b ∈ s.bookings.rows ∧ f.Wants b) ∧
      s.pageAndTotal f 3 1 = .ok ([], 2) := by
  intro row s f items
  have total : s.total f = 2 := by decide +kernel
  have last : pageCount (s.total f) 1 = 2 := by rw [total]; rfl
  obtain ⟨answered, ordered, -, -, mem, -, empty⟩ :=
    pages_make_up_list s f 1 (by decide +kernel) (by decide)
  rw [last] at ordered mem empty
  have both : (List.range 2).flatMap (fun i => s.page f (i + 1 : Nat) (1 : Nat)) = items := by
    simp [List.range_succ, items]
  rw [both] at ordered mem
  refine ⟨ordered, mem, ?_⟩
  have fits : f.Fits 3 1 := ⟨by simp [f], by simp [f], by decide, by decide⟩
  have third : s.page f 3 1 = [] := empty 3 (by decide)
  have answer : s.pageAndTotal f 3 1 = .ok (s.page f 3 1, s.total f) := (answered 3).1 fits
  rw [answer, third, total]

/-- A page that starts beyond the numbers of the store is not answered, where it should be empty. -/
theorem far_page_is_not_answered :
    let s := Store.single ⟨"CREATED", none, 1, none, none, none, none⟩
    let f : BookingFilter := ⟨none, none, none⟩
    pageCount (s.total f) 10 < 922337203685477582 ∧
      s.pageAndTotal f 922337203685477582 10 = .error (.broken .numberTooLarge) := by
  intro s f
  exact ⟨by decide +kernel, rfl⟩

end WastePickup
