import WastePickup.Proofs.Reading
import WastePickup.Proofs.Alike
import WastePickup.Proofs.ValidDates

/-!
# Values that are read back

Reading is forgiving, and writing gives the plain form. So what is read is in general not what would
be written, but once it has been written nothing is forgiven any more: the plain form is read as the
value that it was written for. This needs the bounds. A value out of bounds could be written and
would not be read; what has been read is within them (`Kind.ReadsBack`).

* `Kind.readsBack_decimal`, `Kind.readsBack_date` and so on: each kind with its bounds.
* `Kind.ReadsBack.optional`, `Kind.ReadsBack.listOf`: values that may be missing, and lists.
* `Field.ReadsBack`: the same of a member of an object.
-/

namespace WastePickup

/-! ## Kinds -/

/-- A kind reads only values within bounds, and reads each of them from what it is written as. -/
structure Kind.ReadsBack {α : Type} (kind : Kind α) (Within : α → Prop) : Prop where
  within {j : Json} {a : α} (h : kind.read j = .ok a) : Within a
  again {a : α} (h : Within a) : kind.read (kind.write a) = .ok a

namespace Kind

/-! ## Bounds -/

/-- A decimal passes a lower bound if it is not below it. -/
theorem boundDecimal_eq_ok_iff {least x y : Float} :
    boundDecimal (some least) none x = .ok y ↔ x = y ∧ least ≤ x := by
  by_cases h : least ≤ x
  · simp [boundDecimal, h]
  · simp [boundDecimal, h, Checked.fault]

/-- A decimal passes two bounds if it lies between them. -/
theorem boundDecimal_between_eq_ok_iff {least greatest x y : Float} :
    boundDecimal (some least) (some greatest) x = .ok y ↔ x = y ∧ least ≤ x ∧ x ≤ greatest := by
  by_cases above : x ≤ greatest
  · by_cases below : least ≤ x
    · simp [boundDecimal, above, below]
    · simp [boundDecimal, above, below, Checked.fault]
  · simp [boundDecimal, above, Checked.fault]

/-- A text passes as it is if its length is within bounds. -/
theorem readText_eq_ok_iff {least greatest : Nat} {s t : String} :
    readText least (some greatest) (.str s) = .ok t ↔
      s = t ∧ least ≤ s.length ∧ s.length ≤ greatest := by
  by_cases below : least ≤ s.length
  · by_cases above : s.length ≤ greatest
    · simp [readText, Nat.not_lt_of_le below, Nat.not_lt_of_le above, below, above]
    · simp [readText, Nat.not_lt_of_le below, Nat.lt_of_not_le above, above, Checked.fault]
  · simp [readText, Nat.lt_of_not_le below, below, Checked.fault]

/-! ## Values of each kind -/

/-- Whole numbers of any size. -/
theorem readsBack_whole : (whole none none).ReadsBack fun _ => True where
  within _ := trivial
  again _ := rfl

/-- Decimals that are not too small. -/
theorem readsBack_decimal (least : Float) :
    (decimal (some least) none).ReadsBack fun x => least ≤ x where
  within h := by
    obtain ⟨x, -, hbound⟩ := Checked.andThen_eq_ok_iff.1 h
    obtain ⟨rfl, hleast⟩ := boundDecimal_eq_ok_iff.1 hbound
    exact hleast
  again h := boundDecimal_eq_ok_iff.2 ⟨rfl, h⟩

/-- Decimals between two bounds. -/
theorem readsBack_between (least greatest : Float) :
    (decimal (some least) (some greatest)).ReadsBack fun x => least ≤ x ∧ x ≤ greatest where
  within h := by
    obtain ⟨x, -, hbound⟩ := Checked.andThen_eq_ok_iff.1 h
    obtain ⟨rfl, hbounds⟩ := boundDecimal_between_eq_ok_iff.1 hbound
    exact hbounds
  again h := boundDecimal_between_eq_ok_iff.2 ⟨rfl, h⟩

/-- Texts of a bounded length. -/
theorem readsBack_text (least greatest : Nat) :
    (text least (some greatest)).ReadsBack fun s => least ≤ s.length ∧ s.length ≤ greatest where
  within {j s} h := by
    cases j with
    | str t =>
      cases t with
      | broken codes => cases h
      | proper t =>
        obtain ⟨rfl, hlength⟩ := readText_eq_ok_iff.1 h
        exact hlength
    | _ => cases h
  again h := readText_eq_ok_iff.2 ⟨rfl, h⟩

/-- Texts of any length. -/
theorem readsBack_anyText : anyText.ReadsBack fun _ => True where
  within _ := trivial
  again _ := rfl

/-- Truth values. -/
theorem readsBack_flag : flag.ReadsBack fun _ => True where
  within _ := trivial
  again _ := rfl

/-- Dates that there are. -/
theorem readsBack_date : date.ReadsBack fun d => d.isValid = true where
  within := isValid_of_readDate
  again {d} h := by
    have hdate : DateText.date? d.text = some d := by
      rw [DateText.date?, Date.ofText?_text h]
      rfl
    show foundDate (DateText.date? d.text) = .ok d
    rw [hdate]
    rfl

/-- Names out of a closed list. -/
theorem readsBack_choice (α : Type) [Named α] : (choice α).ReadsBack fun _ => True where
  within _ := trivial
  again {a} _ := by
    show readName (.str (.proper (Named.name a))) = .ok a
    rw [readName, Named.ofName?_name]

/-! ## Values that may be missing, and lists -/

variable {α : Type} {kind : Kind α} {Within : α → Prop}

/-- A value that may be `null`, and is written otherwise where there is one. -/
theorem ReadsBack.optional (h : kind.ReadsBack Within) (ne_null : ∀ a, kind.write a ≠ .null) :
    kind.optional.ReadsBack fun a? => ∀ a ∈ a?, Within a where
  within {j a?} hread := by
    rintro a rfl
    exact h.within (optional_read_eq_some_iff.1 hread).2
  again {a?} hwithin := by
    cases a? with
    | none => rfl
    | some a => exact optional_read_eq_some_iff.2 ⟨ne_null a, h.again (hwithin a rfl)⟩

/-- The items of a list are within bounds if they have been read, and there are as many. -/
theorem ReadsBack.readItems_within (h : kind.ReadsBack Within) {items : List Json} {n : Nat}
    {as : List α} (hread : readItems kind n items = .ok as) :
    as.length = items.length ∧ ∀ a ∈ as, Within a := by
  induction items generalizing n as with
  | nil =>
    cases hread
    exact ⟨rfl, nofun⟩
  | cons j rest ih =>
    obtain ⟨a, as, hitem, hrest, rfl⟩ := Checked.map_seq_eq_ok_iff.1 hread
    obtain ⟨hlength, hwithin⟩ := ih hrest
    refine ⟨congrArg Nat.succ hlength, fun b hb => ?_⟩
    rcases List.mem_cons.1 hb with rfl | hb
    · exact h.within (Checked.under_eq_ok_iff.1 hitem)
    · exact hwithin b hb

/-- Items that are within bounds are read back. -/
theorem ReadsBack.readItems_again (h : kind.ReadsBack Within) {as : List α}
    (hwithin : ∀ a ∈ as, Within a) (n : Nat) :
    readItems kind n (as.map kind.write) = .ok as := by
  induction as generalizing n with
  | nil => rfl
  | cons a as ih =>
    refine Checked.map_seq_eq_ok_iff.2 ⟨a, as, ?_, ?_, rfl⟩
    · exact Checked.under_eq_ok_iff.2 (h.again (hwithin a (List.mem_cons_self ..)))
    · exact ih (fun b hb => hwithin b (List.mem_cons_of_mem _ hb)) (n + 1)

/-- A list that is not empty. -/
theorem ReadsBack.listOf (h : kind.ReadsBack Within) :
    kind.listOf.ReadsBack fun as => as ≠ [] ∧ ∀ a ∈ as, Within a where
  within {j as} hread := by
    cases j with
    | arr items =>
      cases items with
      | nil => cases hread
      | cons j rest =>
        obtain ⟨hlength, hwithin⟩ := h.readItems_within hread
        refine ⟨?_, hwithin⟩
        rintro rfl
        cases hlength
    | _ => cases hread
  again {as} hwithin := by
    cases as with
    | nil => exact absurd rfl hwithin.1
    | cons a as => exact h.readItems_again hwithin.2 0

end Kind

/-! ## Fields -/

/-- A field gives only values within bounds, and gives each of them where it is written. -/
structure Field.ReadsBack {α : Type} (field : Field α) (Within : α → Prop) : Prop where
  within {o : Json.Object} {a : α} (h : field.read o = .ok a) : Within a
  again {o : Json.Object} {a : α} (h : Within a)
    (written : o.get? field.name = some (field.kind.write a)) : field.read o = .ok a

namespace Field

variable {α : Type} {kind : Kind α} {Within : α → Prop}

/-- A field is read back if its kind is, and if what it has where it is absent is within bounds. -/
theorem readsBack {field : Field α} (h : field.kind.ReadsBack Within)
    (habsent : ∀ a ∈ field.absent, Within a) : field.ReadsBack Within where
  within hread := (read_eq_ok hread).elim (fun ⟨_, hread⟩ => h.within hread) (habsent _)
  again hwithin written := (read_eq_ok_iff written).2 (h.again hwithin)

/-- A field that has to be there. -/
theorem readsBack_required (name : String) (h : kind.ReadsBack Within) :
    (required name kind).ReadsBack Within :=
  readsBack h nofun

/-- A field that may be absent or `null`. -/
theorem readsBack_optional (name : String) (h : kind.ReadsBack Within)
    (ne_null : ∀ a, kind.write a ≠ .null) :
    (optional name kind).ReadsBack fun a? => ∀ a ∈ a?, Within a :=
  readsBack (h.optional ne_null) (by rintro _ ⟨⟩ a ⟨⟩)

end Field

end WastePickup
