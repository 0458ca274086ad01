import WastePickup.Form.Admin
import WastePickup.Store.Lookup

/-!
# Setting price bands

A waste category has one price row. Setting its band changes that row, or adds one if there is none
yet; the time of the last update moves only if a column changes.

* `set_id`, `set_wasteCategory`: a form leaves the number and the category of a row.
-/

namespace WastePickup

/-- Write a form over a row. -/
def Pricing.set (now : Instant) (row : Pricing) (form : PricingForm) : Pricing :=
  if row.min == form.min && row.max == form.max && row.isActive == form.isActive then row
  else
    { row with
      min := (storedFloat form.min).getD form.min
      max := (storedFloat form.max).getD form.max
      isActive := form.isActive
      updatedAt := now }

/-- A form leaves the number and the category of the row. -/
theorem Pricing.set_id (now : Instant) (row : Pricing) (form : PricingForm) :
    Row.id (row.set now form) = Row.id row := by
  unfold set
  split <;> rfl

/-- A band is set in the category that it is for. -/
theorem Pricing.set_wasteCategory (now : Instant) (row : Pricing) (form : PricingForm) :
    (row.set now form).wasteCategory = row.wasteCategory := by
  unfold set
  split <;> rfl

namespace Store

/-- The first row of a category. -/
def newPricing (s : Store) (now : Instant) (category : Int) (form : PricingForm) : Pricing where
  id := s.pricing.nextId
  wasteCategory := category
  min := (storedFloat form.min).getD form.min
  max := (storedFloat form.max).getD form.max
  isActive := form.isActive
  updatedAt := now

/-- Set the band of a category that exists. -/
def setPrice (s : Store) (now : Instant) (category : Int) (form : PricingForm) :
    Except Refusal (Store × Pricing) :=
  match s.categories.lookUp category with
  | .error refusal => .error refusal
  | .ok none => .error .categoryRowNotFound
  | .ok (some _) =>
    match s.pricing? category with
    | none =>
      let row := s.newPricing now category form
      .ok ({ s with pricing := s.pricing.append row }, row)
    | some old =>
      let row := old.set now form
      .ok ({ s with pricing := s.pricing.replace row }, row)

/-- The price rows in the order of their categories. -/
def priceList (s : Store) : List Pricing :=
  s.pricing.rows.mergeSort fun a b => a.wasteCategory ≤ b.wasteCategory

end Store

end WastePickup
