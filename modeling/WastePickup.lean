import WastePickup.Named
import WastePickup.Action
import WastePickup.Availability
import WastePickup.Role
import WastePickup.Number.Given
import WastePickup.Number.Rounding
import WastePickup.Number.Digits
import WastePickup.Json
import WastePickup.Json.Reader
import WastePickup.Json.Encoding
import WastePickup.Text.Blank
import WastePickup.Text.Printable
import WastePickup.Text.Quoted
import WastePickup.Json.Writer
import WastePickup.Calendar.Date
import WastePickup.Calendar.DayNumber
import WastePickup.Calendar.Instant
import WastePickup.Status
import WastePickup.Transition
import WastePickup.Refusal
import WastePickup.Form.Check
import WastePickup.Form.NumberText
import WastePickup.Form.GivenDate
import WastePickup.Form.Kind
import WastePickup.Form
import WastePickup.Form.Admin
import WastePickup.Form.Customer
import WastePickup.Form.Driver
import WastePickup.Pricing.Band
import WastePickup.Lock
import WastePickup.Store.Table
import WastePickup.Store.Booking
import WastePickup.Store
import WastePickup.Store.Columns
import WastePickup.Store.Lookup
import WastePickup.Pricing.Update
import WastePickup.Booking.Creation
import WastePickup.Booking.Listing
import WastePickup.Booking.Work
import WastePickup.Booking.Update
import WastePickup.Changes
import WastePickup.Metrics
import WastePickup.Sample
import WastePickup.Api.Target
import WastePickup.Api.View
import WastePickup.Api.Command
import WastePickup.Api.Endpoint
import WastePickup.Api.Echo
import WastePickup.Api.Service
import WastePickup.Api.Event
import WastePickup.Number.NaN
import WastePickup.Number.Equal
import WastePickup.Number.Order
import WastePickup.Number.HalfEven
import WastePickup.Number.TextLength
import WastePickup.Proofs.Work
import WastePickup.Proofs.Change
import WastePickup.Proofs.Canonical
import WastePickup.Proofs.Alike
import WastePickup.Proofs.Grouping
import WastePickup.Proofs.Responses
import WastePickup.Proofs.Plain
import WastePickup.Proofs.Stages
import WastePickup.Proofs.Orders
import WastePickup.Proofs.History
import WastePickup.Proofs.Closed
import WastePickup.Proofs.Failure
import WastePickup.Proofs.LegacyNames
import WastePickup.Proofs.Bookings
import WastePickup.Proofs.Drivers
import WastePickup.Proofs.Stamps
import WastePickup.Proofs.Assignment
import WastePickup.Proofs.Reading
import WastePickup.Proofs.Amounts
import WastePickup.Proofs.Settlement
import WastePickup.Proofs.DriverRows
import WastePickup.Proofs.Pickups
import WastePickup.Proofs.Overlapping
import WastePickup.Proofs.Running
import WastePickup.Proofs.OnPickup
import WastePickup.Proofs.AdminTargets
import WastePickup.Proofs.DriverTargets
import WastePickup.Proofs.LockOwners
import WastePickup.Proofs.Asking
import WastePickup.Proofs.PathLimit
import WastePickup.Proofs.Reach
import WastePickup.Proofs.HeldLocks
import WastePickup.Proofs.Overtaken
import WastePickup.Proofs.Quarantine
import WastePickup.Proofs.SuperAdmin
import WastePickup.Proofs.Isolation
import WastePickup.Proofs.OpenActions
import WastePickup.Proofs.Paging
import WastePickup.Proofs.Counters
import WastePickup.Proofs.Terms
import WastePickup.Proofs.Twice
import WastePickup.Proofs.Commuting
import WastePickup.Proofs.Conditions
import WastePickup.Proofs.Acceptance
import WastePickup.Proofs.Written
import WastePickup.Proofs.SentTwice
import WastePickup.Proofs.Recollection
import WastePickup.Proofs.AllOrNothing
import WastePickup.Proofs.Estimates
import WastePickup.Proofs.ValidDates
import WastePickup.Proofs.ReadBack
import WastePickup.Proofs.RequestForms
import WastePickup.Proofs.FieldByField
import WastePickup.Proofs.PriceBands
import WastePickup.Proofs.TextColumns
