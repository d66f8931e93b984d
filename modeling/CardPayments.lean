import CardPayments.Text
import CardPayments.Numeral
import CardPayments.Decimal.Reader
import CardPayments.Binary64.Shortest
import CardPayments.Json.Reader
import CardPayments.Json.Writer
import CardPayments.Time.Reader
import CardPayments.Time.Zone
import CardPayments.Web.EmailAddress
import CardPayments.Web.Url
import CardPayments.Card.Mask
import CardPayments.Choices
import CardPayments.Failure
import CardPayments.Journal
import CardPayments.Provider.Client
import CardPayments.Store.Check
import CardPayments.Store.Delete
import CardPayments.Store.Label
import CardPayments.Store.Report
import CardPayments.Directory
import CardPayments.Configuration
import CardPayments.Payment.Form
import CardPayments.Payment.Process
import CardPayments.Desk
import CardPayments.Session.Trial
import CardPayments.Proofs.Program.Deeds
import CardPayments.Proofs.Store.Column
import CardPayments.Proofs.Store.Table
import CardPayments.Proofs.Store.Write
import CardPayments.Proofs.Card.Mask
import CardPayments.Proofs.Provider.Client
import CardPayments.Proofs.Payment.Course
import CardPayments.Proofs.Payment.Groups
import CardPayments.Proofs.Payment.Rows
import CardPayments.Proofs.Payment.Calls
import CardPayments.Proofs.Payment.Drafts
import CardPayments.Proofs.Payment.Charge
import CardPayments.Proofs.Payment.Form
import CardPayments.Proofs.Program.Alike
import CardPayments.Proofs.Payment.Secrecy
import CardPayments.Proofs.Text.Numeral
import CardPayments.Proofs.Time.Calendar
import CardPayments.Proofs.Time.IsoText
import CardPayments.Proofs.Time.Zone
import CardPayments.Proofs.Payment.Customer
import CardPayments.Proofs.Payment.Answer
import CardPayments.Proofs.Program.Moments
import CardPayments.Proofs.Session.Task
import CardPayments.Proofs.Store.Mirror
import CardPayments.Proofs.Session.Mirror
import CardPayments.Proofs.Payment.Moments
import CardPayments.Proofs.Payment.Reuse
import CardPayments.Proofs.Session.Reuse
import CardPayments.Proofs.Program.Parts
import CardPayments.Proofs.Payment.Resolution
import CardPayments.Proofs.Payment.Causes
import CardPayments.Proofs.Payment.Owners
import CardPayments.Proofs.Session.Owners
import CardPayments.Proofs.Payment.Ledger
import CardPayments.Proofs.Session.Ledger
import CardPayments.Proofs.Text.DecimalDigit
import CardPayments.Proofs.Decimal.Reader
import CardPayments.Proofs.Binary64.Written
import CardPayments.Proofs.Json.Encodable
import CardPayments.Proofs.Time.Ordinary
import CardPayments.Proofs.Program.Quiet
import CardPayments.Proofs.Payment.Quiet
import CardPayments.Proofs.Payment.WellFormed
import CardPayments.Proofs.Payment.Success
import CardPayments.Proofs.Hall.History
import CardPayments.Proofs.Hall.Rows
import CardPayments.Proofs.Payment.Progress
import CardPayments.Proofs.Hall.Apart
import CardPayments.Proofs.Payment.Columns
import CardPayments.Proofs.Store.Integrity
import CardPayments.Proofs.Session.Integrity
import CardPayments.Proofs.Power
import CardPayments.Proofs.Binary64.Nearest
import CardPayments.Proofs.Decimal.Rounding
import CardPayments.Proofs.Store.Amount
import CardPayments.Proofs.Time.Shown
import CardPayments.Proofs.Store.Report
import CardPayments.Proofs.Session.Reports
import CardPayments.Proofs.Binary64.Shortest
import CardPayments.Proofs.Json.Number
import CardPayments.Proofs.Json.Text
import CardPayments.Proofs.Json.RoundTrip
import CardPayments.Proofs.Json.Readable
import CardPayments.Proofs.Json.Keys
import CardPayments.Proofs.Json.Numeral
import CardPayments.Proofs.Json.Stops
import CardPayments.Proofs.Payment.Documents
import CardPayments.Proofs.Session.Documents
import CardPayments.Proofs.Program.Noted
import CardPayments.Proofs.Payment.Operations
import CardPayments.Proofs.Payment.Failures
import CardPayments.Proofs.Store.Provider
import CardPayments.Proofs.Payment.Service
import CardPayments.Proofs.Session.Directory
import CardPayments.Proofs.Payment.Expiry
import CardPayments.Proofs.Payment.DeviceSession
import CardPayments.Proofs.Payment.Payer
import CardPayments.Proofs.Session.Payer
import CardPayments.Proofs.Payment.Status
import CardPayments.Proofs.Payment.CardData
import CardPayments.Proofs.Binary64.Precise
import CardPayments.Proofs.Store.AmountPlaces
import CardPayments.Proofs.Store.Lookup
import CardPayments.Proofs.Time.Daylight
import CardPayments.Proofs.Payment.Amounts
import CardPayments.Proofs.Payment.CreatedAt
import CardPayments.Proofs.Provider.Outcome
import CardPayments.Proofs.Payment.Spelling
import CardPayments.Proofs.Provider.Codec
import CardPayments.Proofs.Store.Listing
import CardPayments.Proofs.Session.Listing
