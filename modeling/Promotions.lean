import Promotions.ApiDocument
import Promotions.CacheKey
import Promotions.Calendar.Date
import Promotions.Calendar.Instant
import Promotions.Calendar.Printer
import Promotions.Calendar.Reader
import Promotions.Dialogue
import Promotions.Directory
import Promotions.Failure
import Promotions.Gate
import Promotions.Http.Api
import Promotions.Http.Caller
import Promotions.Http.ListQuery
import Promotions.Http.MediaType
import Promotions.Http.Message
import Promotions.Http.Route
import Promotions.Json.Fault
import Promotions.Json.Number
import Promotions.Json.Pointer
import Promotions.Json.Sequence
import Promotions.Json.Shape
import Promotions.Json.Text
import Promotions.Json.Value
import Promotions.Listing
import Promotions.Memory.Cache
import Promotions.Memory.Contention
import Promotions.Memory.Environment
import Promotions.Memory.Store
import Promotions.Postgres.Repository
import Promotions.Postgres.Row
import Promotions.Postgres.Script
import Promotions.Postgres.Statement
import Promotions.Promotion.Activation
import Promotions.Promotion.Basic
import Promotions.Promotion.Country
import Promotions.Promotion.Draft
import Promotions.Promotion.Text
import Promotions.Proofs.Acceptance
import Promotions.Proofs.CallerIdentity
import Promotions.Proofs.Coherence
import Promotions.Proofs.CompanyNames
import Promotions.Proofs.Concurrency
import Promotions.Proofs.Constraints
import Promotions.Proofs.Counting
import Promotions.Proofs.Countries
import Promotions.Proofs.Decisions
import Promotions.Proofs.Edits
import Promotions.Proofs.Exhaustion
import Promotions.Proofs.FieldRules
import Promotions.Proofs.HandingOut
import Promotions.Proofs.Histories
import Promotions.Proofs.Independence
import Promotions.Proofs.Instants
import Promotions.Proofs.Invariant
import Promotions.Proofs.KeyServer
import Promotions.Proofs.KeySpaces
import Promotions.Proofs.Keys
import Promotions.Proofs.Listings
import Promotions.Proofs.LockedRedemption
import Promotions.Proofs.MemberOrder
import Promotions.Proofs.NameLookups
import Promotions.Proofs.Numerals
import Promotions.Proofs.Omissions
import Promotions.Proofs.Pages
import Promotions.Proofs.PlainService
import Promotions.Proofs.Printing
import Promotions.Proofs.Promises
import Promotions.Proofs.Provenance
import Promotions.Proofs.Questions
import Promotions.Proofs.ReadByName
import Promotions.Proofs.Readers
import Promotions.Proofs.RecordTrees
import Promotions.Proofs.Records
import Promotions.Proofs.Redemption
import Promotions.Proofs.Refinement
import Promotions.Proofs.Refusals
import Promotions.Proofs.Representation
import Promotions.Proofs.RoundTrip
import Promotions.Proofs.RowLocks
import Promotions.Proofs.Rows
import Promotions.Proofs.Schedules
import Promotions.Proofs.Securing
import Promotions.Proofs.SerialRuns
import Promotions.Proofs.Settling
import Promotions.Proofs.Solo
import Promotions.Proofs.Spacing
import Promotions.Proofs.Spellings
import Promotions.Proofs.Standings
import Promotions.Proofs.Stores
import Promotions.Proofs.Tenancy
import Promotions.Proofs.Terms
import Promotions.Proofs.Totals
import Promotions.Proofs.Transactions
import Promotions.Proofs.Transcripts
import Promotions.Proofs.Trees
import Promotions.Proofs.Turns
import Promotions.Proofs.Validity
import Promotions.Proofs.WellFormed
import Promotions.Proofs.WritingBack
import Promotions.Redis.Address
import Promotions.Redis.Cache
import Promotions.Redis.Command
import Promotions.Redis.Script
import Promotions.Request.Basic
import Promotions.Request.Text
import Promotions.Request.Validation
import Promotions.Request.Violation
import Promotions.Service.Ask
import Promotions.Service.Basic
import Promotions.Settings
import Promotions.Startup
import Promotions.Supply
import Promotions.Text.Blank
import Promotions.Text.CharRun
import Promotions.Text.CharSet
import Promotions.Text.Composition
import Promotions.Text.Composition.Table
import Promotions.Text.Form
import Promotions.Text.LowerCase
import Promotions.Text.LowerCase.Table
import Promotions.Text.Numeral
import Promotions.Text.Percent
import Promotions.Text.Pieces
import Promotions.Text.Utf8
import Promotions.Url.Basic
import Promotions.Url.Domain
import Promotions.Url.Domain.Folding
import Promotions.Url.Domain.Punycode
import Promotions.Url.Domain.Table
import Promotions.Url.Host
import Promotions.Uuid
