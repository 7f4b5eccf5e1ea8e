import EventCatalog.Api.Readiness
import EventCatalog.Fixture
import EventCatalog.Mongo.Connection
import EventCatalog.Mongo.Index
import EventCatalog.Proofs.Walk.PageNumber
import EventCatalog.Settings.Application
import EventCatalog.Proofs.Plan.Count
import EventCatalog.Proofs.Dialogue
import EventCatalog.Proofs.Service
import EventCatalog.Proofs.Plan.Requirement
import EventCatalog.Proofs.Api.Operation
import EventCatalog.Proofs.Api.Tenancy
import EventCatalog.Proofs.Api.PublicListing
import EventCatalog.Proofs.Store.Run
import EventCatalog.Proofs.Service.Cancellation
import EventCatalog.Proofs.Event.SessionTimes
import EventCatalog.Proofs.Event.Creation
import EventCatalog.Proofs.Dialogue.Ending
import EventCatalog.Proofs.Json.Decoding
import EventCatalog.Proofs.Event.Draft
import EventCatalog.Proofs.Api.Outcome
import EventCatalog.Proofs.Service.Insertion
import EventCatalog.Proofs.Api.Insertion
import EventCatalog.Proofs.Api.ErrorRecord
import EventCatalog.Proofs.Query.Parameters
import EventCatalog.Proofs.Query.Token
import EventCatalog.Proofs.Event.RoundTrip
import EventCatalog.Proofs.Dialogue.Parallel
import EventCatalog.Proofs.Api.Discretion
import EventCatalog.Proofs.Dialogue.Refinement
import EventCatalog.Proofs.Retry
import EventCatalog.Proofs.Mongo.Connection
import EventCatalog.Proofs.Service.OffsetPage
import EventCatalog.Proofs.Page.Continuation
import EventCatalog.Proofs.Text.Filling
import EventCatalog.Proofs.Cursor.Filling
import EventCatalog.Proofs.Query.SessionWindow
import EventCatalog.Proofs.Binary64.Reading
import EventCatalog.Proofs.Query.Circle
import EventCatalog.Proofs.Settings.Redaction
import EventCatalog.Proofs.Query.Paging
import EventCatalog.Proofs.Plan.Slice
import EventCatalog.Proofs.Retry.Outcomes
import EventCatalog.Proofs.Service.Tenancy
import EventCatalog.Proofs.Query.Search
import EventCatalog.Proofs.Api.StoredListing
import EventCatalog.Proofs.Settings.Reading
