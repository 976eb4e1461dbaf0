import Workspaces.Http.Server
import Workspaces.Main
import Workspaces.Proofs.Instant.Order
import Workspaces.Proofs.Instant.Timestamp
import Workspaces.Proofs.Store.Listing
import Workspaces.Proofs.Store.Uniqueness
import Workspaces.Proofs.Store.CanonicalOrder
import Workspaces.Proofs.Store.Commutation
import Workspaces.Proofs.Workspace.Edits
import Workspaces.Proofs.Workspace.RuleSet
import Workspaces.Proofs.Service.Results
import Workspaces.Proofs.Service.Concurrency
import Workspaces.Proofs.Service.Snapshot
import Workspaces.Proofs.Service.Faults
import Workspaces.Proofs.Service.Reach
import Workspaces.Proofs.Service.Resubmission
import Workspaces.Proofs.Service.Placement
import Workspaces.Proofs.Listing.Exactness
import Workspaces.Proofs.Json.Grammar
import Workspaces.Proofs.Json.Leaves
import Workspaces.Proofs.Json.Skipping
import Workspaces.Proofs.Json.Reading
import Workspaces.Proofs.Json.Records
import Workspaces.Proofs.Workspace.Amendment
import Workspaces.Proofs.Http.Exchange
import Workspaces.Proofs.Http.Frame
import Workspaces.Proofs.Http.History
import Workspaces.Proofs.Http.Reads
import Workspaces.Proofs.Http.ReadYourWrites
import Workspaces.Proofs.Http.Walk
import Workspaces.Proofs.Http.PartialUpdate
import Workspaces.Proofs.Text.Utf8
import Workspaces.Proofs.Json.Scanning
import Workspaces.Proofs.Json.Acceptance
import Workspaces.Proofs.Json.Fronts
import Workspaces.Proofs.Json.Tidy
import Workspaces.Proofs.Uuid.Spelling
import Workspaces.Proofs.Json.Rereading
import Workspaces.Proofs.Json.RecordsReread
import Workspaces.Proofs.Workspace.RoundTrip
import Workspaces.Proofs.Http.Refusals
import Workspaces.Proofs.Http.Ids
import Workspaces.Proofs.Config.Settings
import Workspaces.Proofs.Config.Startup
import Workspaces.Proofs.Config.Loading
import Workspaces.Proofs.Config.Overriding
import Workspaces.Proofs.Http.Tracking
import Workspaces.Proofs.Http.Answers
import Workspaces.Proofs.Http.Discretion
import Workspaces.Proofs.Http.Headers
import Workspaces.Proofs.Json.FieldValues
import Workspaces.Proofs.Workspace.Readings
import Workspaces.Proofs.Http.Decisions
import Workspaces.Proofs.Http.Outages
