import Hypermedia.Database.Url
import Hypermedia.Sql.Name
import Hypermedia.Sql.Query
import Hypermedia.Web.Server
import Hypermedia.Proofs.Lists
import Hypermedia.Proofs.Members
import Hypermedia.Proofs.Registry
import Hypermedia.Proofs.Collections
import Hypermedia.Proofs.Service
import Hypermedia.Proofs.Identity
import Hypermedia.Proofs.Joining
import Hypermedia.Proofs.Bookkeeping
import Hypermedia.Proofs.Create
import Hypermedia.Proofs.Update
import Hypermedia.Proofs.Delete
import Hypermedia.Proofs.Read
import Hypermedia.Proofs.Resolution
import Hypermedia.Proofs.History
import Hypermedia.Proofs.Serving
import Hypermedia.Proofs.Intact
import Hypermedia.Proofs.Rejection
import Hypermedia.Proofs.Ownership
import Hypermedia.Proofs.Conflict
import Hypermedia.Proofs.Unique
import Hypermedia.Proofs.Conditions
import Hypermedia.Proofs.Listing
import Hypermedia.Proofs.Children
import Hypermedia.Proofs.ChildCount
import Hypermedia.Proofs.Calendar
import Hypermedia.Proofs.Digits
import Hypermedia.Proofs.Timestamp
import Hypermedia.Proofs.Alphabet
import Hypermedia.Proofs.Literal
import Hypermedia.Proofs.Writes
import Hypermedia.Proofs.Search
import Hypermedia.Proofs.Chronology
import Hypermedia.Proofs.Links
import Hypermedia.Proofs.Paging
import Hypermedia.Proofs.Views
import Hypermedia.Proofs.Filters
import Hypermedia.Proofs.Sources
import Hypermedia.Proofs.Ordering
import Hypermedia.Proofs.NormalizedDates
import Hypermedia.Proofs.Bulk
import Hypermedia.Proofs.DryRun
import Hypermedia.Proofs.Credentials
import Hypermedia.Proofs.Statements
import Hypermedia.Proofs.Faults
import Hypermedia.Proofs.Edits
import Hypermedia.Proofs.Acceptance
import Hypermedia.Proofs.Proximity
import Hypermedia.Proofs.Relations
import Hypermedia.Proofs.Values
import Hypermedia.Proofs.StorageForm
import Hypermedia.Proofs.Plural
import Hypermedia.Proofs.Routes
import Hypermedia.Proofs.Emission
import Hypermedia.Proofs.Following
import Hypermedia.Proofs.Wildcard
import Hypermedia.Proofs.DateRanges
import Hypermedia.Proofs.Catalog
import Hypermedia.Proofs.Sorting
import Hypermedia.Proofs.Origin
import Hypermedia.Proofs.Required
import Hypermedia.Proofs.References
import Hypermedia.Proofs.Keys
import Hypermedia.Proofs.Interleaving
import Hypermedia.Proofs.Concurrency
import Hypermedia.Proofs.Removal
import Hypermedia.Proofs.Success
import Hypermedia.Proofs.Enrolment
import Hypermedia.Proofs.Creation
import Hypermedia.Proofs.Revision
import Hypermedia.Proofs.Repetition
import Hypermedia.Proofs.FieldNames
import Hypermedia.Proofs.Projection
import Hypermedia.Proofs.Dangling
import Hypermedia.Proofs.Documents
import Hypermedia.Proofs.Declarations
import Hypermedia.Proofs.Offsets
import Hypermedia.Proofs.Rounding
import Hypermedia.Proofs.Floats
import Hypermedia.Proofs.Integers
import Hypermedia.Proofs.Places
import Hypermedia.Proofs.Geometry
import Hypermedia.Proofs.Quoting
import Hypermedia.Proofs.Address
import Hypermedia.Proofs.Categories
import Hypermedia.Proofs.Capitals
import Hypermedia.Proofs.Endings
import Hypermedia.Proofs.Shapes
import Hypermedia.Proofs.Settled
import Hypermedia.Proofs.Initials
import Hypermedia.Proofs.LastWord
