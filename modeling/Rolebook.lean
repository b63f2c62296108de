import Rolebook.Config
import Rolebook.Proofs.Config
import Rolebook.Proofs.Construction
import Rolebook.Proofs.Decision
import Rolebook.Proofs.Draft
import Rolebook.Proofs.Identifier
import Rolebook.Proofs.Overlay
import Rolebook.Proofs.Service.Atomicity
import Rolebook.Proofs.Service.Commits
import Rolebook.Proofs.Service.Confinement
import Rolebook.Proofs.Service.Deletion
import Rolebook.Proofs.Service.Invalidation
import Rolebook.Proofs.Service.Retry
import Rolebook.Proofs.Service.SingleFlight
import Rolebook.Proofs.Service.Sparing
import Rolebook.Proofs.Service.Uncached
import Rolebook.Proofs.Service.Vanishing
import Rolebook.Proofs.Store.Agreement
import Rolebook.Proofs.Store.Decoding
import Rolebook.Proofs.Store.Listing
import Rolebook.Proofs.Store.Rows
import Rolebook.Proofs.Store.Transaction
import Rolebook.Proofs.Store.Upkeep
import Rolebook.Proofs.Store.Writes
import Rolebook.Proofs.Submission.Flat
import Rolebook.Proofs.Submission.RoundTrip
import Rolebook.Proofs.Submission.Spelling
import Rolebook.Proofs.Task.Race
import Rolebook.Proofs.Task.Record
import Rolebook.Proofs.Web.Access
import Rolebook.Proofs.Web.Authority
import Rolebook.Proofs.Web.Dashboard
import Rolebook.Proofs.Web.Denial
import Rolebook.Proofs.Web.Ending
import Rolebook.Proofs.Web.Readmission
import Rolebook.Proofs.Web.Resubmission
import Rolebook.Store.Memory
import Rolebook.Store.Relational
import Rolebook.Task.Race
import Rolebook.Web.Answer
import Rolebook.Proofs.Cache.Custody
import Rolebook.Proofs.Cache.Exclusion
import Rolebook.Proofs.Cache.Attempts
