import Grader.Api.Server
import Grader.Proofs.Process
import Grader.Proofs.Consistency
import Grader.Proofs.Requeue
import Grader.Proofs.Stranded
import Grader.Main
import Grader.Proofs.Shift
import Grader.Proofs.Calls
import Grader.Proofs.Lifecycle
import Grader.Proofs.Limiter
import Grader.Proofs.Isolation
import Grader.Proofs.Window
import Grader.Proofs.Guests
import Grader.Proofs.Outage
import Grader.Proofs.Admission
import Grader.Proofs.Ration
import Grader.Proofs.Secret
import Grader.Proofs.Detail
import Grader.Proofs.PoolDetail
import Grader.Proofs.Disclosure
import Grader.Proofs.Segments
import Grader.Proofs.Backends
import Grader.Proofs.Rfc3339
import Grader.Proofs.Decoding
import Grader.Proofs.Documents
import Grader.Proofs.Refusal
import Grader.Proofs.Balance
import Grader.Proofs.Course
import Grader.Proofs.Budget
import Grader.Proofs.Persistence
import Grader.Proofs.Reception
import Grader.Proofs.Fields
import Grader.Proofs.TimeLimit
import Grader.Proofs.Dispatch
import Grader.Proofs.Atomicity
import Grader.Proofs.Allowance
import Grader.Proofs.CaseOrder
import Grader.Proofs.Precedence
import Grader.Proofs.LineEnding
import Grader.Proofs.CallLog
import Grader.Proofs.CustomRun
import Grader.Proofs.Signatures
import Grader.Proofs.Import
import Grader.Proofs.MemoryLimit
