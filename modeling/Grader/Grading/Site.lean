import Grader.Config
import Grader.Engine.Basic
import Grader.Evaluation.Signatures
import Grader.Metrics.Basic
import Grader.Queue
import Grader.Quota.Guest
import Grader.Store.Memory

/-! What the requests and the workers of one server share. -/
namespace Grader

structure Setup where
  config : Config
  engine : Engine
  signatures : Signatures

structure Site where
  store : MemoryStore
  queue : Queue
  metrics : Metrics
  guests : GuestLimiter
  /-- Every unit that the engine was given, oldest first. -/
  calls : List ExecutionUnit
  now : Instant
  /-- Milliseconds since the start of the server. -/
  clockMs : Nat

namespace Site

def start (config : Config) (store : MemoryStore) (now : Instant) : Site where
  store := store
  queue := .bounded config.queueCapacity.toNat
  metrics := .zero
  guests := .new config.guestMaxRequests config.guestWindowMinutes
  calls := []
  now := now
  clockMs := 0

/-- Offers a submission to the queue. An offer that is taken sets the depth that is told, any
other is counted as a rejection. -/
def enqueue (s : Site) (id : Uuid) : Offer × Site :=
  let (offer, queue) := s.queue.enqueue id
  let metrics := match offer.rejection? with
    | none => s.metrics.setQueueDepth queue.depth
    | some reason => s.metrics.recordRejected reason
  (offer, { s with queue, metrics })

def release (s : Site) (id : Uuid) : Site :=
  let queue := s.queue.release id
  { s with queue, metrics := s.metrics.setQueueDepth queue.depth }

def call (s : Site) (engine : Engine) (u : ExecutionUnit) : Reply × Site :=
  (engine s.calls u, { s with calls := s.calls ++ [u] })

def saveSubmission (s : Site) (d : Submission) : Except StoreError Site :=
  (DocumentStore.saveSubmission d s.store).map fun store => { s with store }

end Grader.Site
