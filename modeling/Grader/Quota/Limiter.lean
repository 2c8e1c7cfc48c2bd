import Grader.Quota.Record
import Grader.Store.Basic

/-! Limiting the requests of users by the records of a store. A record is read, changed and
written back as a whole. -/
namespace Grader

inductive LimiterError where
  | store (error : StoreError)
  | unknownUser (userId : String)
  | unknownService (service : Service)
  deriving DecidableEq, Repr

def LimiterError.message : LimiterError → String
  | .store e => e.message
  | .unknownUser userId => "no rate limit record for user " ++ userId
  | .unknownService service => "service " ++ service.name ++ " is not limited per user"

namespace Limiter

variable {σ : Type} [RecordStore σ]

/-- A call on the store. What it has written stays written, also where the call fails. -/
abbrev Call (σ α : Type) := ExceptT LimiterError (StateM σ) α

def find (userId : String) : Call σ (Option QuotaRecord) := do
  match RecordStore.record? userId (← get) with
  | .ok r => pure r
  | .error e => throw (.store e)

def save (r : QuotaRecord) : Call σ Unit := do
  match RecordStore.saveRecord r (← get) with
  | .ok s => set s
  | .error e => throw (.store e)

def load (subject : Subject) (now : Instant) : Call σ QuotaRecord := do
  match ← find subject.userId with
  | some r => pure r
  | none =>
    let r := QuotaRecord.new subject now
    save r
    pure r

/-- Counts one request to a service. A refused request leaves the record as it is. -/
def check (subject : Subject) (service : Service) (now : Instant) : Call σ Decision := do
  let r ← load subject now
  match r.quota? service subject.isAdmin now with
  | none => throw (.unknownService service)
  | some q =>
    let (decision, q) := q.check now
    if decision.allowed then save (r.withQuota q now)
    pure decision

def usages (subject : Subject) (now : Instant) : Call σ (List Usage) := do
  let r ← load subject now
  pure (r.quotas.map (·.peek now))

/-- Sets the ceiling of a service for a user who has a record. The count of the window stays. -/
def setCeiling (userId : String) (service : Service) (ceiling : UInt32) (now : Instant) :
    Call σ Quota := do
  match ← find userId with
  | none => throw (.unknownUser userId)
  | some r =>
    match r.quota? service r.isAdmin now with
    | none => throw (.unknownService service)
    | some q =>
      let q := { q with maxRequests := ceiling }
      save (r.withQuota q now)
      pure q

end Grader.Limiter
