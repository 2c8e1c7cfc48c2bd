import Grader.Quota.Window

/-! The quotas of one user. -/
namespace Grader

structure QuotaRecord where
  userId : String
  username : String
  isAdmin : Bool
  quotas : List Quota
  createdAt : Instant
  updatedAt : Instant
  deriving DecidableEq, Repr

structure Subject where
  userId : String
  username : String
  isAdmin : Bool
  deriving DecidableEq, Repr

namespace QuotaRecord

def defaultWindowMinutes : Int64 := 60

def defaults (isAdmin : Bool) (now : Instant) : List Quota :=
  Service.ceilings.map fun (service, regular, admin) =>
    .new service (if isAdmin then admin else regular) defaultWindowMinutes now

def new (subject : Subject) (now : Instant) : QuotaRecord :=
  ⟨subject.userId, subject.username, subject.isAdmin, defaults subject.isAdmin now, now, now⟩

/-- The quota of a service. A service that the record does not list has the default of a role;
one that is not limited for each user has none. -/
def quota? (r : QuotaRecord) (service : Service) (isAdmin : Bool) (now : Instant) : Option Quota :=
  match r.quotas.find? (·.service = service) with
  | some q => some q
  | none => (defaults isAdmin now).find? (·.service = service)

/-- Puts a quota in the place of the first one of its service, or after all others. -/
def put (q : Quota) : List Quota → List Quota
  | [] => [q]
  | p :: ps => if p.service = q.service then q :: ps else p :: put q ps

def withQuota (r : QuotaRecord) (q : Quota) (now : Instant) : QuotaRecord :=
  { r with quotas := put q r.quotas, updatedAt := now }

theorem find?_put_same (q : Quota) (qs : List Quota) :
    (put q qs).find? (·.service = q.service) = some q := by
  induction qs with
  | nil => simp [put]
  | cons p ps ih => by_cases h : p.service = q.service <;> simp [put, h, ih]

theorem find?_put_other (q : Quota) {service : Service} (h : service ≠ q.service)
    (qs : List Quota) :
    (put q qs).find? (·.service = service) = qs.find? (·.service = service) := by
  induction qs with
  | nil => simp [put, Ne.symm h]
  | cons p ps ih =>
    by_cases hp : p.service = q.service
    · simp [put, hp, Ne.symm h]
    · simp only [put, hp, if_false, List.find?_cons]
      split <;> simp_all

end Grader.QuotaRecord
