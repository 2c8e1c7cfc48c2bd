import Grader.Language
import Grader.Text.Decimal

/-! Settings from the variables of the environment. A variable that is missing or does not read
as a number of its range leaves the default. -/
namespace Grader

inductive StoreBackend where
  | redis
  | memory
  deriving DecidableEq, Repr

def StoreBackend.name : StoreBackend → String
  | .redis => "redis"
  | .memory => "memory"

abbrev Environment := String → Option String

structure Config where
  redisUrl : String
  storeBackend : StoreBackend
  port : UInt16
  workerCount : UInt64
  queueCapacity : UInt64
  defaultTimeLimitMs : UInt64
  maxTimeLimitMs : UInt64
  /-- What a call may take beyond the time limit of its run. -/
  dispatchMarginMs : UInt64
  /-- What the runs of one submission may take together. -/
  maxSubmissionBudgetMs : UInt64
  guestMaxRequests : UInt32
  guestWindowMinutes : Int64
  executorUrls : PerLanguage String
  logJson : Bool
  deriving DecidableEq, Repr

namespace Config

/-- The number in a variable, if it reads as one between two bounds. -/
def number? (env : Environment) (key : String) (low high : Int) : Option Int := do
  let n ← Text.readInt? (low < 0) (← env key).toList
  if low ≤ n ∧ n ≤ high then some n else none

def unsigned (env : Environment) (key : String) (size default : Nat) : Nat :=
  ((number? env key 0 (size - 1)).map Int.toNat).getD default

def uint64 (env : Environment) (key : String) (default : Nat) : UInt64 :=
  UInt64.ofNat (unsigned env key UInt64.size default)

def defaultExecutorUrl (l : Language) : String :=
  let port := match l with
    | .python => "8001"
    | .javascript => "8002"
    | .cpp => "8003"
    | .java => "8004"
  "http://localhost:" ++ port ++ "/execute"

def executorUrl (env : Environment) (l : Language) : String :=
  (env ("EXECUTOR_URL_" ++ l.variableSuffix)).getD (defaultExecutorUrl l)

def ofEnvironment (env : Environment) : Config where
  redisUrl := (env "REDIS_URL").getD "redis://localhost:6379"
  storeBackend := if env "STORE_BACKEND" = some "memory" then .memory else .redis
  port := UInt16.ofNat (unsigned env "PORT" UInt16.size 3000)
  workerCount := max (uint64 env "WORKER_COUNT" 2) 1
  queueCapacity := max (uint64 env "QUEUE_CAPACITY" 100) 1
  defaultTimeLimitMs := uint64 env "DEFAULT_TIME_LIMIT_MS" 5000
  maxTimeLimitMs := uint64 env "MAX_TIME_LIMIT_MS" 30000
  dispatchMarginMs := uint64 env "DISPATCH_MARGIN_MS" 2000
  maxSubmissionBudgetMs := uint64 env "MAX_SUBMISSION_BUDGET_MS" 120000
  guestMaxRequests := UInt32.ofNat (unsigned env "GUEST_MAX_REQUESTS" UInt32.size 3)
  guestWindowMinutes :=
    let minutes := number? env "GUEST_WINDOW_MINUTES" Int64.minValue.toInt Int64.maxValue.toInt
    Int64.ofInt (minutes.getD 60)
  executorUrls := .ofFn (executorUrl env)
  logJson := env "LOG_FORMAT" = some "json"

/-- The limit of a run: the default where none is asked for, and never above the maximum else. -/
def effectiveTimeLimit (c : Config) (requested : UInt64) : UInt64 :=
  if requested = 0 then c.defaultTimeLimitMs else min requested c.maxTimeLimitMs

end Grader.Config
