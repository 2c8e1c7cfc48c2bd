import Grader.Metrics.Labelled

/-! Counts of what the grader does. Each kind of event is counted apart for its label values. -/
namespace Grader

def evaluationBounds : List Nat := [100, 250, 500, 1000, 2500, 5000, 10000, 30000]

/-- Times that were measured. A bucket counts the times up to its bound. -/
structure Histogram where
  buckets : List Nat
  sum : Float
  count : Nat

namespace Histogram

def empty : Histogram := ⟨evaluationBounds.map fun _ => 0, 0, 0⟩

def observe (h : Histogram) (ms : Float) : Histogram :=
  ⟨(evaluationBounds.zip h.buckets).map fun (bound, n) =>
      if ms ≤ Float.ofNat bound then n + 1 else n,
    h.sum + ms, h.count + 1⟩

end Histogram

/-- Counts by language, by reason, by language and status, of times by language, of failures by
language and kind of error, and by service. -/
structure Metrics where
  enqueued : Labelled Nat
  rejected : Labelled Nat
  completed : Labelled Nat
  evaluationTime : Labelled Histogram
  dispatchFailures : Labelled Nat
  limited : Labelled Nat
  /-- Submissions that wait or are being run, as last told. -/
  queueDepth : Nat

namespace Metrics

def zero : Metrics := ⟨.empty, .empty, .empty, .empty, .empty, .empty, 0⟩

instance : Inhabited Metrics := ⟨zero⟩

def bump (t : Labelled Nat) (values : List String) : Labelled Nat := t.update values 0 (· + 1)

def recordEnqueued (m : Metrics) (language : String) : Metrics :=
  { m with enqueued := bump m.enqueued [language] }

def recordRejected (m : Metrics) (reason : String) : Metrics :=
  { m with rejected := bump m.rejected [reason] }

def recordCompleted (m : Metrics) (language status : String) (ms : Float) : Metrics :=
  { m with
    completed := bump m.completed [language, status]
    evaluationTime := m.evaluationTime.update [language] .empty (·.observe ms) }

def recordDispatchFailure (m : Metrics) (language kind : String) : Metrics :=
  { m with dispatchFailures := bump m.dispatchFailures [language, kind] }

def recordLimited (m : Metrics) (service : String) : Metrics :=
  { m with limited := bump m.limited [service] }

def setQueueDepth (m : Metrics) (depth : Nat) : Metrics := { m with queueDepth := depth }

end Grader.Metrics
