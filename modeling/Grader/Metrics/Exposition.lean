import Grader.Metrics.Basic
import Grader.Number.Shortest

/-! The text form in which counts are served. Families stand in the order of their names, and the
samples of a family in the order of their label values. A family without samples is left out. -/
namespace Grader.Metrics

def escapeLabel (s : String) : String :=
  String.ofList <| s.toList.flatMap fun c =>
    match c with
    | '\\' => ['\\', '\\']
    | '"' => ['\\', '"']
    | '\n' => ['\\', 'n']
    | c => [c]

def label (name value : String) : String := name ++ "=\"" ++ escapeLabel value ++ "\""

def sample (name : String) (labels : List String) (value : String) : String :=
  name ++ (if labels.isEmpty then "" else "\x7b" ++ ",".intercalate labels ++ "\x7d") ++ " " ++ value

structure Family where
  name : String
  help : String
  kind : String
  lines : List String

def Family.render (f : Family) : List String :=
  if f.lines.isEmpty then []
  else
    ["# HELP " ++ f.name ++ " " ++ f.help, "# TYPE " ++ f.name ++ " " ++ f.kind] ++ f.lines

/-- Label values with their names, in the order of the names. -/
def pairs (names values : List String) : List (String × String) :=
  (names.zip values).mergeSort fun a b => a.1 ≤ b.1

/-- The order of the first values that differ. -/
def inOrder : List (String × String) → List (String × String) → Bool
  | [], _ => true
  | _ :: _, [] => false
  | (_, a) :: ps, (_, b) :: qs => a < b || (a = b && inOrder ps qs)

def children (names : List String) (t : Labelled α) : List (List (String × String) × α) :=
  (t.entries.map fun (values, a) => (pairs names values, a)).mergeSort fun a b => inOrder a.1 b.1

def labels (ps : List (String × String)) : List String := ps.map fun (name, value) => label name value

def counter (name help : String) (names : List String) (t : Labelled Nat) : Family :=
  ⟨name, help, "counter", (children names t).map fun (ps, n) =>
    sample name (labels ps) (Text.ofNat n)⟩

def histogramLines (name : String) (ls : List String) (h : Histogram) : List String :=
  let bucket (bound : String) (n : Nat) :=
    sample (name ++ "_bucket") (ls ++ [label "le" bound]) (Text.ofNat n)
  (evaluationBounds.zip h.buckets).map (fun (bound, n) => bucket (Text.ofNat bound) n) ++
    [bucket "+Inf" h.count, sample (name ++ "_sum") ls (Shortest.text h.sum),
      sample (name ++ "_count") ls (Text.ofNat h.count)]

def histogram (name help : String) (names : List String) (t : Labelled Histogram) : Family :=
  ⟨name, help, "histogram", (children names t).flatMap fun (ps, h) =>
    histogramLines name (labels ps) h⟩

/-- A depth is kept in 64 bits with a sign and written as a number of binary64. -/
def gaugeText (n : Nat) : String := Shortest.text (Float.ofInt (Int64.ofNat n).toInt)

def gauge (name help : String) (n : Nat) : Family :=
  ⟨name, help, "gauge", [sample name [] (gaugeText n)]⟩

def families (m : Metrics) : List Family :=
  [counter "judge_dispatch_failures_total" "Sandbox calls failing for infrastructure reasons"
      ["language", "kind"] m.dispatchFailures,
    histogram "judge_evaluation_time_ms" "Submission evaluation time in milliseconds" ["language"]
      m.evaluationTime,
    gauge "judge_queue_depth" "Submissions queued or in progress" m.queueDepth,
    counter "judge_rate_limit_rejections_total" "Requests refused by the rate limiter" ["service"]
      m.limited,
    counter "judge_submissions_completed_total" "Total submissions evaluated"
      ["language", "status"] m.completed,
    counter "judge_submissions_enqueued_total" "Total submissions accepted into the queue"
      ["language"] m.enqueued,
    counter "judge_submissions_rejected_total" "Total enqueue attempts refused" ["reason"] m.rejected]

def lines (m : Metrics) : List String := (families m).flatMap Family.render

end Grader.Metrics
