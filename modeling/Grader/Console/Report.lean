import Grader.Quota.Record
import Grader.Submission
import Grader.Text.Column
import Grader.Text.Decimal
import Grader.Text.LineEnding
import Grader.Time.Rfc3339

/-! Printed reports of submissions and quota records. -/
namespace Grader.Console

open Text

/-- The lines of an explanation that a report shows. -/
def explanationLines : Nat := 6

def resultLine (sequence caseId status time memory : String) : String :=
  alignLeft 6 sequence ++ " " ++ alignLeft 16 caseId ++ " " ++ alignLeft 24 status ++ " " ++
    time ++ " " ++ memory

def resultHeading : String :=
  resultLine "SEQ" "TEST CASE" "STATUS" (alignRight 8 "TIME") (alignRight 10 "MEMORY")

def resultLines (r : CaseResult) : List String :=
  resultLine (ofInt r.sequence.toInt) r.caseId r.status.name
      (alignRight 6 (ofNat r.executionTimeMs.toNat) ++ "ms")
      (alignRight 8 (ofNat r.memoryUsedKb.toNat) ++ "KB") ::
    match r.error with
    | none => []
    | some e =>
      ((lines e.toList).take explanationLines).map fun line => "       " ++ String.ofList line

def submissionLines (s : Submission) : List String :=
  ["📄 Submission " ++ s.id.text,
   "   User:      " ++ s.userId,
   "   Problem:   " ++ s.problemId,
   "   Language:  " ++ s.language.name,
   "   Status:    " ++ s.status.name,
   "   Passed:    " ++ ofNat s.tally.passed.toNat ++ "/" ++ ofNat s.tally.total.toNat,
   "   Time:      " ++ ofNat s.tally.executionTimeMs.toNat ++ "ms   Memory: " ++
     ofNat s.tally.memoryUsedKb.toNat ++ "KB",
   "   Submitted: " ++ s.submittedAt.offsetText] ++
  (match s.diagnostic with
   | some d => ["   ⚠️  Diagnostic: " ++ d]
   | none => []) ++
  if s.results.isEmpty then []
  else ["", resultHeading, rule 68] ++ s.results.flatMap resultLines

def quotaLine (service used remaining limit resetAt : String) : String :=
  alignLeft 24 service ++ " " ++ alignRight 6 used ++ " " ++ alignRight 10 remaining ++ " " ++
    alignRight 8 limit ++ "   " ++ resetAt

def usageLine (q : Quota) (now : Instant) : String :=
  let u := q.peek now
  quotaLine q.service.name (ofNat (Quota.left q.maxRequests u.remaining).toNat)
    (ofNat u.remaining.toNat) (ofNat u.limit.toNat) u.resetAt.offsetText

def recordLines (r : QuotaRecord) (now : Instant) : List String :=
  ["👤 " ++ r.userId ++ " (" ++ r.username ++ ")" ++ (if r.isAdmin then " [admin]" else ""),
   "",
   quotaLine "SERVICE" "USED" "REMAINING" "LIMIT" "RESETS AT",
   rule 80] ++ r.quotas.map (usageLine · now)

end Grader.Console
