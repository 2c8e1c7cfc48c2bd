import Grader.Document.Basic
import Grader.Submission

/-! The documents of submissions, case results and tallies. A submission holds the members of its
tally among its own. -/
namespace Grader

open Json

def CaseResult.fields : Fields CaseResult :=
  Fields.pure CaseResult.mk
    |>.apply (.required "test_case_id" .text)
    |>.apply (.required "sequence_number" .int32)
    |>.apply (.required "status" .status)
    |>.apply (.required "stdout" .text)
    |>.apply (.required "stderr" .text)
    |>.apply (.optional "error" .text)
    |>.apply (.required "execution_time_ms" .uint64)
    |>.apply (.required "memory_used_kb" .uint64)

instance : Document CaseResult where
  toJson r := .record <|
    field "test_case_id" (.text r.caseId) ++
    field "sequence_number" (.int r.sequence.toInt) ++
    field "status" (.text r.status.name) ++
    field "stdout" (.text r.stdout) ++
    field "stderr" (.text r.stderr) ++
    optionalField "error" r.error ++
    field "execution_time_ms" (.nat r.executionTimeMs.toNat) ++
    field "memory_used_kb" (.nat r.memoryUsedKb.toNat)
  decoder := CaseResult.fields.decode

def Tally.fields : Fields Tally :=
  Fields.pure Tally.mk
    |>.apply (.required "execution_time_ms" .uint64)
    |>.apply (.required "memory_used_kb" .uint64)
    |>.apply (.required "test_cases_passed" .uint32)
    |>.apply (.required "test_cases_total" .uint32)

def Tally.members (t : Tally) : List (String × Json) :=
  field "execution_time_ms" (.nat t.executionTimeMs.toNat) ++
  field "memory_used_kb" (.nat t.memoryUsedKb.toNat) ++
  field "test_cases_passed" (.nat t.passed.toNat) ++
  field "test_cases_total" (.nat t.total.toNat)

instance : Document Tally where
  toJson t := .record t.members
  decoder := Tally.fields.decode

/-- A submission from its fields in the order of the document. -/
def Submission.ofFields (id : Uuid) (userId problemId : String) (language : Language)
    (code : String) (status : Status) (results : List CaseResult) (executionTimeMs : UInt64)
    (memoryUsedKb : UInt64) (passed total : UInt32) (submittedAt updatedAt : Instant)
    (timeComplexity memoryComplexity diagnostic : Option String) : Submission :=
  ⟨id, userId, problemId, language, code, status, results,
    ⟨executionTimeMs, memoryUsedKb, passed, total⟩, submittedAt, updatedAt, timeComplexity,
    memoryComplexity, diagnostic⟩

def Submission.fields : Fields Submission :=
  Fields.pure Submission.ofFields
    |>.apply (.required "id" .uuid)
    |>.apply (.required "user_id" .text)
    |>.apply (.required "problem_id" .text)
    |>.apply (.required "language" .language)
    |>.apply (.required "code" .text)
    |>.apply (.required "status" .status)
    |>.apply (.defaulted "results" (.list CaseResult.fields.decode) [])
    |>.apply (.required "execution_time_ms" .uint64)
    |>.apply (.required "memory_used_kb" .uint64)
    |>.apply (.required "test_cases_passed" .uint32)
    |>.apply (.required "test_cases_total" .uint32)
    |>.apply (.required "submitted_at" .instant)
    |>.apply (.required "updated_at" .instant)
    |>.apply (.optional "time_complexity" .text)
    |>.apply (.optional "memory_complexity" .text)
    |>.apply (.optional "diagnostic" .text)

instance : Document Submission where
  toJson s := .record <|
    field "id" (.text s.id.text) ++
    field "user_id" (.text s.userId) ++
    field "problem_id" (.text s.problemId) ++
    field "language" (.text s.language.name) ++
    field "code" (.text s.code) ++
    field "status" (.text s.status.name) ++
    field "results" (.list (s.results.map Document.toJson)) ++
    s.tally.members ++
    field "submitted_at" (.text s.submittedAt.documentText) ++
    field "updated_at" (.text s.updatedAt.documentText) ++
    optionalField "time_complexity" s.timeComplexity ++
    optionalField "memory_complexity" s.memoryComplexity ++
    optionalField "diagnostic" s.diagnostic
  decoder := Submission.fields.decode

end Grader
