import Grader.Document.Basic
import Grader.Problem

/-! The documents of problems and test cases. -/
namespace Grader

open Json

def Problem.fields : Fields Problem :=
  Fields.pure Problem.mk
    |>.apply (.required "problem_id" .text)
    |>.apply (.defaulted "title" .text "")
    |>.apply (.required "time_limit_ms" .uint64)
    |>.apply (.defaulted "memory_limit_mb" .uint64 0)
    |>.apply (.optional "function_name" .text)
    |>.apply (.defaulted "parsers" .perLanguage (.const none))

/-- The member of parsers, left out where there is none. -/
def Problem.parsersField (parsers : PerLanguage (Option String)) : List (String × Json) :=
  match parsers.entries with
  | [] => []
  | es => [("parsers", .record (es.map fun (l, s) => (l.name, .text s)))]

instance : Document Problem where
  toJson p := .record <|
    field "problem_id" (.text p.id) ++
    field "title" (.text p.title) ++
    field "time_limit_ms" (.nat p.timeLimitMs.toNat) ++
    field "memory_limit_mb" (.nat p.memoryLimitMb.toNat) ++
    optionalField "function_name" p.functionName ++
    Problem.parsersField p.parsers
  decoder := Problem.fields.decode

def TestCase.fields : Fields TestCase :=
  Fields.pure TestCase.mk
    |>.apply (.required "id" .text)
    |>.apply (.required "problem_id" .text)
    |>.apply (.required "input" .text)
    |>.apply (.required "expected_output" .text)
    |>.apply (.defaulted "is_sample" .bool false)
    |>.apply (.defaulted "points" .uint32 0)
    |>.apply (.required "sequence_number" .int32)

instance : Document TestCase where
  toJson c := .record <|
    field "id" (.text c.id) ++
    field "problem_id" (.text c.problemId) ++
    field "input" (.text c.input) ++
    field "expected_output" (.text c.expected) ++
    field "is_sample" (.bool c.isSample) ++
    field "points" (.nat c.points.toNat) ++
    field "sequence_number" (.int c.sequence.toInt)
  decoder := TestCase.fields.decode

end Grader
