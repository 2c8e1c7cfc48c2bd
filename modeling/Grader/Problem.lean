import Grader.Language

/-! Problems and their test cases. -/
namespace Grader

structure Problem where
  id : String
  title : String
  timeLimitMs : UInt64
  /-- Megabytes; 0 means that memory is not limited. -/
  memoryLimitMb : UInt64
  functionName : Option String
  parsers : PerLanguage (Option String)
  deriving DecidableEq, Repr

structure TestCase where
  id : String
  problemId : String
  input : String
  expected : String
  /-- A sample's expected output may be shown to the submitter. -/
  isSample : Bool
  points : UInt32
  sequence : Int32
  deriving DecidableEq, Repr

inductive MemoryLimit where
  | none
  | kilobytes (n : UInt64)
  /-- More kilobytes than 64 bits count. -/
  | overflow
  deriving DecidableEq, Repr

def Problem.memoryLimit (p : Problem) : MemoryLimit :=
  if p.memoryLimitMb = 0 then .none
  else if p.memoryLimitMb.toNat * 1024 < UInt64.size then .kilobytes (p.memoryLimitMb * 1024)
  else .overflow

end Grader
