import Grader.Store.Basic
import Grader.Store.Table

/-! A store in memory. It keeps a journal of the submissions it was given, and each operation may
be set to fail. -/
namespace Grader

inductive Operation where
  | findSubmission
  | saveSubmission (status : Status)
  | findProblem
  | saveProblem
  | findCases
  | saveCases
  | findRecord
  | saveRecord
  deriving DecidableEq, Repr

structure MemoryStore where
  submissions : Table Uuid Submission
  problems : Table String Problem
  cases : Table String (List TestCase)
  records : Table String QuotaRecord
  /-- Every submission saved, with the status it had, oldest first. -/
  journal : List (Uuid × Status)
  fault? : Operation → Option StoreError

namespace MemoryStore

def empty : MemoryStore := ⟨.empty, .empty, .empty, .empty, [], fun _ => none⟩

instance : Inhabited MemoryStore := ⟨empty⟩

/-- The answer of an operation that has one unless it fails. -/
def answer (s : MemoryStore) (o : Operation) (a : α) : Except StoreError α :=
  match s.fault? o with
  | some e => .error e
  | none => .ok a

instance : DocumentStore MemoryStore where
  submission? id s := s.answer .findSubmission (s.submissions.get? id)
  saveSubmission d s := s.answer (.saveSubmission d.status) { s with
    submissions := s.submissions.put d.id d, journal := s.journal ++ [(d.id, d.status)] }
  problem? id s := s.answer .findProblem (s.problems.get? id)
  saveProblem p s := s.answer .saveProblem { s with problems := s.problems.put p.id p }
  cases id s := s.answer .findCases ((s.cases.get? id).getD [])
  saveCases id cs s := s.answer .saveCases { s with cases := s.cases.put id cs }

instance : RecordStore MemoryStore where
  record? userId s := s.answer .findRecord (s.records.get? userId)
  saveRecord r s := s.answer .saveRecord { s with records := s.records.put r.userId r }

def ofDocuments (submissions : List Submission) (problems : List Problem)
    (cases : List (String × List TestCase)) (records : List QuotaRecord) : MemoryStore :=
  { empty with
    submissions := .ofList (submissions.map fun d => (d.id, d))
    problems := .ofList (problems.map fun p => (p.id, p))
    cases := .ofList cases
    records := .ofList (records.map fun r => (r.userId, r)) }

end Grader.MemoryStore
