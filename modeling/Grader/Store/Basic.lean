import Grader.Problem
import Grader.Quota.Record
import Grader.Submission

/-! What a store of documents offers, and how it fails. A write that fails has stored nothing,
so it has no store for its result. -/
namespace Grader

inductive StoreError where
  | server (detail : String)
  /-- A stored text is no document of the kind that was asked for. -/
  | encoding (detail : String)
  deriving DecidableEq, Repr

namespace StoreError

def heading : StoreError → String
  | .server _ => "redis error:"
  | .encoding _ => "document encoding error:"

def detail : StoreError → String
  | .server detail | .encoding detail => detail

def message (e : StoreError) : String := e.heading ++ " " ++ e.detail

end StoreError

class DocumentStore (σ : Type) where
  submission? : Uuid → σ → Except StoreError (Option Submission)
  saveSubmission : Submission → σ → Except StoreError σ
  problem? : String → σ → Except StoreError (Option Problem)
  saveProblem : Problem → σ → Except StoreError σ
  /-- In the order in which they were stored; a problem without a list has the empty one. -/
  cases : String → σ → Except StoreError (List TestCase)
  saveCases : String → List TestCase → σ → Except StoreError σ

class RecordStore (σ : Type) where
  record? : String → σ → Except StoreError (Option QuotaRecord)
  saveRecord : QuotaRecord → σ → Except StoreError σ

end Grader
