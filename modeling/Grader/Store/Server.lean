import Grader.Document.Problem
import Grader.Document.Quota
import Grader.Document.Submission
import Grader.Store.Basic
import Grader.Store.Key
import Grader.Store.Table

/-! A store of documents as texts on a key-value server. -/
namespace Grader

inductive Command where
  | get (key : String)
  | set (key : String)
  deriving DecidableEq, Repr

/-- A server that maps keys to texts, and the commands it refuses. -/
structure ServerStore where
  texts : Table String String
  refuses : Command → Bool

namespace ServerStore

def empty : ServerStore := ⟨.empty, fun _ => false⟩

def refusal : StoreError := .server "command refused"

/-- The document under a key. A text that is no such document is an error. -/
def read [Document α] (key : String) (s : ServerStore) : Except StoreError (Option α) :=
  if s.refuses (.get key) then .error refusal
  else
    match s.texts.get? key with
    | none => .ok none
    | some text =>
      match Document.ofText? text with
      | some a => .ok (some a)
      | none => .error (.encoding "not a document of this kind")

def write [Document α] (key : String) (a : α) (s : ServerStore) : Except StoreError ServerStore :=
  if s.refuses (.set key) then .error refusal
  else .ok { s with texts := s.texts.put key (Document.text a) }

instance : DocumentStore ServerStore where
  submission? id := read (Key.submission id)
  saveSubmission d := write (Key.submission d.id) d
  problem? id := read (Key.problem id)
  saveProblem p := write (Key.problem p.id) p
  cases id s := (read (Key.cases id) s).map (·.getD [])
  saveCases id cs := write (Key.cases id) cs

instance : RecordStore ServerStore where
  record? userId := read (Key.record userId)
  saveRecord r := write (Key.record r.userId) r

end Grader.ServerStore
