import Grader.Uuid

/-! The queue of submissions that wait for a worker. A submission is in flight from the moment it
is accepted until its worker releases it, and is not accepted a second time meanwhile. -/
namespace Grader

inductive QueueError where
  | full
  | closed
  deriving DecidableEq, Repr

def QueueError.message : QueueError → String
  | .full => "submission queue is full"
  | .closed => "submission queue is closed"

inductive Offer where
  | queued
  | alreadyQueued
  | refused (error : QueueError)
  deriving DecidableEq, Repr

def Offer.rejection? : Offer → Option String
  | .queued => none
  | .alreadyQueued => some "duplicate"
  | .refused .full => some "full"
  | .refused .closed => some "closed"

structure Queue where
  capacity : Nat
  channel : List Uuid
  inFlight : List Uuid
  /-- No more work is accepted; what waits is still handed out. -/
  isClosed : Bool
  isAttached : Bool
  deriving DecidableEq, Repr

namespace Queue

/-- A queue has room for one submission at least. -/
def bounded (capacity : Nat) : Queue := ⟨max capacity 1, [], [], false, true⟩

def depth (q : Queue) : Nat := q.inFlight.length

def isInFlight (q : Queue) (id : Uuid) : Bool := q.inFlight.contains id

/-- Offers a submission. A full queue refuses it and does not wait. -/
def enqueue (q : Queue) (id : Uuid) : Offer × Queue :=
  if q.isClosed then (.refused .closed, q)
  else if q.isInFlight id then (.alreadyQueued, q)
  else if !q.isAttached then (.refused .closed, q)
  else if q.capacity ≤ q.channel.length then (.refused .full, q)
  else (.queued, { q with channel := q.channel ++ [id], inFlight := q.inFlight ++ [id] })

def take? (q : Queue) : Option (Uuid × Queue) :=
  match q.channel with
  | [] => none
  | id :: ids => some (id, { q with channel := ids })

def release (q : Queue) (id : Uuid) : Queue := { q with inFlight := q.inFlight.erase id }

def close (q : Queue) : Queue := { q with isClosed := true }

/-- Leaves the queue without anybody to take from it; what waits is dropped. -/
def detach (q : Queue) : Queue := { q with channel := [], isAttached := false }

theorem enqueue_eq_self {q : Queue} {id : Uuid} (h : (q.enqueue id).1 ≠ .queued) :
    (q.enqueue id).2 = q := by
  unfold enqueue at *
  repeat' split
  all_goals simp_all

end Grader.Queue
