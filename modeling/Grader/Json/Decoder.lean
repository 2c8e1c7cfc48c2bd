import Grader.Json.Reader

/-! Reading documents from JSON. A decoder goes through the value in the order of its text
and stops at the first fault, so the fault it reports is the one that stands first. -/
namespace Grader.Json

/-- Why a text is no document of some kind: it is no JSON, or it is JSON of another shape. -/
inductive Fault where
  | malformed
  | mismatched
  deriving DecidableEq, Repr

abbrev Decoder (α : Type) := Json → Except Fault α

namespace Decoder

def otherKind : Json → Fault
  | .broken | .unreadable => .malformed
  | _ => .mismatched

def text : Decoder String
  | .text s => .ok s
  | v => .error (otherKind v)

def bool : Decoder Bool
  | .bool b => .ok b
  | v => .error (otherKind v)

def int (low high : Int) : Decoder Int
  | .int n => if low ≤ n ∧ n ≤ high then .ok n else .error .mismatched
  | v => .error (otherKind v)

def uint32 : Decoder UInt32 := fun v => do
  pure (UInt32.ofNat (← int 0 (UInt32.size - 1) v).toNat)

def uint64 : Decoder UInt64 := fun v => do
  pure (UInt64.ofNat (← int 0 (UInt64.size - 1) v).toNat)

def int32 : Decoder Int32 := fun v => do
  pure (Int32.ofInt (← int Int32.minValue.toInt Int32.maxValue.toInt v))

def int64 : Decoder Int64 := fun v => do
  pure (Int64.ofInt (← int Int64.minValue.toInt Int64.maxValue.toInt v))

def option (d : Decoder α) : Decoder (Option α)
  | .null => .ok none
  | v => (d v).map some

def list (d : Decoder α) : Decoder (List α)
  | .array items closed => do
    let values ← items.mapM d
    if closed then pure values else throw .malformed
  | v => .error (otherKind v)

def parsed (parse : String → Option α) : Decoder α := fun v => do
  match parse (← text v) with
  | some a => pure a
  | none => throw .mismatched

/-- A name from a table, as a string or as the key of null in an object of its own. -/
def oneOf (table : List (String × α)) : Decoder α
  | .text s => find s
  | .object ((some key, v) :: more) closed => do
    let a ← find key
    match v with
    | .null => if more.isEmpty && closed then pure a else throw .malformed
    | v => throw (otherKind v)
  | _ => .error .malformed
where
  find (name : String) : Except Fault α :=
    match table.lookup name with
    | some a => .ok a
    | none => .error .mismatched

end Decoder

/-- One field of a record: the keys it may stand under, and a reading of its value that tells
faults only. -/
structure Slot where
  keys : List String
  probe : Json → Except Fault Unit

/-- Where the values of a record's fields come from. In a sequence the values have no keys and
stand in the order of the fields. -/
structure Source where
  value? : String → Option Json
  sequence : Bool

structure Fields (α : Type) where
  slots : List Slot
  build : Source → Except Fault α

namespace Fields

def pure (a : α) : Fields α := ⟨[], fun _ => .ok a⟩

def apply (f : Fields (α → β)) (g : Fields α) : Fields β :=
  ⟨f.slots ++ g.slots, fun source => do
    let h ← f.build source
    let a ← g.build source
    .ok (h a)⟩

def slot (keys : List String) (d : Decoder α) : Slot := ⟨keys, fun v => (d v).map fun _ => ()⟩

def ofMissing (keys : List String) (d : Decoder α) (missing : Source → Except Fault α) : Fields α :=
  ⟨[slot keys d], fun source =>
    match keys.findSome? source.value? with
    | some v => d v
    | none => missing source⟩

def required (key : String) (d : Decoder α) : Fields α :=
  ofMissing [key] d fun _ => .error .mismatched

def defaulted (key : String) (d : Decoder α) (value : α) : Fields α :=
  ofMissing [key] d fun _ => .ok value

def optional (key : String) (d : Decoder α) : Fields (Option α) :=
  defaulted key (.option d) none

/-- The field may be missing or null under any of its keys, but not left out of a sequence. -/
def nullable (keys : List String) (d : Decoder α) : Fields (Option α) :=
  ofMissing keys (.option d) fun source => if source.sequence then .error .mismatched else .ok none

/-- Goes through the members in order. A second value for one field is a fault, told before
the value itself is looked at; members that belong to no field are passed over. -/
def check (slots : List Slot) (seen : List (List String)) :
    List (Option String × Json) → Except Fault Unit
  | [] => .ok ()
  | (none, _) :: _ => .error .malformed
  | (some key, v) :: members =>
    match slots.find? (·.keys.contains key) with
    | none => check slots seen members
    | some s =>
      if seen.contains s.keys then .error .mismatched
      else do
        s.probe v
        check slots (s.keys :: seen) members

/-- Reads a record from an object, or from an array of its fields in order whose last fields
may be missing. Items beyond the last field are no JSON of such a record. -/
def decode (fields : Fields α) : Decoder α
  | .object members closed => do
    check fields.slots [] members
    if closed then fields.build ⟨fun key => members.lookup (some key), false⟩ else throw .malformed
  | .array items closed => do
    let members := (fields.slots.map fun s => some (s.keys.headD "")).zip items
    check fields.slots [] members
    if closed && items.length ≤ fields.slots.length then
      fields.build ⟨fun key => members.lookup (some key), true⟩
    else throw .malformed
  | v => .error (Decoder.otherKind v)

end Fields

def Decoder.ofText (d : Decoder α) (s : String) : Except Fault α := do
  let (v, ended) := readAll s.toList
  let a ← d v
  if ended then .ok a else .error .malformed

/-- Reads a document from the head of a text, whatever follows it. -/
def Decoder.ofHead (d : Decoder α) (s : String) : Except Fault α := d (read s.toList).1

end Grader.Json
