import Grader.Json.Decoder
import Grader.Json.Printer
import Grader.Language
import Grader.Quota.Service
import Grader.Status
import Grader.Time.Rfc3339
import Grader.Uuid

/-! Documents: values that are kept and sent as JSON. Absent options are not written, unknown
members are passed over, and a record may be given as an array of its fields in order. -/
namespace Grader

class Document (α : Type) where
  toJson : α → Json
  decoder : Json.Decoder α

namespace Document

def text [Document α] (a : α) : String := Json.render (toJson a)

/-- The document that a text holds, if it holds one and nothing else. -/
def ofText? [Document α] (s : String) : Option α := ((decoder : Json.Decoder α).ofText s).toOption

instance [Document α] : Document (List α) where
  toJson as := .list (as.map toJson)
  decoder := .list decoder

end Document

namespace Json

def field (key : String) (v : Json) : List (String × Json) := [(key, v)]

/-- A member only where there is a value. -/
def optionalField (key : String) (s : Option String) : List (String × Json) :=
  match s with
  | some s => [(key, .text s)]
  | none => []

namespace Decoder

def language : Decoder Language := oneOf Language.names

def status : Decoder Status := oneOf Status.names

def service : Decoder Service := oneOf Service.names

def uuid : Decoder Uuid := parsed Uuid.ofText?

def instant : Decoder Instant := parsed Instant.ofText?

/-- One entry after another, each key before its value. -/
def entries (key? : String → Option κ) (d : Decoder α) :
    List (Option String × Json) → Except Fault (List (κ × α))
  | [] => .ok []
  | (none, _) :: _ => .error .malformed
  | (some key, v) :: members => do
    match key? key with
    | none => throw .mismatched
    | some k =>
      let a ← d v
      let rest ← entries key? d members
      pure ((k, a) :: rest)

/-- An object as a table whose keys have a meaning. -/
def table (key? : String → Option κ) (d : Decoder α) : Decoder (List (κ × α))
  | .object members closed => do
    let es ← entries key? d members
    if closed then pure es else throw .malformed
  | v => .error (otherKind v)

/-- Texts for some of the languages; of two for one language the later counts. -/
def perLanguage : Decoder (PerLanguage (Option String)) := fun v => do
  pure (.ofEntries (← table (Language.names.lookup ·) text v))

end Grader.Json.Decoder
