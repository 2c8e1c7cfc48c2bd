import Grader.Status
import Grader.Text.Occurrence

/-! Marks in the output of a program that tell how it failed. Some sandboxes cannot tell a program
that was never understood from one that ran and printed a trace, and only the text is left to go
by. The table is a guess: a program may print such a mark on purpose. -/
namespace Grader

structure SignatureRule where
  pattern : String
  status : Status
  deriving DecidableEq, Repr

structure Signatures where
  rules : List SignatureRule
  deriving DecidableEq, Repr

namespace Signatures

def empty : Signatures := ⟨[]⟩

def withRule (t : Signatures) (pattern : String) (status : Status) : Signatures :=
  ⟨t.rules ++ [⟨pattern, status⟩]⟩

/-- The status that the first rule with its pattern in the output gives. -/
def reclassify (t : Signatures) (output : String) : Option Status :=
  (t.rules.find? fun rule => Text.occurs rule.pattern.toList output.toList).map (·.status)

/-- Programs that interpreters could not read, or that use names nobody defined. -/
def default : Signatures :=
  ⟨["SyntaxError", "IndentationError", "TabError", "NameError", "ReferenceError"].map
    (⟨·, .compilationError⟩)⟩

instance : Inhabited Signatures := ⟨default⟩

end Grader.Signatures
