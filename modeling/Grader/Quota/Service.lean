/-! The services that a quota limits, and what each user may ask of them in an hour. -/
namespace Grader

inductive Service where
  | codeCompletion
  | pseudocodeConversion
  | codeExecution
  | codeSubmission
  | aiAnalysis
  | aiHint
  /-- Limited for each address and for no user. -/
  | guestCreation
  deriving DecidableEq, Repr

namespace Service

def all : List Service :=
  [.codeCompletion, .pseudocodeConversion, .codeExecution, .codeSubmission, .aiAnalysis, .aiHint,
   .guestCreation]

def name : Service → String
  | .codeCompletion => "code_completion"
  | .pseudocodeConversion => "pseudocode_to_code"
  | .codeExecution => "code_execution"
  | .codeSubmission => "code_submission"
  | .aiAnalysis => "ai_analysis"
  | .aiHint => "ai_hint"
  | .guestCreation => "guest_creation"

def names : List (String × Service) := all.map fun s => (s.name, s)

def ofName? (text : String) : Option Service := names.lookup text

/-- The services that have a ceiling for each user, with those of regular users and of admins. -/
def ceilings : List (Service × UInt32 × UInt32) :=
  [(.codeCompletion, 100, 1000), (.pseudocodeConversion, 20, 100), (.codeExecution, 50, 200),
   (.codeSubmission, 50, 200), (.aiAnalysis, 20, 100), (.aiHint, 10, 50)]

def ceiling? (isAdmin : Bool) (s : Service) : Option UInt32 :=
  (ceilings.lookup s).map fun (regular, admin) => if isAdmin then admin else regular

theorem ofName?_name (s : Service) : ofName? s.name = some s := by cases s <;> decide

end Grader.Service
