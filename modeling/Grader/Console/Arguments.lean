import Grader.Console.Task

/-! The words of a command line. A task has a name of one word or two and options after it. -/
namespace Grader.Console.Arguments

abbrev Options := List (String × String)

/-- The full name of an option, which may be given by its first letter. -/
def fullName (known : List String) (word : String) : Option String :=
  known.find? fun name =>
    word = "--" ++ name || word = "-" ++ String.ofList (name.toList.take 1)

/-- Pairs of a name and a value, or `--name=value` in one word. -/
def options (known : List String) : List String → Except String Options
  | [] => .ok []
  | word :: words =>
    let name := String.ofList (word.toList.takeWhile (· ≠ '='))
    match fullName known name, words with
    | none, _ => .error ("unexpected argument '" ++ word ++ "' found")
    | some key, words =>
      if name ≠ word then do
        let rest ← options known words
        pure ((key, String.ofList (word.toList.drop (name.length + 1))) :: rest)
      else
        match words with
        | [] => .error ("a value is required for '--" ++ key ++ "'")
        | value :: words => do
          let rest ← options known words
          pure ((key, value) :: rest)

def required (os : Options) (name : String) : Except String String :=
  match os.lookup name with
  | some v => .ok v
  | none => .error ("the argument '--" ++ name ++ "' was not provided")

def requiredId (os : Options) : Except String Uuid := do
  match Uuid.ofText? (← required os "id") with
  | some id => pure id
  | none => .error "invalid value for '--id'"

def requiredCeiling (os : Options) : Except String UInt32 := do
  match Text.readInt? false (← required os "max").toList with
  | some n => if n < UInt32.size then pure (.ofNat n.toNat) else .error "invalid value for '--max'"
  | none => .error "invalid value for '--max'"

def defaultApiUrl : String := "http://localhost:3000"

def defaultAdmin : String := "operator"

def task (env : Environment) : List String → Except String Task
  | "import-problem" :: words => do
    let os ← options ["file"] words
    pure (.importProblem (← required os "file"))
  | "submission" :: words => do
    let os ← options ["id"] words
    pure (.showSubmission (← requiredId os))
  | "requeue" :: words => do
    let os ← options ["id", "api-url", "admin"] words
    let apiUrl := (os.lookup "api-url").getD ((env "JUDGE_API_URL").getD defaultApiUrl)
    pure (.requeue (← requiredId os) apiUrl ((os.lookup "admin").getD defaultAdmin))
  | "limits" :: "show" :: words => do
    let os ← options ["user"] words
    pure (.showQuotas (← required os "user"))
  | "limits" :: "set" :: words => do
    let os ← options ["user", "service", "max"] words
    pure (.setCeiling (← required os "user") (← required os "service") (← requiredCeiling os))
  | _ =>
    .error "tasks: import-problem, submission, requeue, limits show, limits set"

end Grader.Console.Arguments
