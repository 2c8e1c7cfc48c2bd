import Grader.Console.Arguments

/-! The console as a program. It makes no connections of its own, so that every server counts as
out of reach; files are checked as far as that goes without one. -/
namespace Grader

/-- The variables that tasks look at. -/
def consoleVariables : List String := ["REDIS_URL", "JUDGE_API_URL"]

def readEnvironment : IO Environment := do
  let found ← consoleVariables.filterMapM fun key => do
    pure ((← IO.getEnv key).map (key, ·))
  pure fun key => found.lookup key

/-- The text of the file that a task reads, if there is one. -/
def readTaskFile (task : Console.Task) : IO (Option String) :=
  match task with
  | .importProblem path => do
    match ← (IO.FS.readFile path).toBaseIO with
    | .ok text => pure (some text)
    | .error _ => pure none
  | _ => pure none

def runConsole (words : List String) : IO UInt32 := do
  let env ← readEnvironment
  match Console.Arguments.task env words with
  | .error message =>
    IO.eprintln ("error: " ++ message)
    pure 2
  | .ok task =>
    let text ← readTaskFile task
    let around : Console.Surroundings :=
      { env, now := default, fileText := fun _ => text, peer := fun _ => .unreachable "no network" }
    let (failure, state) := task.run around ⟨[], none, []⟩
    state.lines.forM IO.println
    match failure with
    | none => pure 0
    | some f =>
      IO.eprintln ("Error: " ++ f.text)
      pure 1

end Grader

def main (words : List String) : IO UInt32 := Grader.runConsole words
