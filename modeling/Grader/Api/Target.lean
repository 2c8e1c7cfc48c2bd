/-! The target of a request: a path that starts with a slash, or a scheme and a host before such a
path, and after either of them a query or a fragment. -/
namespace Grader.Api.Target

def endsHost (c : Char) : Bool := c = '/' || c = '?' || c = '#'

/-- What follows the first `://`, if a scheme stands before it. -/
def afterScheme? : List Char → Option (List Char)
  | ':' :: '/' :: '/' :: s => some s
  | c :: s => if endsHost c then none else afterScheme? s
  | [] => none

/-- The path, nothing for a target of another form. A host alone has no segments either. -/
def path (target : List Char) : List Char :=
  let s := match target with
    | '/' :: _ => target
    | _ => ((afterScheme? target).getD []).dropWhile (!endsHost ·)
  s.takeWhile fun c => c ≠ '?' && c ≠ '#'

def segments (target : String) : List String :=
  match path target.toList with
  | '/' :: rest => (String.ofList rest).splitOn "/"
  | _ => []

end Grader.Api.Target
