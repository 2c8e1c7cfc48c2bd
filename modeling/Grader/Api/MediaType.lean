/-! Media types of bodies: a kind, a subtype that may end in a suffix after a plus, and parameters. -/
namespace Grader.Api.MediaType

def isToken (c : Char) : Bool :=
  c.isAlphanum || c = '!' || c = '#' || c = '$' || c = '%' || c = '&' || c = '\'' || c = '*' ||
    c = '+' || c = '-' || c = '.' || c = '^' || c = '_' || c = '\x60' || c = '|' || c = '~'

def isQuotable (c : Char) : Bool := 0x20 ≤ c.toNat && c.toNat ≠ 0x7F

/-- What follows a quoted value and the quote at its end, behind the quote at its start. The value
has at least one character, and its first may be a quote. -/
def afterQuoted : List Char → Option (List Char)
  | [] => none
  | c :: s =>
    match s.dropWhile fun d => d ≠ '"' && isQuotable d with
    | '"' :: rest => if isQuotable c then some rest else none
    | _ => none

/-- The text is a list of parameters, as it may follow a semicolon. Spaces may stand before a
parameter and behind a quoted value, and the list may be empty. -/
def areParameters : Nat → List Char → Bool
  | _, [] => true
  | 0, _ => false
  | fuel + 1, s =>
    let s := s.dropWhile (· = ' ')
    let name := s.takeWhile isToken
    match s.drop name.length with
    | [] => s.isEmpty
    | '=' :: '"' :: value =>
      match afterQuoted value with
      | none => false
      | some rest =>
        match rest.dropWhile (· = ' ') with
        | [] => !name.isEmpty
        | ';' :: rest => !name.isEmpty && areParameters fuel rest
        | _ => false
    | '=' :: s =>
      let value := s.takeWhile isToken
      match s.drop value.length with
      | [] => !name.isEmpty
      | ';' :: rest => !name.isEmpty && !value.isEmpty && areParameters fuel rest
      | _ => false
    | _ => false

/-- A subtype without its suffix, and the suffix behind the last plus. A plus at the start is a part
of the name. -/
def splitSuffix (subtype : List Char) : List Char × List Char :=
  let suffix := (subtype.reverse.takeWhile (· ≠ '+')).reverse
  let base := subtype.take (subtype.length - suffix.length - 1)
  if suffix.length < subtype.length ∧ base ≠ [] then (base, suffix) else (subtype, [])

def isJson (value : String) : Bool :=
  let s := value.toList.map Char.toLower
  let kind := s.takeWhile isToken
  match s.drop kind.length with
  | '/' :: rest =>
    let subtype := rest.takeWhile isToken
    let (base, suffix) := splitSuffix subtype
    let hasParameters := match rest.drop subtype.length with
      | [] => true
      | ';' :: s => areParameters s.length s
      | _ => false
    kind = "application".toList && (base = "json".toList || suffix = "json".toList) && hasParameters
  | _ => false

end Grader.Api.MediaType
