import Grader.Json.Numeral
import Grader.Text.Percent

/-! Reading JSON. Each reader answers with what it has read and with the rest of the text;
no rest means that the value breaks off and nothing is read after it. -/
namespace Grader.Json

def isGap (c : Char) : Bool := c = ' ' || c = '\t' || c = '\n' || c = '\r'

def skipGap (s : List Char) : List Char := s.dropWhile isGap

def escaped? : Char → Option Char
  | '"' => some '"'
  | '\\' => some '\\'
  | '/' => some '/'
  | 'b' => some '\x08'
  | 'f' => some '\x0c'
  | 'n' => some '\n'
  | 'r' => some '\r'
  | 't' => some '\t'
  | _ => none

def hexQuad? (a b c d : Char) : Option Nat := do
  let high ← Text.hexPair? a b
  let low ← Text.hexPair? c d
  pure (256 * high + low)

/-- The codes of a string up to its closing quote, and the text after it. An escape of four
digits gives one code of sixteen bits, any other character its code point. -/
def scanText : List Char → Option (List Nat × List Char)
  | [] => none
  | '"' :: s => some ([], s)
  | '\\' :: 'u' :: a :: b :: c :: d :: s =>
    match hexQuad? a b c d with
    | some code => (scanText s).map fun (codes, rest) => (code :: codes, rest)
    | none => none
  | '\\' :: e :: s =>
    match escaped? e with
    | some c => (scanText s).map fun (codes, rest) => (c.toNat :: codes, rest)
    | none => none
  | c :: s =>
    if c.toNat < 0x20 ∨ c = '\\' then none
    else (scanText s).map fun (codes, rest) => (c.toNat :: codes, rest)

def isHighHalf (code : Nat) : Bool := 0xD800 ≤ code && code ≤ 0xDBFF

def isLowHalf (code : Nat) : Bool := 0xDC00 ≤ code && code ≤ 0xDFFF

/-- Joins the halves of surrogate pairs. A half that stands alone is no character. -/
def joinHalves : List Nat → Option (List Char)
  | [] => some []
  | code :: codes =>
    if isHighHalf code then
      match codes with
      | low :: rest =>
        if isLowHalf low then
          (joinHalves rest).map
            (Char.ofNat (0x10000 + (code - 0xD800) * 0x400 + (low - 0xDC00)) :: ·)
        else none
      | [] => none
    else if isLowHalf code then none
    else (joinHalves codes).map (Char.ofNat code :: ·)

def readScalar : List Char → Json × Option (List Char)
  | 'n' :: 'u' :: 'l' :: 'l' :: s => (.null, some s)
  | 't' :: 'r' :: 'u' :: 'e' :: s => (.bool true, some s)
  | 'f' :: 'a' :: 'l' :: 's' :: 'e' :: s => (.bool false, some s)
  | '-' :: s => number (readNumber true s)
  | s => number (readNumber false s)
where
  number : Option (Json × List Char) → Json × Option (List Char)
    | some (v, rest) => (v, some rest)
    | none => (.broken, none)

def readString (s : List Char) : Option (Option String × List Char) :=
  (scanText s).map fun (codes, rest) => ((joinHalves codes).map String.ofList, rest)

mutual

def readValue : Nat → List Char → Json × Option (List Char)
  | 0, _ => (.broken, none)
  | fuel + 1, s =>
    match skipGap s with
    | '"' :: s =>
      match readString s with
      | some (some t, rest) => (.text t, some rest)
      | some (none, rest) => (.unreadable, some rest)
      | none => (.broken, none)
    | '[' :: s =>
      match skipGap s with
      | ']' :: rest => (.array [] true, some rest)
      | s =>
        let (items, rest) := readItems fuel s
        (.array items rest.isSome, rest)
    | '{' :: s =>
      match skipGap s with
      | '}' :: rest => (.object [] true, some rest)
      | s =>
        let (members, rest) := readMembers fuel s
        (.object members rest.isSome, rest)
    | s => readScalar s

def readItems : Nat → List Char → List Json × Option (List Char)
  | 0, _ => ([], none)
  | fuel + 1, s =>
    match readValue fuel s with
    | (v, none) => ([v], none)
    | (v, some s) =>
      match skipGap s with
      | ',' :: s =>
        let (vs, rest) := readItems fuel s
        (v :: vs, rest)
      | ']' :: rest => ([v], some rest)
      | _ => ([v], none)

/-- One member or more, up to the closing brace. A key without a colon has a hole for its value. -/
def readMembers : Nat → List Char → List (Option String × Json) × Option (List Char)
  | 0, _ => ([], none)
  | fuel + 1, s =>
    match skipGap s with
    | '"' :: s =>
      match readString s with
      | some (key, s) =>
        match skipGap s with
        | ':' :: s =>
          match readValue fuel s with
          | (v, none) => ([(key, v)], none)
          | (v, some s) =>
            match skipGap s with
            | ',' :: s =>
              let (members, rest) := readMembers fuel s
              ((key, v) :: members, rest)
            | '}' :: rest => ([(key, v)], some rest)
            | _ => ([(key, v)], none)
        | _ => ([(key, .broken)], none)
      | none => ([], none)
    | _ => ([], none)

end

/-- The value at the head of a text. Every step of the readers uses up a character for two of fuel. -/
def read (s : List Char) : Json × Option (List Char) := readValue (2 * s.length + 2) s

/-- The value of a text that holds one value and gaps around it; `false` where more follows. -/
def readAll (s : List Char) : Json × Bool :=
  match read s with
  | (v, some rest) => (v, (skipGap rest).isEmpty)
  | (v, none) => (v, true)

def parse? (s : String) : Option Json :=
  match read s.toList with
  | (v, some rest) => if (skipGap rest).isEmpty then some v else none
  | (_, none) => none

end Grader.Json
