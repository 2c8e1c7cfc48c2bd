import Grader.Json.Basic
import Grader.Text.Decimal
import Grader.Text.Quoted

/-! Writing JSON without gaps. Strings escape quotes, backslashes and the controls below
the space, and nothing else. -/
namespace Grader.Json

def escapeChar (c : Char) : List Char :=
  match c with
  | '"' => ['\\', '"']
  | '\\' => ['\\', '\\']
  | '\x08' => ['\\', 'b']
  | '\x0c' => ['\\', 'f']
  | '\n' => ['\\', 'n']
  | '\r' => ['\\', 'r']
  | '\t' => ['\\', 't']
  | c =>
    if c.toNat < 0x20 then
      ['\\', 'u', '0', '0', Text.hexDigit (c.toNat / 16), Text.hexDigit (c.toNat % 16)]
    else [c]

def printText (s : String) : List Char := '"' :: s.toList.flatMap escapeChar ++ ['"']

def printKey : Option String → List Char
  | some key => printText key
  | none => []

mutual

/-- The text of a complete value. A hole has no text, nor has a key without a meaning. -/
def print : Json → List Char
  | .null => "null".toList
  | .bool true => "true".toList
  | .bool false => "false".toList
  | .int n => Text.intDigits n
  | .decimal m e => Text.intDigits m ++ 'e' :: Text.intDigits e
  | .text s => printText s
  | .array items _ => '[' :: printItems items ++ [']']
  | .object members _ => '\x7b' :: printMembers members ++ ['\x7d']
  | .unreadable => []
  | .broken => []

def printItems : List Json → List Char
  | [] => []
  | [v] => print v
  | v :: w :: vs => print v ++ ',' :: printItems (w :: vs)

def printMembers : List (Option String × Json) → List Char
  | [] => []
  | [(key, v)] => printKey key ++ ':' :: print v
  | (key, v) :: m :: ms => printKey key ++ ':' :: print v ++ ',' :: printMembers (m :: ms)

end

def render (v : Json) : String := String.ofList (print v)

end Grader.Json
