import Grader.Text.Blank

/-! The languages that have a sandbox, their names, and tables with an entry for each. -/
namespace Grader

inductive Language where
  | python
  | javascript
  | cpp
  | java
  deriving DecidableEq, Repr

namespace Language

def all : List Language := [.python, .javascript, .cpp, .java]

def name : Language → String
  | .python => "python"
  | .javascript => "javascript"
  | .cpp => "cpp"
  | .java => "java"

/-- Every name a user may write, in lower case. -/
def spellings : List (String × Language) :=
  [("python", .python), ("py", .python), ("javascript", .javascript), ("js", .javascript),
   ("cpp", .cpp), ("c++", .cpp), ("java", .java)]

/-- The language that a user names, in any case and with blanks around. Lower case is that of
ASCII: no spelling holds a character that is the lower case of one outside of ASCII. -/
def ofText? (text : String) : Option Language :=
  spellings.lookup (String.ofList ((Text.trim text.toList).map Char.toLower))

def variableSuffix : Language → String
  | .python => "PYTHON"
  | .javascript => "JAVASCRIPT"
  | .cpp => "CPP"
  | .java => "JAVA"

def names : List (String × Language) := all.map fun l => (l.name, l)

theorem mem_all (l : Language) : l ∈ all := by cases l <;> decide

end Language

structure PerLanguage (α : Type) where
  python : α
  javascript : α
  cpp : α
  java : α
  deriving DecidableEq, Repr

namespace PerLanguage

def const (a : α) : PerLanguage α := ⟨a, a, a, a⟩

def get (t : PerLanguage α) : Language → α
  | .python => t.python
  | .javascript => t.javascript
  | .cpp => t.cpp
  | .java => t.java

def set (t : PerLanguage α) (l : Language) (a : α) : PerLanguage α :=
  match l with
  | .python => { t with python := a }
  | .javascript => { t with javascript := a }
  | .cpp => { t with cpp := a }
  | .java => { t with java := a }

def ofFn (f : Language → α) : PerLanguage α := ⟨f .python, f .javascript, f .cpp, f .java⟩

def entries (t : PerLanguage (Option α)) : List (Language × α) :=
  Language.all.filterMap fun l => (t.get l).map (l, ·)

def ofEntries (es : List (Language × α)) : PerLanguage (Option α) :=
  es.foldl (fun t e => t.set e.1 (some e.2)) (const none)

theorem ofEntries_entries (t : PerLanguage (Option α)) : ofEntries t.entries = t := by
  obtain ⟨a, b, c, d⟩ := t
  cases a <;> cases b <;> cases c <;> cases d <;> rfl

end Grader.PerLanguage
