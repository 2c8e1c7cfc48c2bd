import Grader.Text.Blank

/-! Line ends. A program may end its lines with LF, CR LF or CR; two outputs are compared
in the normal form that knows LF only and has no blanks around it. -/
namespace Grader.Text

/-- Writes every line end as LF. A CR that an LF follows ends a line together with it. -/
def foldLines : List Char → List Char
  | [] => []
  | '\r' :: '\n' :: s => '\n' :: foldLines s
  | '\r' :: s => '\n' :: foldLines s
  | c :: s => c :: foldLines s

def normal (s : List Char) : List Char := trim (foldLines s)

def normalized (s : String) : String := String.ofList (normal s.toList)

theorem foldLines_cons {c : Char} (h : c ≠ '\r') (s : List Char) :
    foldLines (c :: s) = c :: foldLines s := by
  rw [foldLines.eq_def]; split <;> simp_all

theorem foldLines_no_return (s : List Char) : '\r' ∉ foldLines s := by
  fun_induction foldLines s <;> simp_all [eq_comm]

theorem foldLines_eq_self {s : List Char} (h : '\r' ∉ s) : foldLines s = s := by
  induction s with
  | nil => rfl
  | cons c s ih =>
    simp only [List.mem_cons, not_or] at h
    rw [foldLines_cons (Ne.symm h.1), ih h.2]

/-- The lines of a text. An LF ends a line, a CR before it belongs to the end,
and an end at the very end opens no further line. -/
def lines (s : List Char) : List (List Char) :=
  let pieces := go s []
  match pieces.getLast? with
  | some [] => pieces.dropLast.map dropReturn
  | _ => (pieces.dropLast.map dropReturn) ++ pieces.getLast?.toList
where
  go : List Char → List Char → List (List Char)
    | [], line => [line.reverse]
    | '\n' :: s, line => line.reverse :: go s []
    | c :: s, line => go s (c :: line)
  dropReturn (line : List Char) : List Char :=
    if line.getLast? = some '\r' then line.dropLast else line

end Grader.Text
