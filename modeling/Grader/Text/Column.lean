/-! Columns of a printed table: a cell is filled with spaces up to the width of its column,
counted in characters, and a cell that is wider than its column stays whole. -/
namespace Grader.Text

def spaces (n : Nat) : String := String.ofList (List.replicate n ' ')

def alignLeft (width : Nat) (cell : String) : String := cell ++ spaces (width - cell.length)

def alignRight (width : Nat) (cell : String) : String := spaces (width - cell.length) ++ cell

def rule (width : Nat) : String := String.ofList (List.replicate width '-')

end Grader.Text
