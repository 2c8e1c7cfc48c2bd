/-! A finite table from keys to values. -/
namespace Grader

structure Table (κ α : Type) where
  entries : List (κ × α)
  deriving Repr

namespace Table

def empty : Table κ α := ⟨[]⟩

instance : Inhabited (Table κ α) := ⟨empty⟩

variable [BEq κ]

def get? (t : Table κ α) (key : κ) : Option α := t.entries.lookup key

/-- Puts a value in the place of the one under its key, or after all others. -/
def putEntry (key : κ) (a : α) : List (κ × α) → List (κ × α)
  | [] => [(key, a)]
  | (k, b) :: es => if key == k then (key, a) :: es else (k, b) :: putEntry key a es

def put (t : Table κ α) (key : κ) (a : α) : Table κ α := ⟨putEntry key a t.entries⟩

def ofList (es : List (κ × α)) : Table κ α := es.foldl (fun t e => t.put e.1 e.2) empty

/-- Changes the value under a key, which is `a` where there is none. -/
def update (t : Table κ α) (key : κ) (a : α) (f : α → α) : Table κ α :=
  t.put key (f ((t.get? key).getD a))

@[simp] theorem get?_empty (key : κ) : (empty : Table κ α).get? key = none := rfl

theorem lookup_putEntry [LawfulBEq κ] (key k : κ) (a : α) (es : List (κ × α)) :
    (putEntry key a es).lookup k = if k == key then some a else es.lookup k := by
  induction es with
  | nil => simp only [putEntry, List.lookup_cons, List.lookup_nil]; cases k == key <;> rfl
  | cons e es ih =>
    obtain ⟨l, b⟩ := e
    simp only [putEntry]
    split
    · rename_i h
      obtain rfl := eq_of_beq h
      simp only [List.lookup_cons]; cases k == key <;> rfl
    · rename_i h
      simp only [List.lookup_cons, ih]
      cases hl : k == l
      · rfl
      · obtain rfl := eq_of_beq hl
        have : (k == key) = false := by
          cases hk : k == key
          · rfl
          · exact absurd (by rw [eq_of_beq hk]; exact beq_self_eq_true key) h
        simp [this]

/-- What a table holds under a key after a value was put. -/
theorem get?_put [LawfulBEq κ] (t : Table κ α) (key k : κ) (a : α) :
    (t.put key a).get? k = if k == key then some a else t.get? k :=
  lookup_putEntry key k a t.entries

@[simp] theorem get?_put_same [LawfulBEq κ] (t : Table κ α) (key : κ) (a : α) :
    (t.put key a).get? key = some a := by simp [get?_put]

theorem get?_put_other [LawfulBEq κ] (t : Table κ α) {key k : κ} (h : k ≠ key) (a : α) :
    (t.put key a).get? k = t.get? k := by simp [get?_put, h]

end Grader.Table
