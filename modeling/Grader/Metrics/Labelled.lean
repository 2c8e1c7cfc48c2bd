import Grader.Store.Table
import Grader.Text.Fingerprint

/-! Values of one kind, each under the values of some labels. A child goes by the fingerprint of its
label values, written one after another, so values whose fingerprints agree are one child. It keeps
the label values that it was first met with. -/
namespace Grader

structure Labelled (α : Type) where
  children : Table UInt64 (List String × α)
  deriving Repr

namespace Labelled

def empty : Labelled α := ⟨.empty⟩

instance : Inhabited (Labelled α) := ⟨empty⟩

def key (values : List String) : UInt64 := Text.fingerprint (String.join values)

def get? (t : Labelled α) (values : List String) : Option α :=
  (t.children.get? (key values)).map (·.2)

/-- Changes the child of some label values, which is `a` where there is none. -/
def update (t : Labelled α) (values : List String) (a : α) (f : α → α) : Labelled α :=
  ⟨t.children.update (key values) (values, a) fun (first, b) => (first, f b)⟩

/-- The children with their label values. -/
def entries (t : Labelled α) : List (List String × α) := t.children.entries.map (·.2)

@[simp] theorem get?_update_same (t : Labelled α) (values : List String) (a : α) (f : α → α) :
    (t.update values a f).get? values = some (f ((t.get? values).getD a)) := by
  simp only [get?, update, Table.update, Table.get?_put_same]
  cases t.children.get? (key values) <;> rfl

theorem get?_update_other (t : Labelled α) {values others : List String}
    (h : key others ≠ key values) (a : α) (f : α → α) :
    (t.update values a f).get? others = t.get? others := by
  simp only [get?, update, Table.update, Table.get?_put_other _ h]

end Grader.Labelled
