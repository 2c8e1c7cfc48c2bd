import Grader.Grading.Site

/-! The submissions of a site under their ids, and what a save makes of them. -/
namespace Grader

namespace Table

variable [BEq κ] [LawfulBEq κ]

/-- Every value stands under its own key. -/
def Keyed (key : α → κ) (t : Table κ α) : Prop := ∀ k a, t.get? k = some a → key a = k

theorem Keyed.put {key : α → κ} {t : Table κ α} (keyed : t.Keyed key) (a : α) :
    (t.put (key a) a).Keyed key := by
  intro k b found
  rw [get?_put] at found
  split at found
  · rename_i same
    obtain rfl := Option.some.inj found
    exact (eq_of_beq same).symm
  · exact keyed k b found

theorem keyed_ofList (key : α → κ) (as : List α) :
    (ofList (as.map fun a => (key a, a))).Keyed key := by
  have start : (empty : Table κ α).Keyed key := by
    intro k a found
    simp at found
  unfold ofList
  generalize (empty : Table κ α) = t at start
  induction as generalizing t with
  | nil => exact start
  | cons a as ih => exact ih _ (start.put a)

end Table

namespace Site

def stored? (s : Site) (id : Uuid) : Option Submission := s.store.submissions.get? id

def keep (s : Site) (d : Submission) : Site :=
  { s with store := { s.store with
      submissions := s.store.submissions.put d.id d
      journal := s.store.journal ++ [(d.id, d.status)] } }

@[simp] theorem stored?_keep_same (s : Site) (d : Submission) :
    (s.keep d).stored? d.id = some d := Table.get?_put_same _ _ _

theorem stored?_keep_other (s : Site) {d : Submission} {id : Uuid} (h : id ≠ d.id) :
    (s.keep d).stored? id = s.stored? id := Table.get?_put_other _ h _

theorem stored?_keep (s : Site) (d : Submission) (id : Uuid) :
    (s.keep d).stored? id = if id = d.id then some d else s.stored? id := by
  split
  · rename_i same
    rw [same, stored?_keep_same]
  · rename_i other
    exact stored?_keep_other s other

@[simp] theorem queue_keep (s : Site) (d : Submission) : (s.keep d).queue = s.queue := rfl

@[simp] theorem calls_keep (s : Site) (d : Submission) : (s.keep d).calls = s.calls := rfl

def Keyed (s : Site) : Prop := s.store.submissions.Keyed Submission.id

theorem Keyed.keep {s : Site} (keyed : s.Keyed) (d : Submission) : (s.keep d).Keyed :=
  Table.Keyed.put keyed d

def Saves (s : Site) : Prop := ∀ status, s.store.fault? (.saveSubmission status) = none

/-- A save stores the whole submission unless it fails. -/
theorem saveSubmission_of_free {s : Site} {d : Submission}
    (free : s.store.fault? (.saveSubmission d.status) = none) :
    s.saveSubmission d = .ok (s.keep d) := by
  simp [saveSubmission, DocumentStore.saveSubmission, MemoryStore.answer, free, Except.map, keep]

theorem saveSubmission_of_fault {s : Site} {d : Submission} {e : StoreError}
    (fault : s.store.fault? (.saveSubmission d.status) = some e) :
    s.saveSubmission d = .error e := by
  simp [saveSubmission, DocumentStore.saveSubmission, MemoryStore.answer, fault, Except.map]

theorem Saves.save {s : Site} (saves : s.Saves) (d : Submission) :
    s.saveSubmission d = .ok (s.keep d) := saveSubmission_of_free (saves d.status)

def Faultless (s : Site) : Prop := ∀ o, s.store.fault? o = none

theorem Faultless.saves {s : Site} (faultless : s.Faultless) : s.Saves := fun _ => faultless _

theorem Faultless.submission? {s : Site} (faultless : s.Faultless) (id : Uuid) :
    DocumentStore.submission? id s.store = .ok (s.stored? id) := by
  simp [DocumentStore.submission?, MemoryStore.answer, faultless .findSubmission, stored?]

theorem Faultless.problem? {s : Site} (faultless : s.Faultless) (id : String) :
    DocumentStore.problem? id s.store = .ok (s.store.problems.get? id) := by
  simp [DocumentStore.problem?, MemoryStore.answer, faultless .findProblem]

/-- A save either stores the whole submission or nothing. -/
theorem saveSubmission_cases (s : Site) (d : Submission) :
    s.saveSubmission d = .ok (s.keep d) ∨ ∃ e, s.saveSubmission d = .error e := by
  cases fault : s.store.fault? (.saveSubmission d.status) with
  | none => exact .inl (saveSubmission_of_free fault)
  | some e => exact .inr ⟨e, saveSubmission_of_fault fault⟩

/-- A submission that is loaded is the one stored. -/
theorem stored?_of_loaded {s : Site} {id : Uuid} {found : Option Submission}
    (loaded : DocumentStore.submission? id s.store = .ok found) : s.stored? id = found := by
  simp only [DocumentStore.submission?, MemoryStore.answer] at loaded
  split at loaded
  · contradiction
  · exact Except.ok.inj loaded

end Site

theorem MemoryStore.keyed_ofDocuments (submissions : List Submission) (problems : List Problem)
    (cases : List (String × List TestCase)) (records : List QuotaRecord) :
    (ofDocuments submissions problems cases records).submissions.Keyed Submission.id :=
  Table.keyed_ofList Submission.id submissions

end Grader
