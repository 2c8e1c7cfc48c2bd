import Grader.Proofs.Documents
import Grader.Store.Memory
import Grader.Store.Server

/-! The store on a server and the store in memory are one store. Every document has a key of its own
on the server, and its text there holds what the other store keeps, so the two give the same answers
to the same calls. -/
namespace Grader

open Document

/-- Where a document is kept: its kind and its name among those of this kind. -/
inductive Place where
  | submission (id : Uuid)
  | problem (id : String)
  | cases (problemId : String)
  | record (userId : String)
  deriving DecidableEq, Repr

namespace Place

def key : Place → String
  | .submission id => Key.submission id
  | .problem id => Key.problem id
  | .cases problemId => Key.cases problemId
  | .record userId => Key.record userId

/-- The first letter of a kind in its keys, after the six characters that all keys start with. -/
def letter : Place → Char
  | .submission _ => 's'
  | .problem _ => 'p'
  | .cases _ => 't'
  | .record _ => 'r'

theorem key_letter (p : Place) : p.key.toList[6]? = some p.letter := by
  cases p <;> exact congrArg (·[6]?) String.toList_append

theorem key_injective : Function.Injective key := by
  intro p q same
  have letters : p.letter = q.letter := by
    have := congrArg (fun s : String => s.toList[6]?) same
    simpa only [key_letter, Option.some.injEq] using this
  cases p <;> cases q <;> simp only [letter, Char.reduceEq] at letters
  · exact congrArg _ (Uuid.text_injective (String.append_right_inj _ |>.mp same))
  · exact congrArg _ (String.append_right_inj _ |>.mp same)
  · exact congrArg _ (String.append_right_inj _ |>.mp same)
  · exact congrArg _ (String.append_right_inj _ |>.mp same)

end Place

inductive StoreCall where
  | submission? (id : Uuid)
  | saveSubmission (d : Submission)
  | problem? (id : String)
  | saveProblem (p : Problem)
  | cases (problemId : String)
  | saveCases (problemId : String) (cs : List TestCase)
  | record? (userId : String)
  | saveRecord (r : QuotaRecord)

inductive StoreAnswer where
  | saved
  | submission (found : Option Submission)
  | problem (found : Option Problem)
  | cases (found : List TestCase)
  | record (found : Option QuotaRecord)
  deriving DecidableEq

namespace StoreCall

/-- Makes the call, with the store as the call leaves it. -/
def run [DocumentStore σ] [RecordStore σ] (s : σ) : StoreCall → Except StoreError (StoreAnswer × σ)
  | .submission? id => (DocumentStore.submission? id s).map fun found => (.submission found, s)
  | .saveSubmission d => (DocumentStore.saveSubmission d s).map fun t => (.saved, t)
  | .problem? id => (DocumentStore.problem? id s).map fun found => (.problem found, s)
  | .saveProblem p => (DocumentStore.saveProblem p s).map fun t => (.saved, t)
  | .cases problemId => (DocumentStore.cases problemId s).map fun found => (.cases found, s)
  | .saveCases problemId cs => (DocumentStore.saveCases problemId cs s).map fun t => (.saved, t)
  | .record? userId => (RecordStore.record? userId s).map fun found => (.record found, s)
  | .saveRecord r => (RecordStore.saveRecord r s).map fun t => (.saved, t)

/-- The answers to calls made one after another. A call that fails leaves the store as it was. -/
def answers [DocumentStore σ] [RecordStore σ] (s : σ) :
    List StoreCall → List (Except StoreError StoreAnswer)
  | [] => []
  | c :: cs =>
    match c.run s with
    | .ok (a, t) => .ok a :: answers t cs
    | .error e => .error e :: answers s cs

def place : StoreCall → Place
  | .submission? id => .submission id
  | .saveSubmission d => .submission d.id
  | .problem? id => .problem id
  | .saveProblem p => .problem p.id
  | .cases problemId | .saveCases problemId _ => .cases problemId
  | .record? userId => .record userId
  | .saveRecord r => .record r.userId

/-- The times that are saved have years of four digits. -/
def Dated : StoreCall → Prop
  | .saveSubmission d => d.Dated
  | .saveRecord r => r.Dated
  | _ => True

end StoreCall

theorem Except.map_eq_ok {f : α → β} {x : Except ε α} {b : β} (mapped : x.map f = .ok b) :
    ∃ a, x = .ok a ∧ f a = b := by
  cases x with
  | error e => contradiction
  | ok a => exact ⟨a, rfl, Except.ok.inj mapped⟩

theorem Except.map_fst_map (x : Except ε α) (f : α → β) (s t : σ) :
    (x.map fun a => (f a, s)).map Prod.fst = (x.map fun a => (f a, t)).map Prod.fst := by
  cases x <;> rfl

namespace ServerStore

theorem get?_put_key (texts : Table String String) (p q : Place) (text : String) :
    (texts.put p.key text).get? q.key = if q = p then some text else texts.get? q.key := by
  rw [Table.get?_put]
  by_cases same : q = p
  · simp [same]
  · rw [if_neg same, if_neg (by simpa using fun keys => same (Place.key_injective keys))]

theorem write_put [Document α] (key : String) (a : α) (s : ServerStore) (p : Place) (text : String) :
    ((write key a { s with texts := s.texts.put p.key text }).map
        fun u => (StoreAnswer.saved, u)).map Prod.fst =
      ((write key a s).map fun u => (StoreAnswer.saved, u)).map Prod.fst := by
  unfold write
  cases s.refuses (.set key) <;> rfl

theorem write_eq_ok [Document α] {key : String} {a : α} {s t : ServerStore}
    (wrote : write key a s = .ok t) : t = { s with texts := s.texts.put key (text a) } := by
  unfold write at wrote
  split at wrote
  · contradiction
  · exact (Except.ok.inj wrote).symm

theorem read_put_other [Document α] (s : ServerStore) {p q : Place} (apart : q ≠ p)
    (text : String) :
    (read q.key { s with texts := s.texts.put p.key text } : Except StoreError (Option α)) =
      read q.key s := by
  simp only [read, get?_put_key, if_neg apart]

/-- A call leaves the server as it was but for the text under the key of its place. -/
theorem run_effect {s t : ServerStore} {c : StoreCall} {a : StoreAnswer}
    (ran : c.run s = .ok (a, t)) :
    t = s ∨ ∃ text, t = { s with texts := s.texts.put c.place.key text } := by
  cases c with
  | submission? | problem? | cases | record? =>
    left
    obtain ⟨found, -, same⟩ := Except.map_eq_ok ran
    exact (Prod.mk.inj same).2.symm
  | saveSubmission | saveProblem | saveCases | saveRecord =>
    right
    obtain ⟨u, wrote, same⟩ := Except.map_eq_ok ran
    obtain rfl := (Prod.mk.inj same).2
    exact ⟨_, (write_eq_ok wrote)⟩

/-- A call about one place never changes what a call about another one answers. -/
theorem run_apart {s t : ServerStore} {c d : StoreCall} {a : StoreAnswer}
    (ran : c.run s = .ok (a, t)) (apart : d.place ≠ c.place) :
    (d.run t).map Prod.fst = (d.run s).map Prod.fst := by
  rcases run_effect ran with rfl | ⟨text, rfl⟩
  · rfl
  cases d with
  | submission? id =>
    show Except.map _ (Except.map _ (read (StoreCall.submission? id).place.key _)) = _
    rw [read_put_other s apart]
    exact Except.map_fst_map ..
  | problem? id =>
    show Except.map _ (Except.map _ (read (StoreCall.problem? id).place.key _)) = _
    rw [read_put_other s apart]
    exact Except.map_fst_map ..
  | cases problemId =>
    show Except.map _ (Except.map _ (Except.map _ (read (StoreCall.cases problemId).place.key _))) = _
    rw [read_put_other s apart]
    exact Except.map_fst_map ..
  | record? userId =>
    show Except.map _ (Except.map _ (read (StoreCall.record? userId).place.key _)) = _
    rw [read_put_other s apart]
    exact Except.map_fst_map ..
  | saveSubmission d => exact write_put _ _ s c.place text
  | saveProblem p => exact write_put _ _ s c.place text
  | saveCases problemId cs => exact write_put _ _ s c.place text
  | saveRecord r => exact write_put _ _ s c.place text

end ServerStore

/-- A text holds the document that is kept, and there is none where none is kept. -/
def Shows [Document α] (text : Option String) (kept : Option α) : Prop :=
  text.map ofText? = kept.map some

theorem shows_text [Document α] {a : α} (holds : Holds (toJson a) a) :
    Shows (some (text a)) (some a) := congrArg some holds.ofText?_render

def Place.Shown (server : ServerStore) (memory : MemoryStore) (p : Place) : Prop :=
  let text := server.texts.get? p.key
  match p with
  | .submission id => Shows text (memory.submissions.get? id)
  | .problem id => Shows text (memory.problems.get? id)
  | .cases problemId => Shows text (memory.cases.get? problemId)
  | .record userId => Shows text (memory.records.get? userId)

/-- The server refuses nothing, memory fails in nothing, and both have the same documents. -/
structure Mirrors (server : ServerStore) (memory : MemoryStore) : Prop where
  admits (c : Command) : server.refuses c = false
  faultless (o : Operation) : memory.fault? o = none
  shown (p : Place) : p.Shown server memory

theorem mirrors_empty : Mirrors .empty .empty where
  admits _ := rfl
  faultless _ := rfl
  shown p := by cases p <;> rfl

namespace Mirrors

variable {server : ServerStore} {memory : MemoryStore}

theorem answer (mirrors : Mirrors server memory) (o : Operation) (a : α) :
    memory.answer o a = .ok a := by
  rw [MemoryStore.answer, mirrors.faultless o]

theorem read [Document α] (mirrors : Mirrors server memory) {p : Place} {kept : Option α}
    (shown : Shows (server.texts.get? p.key) kept) :
    ServerStore.read p.key server = .ok kept := by
  rw [ServerStore.read, mirrors.admits, if_neg Bool.false_ne_true]
  cases written : server.texts.get? p.key with
  | none =>
    rw [written] at shown
    cases kept with
    | none => rfl
    | some a => contradiction
  | some text =>
    rw [written] at shown
    cases kept with
    | none => contradiction
    | some a =>
      have decoded : ofText? text = some a := Option.some.inj shown
      simp only [decoded]

theorem write [Document α] (mirrors : Mirrors server memory) (key : String) (a : α) :
    ServerStore.write key a server = .ok { server with texts := server.texts.put key (text a) } := by
  rw [ServerStore.write, mirrors.admits, if_neg Bool.false_ne_true]

theorem saved [Document α] (mirrors : Mirrors server memory) (p : Place) {a : α}
    {memory' : MemoryStore} (faults : memory'.fault? = memory.fault?)
    (here : p.Shown { server with texts := server.texts.put p.key (text a) } memory')
    (others : ∀ q ≠ p, q.Shown server memory → q.Shown server memory') :
    Mirrors { server with texts := server.texts.put p.key (text a) } memory' where
  admits := mirrors.admits
  faultless o := by rw [faults, mirrors.faultless]
  shown q := by
    by_cases same : q = p
    · exact same ▸ here
    · have kept := others q same (mirrors.shown q)
      unfold Place.Shown at kept ⊢
      simp only [ServerStore.get?_put_key, if_neg same]
      exact kept

theorem saved_submission (mirrors : Mirrors server memory) {d : Submission} (dated : d.Dated) :
    Mirrors { server with texts := server.texts.put (Key.submission d.id) (text d) }
      { memory with
        submissions := memory.submissions.put d.id d
        journal := memory.journal ++ [(d.id, d.status)] } := by
  refine mirrors.saved (.submission d.id) rfl ?_ fun q other shown => ?_
  · simpa [Place.Shown] using shows_text (Submission.holds dated)
  · cases q with
    | submission id =>
      have differ : id ≠ d.id := fun same => other (congrArg _ same)
      simpa [Place.Shown, Table.get?_put_other _ differ] using shown
    | problem | cases | record => exact shown

theorem saved_problem (mirrors : Mirrors server memory) (p : Problem) :
    Mirrors { server with texts := server.texts.put (Key.problem p.id) (text p) }
      { memory with problems := memory.problems.put p.id p } := by
  refine mirrors.saved (.problem p.id) rfl ?_ fun q other shown => ?_
  · simpa [Place.Shown] using shows_text p.holds
  · cases q with
    | problem id =>
      have differ : id ≠ p.id := fun same => other (congrArg _ same)
      simpa [Place.Shown, Table.get?_put_other _ differ] using shown
    | submission | cases | record => exact shown

theorem saved_cases (mirrors : Mirrors server memory) (problemId : String) (cs : List TestCase) :
    Mirrors { server with texts := server.texts.put (Key.cases problemId) (text cs) }
      { memory with cases := memory.cases.put problemId cs } := by
  refine mirrors.saved (.cases problemId) rfl ?_ fun q other shown => ?_
  · simpa [Place.Shown] using shows_text (holds_list fun c _ => c.holds)
  · cases q with
    | cases id =>
      have differ : id ≠ problemId := fun same => other (congrArg _ same)
      simpa [Place.Shown, Table.get?_put_other _ differ] using shown
    | submission | problem | record => exact shown

theorem saved_record (mirrors : Mirrors server memory) {r : QuotaRecord} (dated : r.Dated) :
    Mirrors { server with texts := server.texts.put (Key.record r.userId) (text r) }
      { memory with records := memory.records.put r.userId r } := by
  refine mirrors.saved (.record r.userId) rfl ?_ fun q other shown => ?_
  · simpa [Place.Shown] using shows_text (QuotaRecord.holds dated)
  · cases q with
    | record id =>
      have differ : id ≠ r.userId := fun same => other (congrArg _ same)
      simpa [Place.Shown, Table.get?_put_other _ differ] using shown
    | submission | problem | cases => exact shown

theorem run (mirrors : Mirrors server memory) (c : StoreCall) (dated : c.Dated) :
    ∃ a server' memory', c.run server = .ok (a, server') ∧ c.run memory = .ok (a, memory') ∧
      Mirrors server' memory' := by
  cases c with
  | submission? id =>
    have shown := mirrors.read (mirrors.shown (.submission id))
    exact ⟨.submission _, server, memory, congrArg (Except.map _) shown,
      congrArg (Except.map _) (mirrors.answer ..), mirrors⟩
  | problem? id =>
    have shown := mirrors.read (mirrors.shown (.problem id))
    exact ⟨.problem _, server, memory, congrArg (Except.map _) shown,
      congrArg (Except.map _) (mirrors.answer ..), mirrors⟩
  | cases problemId =>
    have shown := mirrors.read (mirrors.shown (.cases problemId))
    exact ⟨.cases _, server, memory, congrArg (Except.map _) (congrArg (Except.map _) shown),
      congrArg (Except.map _) (mirrors.answer ..), mirrors⟩
  | record? userId =>
    have shown := mirrors.read (mirrors.shown (.record userId))
    exact ⟨.record _, server, memory, congrArg (Except.map _) shown,
      congrArg (Except.map _) (mirrors.answer ..), mirrors⟩
  | saveSubmission d =>
    exact ⟨.saved, _, _, congrArg (Except.map _) (mirrors.write ..),
      congrArg (Except.map _) (mirrors.answer ..), mirrors.saved_submission dated⟩
  | saveProblem p =>
    exact ⟨.saved, _, _, congrArg (Except.map _) (mirrors.write ..),
      congrArg (Except.map _) (mirrors.answer ..), mirrors.saved_problem p⟩
  | saveCases problemId cs =>
    exact ⟨.saved, _, _, congrArg (Except.map _) (mirrors.write ..),
      congrArg (Except.map _) (mirrors.answer ..), mirrors.saved_cases problemId cs⟩
  | saveRecord r =>
    exact ⟨.saved, _, _, congrArg (Except.map _) (mirrors.write ..),
      congrArg (Except.map _) (mirrors.answer ..), mirrors.saved_record dated⟩

/-- Calls get the same answers from both stores, and none of them fails. -/
theorem answers {calls : List StoreCall} (mirrors : Mirrors server memory)
    (dated : ∀ c ∈ calls, c.Dated) :
    ∃ found : List StoreAnswer, StoreCall.answers server calls = found.map .ok ∧
      StoreCall.answers memory calls = found.map .ok := by
  induction calls generalizing server memory with
  | nil => exact ⟨[], rfl, rfl⟩
  | cons c calls ih =>
    obtain ⟨a, server', memory', onServer, inMemory, after⟩ :=
      mirrors.run c (dated c List.mem_cons_self)
    obtain ⟨found, left, right⟩ := ih after fun d later => dated d (List.mem_cons_of_mem c later)
    refine ⟨a :: found, ?_, ?_⟩
    · simp only [StoreCall.answers, onServer, left, List.map_cons]
    · simp only [StoreCall.answers, inMemory, right, List.map_cons]

end Mirrors

/-- From empty stores on, the same calls get the same answers from a server and from memory, and none
fails, if the times that are saved have years of four digits. No two places share a key, so on a
server in any state a call about one place never changes what a call about another answers. -/
theorem backends_agree :
    (∀ calls : List StoreCall, (∀ c ∈ calls, c.Dated) →
      StoreCall.answers ServerStore.empty calls = StoreCall.answers MemoryStore.empty calls ∧
      ∀ a ∈ StoreCall.answers MemoryStore.empty calls, a.isOk = true) ∧
    Function.Injective Place.key ∧
    ∀ (s t : ServerStore) (c d : StoreCall) (a : StoreAnswer), c.run s = .ok (a, t) →
      d.place ≠ c.place → (d.run t).map Prod.fst = (d.run s).map Prod.fst := by
  refine ⟨fun calls dated => ?_, Place.key_injective, fun s t c d a => ServerStore.run_apart⟩
  obtain ⟨found, onServer, inMemory⟩ := mirrors_empty.answers dated
  refine ⟨onServer.trans inMemory.symm, fun a member => ?_⟩
  rw [inMemory] at member
  obtain ⟨b, -, rfl⟩ := List.mem_map.mp member
  rfl

def colonProblem : Problem :=
  ⟨"a:b", "A \"quoted\" title", 1000, 0, none, ⟨none, none, some "ints", none⟩⟩

def namelessRecord : QuotaRecord := ⟨"", "", false, [.new .aiHint 10 60 default], default, default⟩

theorem namelessRecord_dated : namelessRecord.Dated where
  quotas q member := by
    obtain rfl := List.mem_singleton.mp member
    exact ⟨show (default : Instant).FourDigitYear by decide,
      show (default : Instant).FourDigitYear by decide⟩
  createdAt := show (default : Instant).FourDigitYear by decide
  updatedAt := show (default : Instant).FourDigitYear by decide

/-- Saves and reads of names that are empty or hold colons. -/
def colonCalls : List StoreCall :=
  [.saveProblem colonProblem, .saveRecord namelessRecord, .problem? "a:b", .problem? "",
    .record? "", .record? "a:b", .saveProblem { colonProblem with title := "" }, .problem? "a:b"]

theorem colonCalls_answers :
    StoreCall.answers ServerStore.empty colonCalls =
      [.ok .saved, .ok .saved, .ok (.problem (some colonProblem)), .ok (.problem none),
        .ok (.record (some namelessRecord)), .ok (.record none), .ok .saved,
        .ok (.problem (some { colonProblem with title := "" }))] := by
  have dated : ∀ c ∈ colonCalls, c.Dated := by
    simp [colonCalls, StoreCall.Dated, namelessRecord_dated]
  exact (backends_agree.1 colonCalls dated).1.trans (by decide)

end Grader
