import Grader.Engine.Http
import Grader.Proofs.Fields

/-! How a run behind HTTP ends. What the user answers for is told from what the sandbox answers for:
a unit has an output only if its deadline passed or a successful response says what became of it.
All other responses of success are malformed, and whatever else happens, the sandbox is not
available. -/
namespace Grader

open Json

theorem SandboxStatus.ofName?_eq_some_iff {text : String} {s : SandboxStatus} :
    ofName? text = some s ↔ text = s.name := by
  constructor
  · intro found
    obtain ⟨before, after, split, -⟩ := List.lookup_eq_some_iff.mp found
    have member : (text, s) ∈ names := split ▸ List.mem_append_right before List.mem_cons_self
    obtain ⟨t, -, same⟩ := List.mem_map.mp member
    obtain ⟨rfl, rfl⟩ := Prod.mk.inj same
    rfl
  · rintro rfl
    exact ofName?_name s

namespace SandboxResponse

/-- What the members of a document say about a run: its status once, and the rest once at most. -/
structure Told (members : List (Option String × Json)) (r : SandboxResponse) : Prop where
  output : valuesUnder ["output"] members = [.text r.output] ∨
    valuesUnder ["output"] members = [] ∧ r.output = ""
  executionTimeMs : valuesUnder ["execution_time_ms"] members = [.nat r.executionTimeMs.toNat] ∨
    valuesUnder ["execution_time_ms"] members = [] ∧ r.executionTimeMs = 0
  memoryUsedKb : valuesUnder ["memory_used_kb"] members = [.nat r.memoryUsedKb.toNat] ∨
    valuesUnder ["memory_used_kb"] members = [] ∧ r.memoryUsedKb = 0
  status : valuesUnder ["status"] members = [.text r.status]

theorem yields_iff {members : List (Option String × Json)} {sequence : Bool} {r : SandboxResponse} :
    fields.Yields members sequence r ↔ r.Told members := by
  simp only [fields, Fields.yields_apply, Fields.yields_pure, Fields.yields_defaulted,
    Fields.yields_required, Decoder.text_eq_ok_iff, Decoder.uint64_eq_ok_iff, exists_eq_right]
  constructor
  · rintro ⟨_, _, ⟨_, _, ⟨_, _, ⟨_, _, rfl, output, rfl⟩, time, rfl⟩, memory, rfl⟩, status, rfl⟩
    exact ⟨output, time, memory, status⟩
  · rintro ⟨output, time, memory, status⟩
    exact ⟨_, _, ⟨_, _, ⟨_, _, ⟨_, _, rfl, output, rfl⟩, time, rfl⟩, memory, rfl⟩, status, rfl⟩

/-- A text states a response if it is JSON throughout, a document whose keys are texts, and its
members tell the response. -/
def StatedBy (r : SandboxResponse) (body : String) : Prop :=
  ∃ v members sequence, parse? body = some v ∧ fields.Gives v members sequence ∧
    (∀ m ∈ members, m.1.isSome) ∧ r.Told members

theorem ofText_eq_ok_iff {body : String} {r : SandboxResponse} :
    fields.decode.ofText body = .ok r ↔ r.StatedBy body := by
  have nodup : (fields.slots.flatMap Slot.keys).Nodup := by decide
  simp only [Fields.ofText_decode_eq_ok_iff nodup, yields_iff, StatedBy]

theorem stated_unique {body : String} {r t : SandboxResponse} (first : r.StatedBy body)
    (second : t.StatedBy body) : r = t := by
  rw [← ofText_eq_ok_iff] at first second
  exact Except.ok.inj (first.symm.trans second)

end SandboxResponse

namespace PeerAnswer

/-- The head of a successful response has come. -/
def Succeeds : PeerAnswer → Prop
  | .complete status _ | .truncated status | .stalled status => 200 ≤ status ∧ status < 300
  | .unreachable _ | .silent => False

/-- The deadline passed before the head of a response, or within the body of a successful one. -/
def Late (a : PeerAnswer) : Prop := a = .silent ∨ ∃ status, a = .stalled status ∧ a.Succeeds

/-- A successful response came whole and says that a run ended with this output. -/
def Delivers (a : PeerAnswer) (o : ExecutionOutput) : Prop :=
  a.Succeeds ∧ ∃ status body, a = .complete status body ∧
    (SandboxResponse.mk o.output o.executionTimeMs o.memoryUsedKb o.status.name).StatedBy body

theorem delivers_complete_iff {status : Nat} {body : String} {o : ExecutionOutput} :
    (complete status body).Delivers o ↔ (complete status body).Succeeds ∧
      (SandboxResponse.mk o.output o.executionTimeMs o.memoryUsedKb o.status.name).StatedBy
        body := by
  refine and_congr_right fun _ => ⟨?_, fun stated => ⟨status, body, rfl, stated⟩⟩
  rintro ⟨_, _, same, stated⟩
  obtain ⟨rfl, rfl⟩ := PeerAnswer.complete.inj same
  exact stated

variable {a : PeerAnswer} {o p : ExecutionOutput}

theorem Delivers.unique (first : a.Delivers o) (second : a.Delivers p) : o = p := by
  obtain ⟨-, status, body, rfl, stated⟩ := first
  have also := (delivers_complete_iff.mp second).2
  have same := SandboxResponse.stated_unique stated also
  obtain ⟨output, executionTimeMs, memoryUsedKb, name⟩ := SandboxResponse.mk.inj same
  have status : p.status = o.status := by
    have known := SandboxStatus.ofName?_name o.status
    rw [name, SandboxStatus.ofName?_name] at known
    exact Option.some.inj known
  cases o
  cases p
  simp_all

theorem Late.not_delivers (late : a.Late) : ¬a.Delivers o := by
  rintro ⟨-, status, body, rfl, -⟩
  obtain silent | ⟨_, stalled, -⟩ := late <;> contradiction

theorem Late.silent_or_succeeds (late : a.Late) : a = .silent ∨ a.Succeeds :=
  late.imp_right fun ⟨_, _, succeeds⟩ => succeeds

end PeerAnswer

namespace HttpEngine

theorem isSuccess_iff {status : Nat} : isSuccess status = true ↔ 200 ≤ status ∧ status < 300 := by
  simp [isSuccess]

theorem ofResponse_eq_answered_iff {l : Language} {r : SandboxResponse} {o : ExecutionOutput} :
    ofResponse l r = .answered o ↔
      r = ⟨o.output, o.executionTimeMs, o.memoryUsedKb, o.status.name⟩ := by
  constructor
  · intro answered
    unfold ofResponse at answered
    split at answered
    · rename_i status found
      obtain rfl := CallEnd.answered.inj answered
      rw [← SandboxStatus.ofName?_eq_some_iff.mp found]
    · contradiction
  · rintro rfl
    simp only [ofResponse, SandboxStatus.ofName?_name]

/-- How a call may end, by what became of its request. -/
inductive Ends (u : ExecutionUnit) (a : PeerAnswer) : CallEnd → Prop where
  | late (late : a.Late) :
      Ends u a (.answered ⟨"time limit exceeded", u.timeLimitMs, 0, .timeLimitExceeded⟩)
  | delivered (o : ExecutionOutput) (delivers : a.Delivers o) : Ends u a (.answered o)
  /-- What comes with success but breaks off or says nothing of a run. -/
  | malformed (succeeds : a.Succeeds) (inTime : ¬a.Late) (nothing : ∀ o, ¬a.Delivers o)
      (reason : String) : Ends u a (.failed (.malformedResponse u.language reason))
  | unavailable (fails : ¬a.Succeeds) (heard : a ≠ .silent) (reason : String) :
      Ends u a (.failed (.unavailable u.language reason))

variable {u : ExecutionUnit} {a : PeerAnswer}

theorem ofAnswer_complete {status : Nat} {body : String}
    (succeeds : (PeerAnswer.complete status body).Succeeds) :
    Ends u (.complete status body) (ofAnswer u (.complete status body)) := by
  have inTime : ¬(PeerAnswer.complete status body).Late := by
    rintro (silent | ⟨_, stalled, -⟩) <;> contradiction
  have stated {o : ExecutionOutput} (delivers : (PeerAnswer.complete status body).Delivers o) :=
    SandboxResponse.ofText_eq_ok_iff.mpr (PeerAnswer.delivers_complete_iff.mp delivers).2
  simp only [ofAnswer, if_pos (isSuccess_iff.mpr succeeds)]
  cases decoded : SandboxResponse.fields.decode.ofText body with
  | error e =>
    refine .malformed succeeds inTime (fun o delivers => ?_) undecodable
    rw [stated delivers] at decoded
    contradiction
  | ok r =>
    cases known : SandboxStatus.ofName? r.status with
    | some s =>
      have same : r = ⟨r.output, r.executionTimeMs, r.memoryUsedKb, s.name⟩ := by
        rw [← SandboxStatus.ofName?_eq_some_iff.mp known]
      have ends : ofResponse u.language r =
          .answered ⟨r.output, r.executionTimeMs, r.memoryUsedKb, s⟩ :=
        ofResponse_eq_answered_iff.mpr same
      simp only [ends]
      refine .delivered _ (PeerAnswer.delivers_complete_iff.mpr ⟨succeeds, ?_⟩)
      exact same ▸ SandboxResponse.ofText_eq_ok_iff.mp decoded
    | none =>
      simp only [ofResponse, known]
      refine .malformed succeeds inTime (fun o delivers => ?_) _
      rw [stated delivers] at decoded
      rw [← Except.ok.inj decoded, SandboxStatus.ofName?_name] at known
      contradiction

theorem ofAnswer_ends (u : ExecutionUnit) (a : PeerAnswer) : Ends u a (ofAnswer u a) := by
  cases a with
  | unreachable reason =>
    have fails : ¬(PeerAnswer.unreachable reason).Succeeds := id
    exact .unavailable fails nofun reason
  | silent => exact .late (.inl rfl)
  | complete status body =>
    by_cases succeeds : (PeerAnswer.complete status body).Succeeds
    · exact ofAnswer_complete succeeds
    · rw [ofAnswer, if_neg (mt isSuccess_iff.mp succeeds)]
      exact .unavailable succeeds nofun _
  | truncated status =>
    by_cases succeeds : (PeerAnswer.truncated status).Succeeds
    · rw [ofAnswer, if_pos (isSuccess_iff.mpr succeeds)]
      refine .malformed succeeds ?_ ?_ undecodable
      · rintro (silent | ⟨_, stalled, -⟩) <;> contradiction
      · rintro o ⟨-, _, _, whole, -⟩
        contradiction
    · rw [ofAnswer, if_neg (mt isSuccess_iff.mp succeeds)]
      exact .unavailable succeeds nofun _
  | stalled status =>
    by_cases succeeds : (PeerAnswer.stalled status).Succeeds
    · rw [ofAnswer, if_pos (isSuccess_iff.mpr succeeds)]
      exact .late (.inr ⟨status, rfl, succeeds⟩)
    · rw [ofAnswer, if_neg (mt isSuccess_iff.mp succeeds)]
      exact .unavailable succeeds nofun _

namespace Ends

variable {result : CallEnd} (ends : Ends u a result)
include ends

theorem answered_iff {o : ExecutionOutput} :
    result = .answered o ↔ a.Late ∧
      o = ⟨"time limit exceeded", u.timeLimitMs, 0, .timeLimitExceeded⟩ ∨ a.Delivers o := by
  cases ends with
  | late late => simp [late, late.not_delivers, eq_comm]
  | delivered p delivers =>
    have inTime : ¬a.Late := fun late => late.not_delivers delivers
    simp only [inTime, false_and, false_or, CallEnd.answered.injEq]
    exact ⟨fun same => same ▸ delivers, delivers.unique⟩
  | malformed succeeds inTime nothing reason => simp [inTime, nothing]
  | unavailable fails heard reason =>
    have inTime : ¬a.Late := fun late => late.silent_or_succeeds.elim heard fails
    have nothing : ¬a.Delivers o := fun delivers => fails delivers.1
    simp [inTime, nothing]

theorem malformed_iff :
    (∃ reason, result = .failed (.malformedResponse u.language reason)) ↔
      a.Succeeds ∧ ¬a.Late ∧ ∀ o, ¬a.Delivers o := by
  cases ends with
  | late late => simp [late]
  | delivered o delivers =>
    refine iff_of_false nofun fun ⟨_, _, nothing⟩ => nothing o delivers
  | malformed succeeds inTime nothing reason => simp [succeeds, inTime, nothing]
  | unavailable fails heard reason => simp [fails]

theorem unavailable_iff :
    (∃ reason, result = .failed (.unavailable u.language reason)) ↔
      ¬a.Succeeds ∧ a ≠ .silent := by
  cases ends with
  | late late =>
    refine iff_of_false nofun fun ⟨fails, heard⟩ => late.silent_or_succeeds.elim heard fails
  | delivered o delivers => simp [delivers.1]
  | malformed succeeds inTime nothing reason => simp [succeeds]
  | unavailable fails heard reason => simp [fails, heard]

theorem delivers_of_success {o : ExecutionOutput} (answered : result = .answered o)
    (success : o.status = .success) : a.Delivers o := by
  rcases ends.answered_iff.mp answered with ⟨-, rfl⟩ | delivers
  · contradiction
  · exact delivers

end Ends

/-- A unit takes one request, where its language has an endpoint, and how the call ends is told by
what became of the request: with an output where the deadline passed or a successful response says
so, else malformed where a successful response has come, else not available. -/
theorem execute_separates_failures (e : HttpEngine) (peer : Peer) (u : ExecutionUnit) :
    match e.endpoints.get u.language with
    | none => e.execute peer u = ([], .failed (.unsupportedLanguage u.language))
    | some url =>
      let sent := request url u
      let a := peer sent
      ∃ result, e.execute peer u = ([sent], result) ∧
        (∀ o, result = .answered o ↔ a.Late ∧
          o = ⟨"time limit exceeded", u.timeLimitMs, 0, .timeLimitExceeded⟩ ∨ a.Delivers o) ∧
        ((∃ reason, result = .failed (.malformedResponse u.language reason)) ↔
          a.Succeeds ∧ ¬a.Late ∧ ∀ o, ¬a.Delivers o) ∧
        ((∃ reason, result = .failed (.unavailable u.language reason)) ↔
          ¬a.Succeeds ∧ a ≠ .silent) ∧
        ∀ o, result = .answered o → o.status = .success → a.Delivers o := by
  unfold execute
  cases e.endpoints.get u.language with
  | none => rfl
  | some url =>
    have ends := ofAnswer_ends u (peer (request url u))
    exact ⟨_, rfl, fun _ => ends.answered_iff, ends.malformed_iff, ends.unavailable_iff,
      fun _ => ends.delivers_of_success⟩

end HttpEngine

end Grader
