import Grader.Document.Problem
import Grader.Document.Quota
import Grader.Document.Submission
import Grader.Proofs.Decoding
import Mathlib.Data.List.Nodup

/-! Documents are read back from their texts. The one thing a document's text can lose is a time whose
year has more than four digits. -/
namespace Grader

open Json Json.Fields Json.Decoder

namespace Document

/-- The value can be read from its text, and the document is decoded from it. -/
structure Holds [Document α] (v : Json) (a : α) : Prop where
  legible : Legible v
  decodes : (decoder : Decoder α) v = .ok a

variable [Document α]

theorem Holds.ofText?_render {v : Json} {a : α} (holds : Holds v a) :
    ofText? (render v) = some a := by
  rw [ofText?, ofText_render holds.legible holds.decodes]
  rfl

theorem toJson_list (as : List α) : toJson as = .list (as.map toJson) := rfl

theorem holds_list {as : List α} (holds : ∀ a ∈ as, Holds (toJson a) a) :
    Holds (toJson as) as where
  legible := by
    refine .list _ fun v member => ?_
    obtain ⟨a, listed, rfl⟩ := List.mem_map.mp member
    exact (holds a listed).legible
  decodes := list_map fun a member => (holds a member).decodes

/-- A record holds a document if its keys differ and every field reads its own member. -/
theorem holds_record {a : α} (fields : Fields α) {keys : List String}
    {members : List (String × Json)} (decoder_eq : decoder = fields.decode)
    (listed : Listed keys members) (distinct : keys.Nodup)
    (reads : fields.Reads (sourceOf members) a) : Holds (.record members) a where
  legible := listed.legible_record
  decodes := by
    rw [decoder_eq]
    exact decode_record (distinct.sublist listed.sublist) reads

end Document

open Document

theorem TestCase.holds (c : TestCase) : Holds (toJson c) c :=
  holds_record TestCase.fields rfl
    ((listed_field _ (.text c.id))
      |>.append (listed_field _ (.text c.problemId))
      |>.append (listed_field _ (.text c.input))
      |>.append (listed_field _ (.text c.expected))
      |>.append (listed_field _ (.bool c.isSample))
      |>.append (listed_field _ (legible_uint32 c.points))
      |>.append (listed_field _ (legible_int32 c.sequence)))
    (by decide)
    ((reads_pure TestCase.mk)
      |>.apply (reads_required (text_text c.id) (by simp))
      |>.apply (reads_required (text_text c.problemId) (by simp))
      |>.apply (reads_required (text_text c.input) (by simp))
      |>.apply (reads_required (text_text c.expected) (by simp))
      |>.apply (reads_defaulted (bool_bool c.isSample) (by simp))
      |>.apply (reads_defaulted (uint32_toNat c.points) (by simp))
      |>.apply (reads_required (int32_toInt c.sequence) (by simp)))

namespace PerLanguage

theorem set_comm (t : PerLanguage α) {l m : Language} (differ : l ≠ m) (a b : α) :
    (t.set l a).set m b = (t.set m b).set l a := by
  cases l <;> cases m <;> first | rfl | exact absurd rfl differ

theorem entries_nodup (t : PerLanguage (Option α)) : (t.entries.map Prod.fst).Nodup := by
  obtain ⟨a, b, c, d⟩ := t
  cases a <;> cases b <;> cases c <;> cases d <;> simp [entries, Language.all, get]

/-- The order of entries for different languages does not matter. -/
theorem ofEntries_perm {es fs : List (Language × α)} (perm : es.Perm fs)
    (nodup : (fs.map Prod.fst).Nodup) : ofEntries es = ofEntries fs := by
  refine perm.foldl_eq' (fun e first f second t => ?_) _
  by_cases same : e.1 = f.1
  · rw [List.inj_on_of_nodup_map nodup (perm.subset first) (perm.subset second) same]
  · exact set_comm t same _ _

end PerLanguage

namespace Problem

def parsersListing : List (Language × String) → List (String × Json)
  | [] => []
  | e :: es => [("parsers", .record ((e :: es).map fun (l, s) => (l.name, .text s)))]

def jsonListing (p : Problem) (parsers : List (Language × String)) : Json := .record <|
  field "problem_id" (.text p.id) ++
  field "title" (.text p.title) ++
  field "time_limit_ms" (.nat p.timeLimitMs.toNat) ++
  field "memory_limit_mb" (.nat p.memoryLimitMb.toNat) ++
  optionalField "function_name" p.functionName ++
  parsersListing parsers

theorem toJson_eq_jsonListing (p : Problem) : toJson p = p.jsonListing p.parsers.entries := by
  show Json.record (_ ++ parsersField p.parsers) = Json.record (_ ++ parsersListing _)
  cases entries : p.parsers.entries <;> simp [parsersField, parsersListing, entries]

theorem entries_listing (es : List (Language × String)) :
    Decoder.entries (Language.names.lookup ·) Decoder.text
      (es.map fun e => (some e.1.name, Json.text e.2)) = .ok es := by
  induction es with
  | nil => rfl
  | cons e es ih =>
    have listed : Language.names.lookup e.1.name = some e.1 := by cases e.1 <;> rfl
    simp only [List.map_cons, Decoder.entries, listed, text_text, ih]
    rfl

theorem perLanguage_record (es : List (Language × String)) :
    perLanguage (.record (es.map fun (l, s) => (l.name, .text s))) = .ok (.ofEntries es) := by
  rw [perLanguage, Json.record, table, List.map_map]
  have read := entries_listing es
  simp only [Function.comp_def, read]
  rfl

theorem listed_parsers (es : List (Language × String)) :
    Listed ["parsers"] (parsersListing es) := by
  cases es with
  | nil => exact ⟨List.nil_sublist _, by simp [parsersListing]⟩
  | cons e es =>
    refine listed_field "parsers" (.record _ fun m member => ?_)
    obtain ⟨f, -, rfl⟩ := List.mem_map.mp member
    exact .text f.2

@[simp] theorem value?_parsersListing (es : List (Language × String)) {key : String}
    (differ : key ≠ "parsers") : (sourceOf (parsersListing es)).value? key = none := by
  cases es with
  | nil => rfl
  | cons e es =>
    rw [parsersListing, ← field, value?_field, if_neg (by simpa using differ)]

theorem reads_parsers {source : Source} {es : List (Language × String)}
    (written : source.value? "parsers" = (sourceOf (parsersListing es)).value? "parsers") :
    (defaulted "parsers" perLanguage (.const none)).Reads source (.ofEntries es) := by
  cases es with
  | nil => exact reads_absent _ _ written
  | cons e es => exact reads_defaulted (perLanguage_record (e :: es)) written

/-- A problem is held whatever the order of its parsers. -/
theorem holds_jsonListing (p : Problem) {es : List (Language × String)}
    (perm : es.Perm p.parsers.entries) : Holds (p.jsonListing es) p := by
  have parsers : PerLanguage.ofEntries es = p.parsers := by
    rw [PerLanguage.ofEntries_perm perm p.parsers.entries_nodup, PerLanguage.ofEntries_entries]
  refine holds_record Problem.fields rfl
    ((listed_field _ (.text p.id))
      |>.append (listed_field _ (.text p.title))
      |>.append (listed_field _ (legible_uint64 p.timeLimitMs))
      |>.append (listed_field _ (legible_uint64 p.memoryLimitMb))
      |>.append (listed_optionalField _ p.functionName)
      |>.append (listed_parsers es))
    (by decide)
    ((reads_pure Problem.mk)
      |>.apply (reads_required (text_text p.id) (by simp))
      |>.apply (reads_defaulted (text_text p.title) (by simp))
      |>.apply (reads_required (uint64_toNat p.timeLimitMs) (by simp))
      |>.apply (reads_defaulted (uint64_toNat p.memoryLimitMb) (by simp))
      |>.apply (reads_optional (by simp))
      |>.apply (parsers ▸ reads_parsers (by simp)))

theorem holds (p : Problem) : Holds (toJson p) p := by
  rw [toJson_eq_jsonListing]
  exact p.holds_jsonListing (.refl _)

end Problem

theorem Tally.listed (t : Tally) :
    Listed ["execution_time_ms", "memory_used_kb", "test_cases_passed", "test_cases_total"]
      t.members :=
  (listed_field _ (legible_uint64 t.executionTimeMs))
    |>.append (listed_field _ (legible_uint64 t.memoryUsedKb))
    |>.append (listed_field _ (legible_uint32 t.passed))
    |>.append (listed_field _ (legible_uint32 t.total))

theorem Tally.holds (t : Tally) : Holds (toJson t) t :=
  holds_record Tally.fields rfl t.listed (by decide)
    ((reads_pure Tally.mk)
      |>.apply (reads_required (uint64_toNat t.executionTimeMs) (by simp [members]))
      |>.apply (reads_required (uint64_toNat t.memoryUsedKb) (by simp [members]))
      |>.apply (reads_required (uint32_toNat t.passed) (by simp [members]))
      |>.apply (reads_required (uint32_toNat t.total) (by simp [members])))

theorem CaseResult.holds (r : CaseResult) : Holds (toJson r) r :=
  holds_record CaseResult.fields rfl
    ((listed_field _ (.text r.caseId))
      |>.append (listed_field _ (legible_int32 r.sequence))
      |>.append (listed_field _ (.text r.status.name))
      |>.append (listed_field _ (.text r.stdout))
      |>.append (listed_field _ (.text r.stderr))
      |>.append (listed_optionalField _ r.error)
      |>.append (listed_field _ (legible_uint64 r.executionTimeMs))
      |>.append (listed_field _ (legible_uint64 r.memoryUsedKb)))
    (by decide)
    ((reads_pure CaseResult.mk)
      |>.apply (reads_required (text_text r.caseId) (by simp))
      |>.apply (reads_required (int32_toInt r.sequence) (by simp))
      |>.apply (reads_required (status_name r.status) (by simp))
      |>.apply (reads_required (text_text r.stdout) (by simp))
      |>.apply (reads_required (text_text r.stderr) (by simp))
      |>.apply (reads_optional (by simp))
      |>.apply (reads_required (uint64_toNat r.executionTimeMs) (by simp))
      |>.apply (reads_required (uint64_toNat r.memoryUsedKb) (by simp)))

structure Submission.Dated (s : Submission) : Prop where
  submittedAt : s.submittedAt.FourDigitYear
  updatedAt : s.updatedAt.FourDigitYear

theorem Submission.holds {s : Submission} (dated : s.Dated) : Holds (toJson s) s := by
  have results : Holds (toJson s.results) s.results := holds_list fun r _ => r.holds
  refine holds_record Submission.fields rfl
    ((listed_field _ (.text s.id.text))
      |>.append (listed_field _ (.text s.userId))
      |>.append (listed_field _ (.text s.problemId))
      |>.append (listed_field _ (.text s.language.name))
      |>.append (listed_field _ (.text s.code))
      |>.append (listed_field _ (.text s.status.name))
      |>.append (listed_field _ results.legible)
      |>.append s.tally.listed
      |>.append (listed_field _ (.text s.submittedAt.documentText))
      |>.append (listed_field _ (.text s.updatedAt.documentText))
      |>.append (listed_optionalField _ s.timeComplexity)
      |>.append (listed_optionalField _ s.memoryComplexity)
      |>.append (listed_optionalField _ s.diagnostic))
    (by decide) ?_
  exact (reads_pure Submission.ofFields)
    |>.apply (reads_required (uuid_text s.id) (by simp))
    |>.apply (reads_required (text_text s.userId) (by simp))
    |>.apply (reads_required (text_text s.problemId) (by simp))
    |>.apply (reads_required (language_name s.language) (by simp))
    |>.apply (reads_required (text_text s.code) (by simp))
    |>.apply (reads_required (status_name s.status) (by simp))
    |>.apply (reads_defaulted results.decodes (by simp [toJson_list]))
    |>.apply (reads_required (uint64_toNat s.tally.executionTimeMs) (by simp [Tally.members]))
    |>.apply (reads_required (uint64_toNat s.tally.memoryUsedKb) (by simp [Tally.members]))
    |>.apply (reads_required (uint32_toNat s.tally.passed) (by simp [Tally.members]))
    |>.apply (reads_required (uint32_toNat s.tally.total) (by simp [Tally.members]))
    |>.apply (reads_required (instant_documentText dated.submittedAt) (by simp [Tally.members]))
    |>.apply (reads_required (instant_documentText dated.updatedAt) (by simp [Tally.members]))
    |>.apply (reads_optional (by simp [Tally.members]))
    |>.apply (reads_optional (by simp [Tally.members]))
    |>.apply (reads_optional (by simp [Tally.members]))

def Quota.Dated (q : Quota) : Prop :=
  q.startedAt.FourDigitYear ∧ q.lastRequestAt.FourDigitYear

theorem Quota.holds {q : Quota} (dated : q.Dated) : Holds (toJson q) q :=
  holds_record Quota.fields rfl
    ((listed_field _ (.text q.service.name))
      |>.append (listed_field _ (legible_uint32 q.maxRequests))
      |>.append (listed_field _ (legible_int64 q.windowMinutes))
      |>.append (listed_field _ (legible_uint32 q.count))
      |>.append (listed_field _ (.text q.startedAt.documentText))
      |>.append (listed_field _ (.text q.lastRequestAt.documentText)))
    (by decide)
    ((reads_pure Quota.mk)
      |>.apply (reads_required (service_name q.service) (by simp))
      |>.apply (reads_required (uint32_toNat q.maxRequests) (by simp))
      |>.apply (reads_required (int64_toInt q.windowMinutes) (by simp))
      |>.apply (reads_required (uint32_toNat q.count) (by simp))
      |>.apply (reads_required (instant_documentText dated.1) (by simp))
      |>.apply (reads_required (instant_documentText dated.2) (by simp)))

def Usage.Dated (u : Usage) : Prop := u.resetAt.FourDigitYear

theorem Usage.holds {u : Usage} (dated : u.Dated) : Holds (toJson u) u :=
  holds_record Usage.fields rfl
    ((listed_field _ (.text u.service.name))
      |>.append (listed_field _ (legible_uint32 u.remaining))
      |>.append (listed_field _ (.text u.resetAt.documentText))
      |>.append (listed_field _ (legible_uint32 u.limit)))
    (by decide)
    ((reads_pure Usage.mk)
      |>.apply (reads_required (service_name u.service) (by simp))
      |>.apply (reads_required (uint32_toNat u.remaining) (by simp))
      |>.apply (reads_required (instant_documentText dated) (by simp))
      |>.apply (reads_required (uint32_toNat u.limit) (by simp)))

/-- The times of a record and of its quotas have years of four digits. -/
structure QuotaRecord.Dated (r : QuotaRecord) : Prop where
  quotas : ∀ q ∈ r.quotas, q.Dated
  createdAt : r.createdAt.FourDigitYear
  updatedAt : r.updatedAt.FourDigitYear

theorem QuotaRecord.holds {r : QuotaRecord} (dated : r.Dated) : Holds (toJson r) r := by
  have quotas : Holds (toJson r.quotas) r.quotas :=
    holds_list fun q member => Quota.holds (dated.quotas q member)
  refine holds_record QuotaRecord.fields rfl
    ((listed_field _ (.text r.userId))
      |>.append (listed_field _ (.text r.username))
      |>.append (listed_field _ (.bool r.isAdmin))
      |>.append (listed_field _ quotas.legible)
      |>.append (listed_field _ (.text r.createdAt.documentText))
      |>.append (listed_field _ (.text r.updatedAt.documentText)))
    (by decide) ?_
  exact (reads_pure QuotaRecord.mk)
    |>.apply (reads_required (text_text r.userId) (by simp))
    |>.apply (reads_required (text_text r.username) (by simp))
    |>.apply (reads_required (bool_bool r.isAdmin) (by simp))
    |>.apply (reads_required quotas.decodes (by simp [toJson_list]))
    |>.apply (reads_required (instant_documentText dated.createdAt) (by simp))
    |>.apply (reads_required (instant_documentText dated.updatedAt) (by simp))

structure Document.RoundTrip (α : Type) [Document α] (InRange : α → Prop) : Prop where
  /-- A document is decoded from its own text. -/
  own (a : α) (inRange : InRange a) : ofText? (text a) = some a
  /-- The document of any text is decoded from its own text too, and written the same again. -/
  again (s : String) (a : α) (decoded : ofText? s = some a) (inRange : InRange a) :
    ofText? (text a) = some a ∧ ∀ b, ofText? (text a) = some b → b = a ∧ text b = text a

theorem Document.roundTrip_of_holds [Document α] {InRange : α → Prop}
    (holds : ∀ a, InRange a → Holds (toJson a) a) : RoundTrip α InRange where
  own a inRange := (holds a inRange).ofText?_render
  again s a _ inRange := by
    have own : ofText? (text a) = some a := (holds a inRange).ofText?_render
    refine ⟨own, fun b back => ?_⟩
    obtain rfl := Option.some.inj (own.symm.trans back)
    exact ⟨rfl, rfl⟩

/-- Every kind of documents keeps all of a document in its text, down to the nanoseconds of its times
if their years have four digits. A problem may list its parsers in any order. -/
theorem documents_roundTrip :
    RoundTrip Submission Submission.Dated ∧
    RoundTrip Problem (fun _ => True) ∧
    RoundTrip TestCase (fun _ => True) ∧
    RoundTrip CaseResult (fun _ => True) ∧
    RoundTrip Tally (fun _ => True) ∧
    RoundTrip Quota Quota.Dated ∧
    RoundTrip Usage Usage.Dated ∧
    RoundTrip QuotaRecord QuotaRecord.Dated ∧
    ∀ (p : Problem) (es : List (Language × String)), es.Perm p.parsers.entries →
      ofText? (render (p.jsonListing es)) = some p :=
  ⟨roundTrip_of_holds fun _ => Submission.holds, roundTrip_of_holds fun p _ => p.holds,
    roundTrip_of_holds fun c _ => c.holds, roundTrip_of_holds fun r _ => r.holds,
    roundTrip_of_holds fun t _ => t.holds, roundTrip_of_holds fun _ => Quota.holds,
    roundTrip_of_holds fun _ => Usage.holds, roundTrip_of_holds fun _ => QuotaRecord.holds,
    fun p _ perm => (p.holds_jsonListing perm).ofText?_render⟩

/-- A reset in the leap second at the end of 2016. -/
def leapUsage : Usage := ⟨.aiHint, 3, ⟨1483228799, 1999999999, by decide⟩, 10⟩

theorem leapUsage_roundTrip : leapUsage.Dated ∧ ofText? (text leapUsage) = some leapUsage :=
  have dated : leapUsage.resetAt.FourDigitYear := by decide
  ⟨dated, documents_roundTrip.2.2.2.2.2.2.1.own leapUsage dated⟩

end Grader
