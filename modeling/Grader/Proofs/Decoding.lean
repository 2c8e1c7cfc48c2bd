import Grader.Document.Basic
import Grader.Proofs.Identifier
import Grader.Proofs.JsonText
import Grader.Proofs.Rfc3339

/-! Decoding what was encoded. A record whose keys differ is decoded field by field, whatever other
members it has, and the texts and numbers of documents are decoded to what they were written for. -/
namespace Grader.Json

namespace Decoder

theorem text_text (s : String) : text (.text s) = .ok s := rfl

theorem bool_bool (b : Bool) : bool (.bool b) = .ok b := rfl

theorem int_of_inRange {low high n : Int} (inRange : low ≤ n ∧ n ≤ high) :
    int low high (.int n) = .ok n := if_pos inRange

theorem uint32_toNat (n : UInt32) : uint32 (.nat n.toNat) = .ok n := by
  have below := n.toNat_lt
  have inRange : (0 : Int) ≤ n.toNat ∧ (n.toNat : Int) ≤ UInt32.size - 1 := by
    simp only [UInt32.size]
    omega
  rw [uint32, nat, int_of_inRange inRange]
  exact congrArg Except.ok UInt32.ofNat_toNat

theorem uint64_toNat (n : UInt64) : uint64 (.nat n.toNat) = .ok n := by
  have below := n.toNat_lt
  have inRange : (0 : Int) ≤ n.toNat ∧ (n.toNat : Int) ≤ UInt64.size - 1 := by
    simp only [UInt64.size]
    omega
  rw [uint64, nat, int_of_inRange inRange]
  exact congrArg Except.ok UInt64.ofNat_toNat

theorem int32_toInt (n : Int32) : int32 (.int n.toInt) = .ok n := by
  rw [int32, int_of_inRange ⟨n.minValue_le_toInt, n.toInt_le⟩]
  exact congrArg Except.ok n.ofInt_toInt

theorem int64_toInt (n : Int64) : int64 (.int n.toInt) = .ok n := by
  rw [int64, int_of_inRange ⟨n.minValue_le_toInt, n.toInt_le⟩]
  exact congrArg Except.ok n.ofInt_toInt

theorem oneOf_text {table : List (String × α)} {name : String} {a : α}
    (listed : table.lookup name = some a) : oneOf table (.text name) = .ok a := by
  simp [oneOf, oneOf.find, listed]

theorem language_name (l : Language) : language (.text l.name) = .ok l :=
  oneOf_text (by cases l <;> rfl)

theorem status_name (s : Status) : status (.text s.name) = .ok s := oneOf_text s.lookup_name

theorem service_name (s : Service) : service (.text s.name) = .ok s :=
  oneOf_text (Service.ofName?_name s)

theorem parsed_text {parse : String → Option α} {s : String} {a : α} (parses : parse s = some a) :
    parsed parse (.text s) = .ok a := by
  simp [parsed, text, parses, bind, Except.bind, pure, Except.pure]

theorem uuid_text (id : Uuid) : uuid (.text id.text) = .ok id := parsed_text id.ofText?_text

theorem instant_documentText {t : Instant} (year : t.FourDigitYear) :
    instant (.text t.documentText) = .ok t := parsed_text (Instant.ofText?_documentText year)

theorem list_map {d : Decoder α} {f : α → Json} {as : List α} (decodes : ∀ a ∈ as, d (f a) = .ok a) :
    list d (.list (as.map f)) = .ok as := by
  have items : (as.map f).mapM d = .ok as := by
    induction as with
    | nil => rfl
    | cons a as ih =>
      have rest := ih fun b member => decodes b (List.mem_cons_of_mem a member)
      simp [decodes a List.mem_cons_self, rest, bind, Except.bind, pure, Except.pure]
  simp [list, Json.list, items, bind, Except.bind, pure, Except.pure]

end Decoder

theorem legible_uint32 (n : UInt32) : Legible (.nat n.toNat) :=
  .int _ (n.toNat_lt.trans (by decide))

theorem legible_uint64 (n : UInt64) : Legible (.nat n.toNat) := .int _ n.toNat_lt

theorem legible_int32 (n : Int32) : Legible (.int n.toInt) := by
  have low := n.le_toInt
  have high := n.toInt_lt
  refine .int _ ?_
  simp only [UInt64.size]
  omega

theorem legible_int64 (n : Int64) : Legible (.int n.toInt) := by
  have low := n.le_toInt
  have high := n.toInt_lt
  refine .int _ ?_
  simp only [UInt64.size]
  omega

/-- The members of a record have some of the keys, in this order, and legible values. -/
structure Listed (keys : List String) (members : List (String × Json)) : Prop where
  sublist : (members.map Prod.fst).Sublist keys
  legible : ∀ m ∈ members, Legible m.2

theorem listed_field (key : String) {v : Json} (legible : Legible v) :
    Listed [key] (field key v) where
  sublist := List.Sublist.refl _
  legible m member := by
    rw [List.mem_singleton.mp member]
    exact legible

theorem listed_optionalField (key : String) (s : Option String) :
    Listed [key] (optionalField key s) := by
  cases s with
  | none => exact ⟨List.nil_sublist _, by simp [optionalField]⟩
  | some s => exact listed_field key (.text s)

theorem Listed.append {keys others : List String} {ms ns : List (String × Json)}
    (first : Listed keys ms) (second : Listed others ns) : Listed (keys ++ others) (ms ++ ns) where
  sublist := by
    rw [List.map_append]
    exact first.sublist.append second.sublist
  legible m member := (List.mem_append.mp member).elim (first.legible m) (second.legible m)

theorem Listed.legible_record {keys : List String} {members : List (String × Json)}
    (listed : Listed keys members) : Legible (.record members) := .record members listed.legible

/-- The source of a record's fields. -/
def sourceOf (members : List (String × Json)) : Source := ⟨(List.lookup · members), false⟩

theorem lookup_record (members : List (String × Json)) (key : String) :
    (members.map fun (key, v) => (some key, v)).lookup (some key) = members.lookup key := by
  induction members with
  | nil => rfl
  | cons m ms ih =>
    simp only [List.map_cons, List.lookup_cons, ih]
    rfl

theorem lookup_of_mem {members : List (String × Json)} (nodup : (members.map Prod.fst).Nodup)
    {m : String × Json} (member : m ∈ members) : members.lookup m.1 = some m.2 := by
  induction members with
  | nil => contradiction
  | cons n ms ih =>
    obtain ⟨other, nodup⟩ := List.nodup_cons.mp nodup
    rcases List.mem_cons.mp member with rfl | later
    · rw [List.lookup_cons, beq_self_eq_true]
    · have differ : m.1 ≠ n.1 := by
        rintro same
        exact other (same ▸ List.mem_map_of_mem later)
      rw [List.lookup_cons, beq_eq_false_iff_ne.mpr differ]
      exact ih nodup later

@[simp] theorem value?_field (key k : String) (v : Json) :
    (sourceOf (field key v)).value? k = if k == key then some v else none := by
  simp only [sourceOf, field, List.lookup_cons, List.lookup_nil]
  cases k == key <;> rfl

@[simp] theorem value?_optionalField (key k : String) (s : Option String) :
    (sourceOf (optionalField key s)).value? k = if k == key then s.map .text else none := by
  cases s with
  | none => simp [sourceOf, optionalField]
  | some s => exact value?_field key k (.text s)

@[simp] theorem value?_append (ms ns : List (String × Json)) (k : String) :
    (sourceOf (ms ++ ns)).value? k = ((sourceOf ms).value? k).or ((sourceOf ns).value? k) :=
  List.lookup_append

namespace Fields

/-- The fields take their values from a source, each under the one key that it has. -/
structure Reads (fields : Fields α) (source : Source) (a : α) : Prop where
  accepts : ∀ s ∈ fields.slots, ∃ key, s.keys = [key] ∧ ∀ v ∈ source.value? key, s.probe v = .ok ()
  builds : fields.build source = .ok a

variable {source : Source}

theorem reads_pure (a : α) : (pure a).Reads source a := ⟨by simp [pure], rfl⟩

theorem Reads.apply {f : Fields (α → β)} {g : Fields α} {h : α → β} {a : α}
    (function : f.Reads source h) (argument : g.Reads source a) :
    (f.apply g).Reads source (h a) where
  accepts s member := (List.mem_append.mp member).elim (function.accepts s) (argument.accepts s)
  builds := by simp [Fields.apply, function.builds, argument.builds, bind, Except.bind]

theorem reads_ofMissing {key : String} {d : Decoder α} {missing : Source → Except Fault α}
    {v : Json} {a : α} (there : source.value? key = some v) (decodes : d v = .ok a) :
    (ofMissing [key] d missing).Reads source a where
  accepts s member := by
    rw [List.mem_singleton.mp member]
    refine ⟨key, rfl, fun w found => ?_⟩
    obtain rfl := Option.some.inj (there.symm.trans found)
    simp [slot, decodes, Except.map]
  builds := by simp [ofMissing, there, decodes]

theorem reads_required {key : String} {d : Decoder α} {v : Json} {a : α} (decodes : d v = .ok a)
    (there : source.value? key = some v) : (required key d).Reads source a :=
  reads_ofMissing there decodes

theorem reads_defaulted {key : String} {d : Decoder α} {v : Json} {a value : α}
    (decodes : d v = .ok a) (there : source.value? key = some v) :
    (defaulted key d value).Reads source a :=
  reads_ofMissing there decodes

theorem reads_absent {key : String} (d : Decoder α) (a : α) (absent : source.value? key = none) :
    (defaulted key d a).Reads source a where
  accepts s member := by
    rw [List.mem_singleton.mp member]
    exact ⟨key, rfl, by simp [absent]⟩
  builds := by simp [defaulted, ofMissing, absent]

theorem reads_optional {key : String} {s : Option String}
    (written : source.value? key = s.map .text) : (optional key .text).Reads source s := by
  cases s with
  | none => exact reads_absent _ none written
  | some s => exact reads_ofMissing written rfl

/-- No member is told a fault of, if the keys differ and every field accepts its value. -/
theorem check_record (slots : List Slot) (seen : List (List String))
    {members : List (String × Json)} (nodup : (members.map Prod.fst).Nodup)
    (fresh : ∀ m ∈ members, [m.1] ∉ seen)
    (accepts : ∀ s ∈ slots, ∃ key, s.keys = [key] ∧ ∀ m ∈ members, m.1 = key → s.probe m.2 = .ok ()) :
    check slots seen (members.map fun (key, v) => (some key, v)) = .ok () := by
  induction members generalizing seen with
  | nil => rfl
  | cons m ms ih =>
    obtain ⟨other, nodup⟩ := List.nodup_cons.mp nodup
    have accepted : ∀ s ∈ slots, ∃ key, s.keys = [key] ∧ ∀ n ∈ ms, n.1 = key → s.probe n.2 = .ok () :=
      fun s member => (accepts s member).imp fun key ⟨keys, probes⟩ =>
        ⟨keys, fun n later => probes n (List.mem_cons_of_mem m later)⟩
    rw [List.map_cons, check]
    cases found : slots.find? (·.keys.contains m.1) with
    | none => exact ih seen nodup (fun n later => fresh n (List.mem_cons_of_mem m later)) accepted
    | some s =>
      obtain ⟨key, keys, probes⟩ := accepts s (List.mem_of_find?_eq_some found)
      have mine : m.1 = key := by simpa [keys] using List.find?_some found
      have unseen : s.keys ∉ seen := by
        rw [keys, ← mine]
        exact fresh m List.mem_cons_self
      have later : ∀ n ∈ ms, [n.1] ∉ s.keys :: seen := by
        intro n member
        have differ : n.1 ≠ m.1 := fun same => other (same ▸ List.mem_map_of_mem member)
        simpa [keys, ← mine, differ] using fresh n (List.mem_cons_of_mem m member)
      simp [unseen, probes m List.mem_cons_self mine, ih _ nodup later accepted, bind, Except.bind]

/-- A record whose keys differ is decoded to what its fields read. -/
theorem decode_record {fields : Fields α} {members : List (String × Json)} {a : α}
    (nodup : (members.map Prod.fst).Nodup) (reads : fields.Reads (sourceOf members) a) :
    fields.decode (.record members) = .ok a := by
  have checked := check_record fields.slots [] nodup (by simp) fun s member =>
    (reads.accepts s member).imp fun key ⟨keys, probes⟩ =>
      ⟨keys, fun m listed same => probes m.2 (same ▸ lookup_of_mem nodup listed)⟩
  have source : (⟨fun key => (members.map fun (key, v) => (some key, v)).lookup (some key), false⟩ :
      Source) = sourceOf members := by
    simp only [lookup_record, sourceOf]
  rw [Json.record, decode, checked, source]
  exact reads.builds

end Fields

end Grader.Json
