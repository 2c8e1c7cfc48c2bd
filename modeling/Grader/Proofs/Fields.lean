import Grader.Proofs.Decoding

/-! Which texts hold a record. A text is decoded as a record exactly if it is JSON throughout, the
document gives at most one value to each field, and each field reads the value that it has. -/
namespace Grader

theorem Except.bind_eq_ok_iff {x : Except ε α} {f : α → Except ε β} {b : β} :
    x >>= f = .ok b ↔ ∃ a, x = .ok a ∧ f a = .ok b := by
  cases x with
  | error e => exact ⟨nofun, nofun⟩
  | ok a => exact ⟨fun ran => ⟨a, rfl, ran⟩, fun ⟨_, same, ran⟩ => Except.ok.inj same ▸ ran⟩

namespace Json

/-- The text breaks off within the value. -/
def IsOpen : Json → Prop
  | .broken | .array _ false | .object _ false => True
  | _ => False

theorem readScalar_isOpen {s : List Char} (breaks : (readScalar s).2 = none) :
    (readScalar s).1.IsOpen := by
  have number {read : Option (Json × List Char)} (breaks : (readScalar.number read).2 = none) :
      (readScalar.number read).1.IsOpen := by
    cases read with
    | none => trivial
    | some => contradiction
  unfold readScalar at breaks ⊢
  split at breaks <;> simp_all

theorem readValue_isOpen {fuel : Nat} {s : List Char} (breaks : (readValue fuel s).2 = none) :
    (readValue fuel s).1.IsOpen := by
  cases fuel with
  | zero => trivial
  | succ fuel =>
    revert breaks
    unfold readValue
    split
    · cases readString _ with
      | none => exact fun _ => trivial
      | some read =>
        obtain ⟨text?, rest⟩ := read
        intro breaks
        cases text? <;> contradiction
    · split
      · intro breaks
        contradiction
      · intro breaks
        simp only at breaks ⊢
        rw [breaks]
        trivial
    · split
      · intro breaks
        contradiction
      · intro breaks
        simp only at breaks ⊢
        rw [breaks]
        trivial
    · exact readScalar_isOpen

/-- A text that breaks off is no document for a decoder that wants the closing brackets. -/
theorem Decoder.ofText_eq_ok_iff {d : Decoder α} (closes : ∀ v a, v.IsOpen → d v ≠ .ok a)
    {s : String} {a : α} : d.ofText s = .ok a ↔ ∃ v, parse? s = some v ∧ d v = .ok a := by
  have decoded : d.ofText s = (d (readAll s.toList).1).bind fun a =>
    if (readAll s.toList).2 then .ok a else .error .malformed := rfl
  rw [decoded, parse?, readAll]
  cases ran : read s.toList with
  | mk v rest? =>
    cases rest? with
    | none =>
      have opened : v.IsOpen := by
        have opened := readValue_isOpen (congrArg Prod.snd ran)
        rwa [show readValue _ s.toList = (v, none) from ran] at opened
      refine iff_of_false ?_ (by simp)
      intro decoded
      cases read : d v with
      | error e =>
        rw [read] at decoded
        contradiction
      | ok b => exact closes v b opened read
    | some rest =>
      cases read : d v with
      | error e => simp [Except.bind, read]
      | ok b => by_cases ends : (skipGap rest).isEmpty <;> simp [Except.bind, ends, read]

def valuesUnder (keys : List String) (members : List (Option String × Json)) : List Json :=
  members.filterMap fun (key?, v) => if key?.any keys.contains then some v else none

variable {keys : List String} {members : List (Option String × Json)} {key : String} {v : Json}

theorem valuesUnder_cons_of_mem (listed : key ∈ keys) :
    valuesUnder keys ((some key, v) :: members) = v :: valuesUnder keys members := by
  simp [valuesUnder, listed]

theorem valuesUnder_cons_of_not_mem (unlisted : key ∉ keys) :
    valuesUnder keys ((some key, v) :: members) = valuesUnder keys members := by
  simp [valuesUnder, unlisted]

theorem lookup_eq_head? (key : String) (members : List (Option String × Json)) :
    members.lookup (some key) = (valuesUnder [key] members).head? := by
  induction members with
  | nil => rfl
  | cons m members ih =>
    obtain ⟨key?, v⟩ := m
    rw [List.lookup_cons]
    by_cases same : key? = some key
    · obtain rfl := same
      rw [valuesUnder_cons_of_mem List.mem_cons_self, beq_self_eq_true]
      rfl
    · have other : valuesUnder [key] ((key?, v) :: members) = valuesUnder [key] members := by
        cases key? with
        | none => rfl
        | some k =>
          refine valuesUnder_cons_of_not_mem fun listed => same ?_
          rw [List.mem_singleton.mp listed]
      rw [other, ← ih, beq_eq_false_iff_ne.mpr (Ne.symm same)]

/-- A field has no value, or the only one, of which it tells no fault. -/
def Slot.Takes (s : Slot) (seen : List (List String)) (values : List Json) : Prop :=
  values = [] ∨ s.keys ∉ seen ∧ ∃ v, values = [v] ∧ s.probe v = .ok ()

namespace Slot

variable {s t : Slot} {seen : List (List String)} {values : List Json}

theorem takes_cons :
    s.Takes seen (v :: values) ↔ s.keys ∉ seen ∧ s.probe v = .ok () ∧ values = [] := by
  constructor
  · rintro (empty | ⟨unseen, w, single, probes⟩)
    · contradiction
    · obtain ⟨rfl, rest⟩ := List.cons.inj single
      exact ⟨unseen, probes, rest⟩
  · rintro ⟨unseen, probes, rfl⟩
    exact .inr ⟨unseen, v, rfl, probes⟩

theorem takes_seen : s.Takes (s.keys :: seen) values ↔ values = [] := by
  simp [Takes]

theorem takes_seen_other (differ : t.keys ≠ s.keys) :
    t.Takes (s.keys :: seen) values ↔ t.Takes seen values := by
  simp [Takes, differ]

end Slot

namespace Fields

theorem find?_slot {slots : List Slot} (nodup : (slots.flatMap Slot.keys).Nodup) {s : Slot}
    (member : s ∈ slots) (listed : key ∈ s.keys) :
    slots.find? (·.keys.contains key) = some s := by
  induction slots with
  | nil => contradiction
  | cons t slots ih =>
    rw [List.flatMap_cons, List.nodup_append] at nodup
    obtain ⟨-, nodup, apart⟩ := nodup
    rcases List.mem_cons.mp member with rfl | later
    · exact List.find?_cons_of_pos (by simpa using listed)
    · have other : key ∉ t.keys := fun mine =>
        apart key mine key (List.mem_flatMap.mpr ⟨s, later, listed⟩) rfl
      rw [List.find?_cons_of_neg (by simpa using other)]
      exact ih nodup later

/-- No fault is told of members exactly if all their keys are texts and each field takes the values
that stand under its keys. -/
theorem check_eq_ok_iff {slots : List Slot} (nodup : (slots.flatMap Slot.keys).Nodup)
    (seen : List (List String)) (members : List (Option String × Json)) :
    check slots seen members = .ok () ↔
      (∀ m ∈ members, m.1.isSome) ∧ ∀ s ∈ slots, s.Takes seen (valuesUnder s.keys members) := by
  induction members generalizing seen with
  | nil => simp [check, valuesUnder, Slot.Takes]
  | cons m members ih =>
    obtain ⟨key?, v⟩ := m
    cases key? with
    | none => simp [check]
    | some key =>
      have named : (∀ m ∈ (some key, v) :: members, m.1.isSome) ↔ ∀ m ∈ members, m.1.isSome := by
        simp
      rw [check, named]
      cases found : slots.find? (·.keys.contains key) with
      | none =>
        have unlisted : ∀ s ∈ slots, key ∉ s.keys := by simpa using found
        rw [ih]
        refine and_congr_right fun _ => forall₂_congr fun s member => ?_
        rw [valuesUnder_cons_of_not_mem (unlisted s member)]
      | some s =>
        have member := List.mem_of_find?_eq_some found
        have listed : key ∈ s.keys := by simpa using List.find?_some found
        by_cases accepted : s.keys ∉ seen ∧ s.probe v = .ok ()
        · obtain ⟨unseen, probes⟩ := accepted
          have slots : ∀ t ∈ slots, t.Takes (s.keys :: seen) (valuesUnder t.keys members) ↔
              t.Takes seen (valuesUnder t.keys ((some key, v) :: members)) := by
            intro t also
            by_cases mine : key ∈ t.keys
            · obtain rfl := Option.some.inj (found.symm.trans (find?_slot nodup also mine))
              rw [Slot.takes_seen, valuesUnder_cons_of_mem mine, Slot.takes_cons]
              simp [unseen, probes]
            · have differ : t.keys ≠ s.keys := fun same => mine (same ▸ listed)
              rw [Slot.takes_seen_other differ, valuesUnder_cons_of_not_mem mine]
          simp only [List.contains_iff_mem, unseen, if_false, probes, bind, Except.bind]
          rw [ih]
          exact and_congr_right fun _ => forall₂_congr slots
        · refine iff_of_false (fun passed => accepted ?_) fun all => accepted ?_
          · simp only at passed
            split at passed
            · contradiction
            · rename_i unseen
              obtain ⟨⟨⟩, probed, -⟩ := Except.bind_eq_ok_iff.mp passed
              exact ⟨by simpa using unseen, probed⟩
          · have takes := all.2 s member
            rw [valuesUnder_cons_of_mem listed, Slot.takes_cons] at takes
            exact ⟨takes.1, takes.2.1⟩

/-- The members that a document gives to fields: those of an object, or the items of an array as the
values of the fields in their order. -/
inductive Gives (fields : Fields α) : Json → List (Option String × Json) → Bool → Prop where
  | object (members : List (Option String × Json)) :
      Gives fields (.object members true) members false
  | array (items : List Json) (fits : items.length ≤ fields.slots.length) :
      Gives fields (.array items true)
        ((fields.slots.map fun s => some (s.keys.headD "")).zip items) true

/-- What the fields make of members whose keys are texts. -/
structure Yields (fields : Fields α) (members : List (Option String × Json)) (sequence : Bool)
    (a : α) : Prop where
  takes : ∀ s ∈ fields.slots, s.Takes [] (valuesUnder s.keys members)
  builds : fields.build ⟨fun key => members.lookup (some key), sequence⟩ = .ok a

variable {fields : Fields α} {a : α} {sequence : Bool}

theorem decode_eq_ok_iff (nodup : (fields.slots.flatMap Slot.keys).Nodup) {v : Json} :
    fields.decode v = .ok a ↔ ∃ members sequence, fields.Gives v members sequence ∧
      (∀ m ∈ members, m.1.isSome) ∧ fields.Yields members sequence a := by
  have yields (members : List (Option String × Json)) (sequence : Bool) :
      (check fields.slots [] members = .ok () ∧
        fields.build ⟨fun key => members.lookup (some key), sequence⟩ = .ok a) ↔
      (∀ m ∈ members, m.1.isSome) ∧ fields.Yields members sequence a := by
    rw [check_eq_ok_iff nodup, and_assoc]
    exact and_congr_right fun _ => ⟨fun both => ⟨both.1, both.2⟩, fun both => ⟨both.1, both.2⟩⟩
  simp only [← yields]
  constructor
  · intro decoded
    cases v with
    | object members closed =>
      obtain ⟨⟨⟩, checked, built⟩ := Except.bind_eq_ok_iff.mp decoded
      cases closed with
      | false => contradiction
      | true => exact ⟨members, false, .object members, checked, built⟩
    | array items closed =>
      obtain ⟨⟨⟩, checked, built⟩ := Except.bind_eq_ok_iff.mp decoded
      split at built
      · rename_i whole
        obtain ⟨rfl, fits⟩ : closed = true ∧ items.length ≤ fields.slots.length := by
          simpa using whole
        exact ⟨_, true, .array items fits, checked, built⟩
      · contradiction
    | null | bool | int | decimal | text | unreadable | broken => contradiction
  · rintro ⟨members, sequence, gives, checked, built⟩
    cases gives with
    | object => exact Except.bind_eq_ok_iff.mpr ⟨(), checked, built⟩
    | array items fits =>
      refine Except.bind_eq_ok_iff.mpr ⟨(), checked, ?_⟩
      rw [if_pos (by simpa using fits)]
      exact built

/-- A text holds a record if it is a document whose members yield the record. -/
theorem ofText_decode_eq_ok_iff (nodup : (fields.slots.flatMap Slot.keys).Nodup) {s : String} :
    fields.decode.ofText s = .ok a ↔ ∃ v members sequence, parse? s = some v ∧
      fields.Gives v members sequence ∧ (∀ m ∈ members, m.1.isSome) ∧
      fields.Yields members sequence a := by
  have closes (v : Json) (a : α) (opened : v.IsOpen) : fields.decode v ≠ .ok a := by
    rw [Ne, decode_eq_ok_iff nodup]
    rintro ⟨members, sequence, gives, -⟩
    cases gives <;> exact opened
  rw [Decoder.ofText_eq_ok_iff closes]
  simp only [decode_eq_ok_iff nodup, exists_and_left]

theorem yields_pure {b : α} : (pure b).Yields members sequence a ↔ b = a :=
  ⟨fun yields => Except.ok.inj yields.builds, fun same => ⟨nofun, congrArg Except.ok same⟩⟩

theorem yields_apply {f : Fields (α → β)} {g : Fields α} {b : β} :
    (f.apply g).Yields members sequence b ↔
      ∃ h a, f.Yields members sequence h ∧ g.Yields members sequence a ∧ h a = b := by
  constructor
  · rintro ⟨takes, builds⟩
    obtain ⟨h, function, built⟩ := Except.bind_eq_ok_iff.mp builds
    obtain ⟨a, argument, same⟩ := Except.bind_eq_ok_iff.mp built
    exact ⟨h, a, ⟨fun s member => takes s (List.mem_append_left _ member), function⟩,
      ⟨fun s member => takes s (List.mem_append_right _ member), argument⟩, Except.ok.inj same⟩
  · rintro ⟨h, a, function, argument, same⟩
    refine ⟨fun s member => ?_, ?_⟩
    · exact (List.mem_append.mp member).elim (function.takes s) (argument.takes s)
    · exact Except.bind_eq_ok_iff.mpr ⟨h, function.builds,
        Except.bind_eq_ok_iff.mpr ⟨a, argument.builds, congrArg Except.ok same⟩⟩

theorem yields_ofMissing {d : Decoder α} {missing : Source → Except Fault α} :
    (ofMissing [key] d missing).Yields members sequence a ↔
      (∃ v, valuesUnder [key] members = [v] ∧ d v = .ok a) ∨
      valuesUnder [key] members = [] ∧
        missing ⟨fun key => members.lookup (some key), sequence⟩ = .ok a := by
  have build : (ofMissing [key] d missing).build ⟨fun key => members.lookup (some key), sequence⟩ =
      (valuesUnder [key] members).head?.elim
        (missing ⟨fun key => members.lookup (some key), sequence⟩) d := by
    simp only [ofMissing, List.findSome?_cons, List.findSome?_nil, lookup_eq_head?]
    cases (valuesUnder [key] members).head? <;> rfl
  constructor
  · rintro ⟨takes, builds⟩
    rw [build] at builds
    rcases takes _ List.mem_cons_self with absent | ⟨-, v, single, -⟩
    · have none : valuesUnder [key] members = [] := absent
      rw [none] at builds
      exact .inr ⟨none, builds⟩
    · have one : valuesUnder [key] members = [v] := single
      rw [one] at builds
      exact .inl ⟨v, one, builds⟩
  · have slot_only (takes : (slot [key] d).Takes [] (valuesUnder [key] members)) :
        ∀ s ∈ (ofMissing [key] d missing).slots, s.Takes [] (valuesUnder s.keys members) := by
      intro s member
      obtain rfl := List.mem_singleton.mp member
      exact takes
    rintro (⟨v, single, decodes⟩ | ⟨absent, built⟩)
    · refine ⟨slot_only (.inr ⟨List.not_mem_nil, v, single, ?_⟩), ?_⟩
      · simp [slot, decodes, Except.map]
      · rw [build, single]
        exact decodes
    · refine ⟨slot_only (.inl absent), ?_⟩
      rw [build, absent]
      exact built

theorem yields_required {d : Decoder α} :
    (required key d).Yields members sequence a ↔
      ∃ v, valuesUnder [key] members = [v] ∧ d v = .ok a := by
  simp [required, yields_ofMissing]

theorem yields_defaulted {d : Decoder α} {value : α} :
    (defaulted key d value).Yields members sequence a ↔
      (∃ v, valuesUnder [key] members = [v] ∧ d v = .ok a) ∨
      valuesUnder [key] members = [] ∧ a = value := by
  rw [defaulted, yields_ofMissing, Except.ok.injEq, @eq_comm _ value]

end Fields

namespace Decoder

theorem text_eq_ok_iff {v : Json} {s : String} : text v = .ok s ↔ v = .text s := by
  cases v <;> simp [text]

theorem uint64_eq_ok_iff {v : Json} {n : UInt64} : uint64 v = .ok n ↔ v = .nat n.toNat := by
  constructor
  · intro decoded
    obtain ⟨k, read, same⟩ := Except.bind_eq_ok_iff.mp decoded
    obtain rfl := Except.ok.inj same
    cases v with
    | int m =>
      obtain ⟨inRange, rfl⟩ : (0 ≤ m ∧ m ≤ (UInt64.size : Int) - 1) ∧ m = k := by
        simp only [int] at read
        split at read
        · exact ⟨by assumption, Except.ok.inj read⟩
        · contradiction
      have fits : m.toNat < UInt64.size := by omega
      rw [UInt64.toNat_ofNat_of_lt' fits, nat, Int.toNat_of_nonneg inRange.1]
    | _ => contradiction
  · rintro rfl
    exact uint64_toNat n

end Decoder

end Json

end Grader
