import Grader.Json.Decoder
import Grader.Json.Printer
import Grader.Proofs.Digits

/-! Reading what was written as JSON. A value without a hole whose integers fit in 64 bits has a text
that reads back as the value, whatever follows the text that is no part of a numeral. -/
namespace Grader.Json

/-- A numeral that stands before the text is at its end. -/
structure EndsNumeral (s : List Char) : Prop where
  digits : Text.EndsDigits s
  fraction : ∀ c ∈ s.head?, c ≠ '.'
  power : ∀ c ∈ s.head?, c ≠ 'e' ∧ c ≠ 'E'

theorem endsNumeral_nil : EndsNumeral [] := ⟨Text.endsDigits_nil, by simp, by simp⟩

theorem EndsNumeral.readFraction {s : List Char} (ends : EndsNumeral s) :
    readFraction s = some (none, s) := by
  unfold Json.readFraction
  split
  · exact absurd rfl (ends.fraction '.' rfl)
  · rfl

theorem EndsNumeral.readPower {s : List Char} (ends : EndsNumeral s) :
    readPower s = some (none, s) := by
  cases s with
  | nil => rfl
  | cons c s =>
    obtain ⟨small, capital⟩ := ends.power c rfl
    simp [Json.readPower, small, capital]

theorem rounded_le (n : Nat) : rounded n ≤ 2 * n := by
  by_cases short : n.log2 ≤ 52
  · rw [rounded_of_short short]
    omega
  · have positive : n ≠ 0 := by
      rintro rfl
      exact short (by decide)
    have unit_le : 2 ^ (n.log2 - 52) ≤ n :=
      calc 2 ^ (n.log2 - 52) ≤ 2 ^ n.log2 := Nat.pow_le_pow_right (by decide) (Nat.sub_le ..)
        _ ≤ n := Nat.log2_self_le positive
    have floor_le : n / 2 ^ (n.log2 - 52) * 2 ^ (n.log2 - 52) ≤ n := Nat.div_mul_le_self ..
    simp only [rounded, Nat.pow_eq]
    split
    · omega
    · rw [Nat.add_mul]
      omega

theorem overflows_of_fits {n : Nat} (fits : n < UInt64.size) : overflows n 0 = false := by
  have bound : 2 * UInt64.size * 2 ≤ overflowBound := by decide +kernel
  have below := rounded_le n
  have one : rounded (Nat.pow 10 0) ≤ 2 * 1 := rounded_le 1
  have product : rounded n * rounded (Nat.pow 10 0) < overflowBound :=
    calc rounded n * rounded (Nat.pow 10 0) ≤ 2 * n * (2 * 1) := Nat.mul_le_mul below one
      _ < overflowBound := by omega
  unfold overflows
  split
  · rfl
  · simp only [Int.toNat_zero, maxPower]
    simpa using product

/-- All digits of a number that fits count, and it is an integer unless it is minus zero. -/
theorem numeral_digits {negative : Bool} {n : Nat} (fits : n < UInt64.size)
    (positive : negative = true → n ≠ 0) :
    numeral negative (Text.digits n) none none = .int (signed negative n) := by
  have value := Text.digitsValue_digits n
  have gathered : gather 0 (Text.digits n) = (n, (Text.digits n).length) := by
    have gathers := gather_of_fits 0 (Text.digits n) (by
      show Text.digitsValue (Text.digits n) < UInt64.size
      rw [value]
      exact fits)
    rw [gathers]
    exact congrArg (·, _) value
  have plain : ¬(negative = true ∧ n = 0) := fun ⟨minus, zero⟩ => positive minus zero
  simp [numeral, gathered, gather, overflows_of_fits fits, plain]

theorem readNumber_digits (negative : Bool) {n : Nat} (fits : n < UInt64.size)
    (positive : negative = true → n ≠ 0) {s : List Char} (ends : EndsNumeral s) :
    readNumber negative (Text.digits n ++ s) = some (.int (signed negative n), s) := by
  have spans := Text.spanDigits_append (fun c => Text.isDigit_of_mem_digits (n := n)) ends.digits
  unfold readNumber
  rw [spans]
  split
  · rename_i same
    exact absurd (Prod.mk.inj same).1 (Text.digits_ne_nil n)
  · rename_i c cs _ same
    have written := (Prod.mk.inj same).1
    by_cases zero : n = 0
    · subst zero
      rw [Text.digits, dif_pos (by decide)] at written
      cases written
    · exact absurd (congrArg List.head? written)
        (Text.head?_digits_ne_zero (Nat.pos_of_ne_zero zero))
  · rename_i same
    obtain ⟨rfl, rfl⟩ := Prod.mk.inj same
    simp [ends.readFraction, ends.readPower, numeral_digits fits positive]

theorem hexQuad?_of_control {n : Nat} (control : n < 0x20) :
    hexQuad? '0' '0' (Text.hexDigit (n / 16)) (Text.hexDigit (n % 16)) = some n := by
  have zero : Text.hexValue? '0' = some 0 := by decide
  simp only [hexQuad?, Text.hexPair?, zero, Text.hexValue?_hexDigit (show n / 16 < 16 by omega),
    Text.hexValue?_hexDigit (Nat.mod_lt n (show 0 < 16 by decide)), Option.bind_eq_bind,
    Option.bind_some, Option.pure_def]
  exact congrArg some (by omega)

/-- One character is read from what it was written with. -/
theorem scanText_escapeChar (c : Char) (s : List Char) :
    scanText (escapeChar c ++ s) =
      (scanText s).map fun (codes, rest) => (c.toNat :: codes, rest) := by
  unfold escapeChar
  split
  case h_8 =>
    split
    · rename_i control
      simp [scanText, hexQuad?_of_control control]
    · rename_i plain
      rw [List.singleton_append, scanText.eq_def]
      split <;> simp_all [Nat.not_lt_of_le]
  all_goals rfl

theorem scanText_flatMap (cs s : List Char) :
    scanText (cs.flatMap escapeChar ++ '"' :: s) = some (cs.map Char.toNat, s) := by
  induction cs with
  | nil => rfl
  | cons c cs ih =>
    rw [List.flatMap_cons, List.append_assoc, scanText_escapeChar, ih]
    rfl

/-- A character is no half of a surrogate pair. -/
theorem joinHalves_toNat (cs : List Char) : joinHalves (cs.map Char.toNat) = some cs := by
  induction cs with
  | nil => rfl
  | cons c cs ih =>
    have valid : c.toNat < 0xD800 ∨ 0xDFFF < c.toNat ∧ c.toNat < 0x110000 := c.valid
    have high : isHighHalf c.toNat = false := by
      simp only [isHighHalf, Bool.and_eq_false_iff, decide_eq_false_iff_not]
      omega
    have low : isLowHalf c.toNat = false := by
      simp only [isLowHalf, Bool.and_eq_false_iff, decide_eq_false_iff_not]
      omega
    rw [List.map_cons, joinHalves.eq_def]
    simp [high, low, ih, Char.ofNat_toNat]

theorem readString_printed (text : String) (s : List Char) :
    readString (text.toList.flatMap escapeChar ++ '"' :: s) = some (some text, s) := by
  simp [readString, scanText_flatMap, joinHalves_toNat]

/-- The values whose text can be read: they have no hole, and their integers fit in 64 bits. -/
inductive Legible : Json → Prop where
  | null : Legible .null
  | bool (b : Bool) : Legible (.bool b)
  | int (n : Int) (fits : n.natAbs < UInt64.size) : Legible (.int n)
  | text (s : String) : Legible (.text s)
  | list (items : List Json) (legible : ∀ v ∈ items, Legible v) : Legible (.list items)
  | record (members : List (String × Json)) (legible : ∀ m ∈ members, Legible m.2) :
      Legible (.record members)

/-- What a value starts with. -/
def Starts (c : Char) : Prop := isGap c = false ∧ c ≠ ']' ∧ c ≠ '\x7d'

/-- A numeral starts with a digit or a minus. -/
theorem intDigits_head (n : Int) :
    ∃ c s, Text.intDigits n = c :: s ∧ (Text.isDigit c = true ∨ c = '-') := by
  cases n with
  | ofNat n =>
    obtain ⟨c, s, written⟩ := List.exists_cons_of_ne_nil (Text.digits_ne_nil n)
    refine ⟨c, s, written, .inl ?_⟩
    exact Text.isDigit_of_mem_digits (by rw [written]; exact List.mem_cons_self)
  | negSucc n => exact ⟨'-', _, rfl, .inr rfl⟩

theorem not_gap_of_numeral {c : Char} (start : Text.isDigit c = true ∨ c = '-') :
    isGap c = false := by
  rcases start with digit | rfl
  · refine Bool.eq_false_iff.mpr fun gap => ?_
    simp only [isGap, Bool.or_eq_true, decide_eq_true_eq] at gap
    rcases gap with ((rfl | rfl) | rfl) | rfl <;> exact absurd digit (by decide)
  · decide

theorem ne_of_numeral {c d : Char} (start : Text.isDigit c = true ∨ c = '-')
    (mark : Text.isDigit d = false) (other : d ≠ '-') : c ≠ d := by
  rcases start with digit | rfl
  · exact Text.ne_of_isDigit digit mark
  · exact other.symm

theorem skipGap_cons {c : Char} (ink : isGap c = false) (s : List Char) :
    skipGap (c :: s) = c :: s := by simp [skipGap, ink]

theorem readScalar_intDigits {n : Int} (fits : n.natAbs < UInt64.size) {s : List Char}
    (ends : EndsNumeral s) : readScalar (Text.intDigits n ++ s) = (.int n, some s) := by
  cases n with
  | ofNat n =>
    have number := readNumber_digits false (n := n) fits (by simp) ends
    have digit {c : Char} {ds : List Char} (written : Text.digits n ++ s = c :: ds) :
        Text.isDigit c = true := by
      obtain ⟨d, es, first⟩ := List.exists_cons_of_ne_nil (Text.digits_ne_nil n)
      rw [first] at written
      rw [← (List.cons.inj written).1]
      exact Text.isDigit_of_mem_digits (by rw [first]; exact List.mem_cons_self)
    show readScalar (Text.digits n ++ s) = _
    unfold readScalar
    split
    · exact absurd (digit ‹_›) (by decide)
    · exact absurd (digit ‹_›) (by decide)
    · exact absurd (digit ‹_›) (by decide)
    · exact absurd (digit ‹_›) (by decide)
    · rw [number]
      rfl
  | negSucc n =>
    have number := readNumber_digits true (n := n + 1) fits (by simp) ends
    show readScalar.number (readNumber true (Text.digits (n + 1) ++ s)) = _
    rw [number]
    rfl

theorem readValue_numeral {c : Char} (start : Text.isDigit c = true ∨ c = '-') (fuel : Nat)
    (s : List Char) : readValue (fuel + 1) (c :: s) = readScalar (c :: s) := by
  rw [readValue, skipGap_cons (not_gap_of_numeral start)]
  split
  · exact absurd (List.cons.inj ‹_›).1 (ne_of_numeral start (by decide) (by decide))
  · exact absurd (List.cons.inj ‹_›).1 (ne_of_numeral start (by decide) (by decide))
  · exact absurd (List.cons.inj ‹_›).1 (ne_of_numeral start (by decide) (by decide))
  · rfl

theorem endsNumeral_comma (s : List Char) : EndsNumeral (',' :: s) :=
  ⟨Text.endsDigits_cons.mpr (by decide), by simp, by simp⟩

theorem endsNumeral_bracket (s : List Char) : EndsNumeral (']' :: s) :=
  ⟨Text.endsDigits_cons.mpr (by decide), by simp, by simp⟩

theorem endsNumeral_brace (s : List Char) : EndsNumeral ('\x7d' :: s) :=
  ⟨Text.endsDigits_cons.mpr (by decide), by simp, by simp⟩

/-- The value is read from its text, for which two of fuel are enough for each character. -/
structure Reads (v : Json) : Prop where
  starts : ∃ c s, print v = c :: s ∧ Starts c
  back (fuel : Nat) (s : List Char) (enough : 2 * (print v).length ≤ fuel + 1)
    (ends : EndsNumeral s) : readValue fuel (print v ++ s) = (v, some s)

theorem Reads.length_pos {v : Json} (reads : Reads v) : 0 < (print v).length := by
  obtain ⟨c, s, written, _⟩ := reads.starts
  rw [written]
  exact Nat.succ_pos _

theorem reads_null : Reads .null where
  starts := ⟨'n', _, rfl, by decide, by decide, by decide⟩
  back fuel s enough _ := by
    obtain ⟨fuel, rfl⟩ := Nat.exists_eq_add_one.mpr (show 0 < fuel by simp [print] at enough; omega)
    rfl

theorem reads_bool (b : Bool) : Reads (.bool b) where
  starts := by cases b <;> exact ⟨_, _, rfl, by decide, by decide, by decide⟩
  back fuel s enough _ := by
    cases b <;>
    · obtain ⟨fuel, rfl⟩ :=
        Nat.exists_eq_add_one.mpr (show 0 < fuel by simp [print] at enough; omega)
      rfl

theorem reads_int {n : Int} (fits : n.natAbs < UInt64.size) : Reads (.int n) := by
  obtain ⟨c, cs, written, start⟩ := intDigits_head n
  refine ⟨⟨c, cs, written, not_gap_of_numeral start, ne_of_numeral start (by decide) (by decide),
    ne_of_numeral start (by decide) (by decide)⟩, fun fuel s enough ends => ?_⟩
  have scalar := readScalar_intDigits fits ends
  rw [print, written, List.length_cons] at enough
  rw [written, List.cons_append] at scalar
  obtain ⟨fuel, rfl⟩ := Nat.exists_eq_add_one.mpr (show 0 < fuel by omega)
  rw [print, written, List.cons_append, readValue_numeral start, scalar]

theorem reads_text (text : String) : Reads (.text text) where
  starts := ⟨'"', _, rfl, by decide, by decide, by decide⟩
  back fuel s enough _ := by
    rw [print, printText, List.cons_append, List.length_cons] at enough
    obtain ⟨fuel, rfl⟩ := Nat.exists_eq_add_one.mpr (show 0 < fuel by omega)
    rw [print, printText, List.append_assoc, List.cons_append, readValue, skipGap_cons (by decide)]
    simp only [List.singleton_append, readString_printed]

theorem readItems_print {v : Json} {vs : List Json} (reads : ∀ w ∈ v :: vs, Reads w) (fuel : Nat)
    (s : List Char) (enough : 2 * (printItems (v :: vs)).length ≤ fuel) :
    readItems fuel (printItems (v :: vs) ++ ']' :: s) = (v :: vs, some s) := by
  have first := reads v List.mem_cons_self
  have positive := first.length_pos
  induction vs generalizing v fuel with
  | nil =>
    rw [printItems] at enough ⊢
    obtain ⟨fuel, rfl⟩ := Nat.exists_eq_add_one.mpr (show 0 < fuel by omega)
    rw [readItems, first.back fuel (']' :: s) (by omega) (endsNumeral_bracket s)]
    simp only [skipGap_cons (show isGap ']' = false by decide)]
  | cons w ws ih =>
    rw [printItems, List.length_append, List.length_cons] at enough
    obtain ⟨fuel, rfl⟩ := Nat.exists_eq_add_one.mpr (show 0 < fuel by omega)
    have later : ∀ x ∈ w :: ws, Reads x := fun x member => reads x (List.mem_cons_of_mem v member)
    have next := ih later fuel (by omega) (later w List.mem_cons_self)
      (later w List.mem_cons_self).length_pos
    rw [printItems, List.append_assoc, List.cons_append, readItems,
      first.back fuel _ (by omega) (endsNumeral_comma _)]
    simp only [skipGap_cons (show isGap ',' = false by decide), next]

theorem readMembers_last {v : Json} (reads : Reads v) (key : String) {fuel : Nat}
    (enough : 2 * (print v).length ≤ fuel + 1) (s : List Char) :
    readMembers (fuel + 1) (printText key ++ ':' :: print v ++ '\x7d' :: s) =
      ([(some key, v)], some s) := by
  simp only [printText, List.append_assoc, List.cons_append, List.nil_append, readMembers,
    skipGap_cons (show isGap '"' = false by decide), readString_printed,
    skipGap_cons (show isGap ':' = false by decide),
    reads.back fuel _ enough (endsNumeral_brace s),
    skipGap_cons (show isGap '\x7d' = false by decide)]

theorem readMembers_more {v : Json} (reads : Reads v) (key : String) {fuel : Nat}
    (enough : 2 * (print v).length ≤ fuel + 1) (s : List Char) :
    readMembers (fuel + 1) (printText key ++ ':' :: print v ++ ',' :: s) =
      ((some key, v) :: (readMembers fuel s).1, (readMembers fuel s).2) := by
  simp only [printText, List.append_assoc, List.cons_append, List.nil_append, readMembers,
    skipGap_cons (show isGap '"' = false by decide), readString_printed,
    skipGap_cons (show isGap ':' = false by decide),
    reads.back fuel _ enough (endsNumeral_comma s),
    skipGap_cons (show isGap ',' = false by decide)]

theorem readMembers_print {m : String × Json} {ms : List (String × Json)}
    (reads : ∀ n ∈ m :: ms, Reads n.2) (fuel : Nat) (s : List Char)
    (enough : 2 * (printMembers ((m :: ms).map fun n => (some n.1, n.2))).length ≤ fuel) :
    readMembers fuel (printMembers ((m :: ms).map fun n => (some n.1, n.2)) ++ '\x7d' :: s) =
      ((m :: ms).map fun n => (some n.1, n.2), some s) := by
  have first := reads m List.mem_cons_self
  induction ms generalizing m fuel with
  | nil =>
    simp only [List.map_cons, List.map_nil, printMembers, printKey, List.length_append,
      List.length_cons] at enough ⊢
    obtain ⟨fuel, rfl⟩ := Nat.exists_eq_add_one.mpr (show 0 < fuel by omega)
    exact readMembers_last first m.1 (by omega) s
  | cons n ns ih =>
    have later : ∀ k ∈ n :: ns, Reads k.2 := fun k member => reads k (List.mem_cons_of_mem m member)
    simp only [List.map_cons, printMembers, printKey, List.length_append,
      List.length_cons] at enough ih ⊢
    obtain ⟨fuel, rfl⟩ := Nat.exists_eq_add_one.mpr (show 0 < fuel by omega)
    have rest := ih later fuel (by omega) (later n List.mem_cons_self)
    rw [List.append_assoc, List.cons_append, readMembers_more first m.1 (by omega), rest]

theorem reads_list {vs : List Json} (reads : ∀ v ∈ vs, Reads v) : Reads (.list vs) where
  starts := ⟨'[', _, rfl, by decide, by decide, by decide⟩
  back fuel s enough _ := by
    simp only [list, print, List.length_append, List.length_cons, List.append_assoc,
      List.cons_append, List.nil_append] at enough ⊢
    obtain ⟨fuel, rfl⟩ := Nat.exists_eq_add_one.mpr (show 0 < fuel by omega)
    rw [readValue, skipGap_cons (by decide)]
    cases vs with
    | nil => rfl
    | cons v vs =>
      obtain ⟨c, cs, written, ink, open', _⟩ := (reads v List.mem_cons_self).starts
      have items := readItems_print reads fuel s (by omega)
      obtain ⟨ds, written⟩ : ∃ ds, printItems (v :: vs) = c :: ds := by
        cases vs <;> rw [printItems, written] <;> exact ⟨_, rfl⟩
      rw [written, List.cons_append] at items
      simp only [written, List.cons_append, skipGap_cons ink]
      split
      · exact absurd (List.cons.inj ‹_›).1 open'
      · simp only [items]
        rfl

theorem reads_record {members : List (String × Json)} (reads : ∀ m ∈ members, Reads m.2) :
    Reads (.record members) where
  starts := ⟨'\x7b', _, rfl, by decide, by decide, by decide⟩
  back fuel s enough _ := by
    simp only [record, print, List.length_append, List.length_cons, List.append_assoc,
      List.cons_append, List.nil_append] at enough ⊢
    obtain ⟨fuel, rfl⟩ := Nat.exists_eq_add_one.mpr (show 0 < fuel by omega)
    rw [readValue, skipGap_cons (by decide)]
    cases members with
    | nil => rfl
    | cons m ms =>
      have items := readMembers_print reads fuel s (by omega)
      obtain ⟨ds, written⟩ :
          ∃ ds, printMembers ((m :: ms).map fun n => (some n.1, n.2)) = '"' :: ds := by
        cases ms <;> exact ⟨_, rfl⟩
      rw [written, List.cons_append] at items
      simp only [written, List.cons_append, skipGap_cons (show isGap '"' = false by decide)]
      split
      · exact absurd (List.cons.inj ‹_›).1 (by decide)
      · simp only [items]
        rfl

/-- A legible value is read back from its text. -/
theorem Legible.reads {v : Json} (legible : Legible v) : Reads v := by
  induction legible with
  | null => exact reads_null
  | bool b => exact reads_bool b
  | int n fits => exact reads_int fits
  | text s => exact reads_text s
  | list items _ ih => exact reads_list ih
  | record members _ ih => exact reads_record ih

theorem readAll_print {v : Json} (legible : Legible v) : readAll (print v) = (v, true) := by
  have back := legible.reads.back (2 * (print v).length + 2) [] (by omega) endsNumeral_nil
  rw [List.append_nil] at back
  rw [readAll, read, back]
  rfl

/-- A document is decoded from the text of a legible value. -/
theorem Decoder.ofText_render {d : Decoder α} {v : Json} {a : α} (legible : Legible v)
    (decodes : d v = .ok a) : d.ofText (render v) = .ok a := by
  rw [Decoder.ofText, render, String.toList_ofList, readAll_print legible]
  simp [decodes, bind, Except.bind]

end Grader.Json
