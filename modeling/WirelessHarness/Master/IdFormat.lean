import WirelessHarness.Master.IdString

/-!
# The format of id strings

An id string starts with four pairs of hexadecimal digits, with at most one
`-` between a pair and the next one; what follows the last pair does not
matter.  `parseIdString` accepts exactly these strings, and the strings that
`formatDevId` prints are among them.
-/

namespace WirelessHarness

open CheckedRead

/-! ## The format -/

def UPPER_DIGITS : Bytes :=
  ['0', '1', '2', '3', '4', '5', '6', '7', '8', '9', 'A', 'B', 'C', 'D', 'E',
    'F'].map Char.toUInt8

def LOWER_DIGITS : Bytes :=
  ['0', '1', '2', '3', '4', '5', '6', '7', '8', '9', 'a', 'b', 'c', 'd', 'e',
    'f'].map Char.toUInt8

/-- The character stands for the digit, in either case. -/
def IsHexDigit (c digit : UInt8) : Prop :=
  UPPER_DIGITS[digit.toNat]? = some c ∨ LOWER_DIGITS[digit.toNat]? = some c

instance (c digit : UInt8) : Decidable (IsHexDigit c digit) :=
  inferInstanceAs (Decidable (_ ∨ _))

/-- Two digits, the high one first. -/
def IsPair (pair : Bytes) (value : UInt8) : Prop :=
  ∃ hi lo high low, pair = [hi, lo] ∧ IsHexDigit hi high ∧
    IsHexDigit lo low ∧ value.toNat = 16 * high.toNat + low.toNat

/-- The text starts with pairs of these values, each of which one `-` may
follow.  Behind the last pair anything may follow. -/
inductive StartsWith : List UInt8 → Bytes → Prop
  | done (text : Bytes) : StartsWith [] text
  | pair {pair dash text : Bytes} {value : UInt8} {values : List UInt8}
      (hpair : IsPair pair value) (hdash : dash = [] ∨ dash = [DASH])
      (hrest : StartsWith values text) :
      StartsWith (value :: values) (pair ++ dash ++ text)

/-- The characters that a C string shows: those before the first `NUL`. -/
def cString (id : Bytes) : Bytes :=
  id.takeWhile (· ≠ 0)

/-! ## Digits and pairs -/

theorem exists_eq_ofNat {c : UInt8} {first : ℕ} (count : ℕ)
    (hle : first ≤ c.toNat) (hlt : c.toNat < first + count) :
    ∃ k : Fin count, c = UInt8.ofNat (first + k) := by
  refine ⟨⟨c.toNat - first, by omega⟩, ?_⟩
  change c = UInt8.ofNat (first + (c.toNat - first))
  rw [Nat.add_sub_cancel' hle, UInt8.ofNat_toNat]

/-- Each of the three ranges is a part of a table. -/
theorem isHexDigit_of_hexDigit? {c digit : UInt8}
    (h : hexDigit? c = some digit) : IsHexDigit c digit := by
  simp only [hexDigit?, UInt8.le_iff_toNat_le] at h
  split at h
  next hrange =>
    obtain ⟨k, rfl⟩ := exists_eq_ofNat 10 hrange.1
      (Nat.lt_succ_of_le hrange.2)
    cases h
    revert k
    decide
  next =>
    split at h
    next hrange =>
      obtain ⟨k, rfl⟩ := exists_eq_ofNat 6 hrange.1
        (Nat.lt_succ_of_le hrange.2)
      cases h
      revert k
      decide
    next =>
      obtain ⟨hrange, heq⟩ := Option.ite_none_right_eq_some.mp h
      obtain ⟨k, rfl⟩ := exists_eq_ofNat 6 hrange.1
        (Nat.lt_succ_of_le hrange.2)
      cases heq
      revert k
      decide

theorem hexDigit?_of_table {table : Bytes} (hlen : table.length = 16)
    (hall : ∀ k : Fin 16, hexDigit? (table.getD k 0) = some (UInt8.ofNat k))
    {c digit : UInt8} (h : table[digit.toNat]? = some c) :
    hexDigit? c = some digit := by
  have hlt : digit.toNat < 16 := by
    rw [← hlen]
    exact (List.getElem?_eq_some_iff.mp h).1
  have hdigit := hall ⟨digit.toNat, hlt⟩
  rw [List.getD_eq_getElem?_getD, h, Option.getD_some,
    UInt8.ofNat_toNat] at hdigit
  exact hdigit

theorem hexDigit?_eq_some_iff {c digit : UInt8} :
    hexDigit? c = some digit ↔ IsHexDigit c digit := by
  constructor
  · exact isHexDigit_of_hexDigit?
  · rintro (hupper | hlower)
    · exact hexDigit?_of_table rfl (by decide) hupper
    · exact hexDigit?_of_table rfl (by decide) hlower

theorem IsHexDigit.lt {c digit : UInt8} (h : IsHexDigit c digit) :
    digit.toNat < 16 := by
  rcases h with h | h
  · exact (List.getElem?_eq_some_iff.mp h).1
  · exact (List.getElem?_eq_some_iff.mp h).1

theorem parsePair_succ_eq_some_iff {n : ℕ} {ptr : Bytes} {value : UInt8}
    {r : UInt8 × Bytes} :
    parsePair (n + 1) ptr value = .ok (some r) ↔
      ∃ c digit rest, ptr = c :: rest ∧ hexDigit? c = some digit ∧
        parsePair n rest ((value <<< 4) + digit) = .ok (some r) := by
  cases ptr with
  | nil => simp [parsePair, readAt]
  | cons c rest =>
      rw [parsePair, readAt_cons_zero, ok_bind]
      cases hdigit : hexDigit? c with
      | none => simp [hdigit]
      | some digit => simp [hdigit]

/-- Two digits in the accumulator. -/
theorem toNat_accumulate {high low : UInt8} (hhigh : high.toNat < 16)
    (hlow : low.toNat < 16) :
    ((((0 : UInt8) <<< 4) + high) <<< 4 + low).toNat =
      16 * high.toNat + low.toNat := by
  simp [UInt8.toNat_add, UInt8.toNat_shiftLeft, Nat.shiftLeft_eq]
  omega

theorem parsePair_two_eq_some_iff {ptr rest : Bytes} {value : UInt8} :
    parsePair 2 ptr 0 = .ok (some (value, rest)) ↔
      ∃ pair, IsPair pair value ∧ ptr = pair ++ rest := by
  constructor
  · intro h
    obtain ⟨hi, high, rest₁, rfl, hhi, h⟩ := parsePair_succ_eq_some_iff.mp h
    obtain ⟨lo, low, rest₂, rfl, hlo, h⟩ := parsePair_succ_eq_some_iff.mp h
    cases h
    rw [hexDigit?_eq_some_iff] at hhi hlo
    refine ⟨[hi, lo], ⟨hi, lo, high, low, rfl, hhi, hlo, ?_⟩, rfl⟩
    exact toNat_accumulate hhi.lt hlo.lt
  · rintro ⟨_, ⟨hi, lo, high, low, rfl, hhi, hlo, hvalue⟩, rfl⟩
    rw [← toNat_accumulate hhi.lt hlo.lt, UInt8.toNat_inj] at hvalue
    rw [← hexDigit?_eq_some_iff] at hhi hlo
    apply parsePair_succ_eq_some_iff.mpr
    refine ⟨hi, high, lo :: rest, rfl, hhi, ?_⟩
    apply parsePair_succ_eq_some_iff.mpr
    refine ⟨lo, low, rest, rfl, hlo, ?_⟩
    rw [hvalue]
    rfl

/-! ## The separator -/

/-- The pointer behind a pair steps over one `-`. -/
def skipDash : Bytes → Bytes
  | [] => []
  | c :: rest => if c = DASH then rest else c :: rest

theorem exists_dash (text : Bytes) :
    ∃ dash, (dash = [] ∨ dash = [DASH]) ∧ text = dash ++ skipDash text := by
  cases text with
  | nil => exact ⟨[], Or.inl rfl, rfl⟩
  | cons c rest =>
      by_cases hdash : c = DASH
      · refine ⟨[DASH], Or.inr rfl, ?_⟩
        rw [skipDash, if_pos hdash, hdash]
        rfl
      · refine ⟨[], Or.inl rfl, ?_⟩
        rw [skipDash, if_neg hdash]
        rfl

theorem skipDash_cons_append (c : UInt8) (rest beyond : Bytes) :
    skipDash (c :: rest ++ beyond) = skipDash (c :: rest) ++ beyond := by
  rw [List.cons_append, skipDash, skipDash]
  split
  · rfl
  · rfl

/-- A `NUL` is no `-`. -/
theorem skipDash_append_zero (text : Bytes) :
    skipDash (text ++ [0]) = skipDash text ++ [0] := by
  cases text with
  | nil => rfl
  | cons c rest => exact skipDash_cons_append c rest [0]

theorem skipDash_of_isPair {pair : Bytes} {value : UInt8}
    (h : IsPair pair value) (text : Bytes) :
    skipDash (pair ++ text) = pair ++ text := by
  obtain ⟨hi, lo, high, low, rfl, hhi, -⟩ := h
  have hne : hi ≠ DASH := by
    rintro rfl
    rw [← hexDigit?_eq_some_iff] at hhi
    cases hhi
  exact if_neg hne

/-- Only behind the last pair there can be a further `-`. -/
theorem StartsWith.skipDash {values : List UInt8} {text : Bytes}
    (h : StartsWith values text) :
    StartsWith values (WirelessHarness.skipDash text) := by
  cases h with
  | done text => exact .done _
  | pair hpair hdash hrest =>
      rw [List.append_assoc, skipDash_of_isPair hpair, ← List.append_assoc]
      exact .pair hpair hdash hrest

/-! ## One group -/

theorem parseGroups_succ_eq_true_iff {n : ℕ} {ptr : Bytes}
    {tar_id id : IdBytes} :
    parseGroups (n + 1) ptr tar_id = .ok (true, id) ↔
      ∃ value rest, parsePair 2 ptr 0 = .ok (some (value, rest)) ∧
        rest ≠ [] ∧
        parseGroups n (skipDash rest)
          (tar_id.setIfInBounds (3 - n) value) = .ok (true, id) := by
  constructor
  · intro h
    rw [parseGroups] at h
    obtain ⟨c, -, h⟩ := bind_eq_ok.mp h
    by_cases hc : c = 0
    · rw [if_pos hc] at h
      cases h
    · rw [if_neg hc] at h
      obtain ⟨r, hpair, h⟩ := bind_eq_ok.mp h
      rcases r with _ | ⟨value, rest⟩
      · cases h
      · refine ⟨value, rest, hpair, ?_⟩
        cases rest with
        | nil => cases h
        | cons c' rest => exact ⟨List.cons_ne_nil c' rest, h⟩
  · rintro ⟨value, rest, hpair, hne, h⟩
    obtain ⟨c', rest, rfl⟩ := List.exists_cons_of_ne_nil hne
    obtain ⟨pair, ⟨hi, lo, high, low, rfl, hhi, -⟩, rfl⟩ :=
      parsePair_two_eq_some_iff.mp hpair
    have hzero : hi ≠ 0 := by
      rintro rfl
      rw [← hexDigit?_eq_some_iff] at hhi
      cases hhi
    rw [parseGroups, List.cons_append, readAt_cons_zero, ok_bind,
      if_neg hzero, ← List.cons_append, hpair, ok_bind]
    exact h

/-! ## All groups -/

/-- The bytes written so far with the next one. -/
theorem take_setIfInBounds (tar_id : IdBytes) (value : UInt8) {n : ℕ}
    (hn : n < 4) :
    (tar_id.setIfInBounds (3 - n) value).toList.take (4 - n) =
      tar_id.toList.take (4 - (n + 1)) ++ [value] := by
  have hindex : 4 - n = (3 - n) + 1 := by omega
  have hlast : 4 - (n + 1) = 3 - n := by omega
  have hlt : 3 - n < (tar_id.toList.set (3 - n) value).length := by
    rw [List.length_set, Vector.length_toList]
    omega
  rw [hindex, hlast, Vector.toList_setIfInBounds,
    List.take_succ_eq_append_getElem hlt, List.getElem_set_self,
    List.take_set_of_le le_rfl]

/-- An accepted text starts with the groups written to the target. -/
theorem startsWith_of_parseGroups {n : ℕ} (hn : n ≤ 4) {text : Bytes}
    {tar_id id : IdBytes}
    (h : parseGroups n (text ++ [0]) tar_id = .ok (true, id)) :
    ∃ values, StartsWith values text ∧
      id.toList = tar_id.toList.take (4 - n) ++ values := by
  induction n generalizing text tar_id with
  | zero =>
      obtain ⟨c, -, h⟩ := bind_eq_ok.mp h
      cases h
      refine ⟨[], .done text, ?_⟩
      rw [List.append_nil, List.take_of_length_le Vector.length_toList.le]
  | succ n ih =>
      obtain ⟨value, rest, hread, -, h⟩ := parseGroups_succ_eq_true_iff.mp h
      obtain ⟨r, hread', hrest⟩ :=
        @parsePair_of_terminated 2 (text ++ [0]) 0 ⟨text, rfl⟩
      cases hread.symm.trans hread'
      obtain ⟨text', rfl⟩ := hrest value rest rfl
      obtain ⟨pair, hpair, heq⟩ := parsePair_two_eq_some_iff.mp hread
      rw [← List.append_assoc, List.append_left_inj] at heq
      rw [skipDash_append_zero] at h
      obtain ⟨values, hvalues, hid⟩ := ih (by omega) h
      obtain ⟨dash, hdash, htext'⟩ := exists_dash text'
      refine ⟨value :: values, ?_, ?_⟩
      · rw [heq, htext', ← List.append_assoc]
        exact .pair hpair hdash hvalues
      · rw [hid, take_setIfInBounds tar_id value (by omega),
          List.append_assoc, List.singleton_append]

/-- A text that starts with groups is accepted, and they are written. -/
theorem parseGroups_of_startsWith {values : List UInt8}
    (hle : values.length ≤ 4) {text : Bytes} (h : StartsWith values text)
    (tar_id : IdBytes) :
    ∃ id, parseGroups values.length (text ++ [0]) tar_id = .ok (true, id) ∧
      id.toList = tar_id.toList.take (4 - values.length) ++ values := by
  induction values generalizing text tar_id with
  | nil =>
      obtain ⟨c, hread, -⟩ := exists_readAt_of_terminated ⟨text, rfl⟩
      refine ⟨tar_id, ?_, ?_⟩
      · rw [List.length_nil, parseGroups, hread]
        rfl
      · rw [List.append_nil, List.take_of_length_le Vector.length_toList.le]
  | cons value values ih =>
      rw [List.length_cons] at hle
      cases h with
      | @pair pair dash text _ _ hpair hdash hrest =>
          have hskip : StartsWith values (skipDash (dash ++ text)) := by
            rcases hdash with rfl | rfl
            · exact hrest.skipDash
            · exact hrest
          obtain ⟨id, hparse, hid⟩ := ih (by omega) hskip
            (tar_id.setIfInBounds (3 - values.length) value)
          refine ⟨id, ?_, ?_⟩
          · rw [List.length_cons, parseGroups_succ_eq_true_iff]
            refine ⟨value, dash ++ text ++ [0], ?_, by simp, ?_⟩
            · apply parsePair_two_eq_some_iff.mpr
              exact ⟨pair, hpair, by simp only [List.append_assoc]⟩
            · rw [skipDash_append_zero]
              exact hparse
          · rw [hid, take_setIfInBounds tar_id value (by omega),
              List.append_assoc, List.singleton_append, List.length_cons]

theorem parseIdString_eq_true_iff {text : Bytes} {tar_id dev : IdBytes} :
    parseIdString text tar_id = .ok (true, dev) ↔
      StartsWith dev.toList text := by
  constructor
  · intro h
    obtain ⟨values, hvalues, hdev⟩ := startsWith_of_parseGroups le_rfl h
    rw [Nat.sub_self, List.take_zero, List.nil_append] at hdev
    rw [hdev]
    exact hvalues
  · intro h
    have hlen : dev.toList.length = 4 := Vector.length_toList
    obtain ⟨id, hparse, hid⟩ := parseGroups_of_startsWith hlen.le h tar_id
    rw [hlen] at hparse hid
    rw [Nat.sub_self, List.take_zero, List.nil_append,
      Vector.toList_inj] at hid
    rw [← hid]
    exact hparse

/-- The ids of the accepted strings. -/
theorem acceptedId?_eq_some_iff_startsWith {id : Bytes} {dev : IdBytes} :
    acceptedId? id = some dev ↔ StartsWith dev.toList id := by
  rw [← @parseIdString_eq_true_iff id (Vector.replicate 4 0)]
  unfold acceptedId?
  constructor
  · intro h
    split at h
    · cases h
      assumption
    · cases h
  · intro h
    rw [h]

/-- An accepted string overwrites the whole target, so what was in it does not
matter. -/
theorem acceptedId?_eq_some_iff {id : Bytes} {dev : IdBytes}
    (tar_id : IdBytes) :
    acceptedId? id = some dev ↔
      parseIdString id tar_id = .ok (true, dev) := by
  rw [acceptedId?_eq_some_iff_startsWith, parseIdString_eq_true_iff]

/-! ## The first `NUL` -/

theorem parsePair_append {n : ℕ} {ptr : Bytes} {value : UInt8}
    {r : Option (UInt8 × Bytes)} (h : parsePair n ptr value = .ok r)
    (beyond : Bytes) :
    parsePair n (ptr ++ beyond) value =
      .ok (r.map fun p => (p.1, p.2 ++ beyond)) := by
  induction n generalizing ptr value with
  | zero =>
      cases h
      rfl
  | succ n ih =>
      cases ptr with
      | nil => cases h
      | cons c ptr =>
          rw [parsePair, readAt_cons_zero, ok_bind] at h
          rw [parsePair, List.cons_append, readAt_cons_zero, ok_bind]
          cases hdigit : hexDigit? c with
          | none =>
              rw [hdigit] at h
              cases h
              rfl
          | some digit =>
              rw [hdigit] at h
              exact ih h

/-- Characters that a run does not need to read make no difference. -/
theorem parseGroups_append {n : ℕ} {ptr : Bytes} {tar_id : IdBytes}
    {r : Bool × IdBytes} (h : parseGroups n ptr tar_id = .ok r)
    (beyond : Bytes) : parseGroups n (ptr ++ beyond) tar_id = .ok r := by
  induction n generalizing ptr tar_id with
  | zero =>
      cases ptr with
      | nil => cases h
      | cons c ptr => exact h
  | succ n ih =>
      cases ptr with
      | nil => cases h
      | cons c ptr =>
          rw [parseGroups, readAt_cons_zero, ok_bind] at h
          rw [parseGroups, List.cons_append, readAt_cons_zero, ok_bind]
          by_cases hzero : c = 0
          · rw [if_pos hzero] at h ⊢
            exact h
          · rw [if_neg hzero] at h ⊢
            obtain ⟨pair, hpair, h⟩ := bind_eq_ok.mp h
            rw [← List.cons_append, parsePair_append hpair beyond, ok_bind]
            rcases pair with _ | ⟨value, rest⟩
            · exact h
            · cases rest with
              | nil => cases h
              | cons c' rest =>
                  have hrest : parseGroups n (skipDash (c' :: rest) ++ beyond)
                      (tar_id.setIfInBounds (3 - n) value) = .ok r := ih h
                  rw [← skipDash_cons_append] at hrest
                  exact hrest

/-- In memory the `NUL` of `c_str()` may stand behind others. -/
theorem exists_append_cString (id : Bytes) :
    ∃ beyond, id ++ [0] = cString id ++ [0] ++ beyond := by
  induction id with
  | nil => exact ⟨[], rfl⟩
  | cons c id ih =>
      by_cases hzero : c = 0
      · refine ⟨id ++ [0], ?_⟩
        simp [cString, hzero]
      · obtain ⟨beyond, hbeyond⟩ := ih
        refine ⟨beyond, ?_⟩
        rw [cString, List.takeWhile_cons_of_pos (by simpa using hzero)]
        exact congrArg (c :: ·) hbeyond

/-- Only the characters up to the first `NUL` are read. -/
theorem parseIdString_eq_of_cString {id : Bytes} {tar_id : IdBytes}
    {r : Bool × IdBytes} (h : parseIdString (cString id) tar_id = .ok r) :
    parseIdString id tar_id = .ok r := by
  obtain ⟨beyond, hbeyond⟩ := exists_append_cString id
  rw [parseIdString, hbeyond]
  exact parseGroups_append h beyond

/-! ## Printed ids -/

theorem isHexDigit_hexChar {digit : UInt8} (h : digit.toNat < 16) :
    IsHexDigit (hexChar digit) digit := by
  have hall : ∀ k : Fin 16,
      IsHexDigit (hexChar (UInt8.ofNat k)) (UInt8.ofNat k) := by
    decide
  have hdigit := hall ⟨digit.toNat, h⟩
  rw [UInt8.ofNat_toNat] at hdigit
  exact hdigit

/-- A byte is its high half times sixteen plus its low half. -/
theorem toNat_halves (b : UInt8) :
    (b >>> 4).toNat < 16 ∧ (b &&& 0xF).toNat < 16 ∧
      b.toNat = 16 * (b >>> 4).toNat + (b &&& 0xF).toNat := by
  have hb := b.toNat_lt
  have hhigh : (b >>> 4).toNat = b.toNat / 16 :=
    Nat.shiftRight_eq_div_pow b.toNat 4
  have hlow : (b &&& 0xF).toNat = b.toNat % 16 :=
    Nat.and_two_pow_sub_one_eq_mod b.toNat 4
  omega

theorem isPair_formatByte (b : UInt8) : IsPair (formatByte b) b := by
  obtain ⟨hhigh, hlow, hvalue⟩ := toNat_halves b
  exact ⟨hexChar (b >>> 4), hexChar (b &&& 0xF), b >>> 4, b &&& 0xF, rfl,
    isHexDigit_hexChar hhigh, isHexDigit_hexChar hlow, hvalue⟩

theorem startsWith_intercalate (values : List UInt8) :
    StartsWith values
      (List.intercalate [DASH] (values.map formatByte)) := by
  induction values with
  | nil => exact .done _
  | cons value values ih =>
      have hpair := isPair_formatByte value
      cases values with
      | nil =>
          have hlast := StartsWith.pair hpair (Or.inl rfl) (.done [])
          rw [List.append_nil, List.append_nil] at hlast
          rw [List.map_singleton, List.intercalate_singleton]
          exact hlast
      | cons value' values =>
          rw [List.map_cons, List.map_cons, List.intercalate_cons_cons]
          exact .pair hpair (Or.inr rfl) ih

/-- Whatever the string and the target, `parseIdString` returns and reads no
character behind the first `NUL`.  It returns true exactly for the strings that
start with four groups, which are then in the target; and a printed id is read
back. -/
theorem parseIdString_recognises (tar_id : IdBytes) :
    (∀ id : Bytes, ∃ ok tar_id',
      parseIdString id tar_id = .ok (ok, tar_id') ∧
        parseIdString (cString id) tar_id = .ok (ok, tar_id') ∧
        (ok = true ↔ ∃ dev : IdBytes, StartsWith dev.toList (cString id)) ∧
        ∀ dev : IdBytes, StartsWith dev.toList (cString id) →
          tar_id' = dev) ∧
      ∀ dev : IdBytes,
        parseIdString (formatDevId dev) tar_id = .ok (true, dev) := by
  constructor
  · intro id
    obtain ⟨⟨ok, tar_id'⟩, hparse⟩ :=
      parseIdString_inRange (cString id) tar_id
    have htarget : ∀ dev : IdBytes, StartsWith dev.toList (cString id) →
        ok = true ∧ tar_id' = dev := by
      intro dev hdev
      have htrue : parseIdString (cString id) tar_id = .ok (true, dev) :=
        parseIdString_eq_true_iff.mpr hdev
      cases hparse.symm.trans htrue
      exact ⟨rfl, rfl⟩
    refine ⟨ok, tar_id', parseIdString_eq_of_cString hparse, hparse, ?_, ?_⟩
    · constructor
      · rintro rfl
        exact ⟨tar_id', parseIdString_eq_true_iff.mp hparse⟩
      · rintro ⟨dev, hdev⟩
        exact (htarget dev hdev).1
    · intro dev hdev
      exact (htarget dev hdev).2
  · intro dev
    apply parseIdString_eq_true_iff.mpr
    exact startsWith_intercalate dev.toList

/-- `"1a2B-3c-4D-!"`. -/
example : parseIdString
    (['1', 'a', '2', 'B', '-', '3', 'c', '-', '4', 'D', '-', '!'].map
      Char.toUInt8) (Vector.replicate 4 0) =
        .ok (true, #v[0x1A, 0x2B, 0x3C, 0x4D]) := by
  decide

end WirelessHarness
