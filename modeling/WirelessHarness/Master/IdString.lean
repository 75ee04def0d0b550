import WirelessHarness.Master.Commands

/-!
# Id strings

The JSON interface names a device by a string of four pairs of hexadecimal
digits.  `parseIdString` walks over the characters with a pointer; the strings
are the bytes of a `std::string`, and behind them stands the `NUL` that
`c_str()` promises.
-/

namespace WirelessHarness

open CheckedRead

/-- The digit a character stands for, in the three ranges of the source. -/
def hexDigit? (c : UInt8) : Option UInt8 :=
  if 0x30 ≤ c ∧ c ≤ 0x39 then some (c - 0x30)
  else if 0x41 ≤ c ∧ c ≤ 0x46 then some (c - 0x41 + 10)
  else if 0x61 ≤ c ∧ c ≤ 0x66 then some (c - 0x61 + 10)
  else none

def DASH : UInt8 := 0x2D

/-! ## parseIdString -/

/-- The inner loop with `n` digits to go.  `ptr` are the characters from the
pointer on, `none` is the source's `return false`. -/
def parsePair : ℕ → Bytes → UInt8 →
    Except OutOfRange (Option (UInt8 × Bytes))
  | 0, ptr, value => return some (value, ptr)
  | n + 1, ptr, value => do
      let c ← readAt ptr 0
      match hexDigit? c with
      | none => return none
      | some digit => parsePair n (ptr.drop 1) ((value <<< 4) + digit)

/-- The outer loop with `n` groups to go, so `index` is `4 - n`.  The loop
condition reads the character before it tests the index. -/
def parseGroups : ℕ → Bytes → IdBytes → Except OutOfRange (Bool × IdBytes)
  | 0, ptr, tar_id => do
      let _ ← readAt ptr 0
      return (true, tar_id)
  | n + 1, ptr, tar_id => do
      let c ← readAt ptr 0
      if c = 0 then
        return (false, tar_id)
      match ← parsePair 2 ptr 0 with
      | none => return (false, tar_id)
      | some (value, ptr) =>
          let c ← readAt ptr 0
          parseGroups n (if c = DASH then ptr.drop 1 else ptr)
            (tar_id.setIfInBounds (3 - n) value)

/-- The groups read before an error stay in the target. -/
def parseIdString (id : Bytes) (tar_id : IdBytes) :
    Except OutOfRange (Bool × IdBytes) :=
  parseGroups 4 (id ++ [0]) tar_id

/-- 0 for a string with another character; of a longer string the last four
digits count. -/
def hexStringToUint16 (hex_str : Bytes) : UInt16 :=
  (hex_str.foldlM (fun (result : UInt16) c =>
    (hexDigit? c).map fun digit => (result <<< 4) + digit.toUInt16) 0).getD 0

/-! ## formatDevId -/

/-- A digit as `%X` prints it. -/
def hexChar (digit : UInt8) : UInt8 :=
  if digit < 10 then 0x30 + digit else 0x41 + (digit - 10)

/-- `%02X` of a byte. -/
def formatByte (b : UInt8) : Bytes :=
  [hexChar (b >>> 4), hexChar (b &&& 0xF)]

def formatDevId (dev : IdBytes) : Bytes :=
  List.intercalate [DASH] (dev.toList.map formatByte)

/-! ## The pointer stays in the string -/

theorem hexDigit?_zero : hexDigit? 0 = none := rfl

/-- The characters from the pointer on end with the `NUL`. -/
def Terminated (ptr : Bytes) : Prop :=
  ∃ text, ptr = text ++ [0]

theorem terminated_drop_one {ptr : Bytes} {c : UInt8} (h : Terminated ptr)
    (hc : ptr[0]? = some c) (hne : c ≠ 0) : Terminated (ptr.drop 1) := by
  obtain ⟨text, rfl⟩ := h
  cases text with
  | nil =>
      cases hc
      exact absurd rfl hne
  | cons c' text => exact ⟨text, rfl⟩

theorem exists_readAt_of_terminated {ptr : Bytes} (h : Terminated ptr) :
    ∃ c, readAt ptr 0 = .ok c ∧ ptr[0]? = some c := by
  obtain ⟨text, rfl⟩ := h
  have hlt : 0 < (text ++ [(0 : UInt8)]).length := by simp
  exact ⟨_, readAt_of_lt hlt, List.getElem?_eq_getElem hlt⟩

/-- Only digits are stepped over. -/
theorem parsePair_of_terminated (n : ℕ) {ptr : Bytes} (value : UInt8)
    (h : Terminated ptr) :
    ∃ r, parsePair n ptr value = .ok r ∧
      ∀ v rest, r = some (v, rest) → Terminated rest := by
  induction n generalizing ptr value with
  | zero =>
      refine ⟨_, rfl, ?_⟩
      rintro v rest ⟨⟩
      exact h
  | succ n ih =>
      obtain ⟨c, hread, hc⟩ := exists_readAt_of_terminated h
      rw [parsePair, hread, ok_bind]
      cases hdigit : hexDigit? c with
      | none =>
          refine ⟨none, rfl, ?_⟩
          rintro v rest ⟨⟩
      | some digit =>
          have hne : c ≠ 0 := by
            rintro rfl
            cases hexDigit?_zero.symm.trans hdigit
          exact ih _ (terminated_drop_one h hc hne)

theorem parseGroups_of_terminated (n : ℕ) {ptr : Bytes} (tar_id : IdBytes)
    (h : Terminated ptr) : InRange (parseGroups n ptr tar_id) := by
  induction n generalizing ptr tar_id with
  | zero =>
      obtain ⟨c, hread, -⟩ := exists_readAt_of_terminated h
      rw [parseGroups, hread]
      exact inRange_ok _
  | succ n ih =>
      obtain ⟨c, hread, -⟩ := exists_readAt_of_terminated h
      obtain ⟨r, hpair, hrest⟩ := parsePair_of_terminated 2 0 h
      rw [parseGroups, hread, ok_bind]
      apply InRange.unless
      intro _
      rw [hpair, ok_bind]
      rcases r with _ | ⟨value, rest⟩
      · exact inRange_ok _
      · have hterm := hrest value rest rfl
        obtain ⟨c', hread', hc'⟩ := exists_readAt_of_terminated hterm
        simp only [hread', ok_bind]
        apply ih
        split
        next hdash =>
          apply terminated_drop_one hterm hc'
          rw [hdash]
          decide
        next => exact hterm

/-- No character behind the `NUL` is read, whatever the string. -/
theorem parseIdString_inRange (id : Bytes) (tar_id : IdBytes) :
    InRange (parseIdString id tar_id) :=
  parseGroups_of_terminated 4 tar_id ⟨id, rfl⟩

/-! ## Accepted strings -/

/-- The id of an accepted string. -/
def acceptedId? (id : Bytes) : Option IdBytes :=
  match parseIdString id (Vector.replicate 4 0) with
  | .ok (true, tar_id) => some tar_id
  | _ => none

end WirelessHarness
