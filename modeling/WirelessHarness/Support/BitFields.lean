import Mathlib.Data.Nat.Bitwise

/-!
# Bit fields of a register

A register as a row of fields of equal width, and the read-modify-write that
replaces the selected ones.  Nothing here refers to a device.
-/

namespace BitFields

variable {n : ℕ}

/-- Field `i` of the fields of width `k`. -/
def field (k i : ℕ) (r : BitVec n) : BitVec k :=
  r.extractLsb' (k * i) k

/-- The bits of field `i`. -/
def mask (k i : ℕ) : BitVec n :=
  BitVec.ofNat n (2 ^ k - 1) <<< (k * i)

/-- The field is cleared and the value is or-ed in. -/
def setField (k i : ℕ) (v r : BitVec n) : BitVec n :=
  (r &&& ~~~mask k i) ||| v <<< (k * i)

/-- The loop over the first `count` fields that sets those selected. -/
def setFields (k count : ℕ) (selected : ℕ → Bool) (v r : BitVec n) :
    BitVec n :=
  (List.range count).foldl
    (fun r i => if selected i then setField k i v r else r) r

theorem setFields_succ (k count : ℕ) (selected : ℕ → Bool) (v r : BitVec n) :
    setFields k (count + 1) selected v r =
      if selected count then
        setField k count v (setFields k count selected v r)
      else setFields k count selected v r := by
  rw [setFields, List.range_succ, List.foldl_append]
  rfl

/-! ## Bits -/

theorem getLsbD_field (k i j : ℕ) (r : BitVec n) :
    (field k i r).getLsbD j = (decide (j < k) && r.getLsbD (k * i + j)) := by
  rw [field, BitVec.getLsbD_extractLsb']

theorem getLsbD_mask (k i j : ℕ) :
    (mask k i : BitVec n).getLsbD j =
      decide (j < n ∧ k * i ≤ j ∧ j < k * i + k) := by
  rw [mask, BitVec.getLsbD_shiftLeft, BitVec.getLsbD_ofNat,
    Nat.testBit_two_pow_sub_one, Bool.eq_iff_iff]
  simp only [Bool.and_eq_true, Bool.not_eq_true', decide_eq_true_eq,
    decide_eq_false_iff_not]
  omega

/-- A value that fits into a field has no bit beyond its width. -/
theorem getLsbD_of_fits {k : ℕ} {v : BitVec n} (hv : v.toNat < 2 ^ k) {j : ℕ}
    (hj : k ≤ j) : v.getLsbD j = false := by
  apply Nat.testBit_lt_two_pow
  exact hv.trans_le (Nat.pow_le_pow_right (by decide) hj)

theorem getLsbD_setField {k : ℕ} {v : BitVec n} (hv : v.toNat < 2 ^ k)
    (i : ℕ) (r : BitVec n) {j : ℕ} (hj : j < n) :
    (setField k i v r).getLsbD j =
      if k * i ≤ j ∧ j < k * i + k then v.getLsbD (j - k * i)
      else r.getLsbD j := by
  rw [setField, BitVec.getLsbD_or, BitVec.getLsbD_and, BitVec.getLsbD_not,
    getLsbD_mask, BitVec.getLsbD_shiftLeft]
  by_cases hlow : k * i ≤ j
  · by_cases hhigh : j < k * i + k
    · simp [hj, hlow, hhigh]
    · have hfit : v.getLsbD (j - k * i) = false :=
        getLsbD_of_fits hv (by omega)
      simp [hj, hhigh, hfit]
  · simp [hj, hlow]

/-! ## Fields -/

variable {k : ℕ} {v : BitVec n}

theorem field_setField (hv : v.toNat < 2 ^ k) {i : ℕ} (hi : k * i + k ≤ n)
    (r : BitVec n) : field k i (setField k i v r) = v.setWidth k := by
  apply BitVec.eq_of_getLsbD_eq
  intro j hj
  rw [getLsbD_field, getLsbD_setField hv i r (by omega),
    if_pos ⟨by omega, by omega⟩, BitVec.getLsbD_setWidth,
    Nat.add_sub_cancel_left]

/-- Different fields share no bit. -/
theorem field_setField_of_ne (hv : v.toNat < 2 ^ k) {i j : ℕ}
    (hj : k * j + k ≤ n) (hij : i ≠ j) (r : BitVec n) :
    field k j (setField k i v r) = field k j r := by
  apply BitVec.eq_of_getLsbD_eq
  intro l hl
  rw [getLsbD_field, getLsbD_field, getLsbD_setField hv i r (by omega),
    if_neg]
  rintro ⟨hlow, hhigh⟩
  rcases Nat.lt_or_gt_of_ne hij with hlt | hgt
  · have : k * (i + 1) ≤ k * j := Nat.mul_le_mul_left k hlt
    rw [Nat.mul_succ] at this
    omega
  · have : k * (j + 1) ≤ k * i := Nat.mul_le_mul_left k hgt
    rw [Nat.mul_succ] at this
    omega

/-- The loop sets the selected fields and no others. -/
theorem field_setFields (hv : v.toNat < 2 ^ k) {j : ℕ} (hj : k * j + k ≤ n)
    (selected : ℕ → Bool) (r : BitVec n) (count : ℕ) :
    field k j (setFields k count selected v r) =
      if j < count ∧ selected j then v.setWidth k else field k j r := by
  induction count with
  | zero => simp [setFields]
  | succ count ih =>
      rw [setFields_succ]
      by_cases hlast : j = count
      · subst hlast
        by_cases hsel : selected j
        · rw [if_pos hsel, field_setField hv hj,
            if_pos ⟨Nat.lt_succ_self j, hsel⟩]
        · rw [if_neg hsel, ih, if_neg (fun h => hsel h.2),
            if_neg (fun h => hsel h.2)]
      · have hlt : j < count + 1 ↔ j < count := by omega
        simp only [hlt]
        rw [← ih]
        by_cases hsel : selected count
        · rw [if_pos hsel, field_setField_of_ne hv hj (Ne.symm hlast)]
        · rw [if_neg hsel]

/-! ## Single bits -/

/-- The register with bit `i` only. -/
def bit (n i : ℕ) : BitVec n :=
  1#n <<< i

theorem getLsbD_bit (i j : ℕ) :
    (bit n i).getLsbD j = decide (j < n ∧ j = i) := by
  rw [bit, BitVec.getLsbD_shiftLeft, BitVec.getLsbD_one, Bool.eq_iff_iff]
  simp only [Bool.and_eq_true, Bool.not_eq_true', decide_eq_true_eq,
    decide_eq_false_iff_not]
  omega

/-- The usual test of a bit. -/
theorem bit_and_ne_zero_iff {i : ℕ} (hi : i < n) (r : BitVec n) :
    bit n i &&& r ≠ 0 ↔ r.getLsbD i = true := by
  constructor
  · intro hne
    by_contra hbit
    apply hne
    apply BitVec.eq_of_getLsbD_eq
    intro j hj
    rw [BitVec.getLsbD_and, getLsbD_bit]
    by_cases hji : j = i
    · subst hji
      simp [hbit]
    · simp [hji]
  · intro hbit hzero
    have h := congrArg (fun x => BitVec.getLsbD x i) hzero
    change (bit n i &&& r).getLsbD i = (0#n).getLsbD i at h
    rw [BitVec.getLsbD_and, getLsbD_bit, hbit, BitVec.getLsbD_zero] at h
    simp [hi] at h

end BitFields
