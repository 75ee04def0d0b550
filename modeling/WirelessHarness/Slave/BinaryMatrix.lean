import Mathlib.Data.List.TakeDrop
import Mathlib.Data.UInt

/-!
# The conduction matrix

`BinaryMatrix` of the slave: a vector of rows together with the row and column
counts.  The counts and the vectors agree after construction, `resize` and
`setValue`, so they agree in every value of the type.
-/

namespace WirelessHarness

/-- The cells are the source's `int` entries; the only writer stores a
`FlagStatus`, which is 0 or 1. -/
structure BinaryMatrix where
  matrix : List (List Bool)
  rows : ℕ
  cols : ℕ
  length_matrix : matrix.length = rows
  length_row : ∀ row ∈ matrix, row.length = cols

namespace BinaryMatrix

/-- The zero-initialized global. -/
def empty : BinaryMatrix where
  matrix := []
  rows := 0
  cols := 0
  length_matrix := rfl
  length_row := by simp

/-- An index outside the vectors is undefined in the source, where the size
test has an empty body; here nothing is written. -/
def setValue (m : BinaryMatrix) (r c : ℕ) (value : Bool) : BinaryMatrix where
  matrix := m.matrix.modify r (·.set c value)
  rows := m.rows
  cols := m.cols
  length_matrix := by simp [m.length_matrix]
  length_row := by
    intro row hrow
    obtain ⟨i, hi, rfl⟩ := List.mem_iff_getElem.mp hrow
    rw [List.getElem_modify]
    split <;> simp [m.length_row]

/-- `none` outside the vectors. -/
def getValue (m : BinaryMatrix) (r c : ℕ) : Option Bool :=
  m.matrix[r]?.bind (·[c]?)

/-- Rows and columns are cut off or padded with 0. -/
def resize (m : BinaryMatrix) (new_rows new_cols : ℕ) : BinaryMatrix where
  matrix := (m.matrix.takeD new_rows []).map fun row =>
    row.takeD new_cols false
  rows := new_rows
  cols := new_cols
  length_matrix := by simp
  length_row := by
    intro row hrow
    obtain ⟨_, -, rfl⟩ := List.mem_map.mp hrow
    simp

/-- A size that a matrix has already. -/
theorem resize_self (m : BinaryMatrix) :
    m.resize m.rows m.cols = m := by
  have hrows : m.matrix.takeD m.rows [] = m.matrix := by
    rw [List.takeD_eq_take _ m.length_matrix.ge, ← m.length_matrix,
      List.take_length]
  have hcols (row : List Bool) (hrow : row ∈ m.matrix) :
      row.takeD m.cols false = row := by
    rw [List.takeD_eq_take _ (m.length_row row hrow).ge,
      ← m.length_row row hrow, List.take_length]
  have hmatrix : (m.matrix.takeD m.rows []).map
      (fun row => row.takeD m.cols false) = m.matrix := by
    rw [hrows, List.map_congr_left hcols, List.map_id']
  simp only [resize, hmatrix]

/-- The loop state of `flatten`. -/
structure FlattenState where
  result : List UInt8 := []
  currentByte : UInt8 := 0
  bitCount : ℕ := 7

/-- One cell: highest bit first, a byte is pushed after its lowest bit. -/
def flattenBit (s : FlattenState) (bit : Bool) : FlattenState :=
  let currentByte := s.currentByte |||
    (if bit then (1 : UInt8) <<< UInt8.ofNat s.bitCount else 0)
  if s.bitCount = 0 then
    { result := s.result ++ [currentByte], currentByte := 0, bitCount := 7 }
  else
    { s with currentByte, bitCount := s.bitCount - 1 }

def flatten (m : BinaryMatrix) : List UInt8 :=
  let s := m.matrix.foldl (fun s row => row.foldl flattenBit s) {}
  if s.bitCount ≠ 7 then s.result ++ [s.currentByte] else s.result

@[simp] theorem rows_setValue (m : BinaryMatrix) (r c : ℕ) (value : Bool) :
    (m.setValue r c value).rows = m.rows := rfl

@[simp] theorem cols_setValue (m : BinaryMatrix) (r c : ℕ) (value : Bool) :
    (m.setValue r c value).cols = m.cols := rfl

@[simp] theorem rows_resize (m : BinaryMatrix) (new_rows new_cols : ℕ) :
    (m.resize new_rows new_cols).rows = new_rows := rfl

@[simp] theorem cols_resize (m : BinaryMatrix) (new_rows new_cols : ℕ) :
    (m.resize new_rows new_cols).cols = new_cols := rfl

/-- A cell holds the value just written to it. -/
theorem getValue_setValue_self (m : BinaryMatrix) {r c : ℕ} (value : Bool)
    (hr : r < m.rows) (hc : c < m.cols) :
    (m.setValue r c value).getValue r c = some value := by
  have hr' : r < m.matrix.length := by rwa [m.length_matrix]
  have hc' : c < m.matrix[r].length := by
    rwa [m.length_row _ (List.getElem_mem hr')]
  simp [getValue, setValue, hr', hc']

/-- Writing one cell leaves the others. -/
theorem getValue_setValue_of_ne (m : BinaryMatrix) {r c r' c' : ℕ}
    (value : Bool) (h : r ≠ r' ∨ c ≠ c') :
    (m.setValue r c value).getValue r' c' = m.getValue r' c' := by
  simp only [getValue, setValue, List.getElem?_modify]
  by_cases hr : r = r'
  · have hc : c ≠ c' := h.resolve_left (not_not.mpr hr)
    subst hr
    cases m.matrix[r]? with
    | none => rfl
    | some row => simp [List.getElem?_set_ne hc]
  · simp [hr]

/-- The bits taken so far: the full bytes and those of the current one. -/
def FlattenState.bits (s : FlattenState) : ℕ :=
  8 * s.result.length + (7 - s.bitCount)

theorem bits_flattenBit {s : FlattenState} (hs : s.bitCount ≤ 7)
    (bit : Bool) : (flattenBit s bit).bits = s.bits + 1 ∧
      (flattenBit s bit).bitCount ≤ 7 := by
  simp only [flattenBit]
  split
  next hlast =>
    constructor
    · simp only [FlattenState.bits, List.length_append, List.length_singleton]
      omega
    · exact le_rfl
  next hmore =>
    constructor
    · simp only [FlattenState.bits]
      omega
    · exact (Nat.sub_le _ _).trans hs

theorem bits_foldl_flattenBit (bits : List Bool) {s : FlattenState}
    (hs : s.bitCount ≤ 7) :
    (bits.foldl flattenBit s).bits = s.bits + bits.length ∧
      (bits.foldl flattenBit s).bitCount ≤ 7 := by
  induction bits generalizing s with
  | nil => exact ⟨rfl, hs⟩
  | cons bit bits ih =>
      obtain ⟨hbits, hcount⟩ := bits_flattenBit hs bit
      obtain ⟨hall, hle⟩ := ih hcount
      refine ⟨?_, hle⟩
      rw [List.foldl_cons, hall, hbits, List.length_cons]
      omega

theorem length_cells (m : BinaryMatrix) :
    m.matrix.flatten.length = m.rows * m.cols := by
  have hcols : m.matrix.map List.length = List.replicate m.rows m.cols := by
    rw [← m.length_matrix]
    exact List.map_eq_replicate_iff.mpr m.length_row
  rw [List.length_flatten, hcols, List.sum_replicate_nat]

/-- Eight cells a byte, the last byte possibly not full. -/
theorem length_flatten (m : BinaryMatrix) :
    m.flatten.length = (m.rows * m.cols + 7) / 8 := by
  obtain ⟨hbits, hcount⟩ :=
    bits_foldl_flattenBit m.matrix.flatten (s := {}) le_rfl
  rw [List.foldl_flatten, length_cells] at hbits
  rw [List.foldl_flatten] at hcount
  simp only [flatten]
  generalize m.matrix.foldl (fun s row => row.foldl flattenBit s)
    ({} : FlattenState) = s at hbits hcount
  simp only [FlattenState.bits, List.length_nil] at hbits
  split
  · rw [List.length_append, List.length_singleton]
    omega
  · omega

/-- Write the first `n` cells of a row. -/
def fillRow (m : BinaryMatrix) (r : ℕ) (values : ℕ → Bool) (n : ℕ) :
    BinaryMatrix :=
  (List.range n).foldl (fun m c => m.setValue r c (values c)) m

theorem fillRow_succ (m : BinaryMatrix) (r : ℕ) (values : ℕ → Bool) (n : ℕ) :
    m.fillRow r values (n + 1) =
      (m.fillRow r values n).setValue r n (values n) := by
  simp [fillRow, List.range_succ]

theorem fillRow_congr (m : BinaryMatrix) (r : ℕ) {values values' : ℕ → Bool}
    {n : ℕ} (h : ∀ c < n, values c = values' c) :
    m.fillRow r values n = m.fillRow r values' n := by
  induction n with
  | zero => rfl
  | succ n ih =>
      rw [fillRow_succ, fillRow_succ, ih fun c hc => h c (by omega),
        h n (Nat.lt_succ_self n)]

@[simp] theorem rows_fillRow (m : BinaryMatrix) (r : ℕ) (values : ℕ → Bool)
    (n : ℕ) : (m.fillRow r values n).rows = m.rows := by
  induction n with
  | zero => rfl
  | succ n ih => rw [fillRow_succ, rows_setValue, ih]

@[simp] theorem cols_fillRow (m : BinaryMatrix) (r : ℕ) (values : ℕ → Bool)
    (n : ℕ) : (m.fillRow r values n).cols = m.cols := by
  induction n with
  | zero => rfl
  | succ n ih => rw [fillRow_succ, cols_setValue, ih]

theorem getValue_fillRow_self (m : BinaryMatrix) {r c n : ℕ}
    (values : ℕ → Bool) (hr : r < m.rows) (hn : n ≤ m.cols) (hc : c < n) :
    (m.fillRow r values n).getValue r c = some (values c) := by
  induction n with
  | zero => omega
  | succ n ih =>
      rw [fillRow_succ]
      by_cases h : c = n
      · subst h
        exact getValue_setValue_self _ _ (by simpa using hr)
          (by simpa using Nat.lt_of_succ_le hn)
      · rw [getValue_setValue_of_ne _ _ (Or.inr (Ne.symm h))]
        exact ih (by omega) (by omega)

theorem getValue_fillRow_of_ne (m : BinaryMatrix) {r r' : ℕ} (c n : ℕ)
    (values : ℕ → Bool) (h : r ≠ r') :
    (m.fillRow r values n).getValue r' c = m.getValue r' c := by
  induction n with
  | zero => rfl
  | succ n ih => rw [fillRow_succ, getValue_setValue_of_ne _ _ (Or.inl h), ih]

end BinaryMatrix

end WirelessHarness
