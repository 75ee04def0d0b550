import WirelessHarness.Slave.BinaryMatrix
import WirelessHarness.Support.Runs

/-!
# The packed conduction matrix

`flatten` packs the cells of a matrix row after row, highest bit first.  A byte
may hold the end of one row and the start of the next.  Whatever calls of
`resize` and `setValue` a matrix has seen, its cells are those of a plain grid
under the same calls, and the packed bytes and the shape give them back.
-/

namespace WirelessHarness

open Runs

/-! ## Bits of a byte vector -/

/-- Bit `k` in packing order, highest bit of each byte first; 0 behind the
last byte. -/
def bitAt (bytes : List UInt8) (k : ℕ) : Bool :=
  (bytes.getD (k / 8) 0).toNat.testBit (7 - k % 8)

@[simp] theorem bitAt_nil (k : ℕ) : bitAt [] k = false := by
  simp [bitAt]

/-- The bits of one more byte. -/
theorem bitAt_append_singleton (bytes : List UInt8) (byte : UInt8) (k : ℕ) :
    bitAt (bytes ++ [byte]) k =
      if k / 8 < bytes.length then bitAt bytes k
      else if k / 8 = bytes.length then byte.toNat.testBit (7 - k % 8)
      else false := by
  simp only [bitAt, List.getD_eq_getElem?_getD, List.getElem?_append]
  by_cases hlt : k / 8 < bytes.length
  · simp [hlt]
  · by_cases heq : k / 8 = bytes.length
    · simp [heq]
    · have hpos : k / 8 - bytes.length ≠ 0 := by omega
      simp [hlt, heq, hpos]

theorem bitAt_of_length_le {bytes : List UInt8} {k : ℕ}
    (h : bytes.length ≤ k / 8) : bitAt bytes k = false := by
  simp [bitAt, List.getElem?_eq_none h]

theorem bitAt_append_zero (bytes : List UInt8) (k : ℕ) :
    bitAt (bytes ++ [0]) k = bitAt bytes k := by
  rw [bitAt_append_singleton]
  split
  · rfl
  next hlen =>
    rw [bitAt_of_length_le (by omega)]
    simp

theorem getD_append_singleton (bits : List Bool) (bit : Bool) (k : ℕ) :
    (bits ++ [bit]).getD k false =
      if k = bits.length then bit else bits.getD k false := by
  simp only [List.getD_eq_getElem?_getD, List.getElem?_append]
  by_cases hlt : k < bits.length
  · simp [hlt, hlt.ne]
  · by_cases heq : k = bits.length
    · simp [heq]
    · have hpos : k - bits.length ≠ 0 := by omega
      simp [hlt, heq, hpos]

/-- The mask of one bit. -/
theorem testBit_mask {c j : ℕ} (hc : c ≤ 7) (hj : j ≤ 7) (bit : Bool) :
    (if bit then (1 : UInt8) <<< UInt8.ofNat c else 0).toNat.testBit j =
      (bit && decide (j = c)) := by
  have hall : ∀ c j : Fin 8, ((1 : UInt8) <<< UInt8.ofNat c).toNat.testBit j =
      decide (j = c) := by
    decide
  by_cases hbit : bit
  · have h := hall ⟨c, by omega⟩ ⟨j, by omega⟩
    simpa [hbit, Fin.ext_iff] using h
  · simp [hbit]

namespace BinaryMatrix

/-! ## The packing loop -/

/-- After the cells `bits`: their bits stand at their positions, and the rest
of the byte in work is 0. -/
structure FlattenState.Holds (s : FlattenState) (bits : List Bool) : Prop where
  bitCount_le : s.bitCount ≤ 7
  length_eq : s.bits = bits.length
  bitAt_eq : ∀ k, bitAt (s.result ++ [s.currentByte]) k = bits.getD k false
  empty_byte : s.bitCount = 7 → s.currentByte = 0

theorem FlattenState.holds_nil : ({} : FlattenState).Holds [] := by
  constructor
  case bitCount_le => exact le_rfl
  case length_eq => rfl
  case bitAt_eq =>
    intro k
    exact (bitAt_append_zero [] k).trans (bitAt_nil k)
  case empty_byte => intro _; rfl

/-- The next cell goes to the highest free bit and no other bit changes. -/
theorem FlattenState.bitAt_or_mask {s : FlattenState} {bits : List Bool}
    (hs : s.Holds bits) (bit : Bool) (k : ℕ) :
    bitAt (s.result ++ [s.currentByte |||
        (if bit then (1 : UInt8) <<< UInt8.ofNat s.bitCount else 0)]) k =
      (bits ++ [bit]).getD k false := by
  have hold := hs.bitAt_eq k
  have hlen := hs.length_eq
  have hcount := hs.bitCount_le
  simp only [FlattenState.bits] at hlen
  rw [bitAt_append_singleton] at hold ⊢
  rw [getD_append_singleton]
  by_cases hfull : k / 8 < s.result.length
  · rw [if_pos hfull] at hold ⊢
    rw [hold, if_neg (by omega)]
  · rw [if_neg hfull] at hold ⊢
    by_cases hbyte : k / 8 = s.result.length
    · rw [if_pos hbyte] at hold ⊢
      rw [UInt8.toNat_or, Nat.testBit_or, hold,
        testBit_mask hcount (by omega)]
      by_cases hnew : k = bits.length
      · have hpos : 7 - k % 8 = s.bitCount := by omega
        rw [hpos]
        simp [hnew]
      · have hpos : 7 - k % 8 ≠ s.bitCount := by omega
        simp [hpos, hnew]
    · rw [if_neg hbyte] at hold ⊢
      rw [← hold, if_neg (by omega)]

theorem FlattenState.holds_flattenBit {s : FlattenState} {bits : List Bool}
    (hs : s.Holds bits) (bit : Bool) :
    (flattenBit s bit).Holds (bits ++ [bit]) := by
  obtain ⟨hbits, hcount⟩ := bits_flattenBit hs.bitCount_le bit
  have hat := FlattenState.bitAt_or_mask hs bit
  constructor
  case bitCount_le => exact hcount
  case length_eq =>
    rw [hbits, hs.length_eq, List.length_append, List.length_singleton]
  case bitAt_eq =>
    intro k
    rw [← hat k]
    by_cases hlast : s.bitCount = 0
    · simp only [flattenBit, if_pos hlast]
      rw [bitAt_append_zero]
    · simp only [flattenBit, if_neg hlast]
  case empty_byte =>
    intro hseven
    have hle := hs.bitCount_le
    by_cases hlast : s.bitCount = 0
    · simp only [flattenBit, if_pos hlast]
    · simp only [flattenBit, if_neg hlast] at hseven
      omega

theorem FlattenState.holds_foldl {s : FlattenState} {bits : List Bool}
    (hs : s.Holds bits) (cells : List Bool) :
    (cells.foldl flattenBit s).Holds (bits ++ cells) := by
  induction cells generalizing s bits with
  | nil => simpa using hs
  | cons bit cells ih => simpa using ih (FlattenState.holds_flattenBit hs bit)

/-- Bit `k` of the packed bytes is cell `k` in reading order, and the bits
behind the last cell are 0. -/
theorem bitAt_flatten (m : BinaryMatrix) (k : ℕ) :
    bitAt m.flatten k = m.matrix.flatten.getD k false := by
  have hs := FlattenState.holds_foldl
    FlattenState.holds_nil m.matrix.flatten
  rw [List.foldl_flatten, List.nil_append] at hs
  rw [← hs.bitAt_eq k]
  simp only [flatten]
  split
  · rfl
  next hseven =>
    rw [hs.empty_byte (not_not.mp hseven), bitAt_append_zero]

/-! ## Cells in reading order -/

theorem getElem?_flatten {rows : List (List Bool)} {n : ℕ}
    (hrows : ∀ row ∈ rows, row.length = n) (r : ℕ) {c : ℕ} (hc : c < n) :
    rows.flatten[r * n + c]? = rows[r]?.bind (·[c]?) := by
  induction rows generalizing r with
  | nil => simp
  | cons row rows ih =>
      have hrow := hrows row List.mem_cons_self
      have hrest : ∀ row' ∈ rows, row'.length = n := fun row' h =>
        hrows row' (List.mem_cons_of_mem _ h)
      cases r with
      | zero =>
          rw [List.flatten_cons, List.getElem?_append_left (by omega)]
          simp
      | succ r =>
          have hpos : (r + 1) * n + c = row.length + (r * n + c) := by
            rw [hrow, Nat.succ_mul]
            omega
          rw [List.flatten_cons, hpos,
            List.getElem?_append_right (Nat.le_add_right _ _),
            Nat.add_sub_cancel_left, ih hrest]
          rfl

/-- Every cell of the shape has a value. -/
theorem exists_getValue (m : BinaryMatrix) {r c : ℕ} (hr : r < m.rows)
    (hc : c < m.cols) : ∃ value, m.getValue r c = some value := by
  have hr' : r < m.matrix.length := by rwa [m.length_matrix]
  have hc' : c < m.matrix[r].length := by
    rwa [m.length_row _ (List.getElem_mem hr')]
  exact ⟨m.matrix[r][c], by simp [getValue, hr', hc']⟩

/-- The cell of a row and a column stands in the packed bytes where the rows
in front of it and the columns in front of it put it. -/
theorem bitAt_flatten_cell (m : BinaryMatrix) (r : ℕ) {c : ℕ}
    (hc : c < m.cols) :
    bitAt m.flatten (r * m.cols + c) = (m.getValue r c).getD false := by
  rw [bitAt_flatten, List.getD_eq_getElem?_getD,
    getElem?_flatten m.length_row r hc]
  rfl

/-! ## Unpacking -/

/-- The matrix of a shape whose cells are the bits of `bytes`. -/
def unflatten (rows cols : ℕ) (bytes : List UInt8) : BinaryMatrix where
  matrix := (List.range rows).map fun r =>
    (List.range cols).map fun c => bitAt bytes (r * cols + c)
  rows := rows
  cols := cols
  length_matrix := by simp
  length_row := by
    intro row hrow
    obtain ⟨r, -, rfl⟩ := List.mem_map.mp hrow
    simp

/-- A matrix is its shape and its cells. -/
theorem eq_of_getValue_eq {m m' : BinaryMatrix} (hrows : m.rows = m'.rows)
    (hcols : m.cols = m'.cols)
    (h : ∀ r c, r < m.rows → c < m.cols → m.getValue r c = m'.getValue r c) :
    m = m' := by
  have hmatrix : m.matrix = m'.matrix := by
    apply List.ext_getElem
    · rw [m.length_matrix, m'.length_matrix, hrows]
    · intro r hr hr'
      have hlen := m.length_row _ (List.getElem_mem hr)
      have hlen' := m'.length_row _ (List.getElem_mem hr')
      apply List.ext_getElem
      · rw [hlen, hlen', hcols]
      · intro c hc hc'
        have hcell := h r c (m.length_matrix ▸ hr) (hlen ▸ hc)
        simpa [getValue, hr, hr', hc, hc'] using hcell
  rcases m with ⟨matrix, rows, cols, _, _⟩
  rcases m' with ⟨matrix', rows', cols', _, _⟩
  simp only [mk.injEq]
  exact ⟨hmatrix, hrows, hcols⟩

theorem unflatten_flatten (m : BinaryMatrix) :
    unflatten m.rows m.cols m.flatten = m := by
  refine eq_of_getValue_eq rfl rfl fun r c hr hc => ?_
  change r < m.rows at hr
  change c < m.cols at hc
  obtain ⟨value, hvalue⟩ := m.exists_getValue hr hc
  have hbit := m.bitAt_flatten_cell r hc
  rw [hvalue, Option.getD_some] at hbit
  rw [hvalue]
  simp [getValue, unflatten, hr, hc, hbit]

/-! ## Calls -/

/-- A call that changes the matrix. -/
inductive Call
  | resize (new_rows new_cols : ℕ)
  | setValue (r c : ℕ) (value : Bool)

/-- `setValue` is called in range. -/
def step (m : BinaryMatrix) : Call → Option BinaryMatrix
  | .resize new_rows new_cols => some (m.resize new_rows new_cols)
  | .setValue r c value =>
      if r < m.rows ∧ c < m.cols then some (m.setValue r c value) else none

/-- A grid of cells, of which those inside the shape count. -/
structure Grid where
  rows : ℕ
  cols : ℕ
  cell : ℕ → ℕ → Bool

namespace Grid

def empty : Grid :=
  ⟨0, 0, fun _ _ => false⟩

/-- A cell that was outside the old shape starts with 0. -/
def step (g : Grid) : Call → Grid
  | .resize new_rows new_cols =>
      { rows := new_rows
        cols := new_cols
        cell := fun r c =>
          if r < g.rows ∧ c < g.cols then g.cell r c else false }
  | .setValue r c value =>
      { g with
        cell := fun r' c' =>
          if r' = r ∧ c' = c then value else g.cell r' c' }

end Grid

/-- The matrix has the shape of the grid and its cells. -/
structure Represents (m : BinaryMatrix) (g : Grid) : Prop where
  rows_eq : m.rows = g.rows
  cols_eq : m.cols = g.cols
  getValue_eq : ∀ r c, r < m.rows → c < m.cols →
    m.getValue r c = some (g.cell r c)

theorem getElem?_takeD {α : Type} (l : List α) (d : α) {n i : ℕ} (h : i < n) :
    (l.takeD n d)[i]? = some (l[i]?.getD d) := by
  induction n generalizing l i with
  | zero => omega
  | succ n ih =>
      cases i with
      | zero => cases l <;> rfl
      | succ i =>
          rw [List.takeD_succ, List.getElem?_cons_succ, ih _ (by omega),
            List.getElem?_tail]

/-- Cells of both shapes are kept, the others start with 0. -/
theorem getValue_resize (m : BinaryMatrix) {new_rows new_cols r c : ℕ}
    (hr : r < new_rows) (hc : c < new_cols) :
    (m.resize new_rows new_cols).getValue r c =
      some ((m.getValue r c).getD false) := by
  simp only [getValue, resize, List.getElem?_map, getElem?_takeD _ _ hr,
    Option.map_some, Option.bind_some, getElem?_takeD _ _ hc]
  cases m.matrix[r]? <;> simp

theorem getValue_eq_none (m : BinaryMatrix) {r c : ℕ}
    (h : ¬ (r < m.rows ∧ c < m.cols)) : m.getValue r c = none := by
  rw [getValue, Option.bind_eq_none_iff]
  intro row hrow
  obtain ⟨hr, rfl⟩ := List.getElem?_eq_some_iff.mp hrow
  rw [List.getElem?_eq_none_iff, m.length_row _ (List.getElem_mem hr)]
  rw [m.length_matrix] at hr
  omega

theorem represents_resize {m : BinaryMatrix} {g : Grid} (h : Represents m g)
    (new_rows new_cols : ℕ) :
    Represents (m.resize new_rows new_cols)
      (g.step (.resize new_rows new_cols)) := by
  constructor
  case rows_eq => rfl
  case cols_eq => rfl
  case getValue_eq =>
    intro r c hr hc
    rw [rows_resize] at hr
    rw [cols_resize] at hc
    rw [getValue_resize m hr hc]
    by_cases hold : r < m.rows ∧ c < m.cols
    · have hold' : r < g.rows ∧ c < g.cols := by
        rwa [← h.rows_eq, ← h.cols_eq]
      simp [Grid.step, h.getValue_eq r c hold.1 hold.2, hold']
    · have hold' : ¬ (r < g.rows ∧ c < g.cols) := by
        rwa [← h.rows_eq, ← h.cols_eq]
      simp only [Grid.step, m.getValue_eq_none hold, if_neg hold']
      rfl

theorem represents_step {m m' : BinaryMatrix} {g : Grid} {call : Call}
    (h : Represents m g) (hstep : step m call = some m') :
    Represents m' (g.step call) := by
  rcases call with ⟨new_rows, new_cols⟩ | ⟨r, c, value⟩
  · cases hstep
    exact represents_resize h new_rows new_cols
  · obtain ⟨⟨hr, hc⟩, heq⟩ := Option.ite_none_right_eq_some.mp hstep
    cases heq
    constructor
    case rows_eq => exact h.rows_eq
    case cols_eq => exact h.cols_eq
    case getValue_eq =>
      intro r' c' hr' hc'
      by_cases hcell : r' = r ∧ c' = c
      · obtain ⟨rfl, rfl⟩ := hcell
        rw [getValue_setValue_self m value hr hc]
        simp [Grid.step]
      · rw [getValue_setValue_of_ne m value (by tauto)]
        rw [h.getValue_eq r' c' hr' hc']
        simp [Grid.step, hcell]

theorem represents_run {calls : List Call} {m m' : BinaryMatrix} {g : Grid}
    (h : Represents m g) (hrun : run step m calls = some m') :
    Represents m' (calls.foldl Grid.step g) := by
  induction calls generalizing m g with
  | nil =>
      cases hrun
      exact h
  | cons call calls ih =>
      obtain ⟨m'', hstep, hrest⟩ := run_cons_eq_some.mp hrun
      exact ih (represents_step h hstep) hrest

/-! ## The packed bytes -/

/-- The shape of a matrix and what `flatten` makes of it. -/
structure PackedExactly (m : BinaryMatrix) : Prop where
  length_matrix : m.matrix.length = m.rows
  length_row : ∀ row ∈ m.matrix, row.length = m.cols
  length_flatten : m.flatten.length = (m.rows * m.cols + 7) / 8
  bit_eq : ∀ k < m.rows * m.cols, ∃ byte, m.flatten[k / 8]? = some byte ∧
    m.getValue (k / m.cols) (k % m.cols) =
      some (byte.toNat.testBit (7 - k % 8))
  padding_eq : ∀ k ≥ m.rows * m.cols, ∀ byte, m.flatten[k / 8]? = some byte →
    byte.toNat.testBit (7 - k % 8) = false
  unflatten_flatten : unflatten m.rows m.cols m.flatten = m

theorem bitAt_of_getElem? {bytes : List UInt8} {k : ℕ} {byte : UInt8}
    (h : bytes[k / 8]? = some byte) :
    bitAt bytes k = byte.toNat.testBit (7 - k % 8) := by
  simp [bitAt, h]

theorem packedExactly (m : BinaryMatrix) : PackedExactly m := by
  constructor
  case length_matrix => exact m.length_matrix
  case length_row => exact m.length_row
  case length_flatten => exact m.length_flatten
  case bit_eq =>
    intro k hk
    have hcols : 0 < m.cols := Nat.pos_of_mul_pos_left (Nat.zero_lt_of_lt hk)
    have hbyte : k / 8 < m.flatten.length := by
      rw [m.length_flatten]
      omega
    have hc := Nat.mod_lt k hcols
    have hr : k / m.cols < m.rows := (Nat.div_lt_iff_lt_mul hcols).mpr hk
    obtain ⟨value, hvalue⟩ := m.exists_getValue hr hc
    have hbit := m.bitAt_flatten_cell (k / m.cols) hc
    rw [Nat.div_add_mod', hvalue, Option.getD_some,
      bitAt_of_getElem? (List.getElem?_eq_getElem hbyte)] at hbit
    exact ⟨_, List.getElem?_eq_getElem hbyte, by rw [hvalue, hbit]⟩
  case padding_eq =>
    intro k hk byte hbyte
    rw [← bitAt_of_getElem? hbyte, bitAt_flatten, List.getD_eq_getElem?_getD,
      List.getElem?_eq_none (by rwa [m.length_cells])]
    rfl
  case unflatten_flatten => exact unflatten_flatten m

/-- After any calls the cells are those of the grid under the same calls, and
they are packed exactly. -/
theorem packedExactly_of_run {calls : List Call} {m : BinaryMatrix}
    (hrun : run step empty calls = some m) :
    Represents m (calls.foldl Grid.step Grid.empty) ∧ PackedExactly m := by
  have hempty : Represents empty Grid.empty := by
    constructor
    case rows_eq => rfl
    case cols_eq => rfl
    case getValue_eq =>
      intro r c hr
      exact absurd hr (Nat.not_lt_zero r)
  exact ⟨represents_run hempty hrun, packedExactly m⟩

/-- Three rows of five, of which a cell of the last row is set, cut down to
three columns: nine cells in two bytes. -/
theorem packedExactly_resized :
    ∃ m, run step empty
        [.resize 3 5, .setValue 2 1 true, .setValue 0 4 true, .resize 3 3] =
          some m ∧ m.flatten = [0x01, 0x00] ∧
      Represents m ([Call.resize 3 5, .setValue 2 1 true, .setValue 0 4 true,
        .resize 3 3].foldl Grid.step Grid.empty) ∧ PackedExactly m :=
  ⟨_, rfl, rfl, packedExactly_of_run rfl⟩

end BinaryMatrix

end WirelessHarness
