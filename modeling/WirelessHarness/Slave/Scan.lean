import WirelessHarness.Slave.Steps
import Mathlib.Data.List.ProdSigma
import Mathlib.Tactic.NormNum

/-!
# One undisturbed conduction scan

`startWithCount` followed by as many timer callbacks as there are rows and one
more.  Before callback `r` the first `r` rows have been written and the pin of
row `r - 1` is still driven; the callback moves the driven pin on and samples
row `r`.  The callback after the last row stops the timer and releases the pin
of the last row, whether or not that row belongs to this slave.
-/

namespace WirelessHarness

namespace Harness

/-! ## The prepared harness -/

/-- What `init` establishes on an empty pin list. -/
structure Ready (conductionNum : UInt8)
    (totalConductionNum startConductionNum : UInt16) (b : Board) : Prop where
  conductionNum_eq : b.harness.conductionNum = conductionNum
  totalConductionNum_eq : b.harness.totalConductionNum = totalConductionNum
  startConductionNum_eq : b.harness.startConductionNum = startConductionNum
  rowIndex_eq : b.harness.rowIndex = 0
  length_pins : b.harness.pins.length = conductionNum.toNat
  nodup_pins : b.harness.pins.Nodup
  pins_input : ∀ p ∈ b.harness.pins, b.gpio.mode p = .input
  rows_eq : b.harness.data.rows = totalConductionNum.toNat
  cols_eq : b.harness.data.cols = conductionNum.toNat
  accesses_inRange : ∀ a ∈ b.accesses, a.InRange
  writes_eq : b.writes = []

theorem ready_init {h : Harness} (g : GpioState) {conductionNum : UInt8}
    (totalConductionNum startConductionNum : UInt16)
    (hpins : h.pins = []) (hrow : h.rowIndex = 0)
    (hcond : conductionNum.toNat ≤ 62) :
    Ready conductionNum totalConductionNum startConductionNum
      (init conductionNum totalConductionNum startConductionNum
        { harness := h, gpio := g }) := by
  obtain ⟨hharness, hwrites, haccesses, hmode⟩ := init_spec conductionNum
    totalConductionNum startConductionNum { harness := h, gpio := g }
  rw [map_pinInfo hcond] at hharness hmode
  constructor
  case conductionNum_eq => rw [hharness]
  case totalConductionNum_eq => rw [hharness]
  case startConductionNum_eq => rw [hharness]
  case rowIndex_eq => rw [hharness, hrow]
  case length_pins =>
    rw [hharness, hpins, List.nil_append, List.length_take,
      length_condPinInfo]
    omega
  case nodup_pins =>
    rw [hharness, hpins, List.nil_append]
    exact nodup_condPinInfo.sublist (List.take_sublist _ _)
  case pins_input =>
    intro p hp
    rw [hharness, hpins, List.nil_append] at hp
    rw [hmode, if_pos hp]
  case rows_eq => rw [hharness, BinaryMatrix.rows_resize]
  case cols_eq => rw [hharness, BinaryMatrix.cols_resize]
  case accesses_inRange =>
    intro a ha
    rw [haccesses, List.nil_append, List.mem_map] at ha
    obtain ⟨i, hi, rfl⟩ := ha
    rw [List.mem_range] at hi
    constructor <;> simp only [length_condPinInfo] <;> omega
  case writes_eq => exact hwrites

/-! ## A correct scan -/

/-- Among the harness pins exactly the one of row `row` is an output, and it is
high; the other physical pins are as they were. -/
structure DrivesOnly (b : Board) (row : ℕ) (g : GpioState) : Prop where
  driven : ∀ j p, b.harness.pins[j]? = some p →
    (g.mode p = .output ↔ row = b.harness.startConductionNum.toNat + j)
  high : ∀ j p, b.harness.pins[j]? = some p →
    row = b.harness.startConductionNum.toNat + j → g.level p = true
  others : ∀ p, p ∉ b.harness.pins → g.mode p = b.gpio.mode p

/-- The stored value is the level of the column's pin, sampled while the row's
pin and no other one is driven. -/
structure CorrectWrite (inputs : ℕ → GpioInput) (b : Board)
    (w : CellWrite) : Prop where
  inBounds : w.InBounds
  drives : DrivesOnly b w.row w.gpio
  sampled : ∃ p, b.harness.pins[w.col]? = some p ∧
    w.value = inputs w.row w.gpio p

/-- What a scan from `b` should have done when it reaches `c`. -/
structure ScanCorrect (inputs : ℕ → GpioInput) (b c : Board) : Prop where
  accesses_inRange : ∀ a ∈ c.accesses, a.InRange
  cells_once : c.writes.map (fun w => (w.row, w.col)) =
    List.range b.harness.totalConductionNum.toNat ×ˢ
      List.range b.harness.conductionNum.toNat
  writes_correct : ∀ w ∈ c.writes, CorrectWrite inputs b w
  writes_kept : ∀ w ∈ c.writes,
    c.harness.data.getValue w.row w.col = some w.value
  timer_stopped : c.harness.timerActive = false
  rowIndex_zero : c.harness.rowIndex = 0
  pins_input : ∀ p ∈ c.harness.pins, c.gpio.mode p = .input

/-- The first `n` timer callbacks; `inputs k` are the levels at callback `k`. -/
def callbacks (inputs : ℕ → GpioInput) (b : Board) : ℕ → Board
  | 0 => b
  | n + 1 => myTimerCallback (inputs n) (callbacks inputs b n)

/-- `startWithCount(totalConductionNum)` and one callback more than rows. -/
def scan (inputs : ℕ → GpioInput) (b : Board) : Board :=
  callbacks inputs
    (startWithCount b.harness.totalConductionNum.toNat b)
    (b.harness.totalConductionNum.toNat + 1)

/-! ## The scan invariant -/

/-- After `r` callbacks the first `r` rows are written, and the pin of row
`r - 1` is still an output. -/
structure ScanAt (inputs : ℕ → GpioInput) (b : Board) (r : ℕ) (c : Board) :
    Prop where
  triggerCount_eq : c.harness.triggerCount = r
  maxTriggerCount_eq :
    c.harness.maxTriggerCount = b.harness.totalConductionNum.toNat
  rowIndex_eq : c.harness.rowIndex = r
  pins_eq : c.harness.pins = b.harness.pins
  conductionNum_eq : c.harness.conductionNum = b.harness.conductionNum
  startConductionNum_eq :
    c.harness.startConductionNum = b.harness.startConductionNum
  rows_eq : c.harness.data.rows = b.harness.totalConductionNum.toNat
  cols_eq : c.harness.data.cols = b.harness.conductionNum.toNat
  mode_eq : ∀ p, c.gpio.mode p =
    if b.harness.pinAt? ((r : ℤ) - b.harness.startConductionNum.toNat - 1) =
      some p then .output else b.gpio.mode p
  accesses_inRange : ∀ a ∈ c.accesses, a.InRange
  cells_once : c.writes.map (fun w => (w.row, w.col)) =
    List.range r ×ˢ List.range b.harness.conductionNum.toNat
  writes_correct : ∀ w ∈ c.writes, CorrectWrite inputs b w
  writes_kept : ∀ w ∈ c.writes,
    c.harness.data.getValue w.row w.col = some w.value

theorem range_succ_product {α : Type} (n : ℕ) (xs : List α) :
    List.range (n + 1) ×ˢ xs = List.range n ×ˢ xs ++ xs.map (n, ·) := by
  simp [SProd.sprod, List.product, List.range_succ]

section

variable {inputs : ℕ → GpioInput} {b c : Board} {conductionNum : UInt8}
  {totalConductionNum startConductionNum : UInt16}

theorem drivesOnly_of_mode
    (hb : Ready conductionNum totalConductionNum startConductionNum b)
    {r : ℕ} {g : GpioState}
    (hmode : ∀ p, g.mode p =
      if b.harness.pinAt? ((r : ℤ) - b.harness.startConductionNum.toNat) =
        some p then .output else b.gpio.mode p)
    (hlevel : ∀ p, b.harness.pinAt? ((r : ℤ) -
      b.harness.startConductionNum.toNat) = some p → g.level p = true) :
    DrivesOnly b r g := by
  have hindex (j : ℕ) (p : Gpio) (hp : b.harness.pins[j]? = some p) :
      b.harness.pinAt? ((r : ℤ) - b.harness.startConductionNum.toNat) =
        some p ↔ r = b.harness.startConductionNum.toNat + j := by
    rw [pinAt?_eq_some_iff]
    constructor
    · rintro ⟨i, hi, hpi⟩
      have hlt := (List.getElem?_eq_some_iff.mp hpi).1
      have hij := (List.getElem?_inj hlt hb.nodup_pins).mp (hpi.trans hp.symm)
      omega
    · intro hr
      exact ⟨j, by omega, hp⟩
  constructor
  case driven =>
    intro j p hp
    rw [hmode, ← hindex j p hp]
    have hinput := hb.pins_input p (List.mem_of_getElem? hp)
    split
    next h => simp [h]
    next h => simp [h, hinput]
  case high =>
    intro j p hp hr
    exact hlevel p ((hindex j p hp).mpr hr)
  case others =>
    intro p hp
    rw [hmode, if_neg]
    intro h
    obtain ⟨j, -, hj⟩ := pinAt?_eq_some_iff.mp h
    exact hp (List.mem_of_getElem? hj)

theorem scanAt_zero
    (hb : Ready conductionNum totalConductionNum startConductionNum b)
    (htotal : 0 < totalConductionNum.toNat) :
    ScanAt inputs b 0
      (startWithCount b.harness.totalConductionNum.toNat b) := by
  have hstart : startWithCount b.harness.totalConductionNum.toNat b =
      { b with harness := { b.harness with
        triggerCount := 0
        maxTriggerCount := b.harness.totalConductionNum.toNat
        timerActive := true } } := by
    rw [startWithCount, if_pos (by rwa [hb.totalConductionNum_eq])]
  rw [hstart]
  constructor
  case triggerCount_eq => rfl
  case maxTriggerCount_eq => rfl
  case rowIndex_eq => exact hb.rowIndex_eq
  case pins_eq => rfl
  case conductionNum_eq => rfl
  case startConductionNum_eq => rfl
  case rows_eq => rw [hb.rows_eq, hb.totalConductionNum_eq]
  case cols_eq => rw [hb.cols_eq, hb.conductionNum_eq]
  case mode_eq =>
    intro p
    rw [pinAt?_eq_none (by omega)]
    simp
  case accesses_inRange => exact hb.accesses_inRange
  case cells_once =>
    rw [hb.writes_eq]
    rfl
  case writes_correct => simp [hb.writes_eq]
  case writes_kept => simp [hb.writes_eq]

/-- The board once a callback has counted itself. -/
def counted (c : Board) : Board :=
  { c with harness :=
    { c.harness with triggerCount := c.harness.triggerCount + 1 } }

theorem ScanAt.length_pins
    (hb : Ready conductionNum totalConductionNum startConductionNum b) {r : ℕ}
    (hc : ScanAt inputs b r c) :
    c.harness.pins.length = c.harness.conductionNum.toNat := by
  rw [hc.pins_eq, hc.conductionNum_eq, hb.length_pins, hb.conductionNum_eq]

theorem ScanAt.pinAt?_counted {r : ℕ} (hc : ScanAt inputs b r c) (i : ℤ) :
    (counted c).harness.pinAt? i = b.harness.pinAt? i :=
  pinAt?_congr _ _ _ hc.pins_eq

/-- `setCurrentPin` releases the pin of the row before and drives that of the
row. -/
theorem ScanAt.mode_setCurrentPin
    (hb : Ready conductionNum totalConductionNum startConductionNum b) {r : ℕ}
    (hc : ScanAt inputs b r c) (p : Gpio) :
    (setCurrentPin (counted c)).gpio.mode p =
      if b.harness.pinAt? ((r : ℤ) - b.harness.startConductionNum.toNat) =
        some p then .output else b.gpio.mode p := by
  have hpins : (counted c).harness.pins.length =
      (counted c).harness.conductionNum.toNat := (hc.length_pins hb :)
  rw [Harness.mode_setCurrentPin hpins, hc.pinAt?_counted,
    hc.pinAt?_counted]
  simp only [counted, hc.rowIndex_eq, hc.startConductionNum_eq, hc.mode_eq]
  split
  · rfl
  · split
    next hlast =>
      obtain ⟨j, -, hj⟩ := pinAt?_eq_some_iff.mp hlast
      exact (hb.pins_input p (List.mem_of_getElem? hj)).symm
    next => rfl

theorem ScanAt.drivesOnly
    (hb : Ready conductionNum totalConductionNum startConductionNum b) {r : ℕ}
    (hc : ScanAt inputs b r c) :
    DrivesOnly b r (setCurrentPin (counted c)).gpio := by
  refine drivesOnly_of_mode hb (hc.mode_setCurrentPin hb) fun p hp => ?_
  have hpins : (counted c).harness.pins.length =
      (counted c).harness.conductionNum.toNat := (hc.length_pins hb :)
  refine level_setCurrentPin hpins ?_
  rw [hc.pinAt?_counted]
  simpa only [counted, hc.rowIndex_eq, hc.startConductionNum_eq] using hp

/-- What the callback stores is correct. -/
theorem ScanAt.correctWrite
    (hb : Ready conductionNum totalConductionNum startConductionNum b) {r : ℕ}
    (hr : r < totalConductionNum.toNat) (hc : ScanAt inputs b r c) {i : ℕ}
    (hi : i < c.harness.data.cols) :
    CorrectWrite inputs b
      (rowWrite (inputs r) (setCurrentPin (counted c)) i) := by
  have hlt : i < b.harness.pins.length := by
    rw [hb.length_pins, ← hb.conductionNum_eq, ← hc.cols_eq]
    exact hi
  constructor
  case inBounds =>
    constructor
    · simpa [rowWrite, counted, hc.rowIndex_eq, hc.rows_eq,
        hb.totalConductionNum_eq] using hr
    · simpa [rowWrite, counted] using hi
  case drives =>
    simpa [rowWrite, counted, hc.rowIndex_eq] using hc.drivesOnly hb
  case sampled =>
    refine ⟨b.harness.pins[i], List.getElem?_eq_getElem hlt, ?_⟩
    simp [rowWrite, readPin, counted, hc.rowIndex_eq, hc.pins_eq, hlt]

theorem ScanAt.row_lt {r : ℕ} (hc : ScanAt inputs b r c) {w : CellWrite}
    (hw : w ∈ c.writes) : w.row < r := by
  have hmem : (w.row, w.col) ∈
      List.range r ×ˢ List.range b.harness.conductionNum.toNat := by
    rw [← hc.cells_once]
    exact List.mem_map_of_mem hw
  exact List.mem_range.mp (List.mem_product.mp hmem).1

/-- One callback before the last row moves the scan on by one row. -/
theorem scanAt_succ
    (hb : Ready conductionNum totalConductionNum startConductionNum b)
    {r : ℕ} (hr : r < totalConductionNum.toNat) (hc : ScanAt inputs b r c) :
    ScanAt inputs b (r + 1) (myTimerCallback (inputs r) c) := by
  have hpins := hc.length_pins hb
  rw [myTimerCallback_of_lt (by
    rw [hc.triggerCount_eq, hc.maxTriggerCount_eq, hb.totalConductionNum_eq]
    exact hr)]
  constructor
  case triggerCount_eq => rw [hc.triggerCount_eq]
  case maxTriggerCount_eq => exact hc.maxTriggerCount_eq
  case rowIndex_eq => rw [hc.rowIndex_eq]
  case pins_eq => exact hc.pins_eq
  case conductionNum_eq => exact hc.conductionNum_eq
  case startConductionNum_eq => exact hc.startConductionNum_eq
  case rows_eq => rw [BinaryMatrix.rows_fillRow, hc.rows_eq]
  case cols_eq => rw [BinaryMatrix.cols_fillRow, hc.cols_eq]
  case mode_eq =>
    intro p
    refine (hc.mode_setCurrentPin hb p).trans ?_
    have hindex : (r : ℤ) - b.harness.startConductionNum.toNat =
        ((r + 1 : ℕ) : ℤ) - b.harness.startConductionNum.toNat - 1 := by
      omega
    rw [hindex]
  case accesses_inRange =>
    intro a ha
    rcases List.mem_append.mp ha with ha | ha
    · exact accesses_setCurrentPin (b := counted c) hpins
        hc.accesses_inRange a ha
    · obtain ⟨i, hi, rfl⟩ := List.mem_map.mp ha
      rw [List.mem_range, hc.cols_eq] at hi
      rw [hc.conductionNum_eq] at hpins
      constructor <;> simp only <;> omega
  case cells_once =>
    rw [range_succ_product, List.map_append, hc.cells_once, List.map_map,
      hc.cols_eq]
    simp [rowWrite, hc.rowIndex_eq, Function.comp_def]
  case writes_correct =>
    intro w hw
    rcases List.mem_append.mp hw with hw | hw
    · exact hc.writes_correct w hw
    · obtain ⟨i, hi, rfl⟩ := List.mem_map.mp hw
      exact hc.correctWrite hb hr (List.mem_range.mp hi)
  case writes_kept =>
    intro w hw
    rcases List.mem_append.mp hw with hw | hw
    · have hrow : c.harness.rowIndex ≠ w.row := by
        rw [hc.rowIndex_eq]
        exact (hc.row_lt hw).ne'
      simp only
      rw [BinaryMatrix.getValue_fillRow_of_ne _ _ _ _ hrow]
      exact hc.writes_kept w hw
    · obtain ⟨i, hi, rfl⟩ := List.mem_map.mp hw
      rw [List.mem_range] at hi
      have hrow : c.harness.rowIndex < c.harness.data.rows := by
        rw [hc.rowIndex_eq, hc.rows_eq, hb.totalConductionNum_eq]
        exact hr
      simpa [rowWrite, counted] using
        BinaryMatrix.getValue_fillRow_self c.harness.data
          (readPin (inputs r) (setCurrentPin (counted c))) hrow le_rfl hi

theorem scanAt_callbacks (inputs : ℕ → GpioInput)
    (hb : Ready conductionNum totalConductionNum startConductionNum b)
    (htotal : 0 < totalConductionNum.toNat) {r : ℕ}
    (hr : r ≤ totalConductionNum.toNat) :
    ScanAt inputs b r (callbacks inputs
      (startWithCount b.harness.totalConductionNum.toNat b) r) := by
  induction r with
  | zero => exact scanAt_zero hb htotal
  | succ r ih => exact scanAt_succ hb (by omega) (ih (by omega))

/-- The callback after the last row releases `pins[total - start - 1]`. -/
theorem scan_eq (inputs : ℕ → GpioInput)
    (hb : Ready conductionNum totalConductionNum startConductionNum b)
    (htotal : 0 < totalConductionNum.toNat) :
    ∃ c, ScanAt inputs b totalConductionNum.toNat c ∧
      (scan inputs b).harness.data = c.harness.data ∧
      (scan inputs b).harness.pins = b.harness.pins ∧
      (scan inputs b).harness.timerActive = false ∧
      (scan inputs b).harness.rowIndex = 0 ∧
      (scan inputs b).writes = c.writes ∧
      (scan inputs b).accesses = c.accesses ++
        List.replicate 2 ⟨(totalConductionNum.toNat : ℤ) -
          startConductionNum.toNat - 1, conductionNum.toNat⟩ ∧
      ∀ p, (scan inputs b).gpio.mode p =
        if b.harness.pinAt? ((totalConductionNum.toNat : ℤ) -
          startConductionNum.toNat - 1) = some p then .input
        else b.gpio.mode p := by
  have hc := scanAt_callbacks inputs hb htotal le_rfl
  refine ⟨_, hc, ?_⟩
  have hscan : scan inputs b = myTimerCallback
      (inputs totalConductionNum.toNat)
      (callbacks inputs
        (startWithCount b.harness.totalConductionNum.toNat b)
        totalConductionNum.toNat) := by
    rw [scan, hb.totalConductionNum_eq, callbacks]
  rw [hscan]
  set c := callbacks inputs
    (startWithCount b.harness.totalConductionNum.toNat b)
    totalConductionNum.toNat with hcdef
  have hmax : c.harness.maxTriggerCount = totalConductionNum.toNat := by
    rw [hc.maxTriggerCount_eq, hb.totalConductionNum_eq]
  rw [myTimerCallback_of_le (by rw [hmax]; exact htotal)
    (by rw [hmax, hc.triggerCount_eq])]
  have hlength : c.harness.pins.length = conductionNum.toNat := by
    rw [hc.pins_eq, hb.length_pins]
  refine ⟨rfl, hc.pins_eq, rfl, rfl, rfl, ?_, fun p => ?_⟩
  · simp only [reload, accesses_releasePin, hc.rowIndex_eq,
      hc.startConductionNum_eq, hb.startConductionNum_eq, hlength]
  · simp only [reload, mode_releasePin, hc.rowIndex_eq,
      hc.startConductionNum_eq, hb.startConductionNum_eq]
    rw [pinAt?_congr _ b.harness _ (by exact hc.pins_eq), hc.mode_eq,
      hb.startConductionNum_eq]
    split <;> rfl

end

/-- A scan is correct exactly when this slave's interval ends at the last row:
`reload` indexes `pins` with the distance of the last row from the interval's
start. -/
theorem scanCorrect_iff (h : Harness) (g : GpioState)
    (inputs : ℕ → GpioInput) (conductionNum : UInt8)
    (totalConductionNum startConductionNum : UInt16)
    (hpins : h.pins = []) (hrow : h.rowIndex = 0)
    (hpos : 1 ≤ conductionNum.toNat) (hcond : conductionNum.toNat ≤ 62)
    (hfits : startConductionNum.toNat + conductionNum.toNat ≤
      totalConductionNum.toNat) :
    let b := init conductionNum totalConductionNum startConductionNum
      { harness := h, gpio := g }
    ScanCorrect inputs b (scan inputs b) ↔
      startConductionNum.toNat + conductionNum.toNat =
        totalConductionNum.toNat := by
  intro b
  have hb : Ready conductionNum totalConductionNum startConductionNum b :=
    ready_init g _ _ hpins hrow hcond
  obtain ⟨c, hc, hdata, hpinsEq, hstopped, hrowEq, hwrites, haccesses,
    hmode⟩ := scan_eq inputs hb (by omega)
  constructor
  · intro hcorrect
    have hlast := hcorrect.accesses_inRange
      ⟨(totalConductionNum.toNat : ℤ) - startConductionNum.toNat - 1,
        conductionNum.toNat⟩ (by simp [haccesses])
    have hlt := hlast.2
    simp only at hlt
    omega
  · intro hends
    constructor
    case accesses_inRange =>
      intro a ha
      rw [haccesses] at ha
      rcases List.mem_append.mp ha with ha | ha
      · exact hc.accesses_inRange a ha
      · obtain ⟨-, rfl⟩ := List.mem_replicate.mp ha
        constructor <;> simp only <;> omega
    case cells_once =>
      rw [hwrites, hc.cells_once, hb.totalConductionNum_eq]
    case writes_correct =>
      rw [hwrites]
      exact hc.writes_correct
    case writes_kept =>
      rw [hwrites, hdata]
      exact hc.writes_kept
    case timer_stopped => exact hstopped
    case rowIndex_zero => exact hrowEq
    case pins_input =>
      intro p hp
      rw [hpinsEq] at hp
      rw [hmode]
      split
      · rfl
      · exact hb.pins_input p hp

/-- All pins inputs and low. -/
def restingGpio : GpioState :=
  ⟨fun _ => .input, fun _ => false⟩

/-- The last two lines of a harness of five; the pin of line 3 reads high in
the second row, and every pin that is driven. -/
theorem scanCorrect_lastTwo :
    let inputs : ℕ → GpioInput := fun k g p =>
      g.level p || decide (k = 1 ∧ p = pinInfo 0)
    let b := init 2 5 3 { harness := {}, gpio := restingGpio }
    ScanCorrect inputs b (scan inputs b) :=
  (scanCorrect_iff {} restingGpio _ 2 5 3 rfl rfl (by decide) (by decide)
    (by decide)).mpr (by decide)

/-- The first of two one-line slaves: the final `reload` indexes `pins[1]` in
a vector of size 1. -/
theorem not_scanCorrect_firstOfTwo :
    let b := init 1 2 0 { harness := {}, gpio := restingGpio }
    ¬ ScanCorrect (fun _ _ _ => false) b (scan (fun _ _ _ => false) b) := by
  intro b hcorrect
  have hmem : (⟨1, 1⟩ : PinAccess) ∈
      (scan (fun _ _ _ => false) b).accesses := by
    decide
  have hrange := hcorrect.accesses_inRange _ hmem
  revert hrange
  decide

end Harness

end WirelessHarness
