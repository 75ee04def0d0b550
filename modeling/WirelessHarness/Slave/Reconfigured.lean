import WirelessHarness.Slave.Device
import WirelessHarness.Slave.Scan

/-!
# A slave that is configured again

`init` appends the pins of a configuration to those of earlier ones, and the
master sends a configuration again when it misses the reply.  A scan only uses
the first `conductionNum` pins, so that it is the same however often the slave
has received its configuration.
-/

namespace WirelessHarness

namespace Harness

/-! ## More pins than lines -/

/-- `b` is `c` with more pins behind those of its lines. -/
structure Extends (extra : List Gpio) (b c : Board) : Prop where
  harness_eq : b.harness =
    { c.harness with pins := c.harness.pins ++ extra }
  gpio_eq : b.gpio = c.gpio
  length_pins : c.harness.pins.length = c.harness.conductionNum.toNat
  cols_eq : c.harness.data.cols = c.harness.conductionNum.toNat

namespace Extends

variable {extra : List Gpio} {b c : Board} (h : Extends extra b c)

include h

theorem getElem?_pins {i : ℕ} (hi : i < c.harness.conductionNum.toNat) :
    b.harness.pins[i]? = c.harness.pins[i]? := by
  rw [h.harness_eq]
  apply List.getElem?_append_left
  rw [h.length_pins]
  exact hi

theorem withPin {i : ℤ} (hi : i < c.harness.conductionNum.toNat)
    (call : GpioState → Gpio → GpioState) :
    Extends extra (withPin b i call) (withPin c i call) := by
  have hpin : b.harness.pinAt? i = c.harness.pinAt? i := by
    unfold pinAt?
    split
    · exact h.getElem?_pins (by omega)
    · rfl
  refine { h with gpio_eq := ?_ }
  simp only [Harness.withPin, hpin, h.gpio_eq]

theorem releasePin {i : ℤ} (hi : i < c.harness.conductionNum.toNat) :
    Extends extra (releasePin b i) (releasePin c i) :=
  (h.withPin hi GpioState.bit_reset).withPin hi _

theorem drivePin {i : ℤ} (hi : i < c.harness.conductionNum.toNat) :
    Extends extra (drivePin b i) (drivePin c i) :=
  (h.withPin hi _).withPin hi GpioState.bit_set

/-- The index is tested against `conductionNum`. -/
theorem releaseLastPin :
    Extends extra (releaseLastPin b) (releaseLastPin c) := by
  simp only [Harness.releaseLastPin, h.harness_eq]
  split
  next hlast => exact h.releasePin hlast.2
  next => exact h

theorem driveRowPin : Extends extra (driveRowPin b) (driveRowPin c) := by
  rw [driveRowPin_eq, driveRowPin_eq]
  have hout : b.harness.isDeviceOutput = c.harness.isDeviceOutput := by
    rw [h.harness_eq]
    rfl
  rw [hout]
  split
  next hout =>
    have hlt := (isDeviceOutput_eq_true_iff _).mp hout
    simp only [h.harness_eq]
    exact h.drivePin (by omega)
  next => exact h

theorem setCurrentPin :
    Extends extra (setCurrentPin b) (setCurrentPin c) :=
  h.releaseLastPin.driveRowPin

theorem counted : Extends extra (counted b) (counted c) where
  harness_eq := by
    simp only [Harness.counted, h.harness_eq]
  gpio_eq := h.gpio_eq
  length_pins := h.length_pins
  cols_eq := h.cols_eq

theorem startWithCount (count : ℕ) :
    Extends extra (startWithCount count b) (startWithCount count c) := by
  unfold Harness.startWithCount
  split
  · constructor
    case harness_eq => simp only [h.harness_eq]
    case gpio_eq => exact h.gpio_eq
    case length_pins => exact h.length_pins
    case cols_eq => exact h.cols_eq
  · exact h

/-- The pins of the columns are sampled, and there are as many as lines. -/
theorem readPin (input : GpioInput) {i : ℕ}
    (hi : i < c.harness.data.cols) :
    readPin input b i = readPin input c i := by
  rw [h.cols_eq] at hi
  rw [Harness.readPin, Harness.readPin, h.getElem?_pins hi, h.gpio_eq]

/-- Before the last row a callback does not see the pins behind. -/
theorem myTimerCallback (input : GpioInput)
    (hlt : c.harness.triggerCount < c.harness.maxTriggerCount) :
    Extends extra (myTimerCallback input b) (myTimerCallback input c) := by
  have hset := h.counted.setCurrentPin
  have hread (i : ℕ) (hi : i < c.harness.data.cols) :
      Harness.readPin input (Harness.setCurrentPin (Harness.counted b)) i =
        Harness.readPin input
          (Harness.setCurrentPin (Harness.counted c)) i := by
    apply hset.readPin input
    rw [harness_setCurrentPin]
    exact hi
  have hfill := c.harness.data.fillRow_congr c.harness.rowIndex hread
  have hlt' : b.harness.triggerCount < b.harness.maxTriggerCount := by
    rw [h.harness_eq]
    exact hlt
  rw [myTimerCallback_of_lt hlt, myTimerCallback_of_lt hlt']
  constructor
  case harness_eq =>
    rw [Harness.counted, Harness.counted] at hfill
    simp only [h.harness_eq] at hfill ⊢
    rw [hfill]
  case gpio_eq => exact hset.gpio_eq
  case length_pins => exact h.length_pins
  case cols_eq =>
    rw [BinaryMatrix.cols_fillRow]
    exact h.cols_eq

/-- Up to the end of the last row. -/
theorem callbacks {conductionNum : UInt8}
    {totalConductionNum startConductionNum : UInt16}
    (hc : Ready conductionNum totalConductionNum startConductionNum c)
    (ins : ℕ → GpioInput) {r : ℕ} (hr : r ≤ totalConductionNum.toNat) :
    Extends extra
      (callbacks ins
        (Harness.startWithCount c.harness.totalConductionNum.toNat b) r)
      (callbacks ins
        (Harness.startWithCount c.harness.totalConductionNum.toNat c) r) := by
  induction r with
  | zero => exact h.startWithCount _
  | succ r ih =>
      have hscan := scanAt_callbacks ins hc (by omega) (Nat.le_of_succ_le hr)
      apply (ih (Nat.le_of_succ_le hr)).myTimerCallback
      rw [hscan.triggerCount_eq, hscan.maxTriggerCount_eq,
        hc.totalConductionNum_eq]
      exact hr

end Extends

theorem Ready.extends_self {conductionNum : UInt8}
    {totalConductionNum startConductionNum : UInt16} {c : Board}
    (hc : Ready conductionNum totalConductionNum startConductionNum c) :
    Extends [] c c where
  harness_eq := by rw [List.append_nil]
  gpio_eq := rfl
  length_pins := by rw [hc.length_pins, hc.conductionNum_eq]
  cols_eq := by rw [hc.cols_eq, hc.conductionNum_eq]

/-- The callback that ends a scan stops the timer and releases the pin of the
last row. -/
theorem ended_of_extends {extra : List Gpio} {b c : Board}
    {conductionNum : UInt8} {totalConductionNum startConductionNum : UInt16}
    (hc : Ready conductionNum totalConductionNum startConductionNum c)
    (hinput : ∀ q ∈ condPinInfo, c.gpio.mode q = .input)
    (htotal : 0 < totalConductionNum.toNat) {ins : ℕ → GpioInput}
    (hb : Extends extra b (callbacks ins
      (startWithCount c.harness.totalConductionNum.toNat c)
      totalConductionNum.toNat)) (input : GpioInput) :
    let d := myTimerCallback input b
    d.harness.timerActive = false ∧ d.harness.rowIndex = 0 ∧
      d.harness.data = b.harness.data ∧ d.harness.pins = b.harness.pins ∧
      ∀ q ∈ condPinInfo, d.gpio.mode q = .input := by
  have hscan := scanAt_callbacks ins hc htotal le_rfl
  have hmax : b.harness.maxTriggerCount = totalConductionNum.toNat := by
    rw [hb.harness_eq]
    exact hscan.maxTriggerCount_eq.trans
      (congrArg UInt16.toNat hc.totalConductionNum_eq)
  have htrigger : b.harness.triggerCount = totalConductionNum.toNat := by
    rw [hb.harness_eq]
    exact hscan.triggerCount_eq
  simp only
  rw [myTimerCallback_of_le (htotal.trans_eq hmax.symm)
    (hmax.trans htrigger.symm).le]
  refine ⟨rfl, rfl, rfl, rfl, fun q hq => ?_⟩
  simp only [reload, mode_releasePin, hb.gpio_eq, hscan.mode_eq]
  by_cases hdriven : c.harness.pinAt? ((totalConductionNum.toNat : ℤ) -
      c.harness.startConductionNum.toNat - 1) = some q
  · obtain ⟨i, hi, hpin⟩ := pinAt?_eq_some_iff.mp hdriven
    rw [if_pos]
    apply pinAt?_eq_some_iff.mpr
    refine ⟨i, ?_, ?_⟩
    · simp only [hb.harness_eq, hscan.rowIndex_eq,
        hscan.startConductionNum_eq]
      exact hi
    · simp only [hb.harness_eq, hscan.pins_eq]
      rw [List.getElem?_append_left (List.getElem?_eq_some_iff.mp hpin).1]
      exact hpin
  · rw [if_neg hdriven, hinput q hq, ite_self]

/-! ## The same configuration again -/

theorem mode_set_of_eq {g : GpioState} {p : Gpio} {mode : GpioMode}
    (h : g.mode p = mode) : g.mode_set p mode = g := by
  rw [GpioState.mode_set, ← h, Function.update_eq_self]

/-- Pins that are inputs already stay as they are. -/
theorem gpio_init_of_input {conductionNum : UInt8}
    (totalConductionNum startConductionNum : UInt16) {b : Board}
    (hinput : ∀ i < conductionNum.toNat, b.gpio.mode (pinInfo i) = .input) :
    (init conductionNum totalConductionNum startConductionNum b).gpio =
      b.gpio := by
  have hfold (n : ℕ) (hn : n ≤ conductionNum.toNat) (b' : Board)
      (hb' : b'.gpio = b.gpio) :
      ((List.range n).foldl emplacePin b').gpio = b.gpio := by
    induction n with
    | zero => exact hb'
    | succ n ih =>
        have hprev := ih (Nat.le_of_succ_le hn)
        rw [List.range_succ, List.foldl_append]
        simp only [List.foldl_cons, List.foldl_nil, emplacePin, hprev]
        exact mode_set_of_eq (hinput n hn)
  exact hfold _ le_rfl _ rfl

theorem setPeriod_of_inactive {b : Board} (interval : UInt8)
    (h : b.harness.timerActive = false) : setPeriod interval b = b := by
  unfold setPeriod
  split
  · rw [← h]
  · rfl

/-- A slave that is configured as before has the same board but for more
pins. -/
theorem Extends.configured {extra : List Gpio} {b c : Board}
    (h : Extends extra b c) {conductionNum : UInt8}
    {totalConductionNum startConductionNum : UInt16}
    (hc : Ready conductionNum totalConductionNum startConductionNum c)
    (hinactive : c.harness.timerActive = false)
    (hpins : ∀ i < conductionNum.toNat, pinInfo i ∈ c.harness.pins)
    (interval : UInt8) :
    Extends (extra ++ (List.range conductionNum.toNat).map pinInfo)
      (init conductionNum totalConductionNum startConductionNum
        (setPeriod interval b)) c := by
  have hperiod : setPeriod interval b = b := by
    apply setPeriod_of_inactive
    rw [h.harness_eq]
    exact hinactive
  obtain ⟨hharness, -⟩ := init_spec conductionNum totalConductionNum
    startConductionNum b
  rw [hperiod]
  refine { h with harness_eq := ?_, gpio_eq := ?_ }
  · have hdata := c.harness.data.resize_self
    rw [hc.rows_eq, hc.cols_eq, ← hc.conductionNum_eq,
      ← hc.totalConductionNum_eq] at hdata
    rw [hharness, h.harness_eq]
    simp only [← hc.conductionNum_eq, ← hc.totalConductionNum_eq,
      ← hc.startConductionNum_eq, List.append_assoc, hdata]
  · rw [gpio_init_of_input, h.gpio_eq]
    intro i hi
    rw [h.gpio_eq]
    exact hc.pins_input _ (hpins i hi)

end Harness

end WirelessHarness
