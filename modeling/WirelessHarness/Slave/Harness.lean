import WirelessHarness.Slave.BinaryMatrix

/-!
# The harness of a slave

The GPIO pins, the `Harness` object and its timer callback.  The operations
also record what they index: every access to `pins` and `condPinInfo`, and
every `setValue` call with the GPIO state at the sample.  An index outside a
vector is undefined in the source; it is recorded here and has no further
effect.
-/

namespace WirelessHarness

/-! ## GPIO -/

/-- `GPIO::Port`. -/
inductive GpioPort
  | A
  | B
  | C
  | D
  | E
  | F
  | G
deriving DecidableEq, Repr

/-- `GPIO::Mode`. -/
inductive GpioMode
  | input
  | output
  | af
  | analog
deriving DecidableEq, Repr

/-- A `GPIO` object: which physical pin it drives. -/
structure Gpio where
  port : GpioPort
  pin : Fin 16
deriving DecidableEq, Repr

/-- Mode and output level of every physical pin. -/
structure GpioState where
  mode : Gpio → GpioMode
  level : Gpio → Bool

namespace GpioState

def mode_set (g : GpioState) (p : Gpio) (mode : GpioMode) : GpioState :=
  { g with mode := Function.update g.mode p mode }

def bit_set (g : GpioState) (p : Gpio) : GpioState :=
  { g with level := Function.update g.level p true }

def bit_reset (g : GpioState) (p : Gpio) : GpioState :=
  { g with level := Function.update g.level p false }

@[simp] theorem mode_bit_set (g : GpioState) (p : Gpio) :
    (g.bit_set p).mode = g.mode := rfl

@[simp] theorem mode_bit_reset (g : GpioState) (p : Gpio) :
    (g.bit_reset p).mode = g.mode := rfl

theorem mode_mode_set (g : GpioState) (p q : Gpio) (mode : GpioMode) :
    (g.mode_set p mode).mode q = if q = p then mode else g.mode q := by
  simp [mode_set, Function.update_apply]

@[simp] theorem level_bit_set (g : GpioState) (p : Gpio) :
    (g.bit_set p).level p = true := by
  simp [bit_set]

end GpioState

/-- The levels read at the pins, which depend on what this and the other
slaves drive. -/
abbrev GpioInput := GpioState → Gpio → Bool

/-- `condPinInfo`, 62 pins. -/
def condPinInfo : List Gpio :=
  [⟨.A, 3⟩, ⟨.A, 4⟩, ⟨.A, 5⟩, ⟨.A, 6⟩, ⟨.A, 7⟩,
    ⟨.C, 4⟩, ⟨.C, 5⟩, ⟨.B, 0⟩, ⟨.B, 1⟩,
    ⟨.F, 11⟩, ⟨.F, 12⟩, ⟨.F, 13⟩, ⟨.F, 14⟩, ⟨.F, 15⟩,
    ⟨.G, 0⟩, ⟨.G, 1⟩,
    ⟨.E, 7⟩, ⟨.E, 8⟩, ⟨.E, 9⟩, ⟨.E, 10⟩, ⟨.E, 11⟩, ⟨.E, 12⟩, ⟨.E, 13⟩,
    ⟨.E, 14⟩, ⟨.E, 15⟩,
    ⟨.B, 10⟩, ⟨.B, 11⟩, ⟨.B, 12⟩, ⟨.B, 13⟩, ⟨.B, 14⟩, ⟨.B, 15⟩,
    ⟨.D, 8⟩, ⟨.D, 9⟩, ⟨.D, 10⟩, ⟨.D, 11⟩, ⟨.D, 12⟩, ⟨.D, 13⟩, ⟨.D, 14⟩,
    ⟨.D, 15⟩,
    ⟨.G, 2⟩, ⟨.G, 3⟩, ⟨.G, 4⟩, ⟨.G, 5⟩, ⟨.G, 6⟩, ⟨.G, 7⟩, ⟨.G, 8⟩,
    ⟨.C, 6⟩, ⟨.C, 7⟩, ⟨.C, 8⟩, ⟨.C, 9⟩,
    ⟨.A, 8⟩, ⟨.A, 9⟩, ⟨.A, 10⟩, ⟨.A, 11⟩, ⟨.A, 12⟩, ⟨.A, 15⟩,
    ⟨.C, 10⟩, ⟨.C, 11⟩,
    ⟨.D, 0⟩, ⟨.D, 1⟩, ⟨.D, 3⟩, ⟨.D, 4⟩]

theorem length_condPinInfo : condPinInfo.length = 62 := rfl

theorem nodup_condPinInfo : condPinInfo.Nodup := by
  decide

/-! ## The harness object -/

/-- The initial values are those of the zero-initialized global. -/
structure Harness where
  timerActive : Bool := false
  triggerCount : ℕ := 0
  maxTriggerCount : ℕ := 0
  data : BinaryMatrix := .empty
  pins : List Gpio := []
  rowIndex : ℕ := 0
  conductionNum : UInt8 := 0
  totalConductionNum : UInt16 := 0
  startConductionNum : UInt16 := 0

/-- An evaluated index of `pins` or `condPinInfo` and the size of the vector it
indexes. -/
structure PinAccess where
  index : ℤ
  size : ℕ
deriving DecidableEq, Repr

def PinAccess.InRange (a : PinAccess) : Prop :=
  0 ≤ a.index ∧ a.index < a.size

instance (a : PinAccess) : Decidable a.InRange :=
  inferInstanceAs (Decidable (_ ∧ _))

/-- One call of `setValue`: its arguments, the size of the matrix it is called
on and the GPIO state in which the value was sampled. -/
structure CellWrite where
  row : ℕ
  col : ℕ
  value : Bool
  rows : ℕ
  cols : ℕ
  gpio : GpioState

def CellWrite.InBounds (w : CellWrite) : Prop :=
  w.row < w.rows ∧ w.col < w.cols

instance (w : CellWrite) : Decidable w.InBounds :=
  inferInstanceAs (Decidable (_ ∧ _))

/-- The harness, the pins it works on and the record of its accesses. -/
structure Board where
  harness : Harness := {}
  gpio : GpioState
  accesses : List PinAccess := []
  writes : List CellWrite := []

namespace Harness

/-- The pin at an index computed as an `int`. -/
def pinAt? (h : Harness) (i : ℤ) : Option Gpio :=
  if 0 ≤ i then h.pins[i.toNat]? else none

def isDeviceOutput (h : Harness) : Bool :=
  decide (h.startConductionNum.toNat ≤ h.rowIndex ∧
    h.rowIndex < h.startConductionNum.toNat + h.conductionNum.toNat)

/-- A member call on `pins[i]`. -/
def withPin (b : Board) (i : ℤ) (call : GpioState → Gpio → GpioState) :
    Board :=
  { b with
    gpio := match b.harness.pinAt? i with
      | some p => call b.gpio p
      | none => b.gpio
    accesses := b.accesses ++ [⟨i, b.harness.pins.length⟩] }

/-- `bit_reset` and `mode_set(INPUT)` on `pins[i]`. -/
def releasePin (b : Board) (i : ℤ) : Board :=
  withPin (withPin b i GpioState.bit_reset) i
    fun g p => g.mode_set p .input

/-- `mode_set(OUTPUT)` and `bit_set` on `pins[i]`. -/
def drivePin (b : Board) (i : ℤ) : Board :=
  withPin (withPin b i fun g p => g.mode_set p .output) i GpioState.bit_set

/-- `pins[i].input_bit_get()`. -/
def readPin (input : GpioInput) (b : Board) (i : ℕ) : Bool :=
  match b.harness.pins[i]? with
  | some p => input b.gpio p
  | none => false

/-- One iteration of the sampling loop. -/
def sample (input : GpioInput) (b : Board) (i : ℕ) : Board :=
  let h := b.harness
  let value := readPin input b i
  { b with
    harness := { h with data := h.data.setValue h.rowIndex i value }
    accesses := b.accesses ++ [⟨i, h.pins.length⟩]
    writes := b.writes ++
      [⟨h.rowIndex, i, value, h.data.rows, h.data.cols, b.gpio⟩] }

/-- The pin of the previous row, when that row is one of this slave's. -/
def releaseLastPin (b : Board) : Board :=
  let lastIndex : ℤ :=
    (b.harness.rowIndex : ℤ) - b.harness.startConductionNum.toNat - 1
  if 0 ≤ lastIndex ∧ lastIndex < b.harness.conductionNum.toNat then
    releasePin b lastIndex
  else b

/-- The pin of the current row, when that row is one of this slave's. -/
def driveRowPin (b : Board) : Board :=
  let index : ℤ := (b.harness.rowIndex : ℤ) - b.harness.startConductionNum.toNat
  if b.harness.isDeviceOutput then
    if index < b.harness.conductionNum.toNat then drivePin b index else b
  else b

/-- The part of `run` before the sampling loop. -/
def setCurrentPin (b : Board) : Board :=
  driveRowPin (releaseLastPin b)

def run (input : GpioInput) (b : Board) : Board :=
  let b := setCurrentPin b
  (List.range b.harness.data.cols).foldl (sample input) b

/-- `pins[lastIndex]` is not tested here. -/
def reload (b : Board) : Board :=
  let lastIndex : ℤ :=
    (b.harness.rowIndex : ℤ) - b.harness.startConductionNum.toNat - 1
  let b := releasePin b lastIndex
  { b with harness := { b.harness with rowIndex := 0 } }

def startWithCount (count : ℕ) (b : Board) : Board :=
  if 0 < count then
    { b with harness :=
      { b.harness with
        triggerCount := 0
        maxTriggerCount := count
        timerActive := true } }
  else b

/-- The counter is compared and then incremented, whichever way the comparison
goes.  In the source `run` blocks for two ticks before it drives a pin and for
four before it samples; here a callback is one event. -/
def myTimerCallback (input : GpioInput) (b : Board) : Board :=
  let h := b.harness
  if 0 < h.maxTriggerCount then
    let b := { b with harness := { h with triggerCount := h.triggerCount + 1 } }
    if h.maxTriggerCount ≤ h.triggerCount then
      reload { b with harness := { b.harness with timerActive := false } }
    else
      let b := run input b
      { b with harness := { b.harness with rowIndex := b.harness.rowIndex + 1 } }
  else
    let b := run input b
    { b with harness := { b.harness with rowIndex := b.harness.rowIndex + 1 } }

/-- Changing the period of the timer ends with stopping it. -/
def setPeriod (interval : UInt8) (b : Board) : Board :=
  if 0 < interval then
    { b with harness := { b.harness with timerActive := false } }
  else b

/-- `condPinInfo[i]`; behind its end the program reads some other pin. -/
def pinInfo (i : ℕ) : Gpio :=
  condPinInfo.getD i ⟨.A, 0⟩

/-- One iteration of the loop in `init`: `emplace_back` constructs a `GPIO` as
an input. -/
def emplacePin (b : Board) (i : ℕ) : Board :=
  let p := pinInfo i
  { b with
    harness := { b.harness with pins := b.harness.pins ++ [p] }
    gpio := b.gpio.mode_set p .input
    accesses := b.accesses ++ [⟨i, condPinInfo.length⟩] }

/-- The pins are appended to those of earlier calls. -/
def init (conductionNum : UInt8) (totalConductionNum startConductionNum : UInt16)
    (b : Board) : Board :=
  let b := { b with harness :=
    { b.harness with
      conductionNum
      totalConductionNum
      startConductionNum
      data := b.harness.data.resize totalConductionNum.toNat
        conductionNum.toNat } }
  (List.range conductionNum.toNat).foldl emplacePin b

end Harness

end WirelessHarness
