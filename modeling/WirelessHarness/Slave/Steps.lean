import WirelessHarness.Slave.Harness

/-!
# What each harness operation does

One description for each operation of the harness: which pins change their
mode, what a run of the sampling loop writes, and what one timer callback and
one `init` do to the object.
-/

namespace WirelessHarness

namespace Harness

/-! ## What the operations leave unchanged -/

@[simp] theorem harness_withPin (b : Board) (i : ℤ)
    (call : GpioState → Gpio → GpioState) :
    (withPin b i call).harness = b.harness := rfl

@[simp] theorem writes_withPin (b : Board) (i : ℤ)
    (call : GpioState → Gpio → GpioState) :
    (withPin b i call).writes = b.writes := rfl

@[simp] theorem harness_releasePin (b : Board) (i : ℤ) :
    (releasePin b i).harness = b.harness := rfl

@[simp] theorem writes_releasePin (b : Board) (i : ℤ) :
    (releasePin b i).writes = b.writes := rfl

@[simp] theorem harness_drivePin (b : Board) (i : ℤ) :
    (drivePin b i).harness = b.harness := rfl

@[simp] theorem writes_drivePin (b : Board) (i : ℤ) :
    (drivePin b i).writes = b.writes := rfl

@[simp] theorem harness_releaseLastPin (b : Board) :
    (releaseLastPin b).harness = b.harness := by
  simp only [releaseLastPin]
  split <;> simp

@[simp] theorem writes_releaseLastPin (b : Board) :
    (releaseLastPin b).writes = b.writes := by
  simp only [releaseLastPin]
  split <;> simp

@[simp] theorem harness_driveRowPin (b : Board) :
    (driveRowPin b).harness = b.harness := by
  simp only [driveRowPin]
  split
  · split <;> simp
  · rfl

@[simp] theorem writes_driveRowPin (b : Board) :
    (driveRowPin b).writes = b.writes := by
  simp only [driveRowPin]
  split
  · split <;> simp
  · rfl

@[simp] theorem harness_setCurrentPin (b : Board) :
    (setCurrentPin b).harness = b.harness := by
  rw [setCurrentPin, harness_driveRowPin, harness_releaseLastPin]

@[simp] theorem writes_setCurrentPin (b : Board) :
    (setCurrentPin b).writes = b.writes := by
  rw [setCurrentPin, writes_driveRowPin, writes_releaseLastPin]

@[simp] theorem pins_setPeriod (interval : UInt8) (b : Board) :
    (setPeriod interval b).harness.pins = b.harness.pins := by
  unfold setPeriod
  split <;> rfl

@[simp] theorem rowIndex_setPeriod (interval : UInt8) (b : Board) :
    (setPeriod interval b).harness.rowIndex = b.harness.rowIndex := by
  unfold setPeriod
  split <;> rfl

@[simp] theorem gpio_setPeriod (interval : UInt8) (b : Board) :
    (setPeriod interval b).gpio = b.gpio := by
  unfold setPeriod
  split <;> rfl

@[simp] theorem accesses_setPeriod (interval : UInt8) (b : Board) :
    (setPeriod interval b).accesses = b.accesses := by
  unfold setPeriod
  split <;> rfl

/-! ## Pins -/

theorem pinAt?_congr (h k : Harness) (i : ℤ) (hpins : h.pins = k.pins) :
    h.pinAt? i = k.pinAt? i := by
  rw [pinAt?, pinAt?, hpins]

theorem pinAt?_eq_none {h : Harness} {i : ℤ}
    (hi : i < 0 ∨ (h.pins.length : ℤ) ≤ i) : h.pinAt? i = none := by
  unfold pinAt?
  split
  · exact List.getElem?_eq_none (by omega)
  · rfl

/-- A list read at an index computed as an `int`. -/
theorem read_int_eq_some_iff {l : List Gpio} {i : ℤ} {p : Gpio} :
    (if 0 ≤ i then l[i.toNat]? else none) = some p ↔
      ∃ j : ℕ, i = j ∧ l[j]? = some p := by
  constructor
  · intro hp
    split at hp
    · exact ⟨i.toNat, by omega, hp⟩
    · cases hp
  · rintro ⟨j, rfl, hp⟩
    simpa using hp

theorem pinAt?_eq_some_iff {h : Harness} {i : ℤ} {p : Gpio} :
    h.pinAt? i = some p ↔ ∃ j : ℕ, i = j ∧ h.pins[j]? = some p :=
  read_int_eq_some_iff

theorem mode_releasePin (b : Board) (i : ℤ) (p : Gpio) :
    (releasePin b i).gpio.mode p =
      if b.harness.pinAt? i = some p then .input else b.gpio.mode p := by
  simp only [releasePin, withPin]
  cases b.harness.pinAt? i with
  | none => simp
  | some q => simp [GpioState.mode_mode_set, eq_comm]

theorem mode_drivePin (b : Board) (i : ℤ) (p : Gpio) :
    (drivePin b i).gpio.mode p =
      if b.harness.pinAt? i = some p then .output else b.gpio.mode p := by
  simp only [drivePin, withPin]
  cases b.harness.pinAt? i with
  | none => simp
  | some q => simp [GpioState.mode_mode_set, eq_comm]

theorem level_drivePin {b : Board} {i : ℤ} {p : Gpio}
    (h : b.harness.pinAt? i = some p) :
    (drivePin b i).gpio.level p = true := by
  simp [drivePin, withPin, h]

theorem accesses_releasePin (b : Board) (i : ℤ) :
    (releasePin b i).accesses =
      b.accesses ++ List.replicate 2 ⟨i, b.harness.pins.length⟩ := by
  simp [releasePin, withPin, List.replicate]

theorem accesses_drivePin (b : Board) (i : ℤ) :
    (drivePin b i).accesses =
      b.accesses ++ List.replicate 2 ⟨i, b.harness.pins.length⟩ := by
  simp [drivePin, withPin, List.replicate]

/-! ## The sampling loop -/

/-- What the loop records for column `i`. -/
def rowWrite (input : GpioInput) (b : Board) (i : ℕ) : CellWrite :=
  ⟨b.harness.rowIndex, i, readPin input b i, b.harness.data.rows,
    b.harness.data.cols, b.gpio⟩

theorem foldl_sample (input : GpioInput) (b : Board) (n : ℕ) :
    (List.range n).foldl (sample input) b =
      { harness :=
          { b.harness with
            data := b.harness.data.fillRow b.harness.rowIndex
              (readPin input b) n }
        gpio := b.gpio
        accesses := b.accesses ++
          (List.range n).map fun i => ⟨i, b.harness.pins.length⟩
        writes := b.writes ++ (List.range n).map (rowWrite input b) } := by
  induction n with
  | zero => simp [BinaryMatrix.fillRow]
  | succ n ih =>
      rw [List.range_succ, List.foldl_append, ih, BinaryMatrix.fillRow_succ]
      simp [sample, rowWrite, readPin]

theorem run_eq (input : GpioInput) (b : Board) :
    run input b =
      { harness :=
          { b.harness with
            data := b.harness.data.fillRow b.harness.rowIndex
              (readPin input (setCurrentPin b)) b.harness.data.cols }
        gpio := (setCurrentPin b).gpio
        accesses := (setCurrentPin b).accesses ++
          (List.range b.harness.data.cols).map
            fun i => ⟨i, b.harness.pins.length⟩
        writes := b.writes ++
          (List.range b.harness.data.cols).map
            (rowWrite input (setCurrentPin b)) } := by
  simp [run, foldl_sample]

/-! ## Moving the driven pin -/

theorem isDeviceOutput_eq_true_iff (h : Harness) :
    h.isDeviceOutput = true ↔
      h.startConductionNum.toNat ≤ h.rowIndex ∧
        h.rowIndex < h.startConductionNum.toNat + h.conductionNum.toNat :=
  decide_eq_true_iff

/-- The inner test of `run` repeats half of `isDeviceOutput`. -/
theorem driveRowPin_eq (b : Board) :
    driveRowPin b =
      if b.harness.isDeviceOutput then
        drivePin b ((b.harness.rowIndex : ℤ) -
          b.harness.startConductionNum.toNat)
      else b := by
  unfold driveRowPin
  by_cases hout : b.harness.isDeviceOutput = true
  · have hrow := (isDeviceOutput_eq_true_iff _).mp hout
    simp only [hout, if_true]
    rw [if_pos (by omega)]
  · simp only [hout, if_false, Bool.false_eq_true]

section

variable {b : Board}
  (hpins : b.harness.pins.length = b.harness.conductionNum.toNat)

include hpins

theorem mode_releaseLastPin (p : Gpio) :
    (releaseLastPin b).gpio.mode p =
      if b.harness.pinAt? ((b.harness.rowIndex : ℤ) -
        b.harness.startConductionNum.toNat - 1) = some p then .input
      else b.gpio.mode p := by
  simp only [releaseLastPin]
  split
  next => exact mode_releasePin _ _ _
  next hlast =>
    rw [pinAt?_eq_none (by omega)]
    simp

theorem mode_driveRowPin (p : Gpio) :
    (driveRowPin b).gpio.mode p =
      if b.harness.pinAt? ((b.harness.rowIndex : ℤ) -
        b.harness.startConductionNum.toNat) = some p then .output
      else b.gpio.mode p := by
  rw [driveRowPin_eq]
  split
  next => exact mode_drivePin _ _ _
  next hout =>
    rw [isDeviceOutput_eq_true_iff] at hout
    rw [pinAt?_eq_none (by omega)]
    simp

/-- The pin of the previous row becomes an input, the pin of this row the
output. -/
theorem mode_setCurrentPin (p : Gpio) :
    (setCurrentPin b).gpio.mode p =
      if b.harness.pinAt? ((b.harness.rowIndex : ℤ) -
          b.harness.startConductionNum.toNat) = some p then .output
      else if b.harness.pinAt? ((b.harness.rowIndex : ℤ) -
          b.harness.startConductionNum.toNat - 1) = some p then .input
      else b.gpio.mode p := by
  rw [setCurrentPin, mode_driveRowPin (by simpa using hpins),
    mode_releaseLastPin hpins, harness_releaseLastPin]

theorem level_setCurrentPin {p : Gpio}
    (hp : b.harness.pinAt? ((b.harness.rowIndex : ℤ) -
      b.harness.startConductionNum.toNat) = some p) :
    (setCurrentPin b).gpio.level p = true := by
  obtain ⟨j, hj, hget⟩ := pinAt?_eq_some_iff.mp hp
  have hlt : j < b.harness.pins.length :=
    (List.getElem?_eq_some_iff.mp hget).1
  have hout : (releaseLastPin b).harness.isDeviceOutput = true := by
    rw [harness_releaseLastPin, isDeviceOutput_eq_true_iff]
    omega
  rw [setCurrentPin, driveRowPin_eq, if_pos hout]
  exact level_drivePin (by simpa using hp)

/-- An index tested against `conductionNum` is in range. -/
theorem inRange_append_replicate {xs : List PinAccess} {i : ℤ}
    (hxs : ∀ a ∈ xs, a.InRange)
    (hi : 0 ≤ i ∧ i < b.harness.conductionNum.toNat) :
    ∀ a ∈ xs ++ List.replicate 2 ⟨i, b.harness.pins.length⟩, a.InRange := by
  intro a ha
  rcases List.mem_append.mp ha with ha | ha
  · exact hxs a ha
  · obtain ⟨-, rfl⟩ := List.mem_replicate.mp ha
    exact ⟨hi.1, by rw [hpins]; exact hi.2⟩

theorem accesses_setCurrentPin (hacc : ∀ a ∈ b.accesses, a.InRange) :
    ∀ a ∈ (setCurrentPin b).accesses, a.InRange := by
  have hrelease : ∀ a ∈ (releaseLastPin b).accesses, a.InRange := by
    simp only [releaseLastPin]
    split
    next hlast =>
      rw [accesses_releasePin]
      exact inRange_append_replicate hpins hacc hlast
    next => exact hacc
  rw [setCurrentPin, driveRowPin_eq, harness_releaseLastPin]
  split
  next hout =>
    rw [isDeviceOutput_eq_true_iff] at hout
    rw [accesses_drivePin, harness_releaseLastPin]
    exact inRange_append_replicate hpins hrelease (by omega)
  next => exact hrelease

end

/-! ## Timer callbacks -/

theorem myTimerCallback_of_lt {input : GpioInput} {b : Board}
    (h : b.harness.triggerCount < b.harness.maxTriggerCount) :
    myTimerCallback input b =
      let b' := { b with harness :=
        { b.harness with triggerCount := b.harness.triggerCount + 1 } }
      { harness :=
          { b.harness with
            triggerCount := b.harness.triggerCount + 1
            data := b.harness.data.fillRow b.harness.rowIndex
              (readPin input (setCurrentPin b')) b.harness.data.cols
            rowIndex := b.harness.rowIndex + 1 }
        gpio := (setCurrentPin b').gpio
        accesses := (setCurrentPin b').accesses ++
          (List.range b.harness.data.cols).map
            fun i => ⟨i, b.harness.pins.length⟩
        writes := b.writes ++
          (List.range b.harness.data.cols).map
            (rowWrite input (setCurrentPin b')) } := by
  simp only [myTimerCallback]
  rw [if_pos (by omega), if_neg (by omega), run_eq]

theorem myTimerCallback_of_le {input : GpioInput} {b : Board}
    (hpos : 0 < b.harness.maxTriggerCount)
    (h : b.harness.maxTriggerCount ≤ b.harness.triggerCount) :
    myTimerCallback input b =
      reload { b with harness :=
        { b.harness with
          triggerCount := b.harness.triggerCount + 1
          timerActive := false } } := by
  simp only [myTimerCallback]
  rw [if_pos hpos, if_pos h]

/-! ## Initialization -/

theorem foldl_emplacePin (b : Board) (n : ℕ) :
    let c := (List.range n).foldl emplacePin b
    let emplaced := (List.range n).map pinInfo
    c.harness = { b.harness with pins := b.harness.pins ++ emplaced } ∧
    c.writes = b.writes ∧
    c.accesses = b.accesses ++
      (List.range n).map (fun i : ℕ => ⟨i, condPinInfo.length⟩) ∧
    ∀ p, c.gpio.mode p = if p ∈ emplaced then .input else b.gpio.mode p := by
  induction n with
  | zero => simp
  | succ n ih =>
      obtain ⟨hharness, hwrites, haccesses, hmode⟩ := ih
      simp only [List.range_succ, List.foldl_append, List.foldl_cons,
        List.foldl_nil, List.map_append]
      refine ⟨?_, hwrites, ?_, fun p => ?_⟩
      · simp [emplacePin, pinInfo, hharness]
      · simp [emplacePin, haccesses]
      · simp only [emplacePin, GpioState.mode_mode_set, hmode,
          List.mem_append, List.map_cons, List.map_nil, List.mem_singleton]
        by_cases hp : p = pinInfo n
        · rw [if_pos hp, if_pos (Or.inr hp)]
        · simp only [hp, or_false, if_false]

/-- What `init` leaves, whatever the harness was before. -/
theorem init_spec (conductionNum : UInt8)
    (totalConductionNum startConductionNum : UInt16) (b : Board) :
    let c := init conductionNum totalConductionNum startConductionNum b
    let emplaced := (List.range conductionNum.toNat).map pinInfo
    c.harness =
      { b.harness with
        conductionNum
        totalConductionNum
        startConductionNum
        data := b.harness.data.resize totalConductionNum.toNat
          conductionNum.toNat
        pins := b.harness.pins ++ emplaced } ∧
    c.writes = b.writes ∧
    c.accesses = b.accesses ++ (List.range conductionNum.toNat).map
      (fun i : ℕ => ⟨i, condPinInfo.length⟩) ∧
    ∀ p, c.gpio.mode p = if p ∈ emplaced then .input else b.gpio.mode p :=
  foldl_emplacePin
    { b with harness :=
      { b.harness with
        conductionNum
        totalConductionNum
        startConductionNum
        data := b.harness.data.resize totalConductionNum.toNat
          conductionNum.toNat } } conductionNum.toNat

/-- As long as the table lasts, its entries are used in order. -/
theorem map_pinInfo {n : ℕ} (hn : n ≤ 62) :
    (List.range n).map pinInfo = condPinInfo.take n := by
  apply List.ext_getElem
  · simp [length_condPinInfo, hn]
  · intro i hi _
    have hlt : i < condPinInfo.length := by
      rw [length_condPinInfo]
      simp at hi
      omega
    simp [pinInfo, hlt]

end Harness

end WirelessHarness
