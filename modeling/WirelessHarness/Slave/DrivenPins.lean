import WirelessHarness.Slave.PinMap
import WirelessHarness.Slave.RowBounds

/-!
# The driven pin

Each row of a scan drives one pin, and the next callback releases it.  Which
pin that is is computed anew from the row, the start and the list of pins, so a
configuration between two rows can make the callback release another pin than
the one that is driven.  The steps that keep at most one pin of `condPinInfo`
driven are described exactly.
-/

namespace WirelessHarness

open Runs SlaveDevice RowBounds PinMap

namespace DrivenPins

/-! ## The property -/

/-- Callbacks can come at any time.  A whole callback is one event, although
`run` blocks the timer task for four to six ticks. -/
def step (s : SlaveDevice) : Event → Option SlaveDevice
  | .condCfg m => if Accepted m then some (configure s m) else none
  | .sync m => some (s.receive (.master2Slave .syncMsg) m)
  | .callback input =>
      some { s with board := Harness.myTimerCallback input s.board }

/-- `condPinInfo[i]` at an index computed as an `int`. -/
def condPinAt? (i : ℤ) : Option Gpio :=
  if 0 ≤ i then condPinInfo[i.toNat]? else none

def Driven (s : SlaveDevice) (p : Gpio) : Prop :=
  s.board.gpio.mode p = .output

instance (s : SlaveDevice) (p : Gpio) : Decidable (Driven s p) :=
  inferInstanceAs (Decidable (_ = _))

/-- At most one pin is driven, that of the row before `rowIndex`. -/
structure OneDriven (s : SlaveDevice) : Prop where
  unique : ∀ p ∈ condPinInfo, ∀ q ∈ condPinInfo,
    Driven s p → Driven s q → p = q
  scanned : ∀ p ∈ condPinInfo, Driven s p →
    condPinAt? (s.board.harness.rowIndex - 1 -
      s.board.harness.startConductionNum.toNat) = some p

theorem oneDriven_iff (s : SlaveDevice) :
    OneDriven s ↔ ∀ p ∈ condPinInfo, Driven s p →
      condPinAt? (s.board.harness.rowIndex - 1 -
        s.board.harness.startConductionNum.toNat) = some p := by
  constructor
  · intro h
    exact h.scanned
  · intro h
    refine ⟨?_, h⟩
    intro p hp q hq hpout hqout
    exact Option.some.inj ((h p hp hpout).symm.trans (h q hq hqout))

/-! ## The condition on a step -/

/-- The index whose pin the next callback releases. -/
def lastIndex (h : Harness) : ℤ :=
  h.rowIndex - h.startConductionNum.toNat - 1

/-- The next callback ends the scan. -/
def Closing (h : Harness) : Prop :=
  0 < h.maxTriggerCount ∧ h.maxTriggerCount ≤ h.triggerCount

instance (h : Harness) : Decidable (Closing h) :=
  inferInstanceAs (Decidable (_ ∧ _))

/-- A configuration finds no driven pin that it does not reset, and a callback
releases the driven pin and drives the one that belongs to the row. -/
def Tidy (s : SlaveDevice) : Event → Prop
  | .condCfg m => ∀ p ∈ condPinInfo, Driven s p →
      p ∈ condPinInfo.take m.conductionNum.toNat ∨
        condPinAt? (s.board.harness.rowIndex - 1 -
          m.startConductionNum.toNat) = some p
  | .sync _ => True
  | .callback _ =>
      let h := s.board.harness
      (∀ p ∈ condPinInfo, Driven s p →
        h.pinAt? (lastIndex h) = some p ∧
          (¬ Closing h → lastIndex h < h.conductionNum.toNat)) ∧
      (¬ Closing h → h.isDeviceOutput = true →
        h.pinAt? (lastIndex h + 1) = none ∨
          h.pinAt? (lastIndex h + 1) = condPinAt? (lastIndex h + 1))

instance (s : SlaveDevice) : (e : Event) → Decidable (Tidy s e)
  | .condCfg _ => inferInstanceAs (Decidable (∀ _ ∈ _, _ → _ ∨ _))
  | .sync _ => .isTrue trivial
  | .callback _ => inferInstanceAs (Decidable ((∀ _ ∈ _, _ → _) ∧ _))

/-! ## Pins of the table -/

theorem condPinAt?_eq_some_iff {i : ℤ} {p : Gpio} :
    condPinAt? i = some p ↔ ∃ j : ℕ, i = j ∧ condPinInfo[j]? = some p :=
  Harness.read_int_eq_some_iff

theorem condPinAt?_inj {i j : ℤ} {p : Gpio} (hi : condPinAt? i = some p)
    (hj : condPinAt? j = some p) : i = j := by
  obtain ⟨k, rfl, hk⟩ := condPinAt?_eq_some_iff.mp hi
  obtain ⟨l, rfl, hl⟩ := condPinAt?_eq_some_iff.mp hj
  have hlt := (List.getElem?_eq_some_iff.mp hk).1
  have heq : k = l :=
    (List.getElem?_inj hlt nodup_condPinInfo).mp (hk.trans hl.symm)
  rw [heq]

/-- The list of pins has only pins of `condPinInfo`. -/
def PinsKnown (s : SlaveDevice) : Prop :=
  ∀ p ∈ s.board.harness.pins, p ∈ condPinInfo

theorem emplaced_eq_take {m : Master2Slave.CondCfgMsg} (hm : Accepted m) :
    emplaced m = condPinInfo.take m.conductionNum.toNat := by
  obtain ⟨-, hle, -⟩ := hm
  rw [emplaced, UInt16.toNat_toUInt8, Nat.mod_eq_of_lt (by omega),
    Harness.map_pinInfo hle]

theorem mem_condPinInfo_of_pinAt? {s : SlaveDevice} (hs : PinsKnown s)
    {i : ℤ} {p : Gpio} (hp : s.board.harness.pinAt? i = some p) :
    p ∈ condPinInfo := by
  obtain ⟨j, -, hget⟩ := Harness.pinAt?_eq_some_iff.mp hp
  exact hs p (List.mem_of_getElem? hget)

/-! ## One callback -/

/-- The modes when the number of pins is not known. -/
theorem mode_setCurrentPin (b : Board) (p : Gpio) :
    (Harness.setCurrentPin b).gpio.mode p =
      if b.harness.isDeviceOutput = true ∧
          b.harness.pinAt? (lastIndex b.harness + 1) = some p then .output
      else if lastIndex b.harness < b.harness.conductionNum.toNat ∧
          b.harness.pinAt? (lastIndex b.harness) = some p then .input
      else b.gpio.mode p := by
  have hrelease : (Harness.releaseLastPin b).gpio.mode p =
      if lastIndex b.harness < b.harness.conductionNum.toNat ∧
          b.harness.pinAt? (lastIndex b.harness) = some p then .input
      else b.gpio.mode p := by
    simp only [Harness.releaseLastPin]
    by_cases hlast : 0 ≤ lastIndex b.harness ∧
        lastIndex b.harness < b.harness.conductionNum.toNat
    · rw [lastIndex] at hlast ⊢
      rw [if_pos hlast, Harness.mode_releasePin]
      simp only [hlast.2, true_and]
    · have hnone : ¬ (lastIndex b.harness <
          b.harness.conductionNum.toNat ∧
            b.harness.pinAt? (lastIndex b.harness) = some p) := by
        rintro ⟨hlt, hp⟩
        obtain ⟨j, hj, -⟩ := Harness.pinAt?_eq_some_iff.mp hp
        exact hlast ⟨by omega, hlt⟩
      rw [if_neg hnone]
      rw [lastIndex] at hlast
      rw [if_neg hlast]
  have hindex : (b.harness.rowIndex : ℤ) -
      b.harness.startConductionNum.toNat = lastIndex b.harness + 1 := by
    rw [lastIndex]
    omega
  rw [Harness.setCurrentPin, Harness.driveRowPin_eq,
    Harness.harness_releaseLastPin, ← hrelease]
  by_cases hout : b.harness.isDeviceOutput = true
  · rw [if_pos hout, Harness.mode_drivePin, Harness.harness_releaseLastPin,
      hindex]
    simp only [hout, true_and]
  · rw [if_neg hout, if_neg (fun h => hout h.1)]

/-- A callback that is not the closing one moves on by one row. -/
theorem callback_of_not_closing (input : GpioInput) {b : Board}
    (h : ¬ Closing b.harness) :
    let c := Harness.myTimerCallback input b
    c.harness.rowIndex = b.harness.rowIndex + 1 ∧
      c.harness.startConductionNum = b.harness.startConductionNum ∧
      c.harness.pins = b.harness.pins ∧
      ∀ p, c.gpio.mode p = (Harness.setCurrentPin b).gpio.mode p := by
  by_cases hmax : 0 < b.harness.maxTriggerCount
  · have hlt : b.harness.triggerCount < b.harness.maxTriggerCount := by
      by_contra hle
      exact h ⟨hmax, by omega⟩
    rw [Harness.myTimerCallback_of_lt hlt]
    refine ⟨rfl, rfl, rfl, ?_⟩
    intro p
    exact (mode_setCurrentPin _ p).trans (mode_setCurrentPin b p).symm
  · have hrun : Harness.myTimerCallback input b =
        { Harness.run input b with harness :=
          { (Harness.run input b).harness with
            rowIndex := (Harness.run input b).harness.rowIndex + 1 } } := by
      simp only [Harness.myTimerCallback]
      rw [if_neg hmax]
    rw [hrun, Harness.run_eq]
    exact ⟨rfl, rfl, rfl, fun _ => rfl⟩

/-- The closing callback releases a pin and returns to row 0. -/
theorem callback_of_closing (input : GpioInput) {b : Board}
    (h : Closing b.harness) :
    let c := Harness.myTimerCallback input b
    c.harness.rowIndex = 0 ∧
      c.harness.startConductionNum = b.harness.startConductionNum ∧
      c.harness.pins = b.harness.pins ∧
      ∀ p, c.gpio.mode p =
        if b.harness.pinAt? (lastIndex b.harness) = some p then .input
        else b.gpio.mode p := by
  rw [Harness.myTimerCallback_of_le h.1 h.2]
  refine ⟨rfl, rfl, rfl, ?_⟩
  intro p
  exact Harness.mode_releasePin _ _ p

/-! ## Which steps keep the property -/

theorem oneDriven_condCfg_iff {s : SlaveDevice}
    {m : Master2Slave.CondCfgMsg} (hm : Accepted m) :
    OneDriven (configure s m) ↔ Tidy s (.condCfg m) := by
  obtain ⟨hharness, -, -, hmode⟩ := receive_condCfg_spec s m
  have hrow : (configure s m).board.harness.rowIndex =
      s.board.harness.rowIndex := by
    rw [configure, hharness]
    exact Harness.rowIndex_setPeriod _ _
  have hstart : (configure s m).board.harness.startConductionNum =
      m.startConductionNum := by
    rw [configure, hharness]
  have hdriven (p : Gpio) : Driven (configure s m) p ↔
      Driven s p ∧ p ∉ condPinInfo.take m.conductionNum.toNat := by
    rw [Driven, Driven, configure, hmode p, ← emplaced_eq_take hm]
    change (if p ∈ emplaced m then _ else _) = _ ↔ _
    by_cases hp : p ∈ emplaced m
    · rw [if_pos hp]
      simp [hp]
    · rw [if_neg hp]
      simp [hp]
  rw [oneDriven_iff, hrow, hstart]
  simp only [hdriven, Tidy]
  constructor
  · intro h p hmem hout
    by_cases htake : p ∈ condPinInfo.take m.conductionNum.toNat
    · exact .inl htake
    · exact .inr (h p hmem ⟨hout, htake⟩)
  · rintro h p hmem ⟨hout, htake⟩
    exact (h p hmem hout).resolve_left htake

/-- A closing callback leaves no pin for row 0. -/
theorem oneDriven_closing_iff {s : SlaveDevice} (input : GpioInput)
    (hclose : Closing s.board.harness) :
    OneDriven { s with
        board := Harness.myTimerCallback input s.board } ↔
      ∀ p ∈ condPinInfo, Driven s p →
        s.board.harness.pinAt? (lastIndex s.board.harness) = some p := by
  obtain ⟨hrow, hstart, -, hmode⟩ := callback_of_closing input
    hclose
  rw [oneDriven_iff]
  simp only [Driven, hrow, hstart, hmode]
  constructor
  · intro h p hmem hout
    by_contra hp
    have hnone := h p hmem (by rw [if_neg hp]; exact hout)
    obtain ⟨j, hj, -⟩ := condPinAt?_eq_some_iff.mp hnone
    omega
  · intro h p hmem hout
    split at hout
    next => cases hout
    next hp => exact absurd (h p hmem hout) hp

/-- Any other callback moves the driven pin on by one. -/
theorem oneDriven_row_iff {s : SlaveDevice} (input : GpioInput)
    (hpins : PinsKnown s) (hs : OneDriven s)
    (hclose : ¬ Closing s.board.harness) :
    OneDriven { s with
        board := Harness.myTimerCallback input s.board } ↔
      (∀ p ∈ condPinInfo, Driven s p →
        s.board.harness.pinAt? (lastIndex s.board.harness) = some p ∧
          lastIndex s.board.harness <
            s.board.harness.conductionNum.toNat) ∧
      (s.board.harness.isDeviceOutput = true →
        s.board.harness.pinAt? (lastIndex s.board.harness + 1) = none ∨
          s.board.harness.pinAt? (lastIndex s.board.harness + 1) =
            condPinAt? (lastIndex s.board.harness + 1)) := by
  obtain ⟨hrow, hstart, -, hmode⟩ := callback_of_not_closing
    input hclose
  have hindex : ((s.board.harness.rowIndex + 1 : ℕ) : ℤ) - 1 -
      s.board.harness.startConductionNum.toNat =
        lastIndex s.board.harness + 1 := by
    rw [lastIndex]
    omega
  have hlast : (s.board.harness.rowIndex : ℤ) - 1 -
      s.board.harness.startConductionNum.toNat =
        lastIndex s.board.harness := by
    rw [lastIndex]
    omega
  rw [oneDriven_iff]
  simp only [Driven, hrow, hstart, hmode, hindex, mode_setCurrentPin]
  constructor
  · intro h
    constructor
    · intro p hmem hout
      have hold := hs.scanned p hmem hout
      rw [hlast] at hold
      -- a pin that stays driven would belong to two rows
      by_contra hkept
      have hnew := h p hmem ?_
      · have heq := condPinAt?_inj hold hnew
        omega
      · split
        · rfl
        · rw [if_neg fun hrelease => hkept ⟨hrelease.2, hrelease.1⟩]
          exact hout
    · intro hout
      rcases hp : s.board.harness.pinAt? (lastIndex s.board.harness + 1)
        with _ | p
      · exact .inl rfl
      · right
        symm
        apply h p (mem_condPinInfo_of_pinAt? hpins hp)
        rw [if_pos ⟨hout, hp⟩]
  · rintro ⟨hrelease, hdrive⟩ p hmem hout
    split at hout
    next hnew =>
      rcases hdrive hnew.1 with hnone | heq
      · cases hnone.symm.trans hnew.2
      · exact heq.symm.trans hnew.2
    next =>
      split at hout
      next => cases hout
      next hkept =>
        obtain ⟨hp, hlt⟩ := hrelease p hmem hout
        exact absurd ⟨hlt, hp⟩ hkept

theorem oneDriven_callback_iff {s : SlaveDevice} (input : GpioInput)
    (hpins : PinsKnown s) (hs : OneDriven s) :
    OneDriven { s with
        board := Harness.myTimerCallback input s.board } ↔
      Tidy s (.callback input) := by
  by_cases hclose : Closing s.board.harness
  · rw [oneDriven_closing_iff input hclose]
    simp [Tidy, hclose]
  · rw [oneDriven_row_iff input hpins hs hclose]
    simp [Tidy, hclose]

/-! ## Runs -/

/-- A `SyncMsg` only starts the timer. -/
theorem receive_sync (s : SlaveDevice) (m : Master2Slave.SyncMsg) :
    let t := s.receive (.master2Slave .syncMsg) m
    t.board.gpio = s.board.gpio ∧
      t.board.harness.rowIndex = s.board.harness.rowIndex ∧
      t.board.harness.startConductionNum =
        s.board.harness.startConductionNum ∧
      t.board.harness.pins = s.board.harness.pins := by
  simp only [board_receive_sync, Harness.startWithCount]
  split <;> exact ⟨rfl, rfl, rfl, rfl⟩

theorem pinsKnown_step (s : SlaveDevice) (e : Event) (s' : SlaveDevice)
    (hs : PinsKnown s) (hstep : step s e = some s') : PinsKnown s' := by
  rcases e with m | m | input
  · obtain ⟨hm, heq⟩ := Option.ite_none_right_eq_some.mp hstep
    cases heq
    intro p hp
    rw [pins_configure, emplaced_eq_take hm] at hp
    rcases List.mem_append.mp hp with hp | hp
    · exact hs p hp
    · exact List.mem_of_mem_take hp
  · cases hstep
    obtain ⟨-, -, -, hsame⟩ := receive_sync s m
    intro p hp
    apply hs p
    rw [← hsame]
    exact hp
  · cases hstep
    have hsame : (Harness.myTimerCallback input s.board).harness.pins =
        s.board.harness.pins := by
      by_cases hclose : Closing s.board.harness
      · exact (callback_of_closing _ hclose).2.2.1
      · exact (callback_of_not_closing _ hclose).2.2.1
    intro p hp
    apply hs p
    rw [← hsame]
    exact hp

theorem oneDriven_step_iff (s : SlaveDevice) (e : Event) (s' : SlaveDevice)
    (hpins : PinsKnown s) (hs : OneDriven s) (hstep : step s e = some s') :
    OneDriven s' ↔ Tidy s e := by
  rcases e with m | m | input
  · obtain ⟨hm, heq⟩ := Option.ite_none_right_eq_some.mp hstep
    cases heq
    exact oneDriven_condCfg_iff hm
  · cases hstep
    refine iff_of_true ?_ trivial
    obtain ⟨hgpio, hrow, hstart, -⟩ := receive_sync s m
    rw [oneDriven_iff, hrow, hstart]
    simp only [Driven, hgpio]
    exact hs.scanned
  · cases hstep
    exact oneDriven_callback_iff input hpins hs

/-- From power-on, with no pin of `condPinInfo` an output, at most one pin is
driven all along a run exactly if all its steps are tidy. -/
theorem oneDriven_iff_tidy {s s' : SlaveDevice} {es : List Event}
    (hboot : s.Boot)
    (hinput : ∀ p ∈ condPinInfo, s.board.gpio.mode p ≠ .output)
    (hrun : run step s es = some s') :
    (∀ pre, pre <+: es → ∀ t, run step s pre = some t → OneDriven t) ↔
      Meets step Tidy s es := by
  have hpins : PinsKnown s := by
    intro p hp
    rw [hboot.2.1] at hp
    cases hp
  have hnone : OneDriven s := by
    rw [oneDriven_iff]
    intro p hmem hout
    exact absurd hout (hinput p hmem)
  exact always_iff_meets pinsKnown_step oneDriven_step_iff hpins hnone hrun

/-- A whole scan and the first row of the next one. -/
theorem oneDriven_twoScans :
    Meets step Tidy bootDevice twoScans ∧
      ∀ pre, pre <+: twoScans → ∀ t, run step bootDevice pre = some t →
        OneDriven t := by
  have htidy : Meets step Tidy bootDevice twoScans := by decide
  exact ⟨htidy, (oneDriven_iff_tidy (s := bootDevice) ⟨rfl, rfl, rfl⟩
    (by decide) rfl).mpr htidy⟩

/-- From one line to two: the second row drives the first pin again. -/
theorem not_oneDriven_secondCfg :
    ¬ ∀ t, run step bootDevice
        [.condCfg firstOfTwoCfg, .condCfg ⟨0, 20, 2, 0, 2⟩, .sync {},
          .callback fun _ _ => true, .callback fun _ _ => true] = some t →
      OneDriven t := by
  intro h
  have hscanned := (h _ rfl).scanned ⟨.A, 3⟩ (by decide) (by decide)
  revert hscanned
  decide

end DrivenPins

end WirelessHarness
