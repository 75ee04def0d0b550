import WirelessHarness.Slave.GpioRegisters
import WirelessHarness.Slave.Steps

/-!
# The calls of the harness

Which member calls the operations of the harness make, and that the registers
follow the board under them: a pin has the mode and level the board gives it,
the harness leaves its pins in one of two states and touches no other pin.
-/

namespace WirelessHarness

/-! ## LEDs -/

/-- The pin of an `LED` object. -/
abbrev LED := Gpio

def sysLed : LED := ⟨.C, ⟨13, by decide⟩⟩

def pwrLed : LED := ⟨.G, ⟨9, by decide⟩⟩

def runLed : LED := ⟨.G, ⟨12, by decide⟩⟩

def errLed : LED := ⟨.G, ⟨15, by decide⟩⟩

def leds : List LED := [sysLed, pwrLed, runLed, errLed]

namespace HarnessCalls

/-! ## The calls of an operation -/

/-- Member calls on one object. -/
def callsOn (p : Gpio) (cs : List GpioCall) : List (GpioObject × GpioCall) :=
  cs.map fun c => (p.object, c)

/-- `GPIO(port, pin, mode)` with the default arguments. -/
def constructed (mode : GpioMode) : GpioCall :=
  .construct mode .pulldown .pp .speed_50mhz

def release : List GpioCall := [.bit_reset, .mode_set .input .pulldown]

def drive : List GpioCall := [.mode_set .output .pulldown, .bit_set]

/-- Calls on `pins[i]`. -/
def callsAt (h : Harness) (i : ℤ) (cs : List GpioCall) :
    List (GpioObject × GpioCall) :=
  match h.pinAt? i with
  | some p => callsOn p cs
  | none => []

/-- The calls `run` makes before the sampling loop. -/
def rowCalls (h : Harness) : List (GpioObject × GpioCall) :=
  let lastIndex : ℤ := (h.rowIndex : ℤ) - h.startConductionNum.toNat - 1
  let index : ℤ := (h.rowIndex : ℤ) - h.startConductionNum.toNat
  (if 0 ≤ lastIndex ∧ lastIndex < h.conductionNum.toNat then
    callsAt h lastIndex release
  else []) ++
  if h.isDeviceOutput then
    if index < h.conductionNum.toNat then callsAt h index drive else []
  else []

/-- The last callback of a scan also toggles the LED. -/
def callbackCalls (h : Harness) : List (GpioObject × GpioCall) :=
  if 0 < h.maxTriggerCount ∧ h.maxTriggerCount ≤ h.triggerCount then
    callsAt h ((h.rowIndex : ℤ) - h.startConductionNum.toNat - 1) release ++
      callsOn runLed [.toggle]
  else rowCalls h

/-- The constructors in the loop of `init`. -/
def initCalls (conductionNum : UInt8) : List (GpioObject × GpioCall) :=
  (List.range conductionNum.toNat).flatMap
    fun i => callsOn (Harness.pinInfo i) [constructed .input]

/-- A pin of the harness: an input, or an output that is high; pulled down,
push-pull, 50 MHz. -/
structure HarnessPin (s : PinState) : Prop where
  pull_eq : s.pull = some .pulldown
  otype_eq : s.otype = .pp
  speed_eq : s.speed = .speed_50mhz
  driven : s.mode = .input ∨ s.mode = .output ∧ s.level = true

/-! ## Calls on one pin -/

theorem performAll_append (regs : Registers)
    (cs ds : List (GpioObject × GpioCall)) :
    regs.performAll (cs ++ ds) = (regs.performAll cs).performAll ds :=
  List.foldl_append

theorem drives_object_iff (p g : Gpio) : p.object.Drives g ↔ p = g := by
  obtain ⟨port, pin⟩ := p
  obtain ⟨port', pin'⟩ := g
  rw [Gpio.mk.injEq]
  exact Iff.rfl

theorem stateOf_callsOn (p : Gpio) {cs : List GpioCall}
    (hcs : ∀ c ∈ cs, c.InDomain) (regs : Registers) (g : Gpio) :
    (regs.performAll (callsOn p cs)).stateOf g =
      if p = g then cs.foldl GpioCall.effect (regs.stateOf g)
      else regs.stateOf g := by
  induction cs generalizing regs with
  | nil =>
      change regs.stateOf g = _
      split <;> rfl
  | cons c cs ih =>
      obtain ⟨hc, hcs⟩ := List.forall_mem_cons.mp hcs
      have hperform := @Registers.stateOf_perform regs (p.object, c) hc g
      change ((regs.perform (p.object, c)).performAll (callsOn p cs)).stateOf g
        = _
      rw [ih hcs, hperform]
      simp only [drives_object_iff]
      by_cases hp : p = g
      · rw [if_pos hp, if_pos hp, if_pos hp, List.foldl_cons]
      · rw [if_neg hp, if_neg hp, if_neg hp]

theorem stateOf_callsOn_of_ne {p g : Gpio} {cs : List GpioCall}
    (hcs : ∀ c ∈ cs, c.InDomain) (h : g ≠ p) (regs : Registers) :
    (regs.performAll (callsOn p cs)).stateOf g = regs.stateOf g := by
  rw [stateOf_callsOn p hcs, if_neg (Ne.symm h)]

theorem stateOf_callsOn_self (p : Gpio) {cs : List GpioCall}
    (hcs : ∀ c ∈ cs, c.InDomain) (regs : Registers) :
    (regs.performAll (callsOn p cs)).stateOf p =
      cs.foldl GpioCall.effect (regs.stateOf p) := by
  rw [stateOf_callsOn p hcs, if_pos rfl]

theorem HarnessPin.release {s : PinState} (hs : HarnessPin s) :
    HarnessPin (release.foldl GpioCall.effect s) := by
  constructor
  case pull_eq => rfl
  case otype_eq => exact hs.otype_eq
  case speed_eq => exact hs.speed_eq
  case driven =>
    left
    rfl

theorem HarnessPin.drive {s : PinState} (hs : HarnessPin s) :
    HarnessPin (drive.foldl GpioCall.effect s) := by
  constructor
  case pull_eq => rfl
  case otype_eq => exact hs.otype_eq
  case speed_eq => exact hs.speed_eq
  case driven =>
    right
    exact ⟨rfl, rfl⟩

theorem harnessPin_constructed (s : PinState) :
    HarnessPin ((constructed .input).effect s) := by
  constructor
  case pull_eq => rfl
  case otype_eq => rfl
  case speed_eq => rfl
  case driven =>
    left
    rfl

/-! ## Registers that follow the board -/

/-- The registers of the pins that are not LEDs have the board's modes and
levels. -/
def Agrees (regs : Registers) (g : GpioState) : Prop :=
  ∀ p ∉ leds, (regs.stateOf p).mode = g.mode p ∧
    (regs.stateOf p).level = g.level p

/-- The calls make of pin `p` what changes from `g` to `g'`. -/
structure Matched (cs : List GpioCall) (p : Gpio) (g g' : GpioState) :
    Prop where
  inDomain : ∀ c ∈ cs, c.InDomain
  self : ∀ s : PinState, s.mode = g.mode p → s.level = g.level p →
    (cs.foldl GpioCall.effect s).mode = g'.mode p ∧
      (cs.foldl GpioCall.effect s).level = g'.level p
  other : ∀ q ≠ p, g'.mode q = g.mode q ∧ g'.level q = g.level q

theorem Agrees.callsOn {cs : List GpioCall} {p : Gpio} {g g' : GpioState}
    (hmatched : Matched cs p g g') {regs : Registers} (h : Agrees regs g) :
    Agrees (regs.performAll (callsOn p cs)) g' := by
  intro q hq
  obtain ⟨hmode, hlevel⟩ := h q hq
  by_cases hqp : q = p
  · subst hqp
    rw [stateOf_callsOn_self q hmatched.inDomain]
    exact hmatched.self _ hmode hlevel
  · obtain ⟨hmode', hlevel'⟩ := hmatched.other q hqp
    rw [stateOf_callsOn_of_ne hmatched.inDomain hqp, hmode', hlevel']
    exact ⟨hmode, hlevel⟩

theorem matched_release (g : GpioState) (p : Gpio) :
    Matched release p g ((g.bit_reset p).mode_set p .input) := by
  constructor
  case inDomain => decide
  case self =>
    intro s _ _
    simp [release, GpioCall.effect, GpioState.bit_reset, GpioState.mode_set]
  case other =>
    intro q hq
    simp [GpioState.bit_reset, GpioState.mode_set, hq]

theorem matched_drive (g : GpioState) (p : Gpio) :
    Matched drive p g ((g.mode_set p .output).bit_set p) := by
  constructor
  case inDomain => decide
  case self =>
    intro s _ _
    simp [drive, GpioCall.effect, GpioState.bit_set, GpioState.mode_set]
  case other =>
    intro q hq
    simp [GpioState.bit_set, GpioState.mode_set, hq]

theorem matched_constructed (g : GpioState) (p : Gpio) :
    Matched [constructed .input] p g (g.mode_set p .input) := by
  constructor
  case inDomain => decide
  case self =>
    intro s _ hlevel
    simp [constructed, GpioCall.effect, GpioState.mode_set, hlevel]
  case other =>
    intro q hq
    simp [GpioState.mode_set, hq]

/-- A change of the board from `b` to `c` and what it does to the registers. -/
structure Mirrored (b c : Board) (regs regs' : Registers) : Prop where
  grows : b.harness.pins ⊆ c.harness.pins
  outside : ∀ g ∉ c.harness.pins, regs'.stateOf g = regs.stateOf g
  inside : (∀ g ∈ b.harness.pins, HarnessPin (regs.stateOf g)) →
    ∀ g ∈ c.harness.pins, HarnessPin (regs'.stateOf g)
  agrees : Agrees regs b.gpio → Agrees regs' c.gpio
  accesses : b.accesses ⊆ c.accesses

theorem Mirrored.refl (b : Board) (regs : Registers) :
    Mirrored b b regs regs where
  grows := List.Subset.refl _
  outside _ _ := rfl
  inside h := h
  agrees h := h
  accesses := List.Subset.refl _

theorem Mirrored.trans {b c d : Board} {r r' r'' : Registers}
    (h : Mirrored b c r r') (h' : Mirrored c d r' r'') :
    Mirrored b d r r'' := by
  constructor
  case grows => exact List.Subset.trans h.grows h'.grows
  case outside =>
    intro g hg
    rw [h'.outside g hg, h.outside g (fun hc => hg (h'.grows hc))]
  case inside => exact fun hb => h'.inside (h.inside hb)
  case agrees => exact fun hb => h'.agrees (h.agrees hb)
  case accesses => exact List.Subset.trans h.accesses h'.accesses

theorem mem_pins_of_pinAt? {h : Harness} {i : ℤ} {p : Gpio}
    (hp : h.pinAt? i = some p) : p ∈ h.pins := by
  obtain ⟨j, -, hj⟩ := Harness.pinAt?_eq_some_iff.mp hp
  exact List.mem_of_getElem? hj

/-- Calls on a pin of the harness. -/
theorem mirrored_callsAt {b c : Board} {i : ℤ} {cs : List GpioCall}
    (hkeeps : ∀ s, HarnessPin s → HarnessPin (cs.foldl GpioCall.effect s))
    (hpins : c.harness.pins = b.harness.pins)
    (haccesses : b.accesses ⊆ c.accesses)
    (hnone : b.harness.pinAt? i = none → c.gpio = b.gpio)
    (hsome : ∀ p, b.harness.pinAt? i = some p →
      Matched cs p b.gpio c.gpio) (regs : Registers) :
    Mirrored b c regs (regs.performAll (callsAt b.harness i cs)) := by
  rw [callsAt]
  split
  case h_1 p hp =>
    constructor
    case grows =>
      rw [hpins]
      exact List.Subset.refl _
    case accesses => exact haccesses
    case agrees => exact Agrees.callsOn (hsome p hp)
    case outside =>
      intro g hg
      apply stateOf_callsOn_of_ne (hsome p hp).inDomain
      rintro rfl
      rw [hpins] at hg
      exact hg (mem_pins_of_pinAt? hp)
    case inside =>
      intro h g hg
      rw [hpins] at hg
      rw [stateOf_callsOn p (hsome p hp).inDomain]
      split
      · exact hkeeps _ (h g hg)
      · exact h g hg
  case h_2 hp =>
    constructor
    case grows =>
      rw [hpins]
      exact List.Subset.refl _
    case accesses => exact haccesses
    case agrees =>
      rw [hnone hp]
      exact id
    case outside => exact fun _ _ => rfl
    case inside =>
      rw [hpins]
      exact id

/-! ## The operations of the harness -/

theorem mirrored_releasePin (b : Board) (i : ℤ) (regs : Registers) :
    Mirrored b (Harness.releasePin b i) regs
      (regs.performAll (callsAt b.harness i release)) := by
  apply mirrored_callsAt
  case hkeeps => exact fun _ hs => hs.release
  case hpins => rw [Harness.harness_releasePin]
  case haccesses =>
    rw [Harness.accesses_releasePin]
    exact List.subset_append_left _ _
  case hnone =>
    intro hp
    simp only [Harness.releasePin, Harness.withPin, hp]
  case hsome =>
    intro p hp
    simp only [Harness.releasePin, Harness.withPin, hp]
    exact matched_release b.gpio p

theorem mirrored_drivePin (b : Board) (i : ℤ) (regs : Registers) :
    Mirrored b (Harness.drivePin b i) regs
      (regs.performAll (callsAt b.harness i drive)) := by
  apply mirrored_callsAt
  case hkeeps => exact fun _ hs => hs.drive
  case hpins => rw [Harness.harness_drivePin]
  case haccesses =>
    rw [Harness.accesses_drivePin]
    exact List.subset_append_left _ _
  case hnone =>
    intro hp
    simp only [Harness.drivePin, Harness.withPin, hp]
  case hsome =>
    intro p hp
    simp only [Harness.drivePin, Harness.withPin, hp]
    exact matched_drive b.gpio p

theorem mirrored_releaseLastPin (b : Board) (regs : Registers) :
    let lastIndex : ℤ :=
      (b.harness.rowIndex : ℤ) - b.harness.startConductionNum.toNat - 1
    Mirrored b (Harness.releaseLastPin b) regs (regs.performAll
      (if 0 ≤ lastIndex ∧ lastIndex < b.harness.conductionNum.toNat then
        callsAt b.harness lastIndex release
      else [])) := by
  intro lastIndex
  rw [Harness.releaseLastPin]
  split
  · exact mirrored_releasePin b lastIndex regs
  · exact Mirrored.refl b regs

theorem mirrored_driveRowPin (b : Board) (regs : Registers) :
    let index : ℤ :=
      (b.harness.rowIndex : ℤ) - b.harness.startConductionNum.toNat
    Mirrored b (Harness.driveRowPin b) regs (regs.performAll
      (if b.harness.isDeviceOutput then
        if index < b.harness.conductionNum.toNat then
          callsAt b.harness index drive
        else []
      else [])) := by
  intro index
  rw [Harness.driveRowPin]
  split
  · split
    · exact mirrored_drivePin b index regs
    · exact Mirrored.refl b regs
  · exact Mirrored.refl b regs

theorem mirrored_setCurrentPin (b : Board) (regs : Registers) :
    Mirrored b (Harness.setCurrentPin b) regs
      (regs.performAll (rowCalls b.harness)) := by
  have hdrive := mirrored_driveRowPin (Harness.releaseLastPin b)
  rw [Harness.harness_releaseLastPin] at hdrive
  rw [rowCalls, performAll_append]
  exact (mirrored_releaseLastPin b regs).trans (hdrive _)

/-- The sampling loop touches no register. -/
theorem mirrored_run (input : GpioInput) (b : Board) (regs : Registers) :
    Mirrored b (Harness.run input b) regs
      (regs.performAll (rowCalls b.harness)) := by
  have hset := mirrored_setCurrentPin b regs
  have hharness := Harness.harness_setCurrentPin b
  rw [Harness.run_eq]
  constructor
  case grows => exact List.Subset.refl _
  case outside =>
    intro g hg
    apply hset.outside
    rw [hharness]
    exact hg
  case inside =>
    intro h g hg
    apply hset.inside h
    rw [hharness]
    exact hg
  case agrees => exact hset.agrees
  case accesses =>
    exact List.Subset.trans hset.accesses (List.subset_append_left _ _)

/-! ## One callback -/

theorem Mirrored.of_same_pins {b b' c c' : Board} {regs regs' : Registers}
    (h : Mirrored b c regs regs')
    (hpins : b'.harness.pins = b.harness.pins) (hgpio : b'.gpio = b.gpio)
    (haccesses : b'.accesses = b.accesses)
    (hpins' : c'.harness.pins = c.harness.pins) (hgpio' : c'.gpio = c.gpio)
    (haccesses' : c'.accesses = c.accesses) : Mirrored b' c' regs regs' := by
  constructor
  case grows =>
    rw [hpins, hpins']
    exact h.grows
  case outside =>
    rw [hpins']
    exact h.outside
  case inside =>
    rw [hpins, hpins']
    exact h.inside
  case agrees =>
    rw [hgpio, hgpio']
    exact h.agrees
  case accesses =>
    rw [haccesses, haccesses']
    exact h.accesses

/-- A callback that does not end the scan. -/
theorem mirrored_callback_row (input : GpioInput) {b : Board}
    (h : ¬(0 < b.harness.maxTriggerCount ∧
      b.harness.maxTriggerCount ≤ b.harness.triggerCount))
    (regs : Registers) :
    Mirrored b (Harness.myTimerCallback input b) regs
        (regs.performAll (rowCalls b.harness)) ∧
      (Harness.myTimerCallback input b).harness.pins = b.harness.pins ∧
      (Harness.myTimerCallback input b).harness.timerActive =
        b.harness.timerActive := by
  simp only [Harness.myTimerCallback]
  by_cases hmax : 0 < b.harness.maxTriggerCount
  · have hlt : ¬b.harness.maxTriggerCount ≤ b.harness.triggerCount :=
      fun hle => h ⟨hmax, hle⟩
    rw [if_pos hmax, if_neg hlt]
    have hrun := mirrored_run input { b with harness :=
      { b.harness with triggerCount := b.harness.triggerCount + 1 } } regs
    rw [Harness.run_eq] at hrun ⊢
    exact ⟨hrun.of_same_pins rfl rfl rfl rfl rfl rfl, rfl, rfl⟩
  · rw [if_neg hmax]
    have hrun := mirrored_run input b regs
    rw [Harness.run_eq] at hrun ⊢
    exact ⟨hrun.of_same_pins rfl rfl rfl rfl rfl rfl, rfl, rfl⟩

/-- The callback that ends the scan, without the LED. -/
theorem mirrored_callback_last (input : GpioInput) {b : Board}
    (h : 0 < b.harness.maxTriggerCount ∧
      b.harness.maxTriggerCount ≤ b.harness.triggerCount)
    (regs : Registers) :
    Mirrored b (Harness.myTimerCallback input b) regs
        (regs.performAll (callsAt b.harness ((b.harness.rowIndex : ℤ) -
          b.harness.startConductionNum.toNat - 1) release)) ∧
      (Harness.myTimerCallback input b).harness.pins = b.harness.pins ∧
      (Harness.myTimerCallback input b).harness.timerActive = false := by
  rw [Harness.myTimerCallback_of_le h.1 h.2]
  refine ⟨?_, rfl, rfl⟩
  have hrelease := mirrored_releasePin { b with harness :=
    { b.harness with
      triggerCount := b.harness.triggerCount + 1
      timerActive := false } } ((b.harness.rowIndex : ℤ) -
        b.harness.startConductionNum.toNat - 1) regs
  exact hrelease.of_same_pins rfl rfl rfl rfl rfl rfl

/-! ## One configuration -/

theorem mirrored_emplacePin (b : Board) (i : ℕ) (regs : Registers) :
    Mirrored b (Harness.emplacePin b i) regs
      (regs.performAll (callsOn (Harness.pinInfo i) [constructed .input])) :=
    by
  have hpins : (Harness.emplacePin b i).harness.pins =
      b.harness.pins ++ [Harness.pinInfo i] := rfl
  have hdomain : ∀ c ∈ [constructed .input], c.InDomain := by decide
  constructor
  case grows =>
    rw [hpins]
    exact List.subset_append_left _ _
  case accesses => exact List.subset_append_left _ _
  case agrees =>
    exact Agrees.callsOn (matched_constructed b.gpio (Harness.pinInfo i))
  case outside =>
    intro g hg
    apply stateOf_callsOn_of_ne hdomain
    rintro rfl
    rw [hpins] at hg
    exact hg (List.mem_append_right _ (List.mem_singleton_self _))
  case inside =>
    intro h g hg
    by_cases hgi : g = Harness.pinInfo i
    · rw [hgi, stateOf_callsOn_self _ hdomain]
      exact harnessPin_constructed _
    · rw [stateOf_callsOn_of_ne hdomain hgi]
      rw [hpins, List.mem_append, List.mem_singleton] at hg
      exact h g (hg.resolve_right hgi)

theorem mirrored_emplacePins (n : ℕ) (b : Board) (regs : Registers) :
    Mirrored b ((List.range n).foldl Harness.emplacePin b) regs
      (regs.performAll ((List.range n).flatMap
        fun i => callsOn (Harness.pinInfo i) [constructed .input])) := by
  induction n with
  | zero => exact Mirrored.refl b regs
  | succ n ih =>
      rw [List.range_succ, List.foldl_append, List.flatMap_append,
        performAll_append, List.flatMap_singleton]
      exact ih.trans (mirrored_emplacePin _ n _)

end HarnessCalls

end WirelessHarness
