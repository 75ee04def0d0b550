import WirelessHarness.Slave.Bystander
import WirelessHarness.Slave.HarnessCalls

/-!
# The harness on the registers

The harness pins share their ports with the LEDs and with the pins of the
radio and the serial port.  A slave's runs are followed down to the port
registers: the pins the harness has set up are always in one of its two states,
the LEDs stay outputs, and every other pin is as it was at power-on.
-/

namespace WirelessHarness

open CheckedRead HarnessCalls Runs SlaveDevice

namespace RegisterRuns

/-! ## Runs -/

/-- The calls that `process` makes for what `parse` returned. -/
def outcomeCalls : Outcome → List (GpioObject × GpioCall)
  | .ok (some ⟨.master2Slave .syncMsg, _⟩) => callsOn runLed [.bit_reset]
  | .ok (some ⟨.master2Slave .condCfgMsg, m⟩) =>
      initCalls (Master2Slave.CondCfgMsg.conductionNum m).toUInt8
  | _ => []

/-- A slave together with the registers of its ports. -/
structure Wired where
  slave : SlaveDevice
  regs : Registers

/-- `blink` is the loop of `Slave_Task`, and `powered` what comes before it.
The callback reads the status registers. -/
inductive Event
  | packet (raw_data : Bytes)
  | callback (istat : GpioState → GpioPort → BitVec 32)
  | powered
  | blink

/-- What `input_bit_get` returns. -/
def readInput (istat : GpioState → GpioPort → BitVec 32) : GpioInput :=
  fun g p => GpioPin.input_bit_get (.pin p.pin) (istat g p.port)

def step (s : Wired) : Event → Option Wired
  | .packet raw_data =>
      let parsed := s.slave.parseAndProcess raw_data
      some
        { slave := parsed.2
          regs := s.regs.performAll (outcomeCalls parsed.1) }
  | .callback istat =>
      some
        { slave := { s.slave with
            board := Harness.myTimerCallback (readInput istat) s.slave.board }
          regs := s.regs.performAll (callbackCalls s.slave.board.harness) }
  | .powered =>
      some { s with regs := s.regs.performAll (callsOn pwrLed [.bit_set]) }
  | .blink =>
      some { s with regs := s.regs.performAll (callsOn sysLed [.toggle]) }

/-- Mode and level of every pin. -/
def gpioState (regs : Registers) : GpioState where
  mode g := (regs.stateOf g).mode
  level g := (regs.stateOf g).level

/-- The constructors of the LEDs have run. -/
def initialized (regs : Registers) : Registers :=
  regs.performAll (leds.flatMap fun p => callsOn p [constructed .output])

def powerOn (uid : UInt32) (residue : ℕ → UInt16) (regs : Registers) :
    Wired where
  slave := { uid, residue, board := { gpio := gpioState (initialized regs) } }
  regs := initialized regs

/-- A pin of an LED. -/
structure LedPin (s : PinState) : Prop where
  mode_eq : s.mode = .output
  pull_eq : s.pull = some .pulldown
  otype_eq : s.otype = .pp
  speed_eq : s.speed = .speed_50mhz

/-! ## The invariant -/

/-- `lit`: the run LED is off during a scan. -/
structure Inv (regs₀ : Registers) (s : Wired) : Prop where
  table : ∀ g ∈ s.slave.board.harness.pins, g ∈ condPinInfo
  harness : ∀ g ∈ s.slave.board.harness.pins, HarnessPin (s.regs.stateOf g)
  led : ∀ g ∈ leds, LedPin (s.regs.stateOf g)
  others : ∀ g, g ∉ s.slave.board.harness.pins → g ∉ leds →
    s.regs.stateOf g = regs₀.stateOf g
  agrees : Agrees s.regs s.slave.board.gpio
  lit : (s.regs.stateOf runLed).level = true →
    s.slave.board.harness.timerActive = false

theorem not_mem_condPinInfo_of_led {g : Gpio} (hg : g ∈ leds) :
    g ∉ condPinInfo := by
  revert g
  decide

variable {regs₀ : Registers}

/-- The harness works on its pins. -/
theorem Inv.mirrored {s s' : Wired} (hs : Inv regs₀ s)
    (h : Mirrored s.slave.board s'.slave.board s.regs s'.regs)
    (htable : ∀ g ∈ s'.slave.board.harness.pins, g ∈ condPinInfo)
    (hlit : (s.regs.stateOf runLed).level = true →
      s'.slave.board.harness.timerActive = false) : Inv regs₀ s' := by
  have hled : ∀ g ∈ leds, s'.regs.stateOf g = s.regs.stateOf g := by
    intro g hg
    apply h.outside
    exact fun hpin => not_mem_condPinInfo_of_led hg (htable g hpin)
  constructor
  case table => exact htable
  case harness => exact h.inside hs.harness
  case led =>
    intro g hg
    rw [hled g hg]
    exact hs.led g hg
  case others =>
    intro g hg hgl
    rw [h.outside g hg]
    exact hs.others g (fun hpin => hg (h.grows hpin)) hgl
  case agrees => exact h.agrees hs.agrees
  case lit =>
    rw [hled runLed (by decide)]
    exact hlit

theorem LedPin.level {s : PinState} (hs : LedPin s) (level : Bool) :
    LedPin { s with level } :=
  ⟨hs.mode_eq, hs.pull_eq, hs.otype_eq, hs.speed_eq⟩

/-- A call that switches an LED. -/
theorem Inv.switched {s : Wired} (hs : Inv regs₀ s) {p : LED} (hp : p ∈ leds)
    {c : GpioCall} (hdomain : c.InDomain)
    (hc : ∀ st, ∃ level, c.effect st = { st with level })
    (hlit : p = runLed → (c.effect (s.regs.stateOf runLed)).level = true →
      s.slave.board.harness.timerActive = false) :
    Inv regs₀ { s with regs := s.regs.performAll (callsOn p [c]) } := by
  have hcs : ∀ d ∈ [c], d.InDomain := List.forall_mem_singleton.mpr hdomain
  constructor
  case table => exact hs.table
  case harness =>
    intro g hg
    have hne : g ≠ p := by
      rintro rfl
      exact not_mem_condPinInfo_of_led hp (hs.table g hg)
    simp only [stateOf_callsOn_of_ne hcs hne]
    exact hs.harness g hg
  case led =>
    intro g hg
    by_cases hgp : g = p
    · subst hgp
      obtain ⟨level, hlevel⟩ := hc (s.regs.stateOf g)
      simp only [stateOf_callsOn_self _ hcs, List.foldl_cons, List.foldl_nil,
        hlevel]
      exact (hs.led g hg).level level
    · simp only [stateOf_callsOn_of_ne hcs hgp]
      exact hs.led g hg
  case others =>
    intro g hg hgl
    have hne : g ≠ p := fun h => hgl (h ▸ hp)
    simp only [stateOf_callsOn_of_ne hcs hne]
    exact hs.others g hg hgl
  case agrees =>
    intro g hg
    have hne : g ≠ p := fun h => hg (h ▸ hp)
    simp only [stateOf_callsOn_of_ne hcs hne]
    exact hs.agrees g hg
  case lit =>
    by_cases hrun : p = runLed
    · subst hrun
      simp only [stateOf_callsOn_self _ hcs, List.foldl_cons, List.foldl_nil]
      exact hlit rfl
    · simp only [stateOf_callsOn_of_ne hcs (Ne.symm hrun)]
      exact hs.lit

/-! ## Power-on -/

theorem stateOf_constructed (ps : List Gpio) (regs : Registers) (g : Gpio) :
    let regs' := regs.performAll
      (ps.flatMap fun p => callsOn p [constructed .output])
    (g ∉ ps → regs'.stateOf g = regs.stateOf g) ∧
      (g ∈ ps → ∃ st, regs'.stateOf g = (constructed .output).effect st) := by
  have hdomain : ∀ c ∈ [constructed .output], c.InDomain := by decide
  induction ps generalizing regs with
  | nil => exact ⟨fun _ => rfl, fun h => absurd h List.not_mem_nil⟩
  | cons p ps ih =>
      simp only [List.flatMap_cons, performAll_append]
      obtain ⟨hout, hin⟩ :=
        ih (regs.performAll (callsOn p [constructed .output]))
      constructor
      · intro hg
        rw [List.mem_cons, not_or] at hg
        rw [hout hg.2, stateOf_callsOn_of_ne hdomain hg.1]
      · intro hg
        by_cases hps : g ∈ ps
        · exact hin hps
        · have hgp : g = p := (List.mem_cons.mp hg).resolve_right hps
          subst hgp
          rw [hout hps, stateOf_callsOn_self _ hdomain]
          exact ⟨_, rfl⟩

theorem inv_powerOn (uid : UInt32) (residue : ℕ → UInt16)
    (regs : Registers) : Inv regs (powerOn uid residue regs) := by
  have hinit := stateOf_constructed leds regs
  constructor
  case table => exact fun g hg => absurd hg List.not_mem_nil
  case harness => exact fun g hg => absurd hg List.not_mem_nil
  case led =>
    intro g hg
    obtain ⟨st, hst⟩ := (hinit g).2 hg
    rw [powerOn, initialized, hst]
    exact ⟨rfl, rfl, rfl, rfl⟩
  case others => exact fun g _ hg => (hinit g).1 hg
  case agrees => exact fun g _ => ⟨rfl, rfl⟩
  case lit => exact fun _ => rfl

/-! ## Steps -/

/-- A message that `parse` returns is received, and nothing else changes the
board. -/
theorem parseAndProcess_cases (s : SlaveDevice) (raw_data : Bytes) :
    (∃ cls fields, s.parseAndProcess raw_data =
        (.ok (some ⟨cls, fields⟩), s.receive cls fields)) ∨
      (∀ d, (s.parseAndProcess raw_data).1 ≠ .ok (some d)) ∧
        (s.parseAndProcess raw_data).2.board = s.board := by
  cases hsel : FrameParser.select .slave s.uid raw_data with
  | none =>
      right
      rw [parseAndProcess, FrameParser.parse_of_select_none hsel]
      refine ⟨?_, rfl⟩
      intro d h
      cases h
  | some sel =>
      obtain ⟨cls, payload⟩ := sel
      rw [parseAndProcess, FrameParser.parse_of_select hsel]
      cases hdes : deserializeInto cls payload s.statics with
      | error e =>
          right
          refine ⟨?_, rfl⟩
          intro d h
          cases h
      | ok r =>
          obtain ⟨msg, statics⟩ := r
          obtain ⟨fields, rfl, rfl⟩ := deserializeInto_store hdes
          left
          refine ⟨cls, fields, ?_⟩
          rw [← Message.decoded_ofFields s.statics cls fields]
          rfl

theorem mirrored_condCfg (s : SlaveDevice) (m : Master2Slave.CondCfgMsg)
    (regs : Registers) :
    Mirrored s.board (s.receive (.master2Slave .condCfgMsg) m).board regs
      (regs.performAll (initCalls m.conductionNum.toUInt8)) := by
  have h := mirrored_emplacePins m.conductionNum.toUInt8.toNat
    { Harness.setPeriod m.interval s.board with harness :=
      { (Harness.setPeriod m.interval s.board).harness with
        conductionNum := m.conductionNum.toUInt8
        totalConductionNum := m.totalConductionNum
        startConductionNum := m.startConductionNum
        data := (Harness.setPeriod m.interval s.board).harness.data.resize
          m.totalConductionNum.toNat m.conductionNum.toUInt8.toNat } } regs
  exact h.of_same_pins (Harness.pins_setPeriod _ _).symm
    (Harness.gpio_setPeriod _ _).symm (Harness.accesses_setPeriod _ _).symm
    rfl rfl rfl

/-- A table index in range gives a pin of the table. -/
theorem pinInfo_mem {i : ℕ} (h : i < 62) :
    Harness.pinInfo i ∈ condPinInfo := by
  rw [Harness.pinInfo, List.getD_eq_getElem _ _ h]
  exact List.getElem_mem h

theorem inv_condCfg {s : Wired} (hs : Inv regs₀ s)
    (m : Master2Slave.CondCfgMsg)
    (hrange : ∀ a ∈ (s.slave.receive (.master2Slave .condCfgMsg) m).board.accesses,
      a.InRange) :
    Inv regs₀
      { slave := s.slave.receive (.master2Slave .condCfgMsg) m
        regs := s.regs.performAll (initCalls m.conductionNum.toUInt8) } := by
  obtain ⟨hharness, -, haccesses, -⟩ := receive_condCfg_spec s.slave m
  apply hs.mirrored (mirrored_condCfg s.slave m s.regs)
  case htable =>
    intro g hg
    simp only [hharness] at hg
    rcases List.mem_append.mp hg with hold | hnew
    · exact hs.table g hold
    · obtain ⟨i, hi, rfl⟩ := List.mem_map.mp hnew
      have hin : PinAccess.InRange ⟨i, condPinInfo.length⟩ := by
        apply hrange
        rw [haccesses]
        apply List.mem_append_right
        exact List.mem_map.mpr ⟨i, hi, rfl⟩
      apply pinInfo_mem
      have hlt : (i : ℤ) < condPinInfo.length := hin.2
      rw [length_condPinInfo] at hlt
      omega
  case hlit =>
    intro hlevel
    simp only [hharness]
    rw [Harness.setPeriod]
    split
    · rfl
    · exact hs.lit hlevel

theorem inv_sync {s : Wired} (hs : Inv regs₀ s) (m : Master2Slave.SyncMsg) :
    Inv regs₀
      { slave := s.slave.receive (.master2Slave .syncMsg) m
        regs := s.regs.performAll (callsOn runLed [.bit_reset]) } := by
  have hoff := hs.switched (p := runLed) (by decide) (c := .bit_reset)
    (by decide) (fun st => ⟨false, rfl⟩) (by intro _ h; cases h)
  have hsame : Mirrored s.slave.board
      (s.slave.receive (.master2Slave .syncMsg) m).board
      (s.regs.performAll (callsOn runLed [.bit_reset]))
      (s.regs.performAll (callsOn runLed [.bit_reset])) := by
    have hrefl := Mirrored.refl s.slave.board
      (s.regs.performAll (callsOn runLed [.bit_reset]))
    rw [board_receive_sync, Harness.startWithCount]
    split
    · exact hrefl.of_same_pins rfl rfl rfl rfl rfl rfl
    · exact hrefl
  apply hoff.mirrored hsame
  case htable =>
    intro g hg
    rw [board_receive_sync, Harness.startWithCount] at hg
    split at hg
    · exact hs.table g hg
    · exact hs.table g hg
  case hlit =>
    intro hlevel
    rw [stateOf_callsOn_self _ (by decide)] at hlevel
    cases hlevel

theorem Inv.of_board {s : Wired} (hs : Inv regs₀ s) {slave : SlaveDevice}
    (h : slave.board = s.slave.board) :
    Inv regs₀ { slave, regs := s.regs } := by
  have hsame : Mirrored s.slave.board slave.board s.regs s.regs := by
    rw [h]
    exact Mirrored.refl s.slave.board s.regs
  apply hs.mirrored hsame
  case htable =>
    simp only [h]
    exact hs.table
  case hlit =>
    simp only [h]
    exact hs.lit

theorem inv_received {s : Wired} (hs : Inv regs₀ s) (cls : MessageClass)
    (fields : cls.Fields)
    (hrange : ∀ a ∈ (s.slave.receive cls fields).board.accesses, a.InRange) :
    Inv regs₀
      { slave := s.slave.receive cls fields
        regs := s.regs.performAll
          (outcomeCalls (.ok (some ⟨cls, fields⟩))) } := by
  rcases cls with id | id | id | id | id
  case master2Slave =>
    cases id with
    | syncMsg => exact inv_sync hs fields
    | condCfgMsg => exact inv_condCfg hs fields hrange
    | resCfgMsg | clipCfgMsg | readCondDataMsg | readResDataMsg
    | readClipDataMsg | rstMsg => exact hs.of_board rfl
  all_goals
    cases id <;> exact hs.of_board rfl

theorem outcomeCalls_of_none {o : Outcome} (h : ∀ d, o ≠ .ok (some d)) :
    outcomeCalls o = [] := by
  rcases o with e | _ | d
  · rfl
  · rfl
  · exact absurd rfl (h d)

/-- Every step keeps the invariant as long as no index leaves its vector. -/
theorem inv_step {s : Wired} (e : Event) {s' : Wired} (hs : Inv regs₀ s)
    (hrange : ∀ a ∈ s'.slave.board.accesses, a.InRange)
    (h : step s e = some s') : Inv regs₀ s' := by
  cases e with
  | packet raw_data =>
      cases h
      rcases parseAndProcess_cases s.slave raw_data with
        ⟨cls, fields, hparse⟩ | ⟨hnone, hboard⟩
      · rw [hparse] at hrange ⊢
        exact inv_received hs cls fields hrange
      · rw [outcomeCalls_of_none hnone]
        exact hs.of_board hboard
  | callback istat =>
      cases h
      rw [callbackCalls]
      split
      case isTrue hlast =>
        obtain ⟨hmirrored, hpins, hactive⟩ :=
          mirrored_callback_last (readInput istat) hlast s.regs
        have hreleased : Inv regs₀ (Wired.mk
            { s.slave with board :=
              Harness.myTimerCallback (readInput istat) s.slave.board }
            (s.regs.performAll (callsAt s.slave.board.harness
              ((s.slave.board.harness.rowIndex : ℤ) -
                s.slave.board.harness.startConductionNum.toNat - 1)
              release))) := by
          apply hs.mirrored hmirrored
          case htable =>
            simp only [hpins]
            exact hs.table
          case hlit => exact fun _ => hactive
        rw [performAll_append]
        exact hreleased.switched (by decide) trivial
          (fun st => ⟨!st.level, rfl⟩) (fun _ _ => hactive)
      case isFalse hrow =>
        obtain ⟨hmirrored, hpins, hactive⟩ :=
          mirrored_callback_row (readInput istat) hrow s.regs
        apply hs.mirrored hmirrored
        case htable =>
          simp only [hpins]
          exact hs.table
        case hlit =>
          simp only [hactive]
          exact hs.lit
  | powered =>
      cases h
      apply hs.switched (c := .bit_set) (by decide) trivial
        (fun st => ⟨true, rfl⟩)
      intro hp
      cases hp
  | blink =>
      cases h
      apply hs.switched (c := .toggle) (by decide) trivial
        (fun st => ⟨!st.level, rfl⟩)
      intro hp
      cases hp

theorem accesses_receive (s : SlaveDevice) (cls : MessageClass)
    (fields : cls.Fields) :
    s.board.accesses ⊆ (s.receive cls fields).board.accesses := by
  rcases cls with id | id | id | id | id
  case master2Slave =>
    cases id with
    | syncMsg =>
        change s.board.accesses ⊆ (Harness.startWithCount _ s.board).accesses
        rw [Harness.startWithCount]
        split <;> exact List.Subset.refl _
    | condCfgMsg => exact (mirrored_condCfg s fields fun _ => default).accesses
    | resCfgMsg | clipCfgMsg | readCondDataMsg | readResDataMsg
    | readClipDataMsg | rstMsg => exact List.Subset.refl _
  all_goals
    cases id <;> exact List.Subset.refl _

/-- The record of accesses only grows. -/
theorem accesses_step {s : Wired} (e : Event) {s' : Wired}
    (h : step s e = some s') :
    s.slave.board.accesses ⊆ s'.slave.board.accesses := by
  cases e with
  | packet raw_data =>
      cases h
      rcases parseAndProcess_cases s.slave raw_data with
        ⟨cls, fields, hparse⟩ | ⟨-, hboard⟩
      · rw [hparse]
        exact accesses_receive s.slave cls fields
      · rw [hboard]
        exact List.Subset.refl _
  | callback istat =>
      cases h
      by_cases hlast : 0 < s.slave.board.harness.maxTriggerCount ∧
          s.slave.board.harness.maxTriggerCount ≤
            s.slave.board.harness.triggerCount
      · exact (mirrored_callback_last (readInput istat) hlast s.regs).1.accesses
      · exact (mirrored_callback_row (readInput istat) hlast s.regs).1.accesses
  | powered =>
      cases h
      exact List.Subset.refl _
  | blink =>
      cases h
      exact List.Subset.refl _

/-! ## Runs -/

/-- In every run in which no index leaves its vector, whatever the registers
were at power-on: the pins of the harness are inputs or high outputs, the LEDs
are outputs, no other pin has changed, the registers agree with the board, and
the run LED is off during a scan. -/
theorem registers_of_run (uid : UInt32) (residue : ℕ → UInt16)
    (regs : Registers) {es : List Event} {s : Wired}
    (hrun : Runs.run step (powerOn uid residue regs) es = some s)
    (hrange : ∀ a ∈ s.slave.board.accesses, a.InRange) :
    (∀ g ∈ s.slave.board.harness.pins,
      g ∈ condPinInfo ∧ HarnessPin (s.regs.stateOf g)) ∧
    (∀ g ∈ leds, LedPin (s.regs.stateOf g)) ∧
    (∀ g, g ∉ s.slave.board.harness.pins → g ∉ leds →
      s.regs.stateOf g = regs.stateOf g) ∧
    Agrees s.regs s.slave.board.gpio ∧
    ((s.regs.stateOf runLed).level = true →
      s.slave.board.harness.timerActive = false) := by
  have hstep : ∀ (s : Wired) (e : Event) (s' : Wired),
      ((∀ a ∈ s.slave.board.accesses, a.InRange) → Inv regs s) →
      step s e = some s' →
      (∀ a ∈ s'.slave.board.accesses, a.InRange) → Inv regs s' := by
    intro s e s' hs h hrange'
    refine inv_step e (hs ?_) hrange' h
    exact fun a ha => hrange' a (accesses_step e h ha)
  have hinv : Inv regs s :=
    run_invariant hstep (fun _ => inv_powerOn uid residue regs) hrun hrange
  refine ⟨?_, hinv.led, hinv.others, hinv.agrees, hinv.lit⟩
  intro g hg
  exact ⟨hinv.table g hg, hinv.harness g hg⟩

/-- The second of two lines is scanned to the end of the scan. -/
def scanned : List Event :=
  [.powered, .packet (Bystander.condCfgFrame 1 0),
    .packet Reception.syncFrame, .blink, .callback fun _ _ => 0,
    .callback fun _ _ => 0, .callback fun _ _ => 0]

theorem registers_scanned :
    ∃ s, Runs.run step (powerOn 0 (fun _ => 0) fun _ => default) scanned =
        some s ∧
      s.slave.board.harness.pins ≠ [] ∧
      ∀ g ∈ s.slave.board.harness.pins,
        g ∈ condPinInfo ∧ HarnessPin (s.regs.stateOf g) :=
  ⟨_, rfl, by decide +kernel,
    (@registers_of_run 0 (fun _ => 0) (fun _ => default) scanned _ rfl
      (by decide +kernel)).1⟩

end RegisterRuns

end WirelessHarness
