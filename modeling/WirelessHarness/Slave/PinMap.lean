import WirelessHarness.Slave.Device

/-!
# The pins of a configured slave

`init` takes the number of lines as a byte and appends its pins to those of
earlier configurations; `deinit`, which clears them, is not called.  After a
sequence of `CondCfgMsg` the pins are the configured ones exactly when the last
message asks for no more lines than `condPinInfo` has, and every earlier one
appended nothing.
-/

namespace WirelessHarness

open SlaveDevice

namespace PinMap

/-! ## What a configuration promises -/

/-- A `CondCfgMsg` is parsed and processed. -/
def configure (s : SlaveDevice) (m : Master2Slave.CondCfgMsg) : SlaveDevice :=
  s.receive (.master2Slave .condCfgMsg) m

/-- The messages are received one after the other. -/
def reconfigure (s : SlaveDevice) (ms : List Master2Slave.CondCfgMsg) :
    SlaveDevice :=
  ms.foldl configure s

/-- Neither the board nor the frames sent are changed. -/
def RefusedWithoutEffect (s s' : SlaveDevice) : Prop :=
  s'.board = s.board ∧ s'.sent = s.sent

/-- The pins are those `m` asks for, and no index left `condPinInfo`. -/
structure Rebuilt (s s' : SlaveDevice) (m : Master2Slave.CondCfgMsg) :
    Prop where
  accesses_inRange :
    ∀ a ∈ s'.board.accesses.drop s.board.accesses.length, a.InRange
  conductionNum_eq :
    s'.board.harness.conductionNum.toNat = m.conductionNum.toNat
  length_pins : s'.board.harness.pins.length = m.conductionNum.toNat
  pins_eq : ∀ i < m.conductionNum.toNat, ∃ p, condPinInfo[i]? = some p ∧
    s'.board.harness.pins[i]? = some p

/-- After `ms` the message `m` is refused, or the pins become those of `m`. -/
def RebuildsPinMap (s : SlaveDevice) (ms : List Master2Slave.CondCfgMsg)
    (m : Master2Slave.CondCfgMsg) : Prop :=
  RefusedWithoutEffect (reconfigure s ms) (reconfigure s (ms ++ [m])) ∨
    Rebuilt (reconfigure s ms) (reconfigure s (ms ++ [m])) m

/-! ## One configuration -/

/-- What is appended for one message. -/
def emplaced (m : Master2Slave.CondCfgMsg) : List Gpio :=
  (List.range m.conductionNum.toUInt8.toNat).map Harness.pinInfo

theorem length_emplaced (m : Master2Slave.CondCfgMsg) :
    (emplaced m).length = m.conductionNum.toNat % 256 := by
  simp [emplaced]

theorem pins_configure (s : SlaveDevice) (m : Master2Slave.CondCfgMsg) :
    (configure s m).board.harness.pins =
      s.board.harness.pins ++ emplaced m := by
  obtain ⟨hharness, -⟩ := receive_condCfg_spec s m
  exact congrArg Harness.pins hharness

theorem conductionNum_configure (s : SlaveDevice)
    (m : Master2Slave.CondCfgMsg) :
    (configure s m).board.harness.conductionNum =
      m.conductionNum.toUInt8 := by
  obtain ⟨hharness, -⟩ := receive_condCfg_spec s m
  exact congrArg Harness.conductionNum hharness

theorem accesses_configure (s : SlaveDevice) (m : Master2Slave.CondCfgMsg) :
    (configure s m).board.accesses =
      s.board.accesses ++
        (List.range (m.conductionNum.toNat % 256)).map
          (fun i : ℕ => ⟨i, condPinInfo.length⟩) := by
  obtain ⟨-, -, haccesses, -⟩ := receive_condCfg_spec s m
  rw [configure, haccesses, UInt16.toNat_toUInt8]

/-- A reply is sent to every message. -/
theorem not_refused (s : SlaveDevice) (m : Master2Slave.CondCfgMsg) :
    ¬ RefusedWithoutEffect s (configure s m) := by
  rintro ⟨-, hsent⟩
  have hlen := congrArg List.length hsent
  change (s.sent ++ [_]).length = s.sent.length at hlen
  rw [List.length_append, List.length_singleton] at hlen
  omega

/-- The indices into the table are in range up to its length. -/
theorem inRange_iff (n : ℕ) :
    (∀ a ∈ (List.range n).map
        (fun i : ℕ => (⟨i, condPinInfo.length⟩ : PinAccess)), a.InRange) ↔
      n ≤ 62 := by
  rw [List.forall_mem_map]
  simp only [List.mem_range, PinAccess.InRange, length_condPinInfo]
  constructor
  · intro h
    by_contra hn
    have hlast := h 62 (by omega)
    omega
  · intro hn i hi
    omega

theorem rebuilt_iff (s : SlaveDevice) (m : Master2Slave.CondCfgMsg) :
    Rebuilt s (configure s m) m ↔
      m.conductionNum.toNat ≤ 62 ∧ s.board.harness.pins = [] := by
  have hnum : (configure s m).board.harness.conductionNum.toNat =
      m.conductionNum.toNat % 256 := by
    rw [conductionNum_configure]
    simp
  have hdrop : (configure s m).board.accesses.drop
      s.board.accesses.length =
        (List.range (m.conductionNum.toNat % 256)).map
          (fun i : ℕ => ⟨i, condPinInfo.length⟩) := by
    rw [accesses_configure, List.drop_left]
  constructor
  · rintro ⟨haccesses, hconduction, hlen, -⟩
    rw [hdrop, inRange_iff] at haccesses
    rw [hnum] at hconduction
    rw [pins_configure, List.length_append, length_emplaced] at hlen
    refine ⟨by omega, ?_⟩
    apply List.eq_nil_of_length_eq_zero
    omega
  · rintro ⟨hle, hnil⟩
    have hmod : m.conductionNum.toNat % 256 = m.conductionNum.toNat :=
      Nat.mod_eq_of_lt (by omega)
    constructor
    case accesses_inRange =>
      rw [hdrop, inRange_iff, hmod]
      exact hle
    case conductionNum_eq => rw [hnum, hmod]
    case length_pins =>
      rw [pins_configure, hnil, List.nil_append, length_emplaced, hmod]
    case pins_eq =>
      intro i hi
      have hlt : i < condPinInfo.length := by
        rw [length_condPinInfo]
        omega
      refine ⟨condPinInfo[i], List.getElem?_eq_getElem hlt, ?_⟩
      rw [pins_configure, hnil, List.nil_append, emplaced, UInt16.toNat_toUInt8,
        hmod, Harness.map_pinInfo hle, List.getElem?_take_of_lt hi]
      exact List.getElem?_eq_getElem hlt

/-! ## Sequences of configurations -/

theorem pins_reconfigure (s : SlaveDevice)
    (ms : List Master2Slave.CondCfgMsg) :
    (reconfigure s ms).board.harness.pins =
      s.board.harness.pins ++ ms.flatMap emplaced := by
  induction ms generalizing s with
  | nil => exact (List.append_nil _).symm
  | cons m ms ih =>
      change (reconfigure (configure s m) ms).board.harness.pins = _
      rw [ih, pins_configure, List.append_assoc, List.flatMap_cons]

/-- After power-on the last of a sequence of messages is refused or rebuilds
the pins exactly when it asks for at most 62 lines and all messages before it
ask for a multiple of 256. -/
theorem rebuildsPinMap_iff {s : SlaveDevice} (hboot : s.Boot)
    (ms : List Master2Slave.CondCfgMsg) (m : Master2Slave.CondCfgMsg) :
    RebuildsPinMap s ms m ↔
      m.conductionNum.toNat ≤ 62 ∧
        ∀ m' ∈ ms, m'.conductionNum.toNat % 256 = 0 := by
  have hlast : reconfigure s (ms ++ [m]) =
      configure (reconfigure s ms) m := by
    rw [reconfigure, List.foldl_append]
    rfl
  have hpins : s.board.harness.pins = [] := by
    rw [hboot.2.1]
  rw [RebuildsPinMap, hlast, or_iff_right (not_refused _ _), rebuilt_iff,
    pins_reconfigure, hpins, List.nil_append, List.flatMap_eq_nil_iff]
  simp only [← List.length_eq_zero_iff, length_emplaced]

/-- All pins after two configurations that ask for none. -/
theorem rebuildsPinMap_afterNone :
    RebuildsPinMap bootDevice [⟨0, 20, 3, 0, 0⟩, ⟨1, 20, 300, 0, 256⟩]
      ⟨0, 20, 62, 0, 62⟩ :=
  (rebuildsPinMap_iff (s := bootDevice) ⟨rfl, rfl, rfl⟩ _ _).mpr
    (by decide)

/-- The same configuration twice leaves two pins for one line. -/
theorem not_rebuildsPinMap_twice :
    ¬ RebuildsPinMap bootDevice [⟨0, 20, 2, 0, 1⟩] ⟨0, 20, 2, 0, 1⟩ := by
  rintro (hrefused | ⟨-, -, hlen, -⟩)
  · exact not_refused _ _ hrefused
  · revert hlen
    decide

end PinMap

end WirelessHarness
