import WirelessHarness.Slave.Device
import WirelessHarness.Support.Runs

/-!
# Rows of the conduction matrix

`startWithCount` resets the trigger counter and not the row, so the two agree
only when a `SyncMsg` is processed at row 0.  In runs where every `SyncMsg` is,
the row of every `setValue` call is below the number of rows.
-/

namespace WirelessHarness

open CheckedRead Runs SlaveDevice

namespace RowBounds

/-! ## Events -/

/-- What can happen to the harness of a slave. -/
inductive Event
  | condCfg (m : Master2Slave.CondCfgMsg)
  | sync (m : Master2Slave.SyncMsg)
  | callback (input : GpioInput)

/-- The configurations the property is about. -/
def Accepted (m : Master2Slave.CondCfgMsg) : Prop :=
  1 ≤ m.conductionNum.toNat ∧ m.conductionNum.toNat ≤ 62 ∧
    m.startConductionNum.toNat + m.conductionNum.toNat ≤
      m.totalConductionNum.toNat ∧
    0 < m.interval

instance (m : Master2Slave.CondCfgMsg) : Decidable (Accepted m) :=
  inferInstanceAs (Decidable (_ ∧ _ ∧ _ ∧ _))

/-- Callbacks happen only while the timer is active.  A whole callback is one
event, although `run` blocks the timer task for four to six ticks. -/
def step (s : SlaveDevice) : Event → Option SlaveDevice
  | .condCfg m =>
      if Accepted m then some (s.receive (.master2Slave .condCfgMsg) m)
      else none
  | .sync m => some (s.receive (.master2Slave .syncMsg) m)
  | .callback input =>
      if s.board.harness.timerActive then
        some { s with board := Harness.myTimerCallback input s.board }
      else none

/-- A `SyncMsg` finds the harness at row 0. -/
def SyncAtRowZero (s : SlaveDevice) : Event → Prop
  | .sync _ => s.board.harness.rowIndex = 0
  | _ => True

instance (s : SlaveDevice) : (e : Event) → Decidable (SyncAtRowZero s e)
  | .condCfg _ => .isTrue trivial
  | .sync _ => inferInstanceAs (Decidable (_ = _))
  | .callback _ => .isTrue trivial

/-! ## The invariant -/

/-- While the timer is active the row is the number of triggers, which count
up to the number of rows. -/
structure Inv (s : SlaveDevice) : Prop where
  rows_eq : s.board.harness.data.rows =
    s.statics.m2sCondCfg.totalConductionNum.toNat
  active : s.board.harness.timerActive = true →
    s.board.harness.triggerCount = s.board.harness.rowIndex ∧
    s.board.harness.maxTriggerCount = s.board.harness.data.rows ∧
    0 < s.board.harness.maxTriggerCount
  writes_inBounds : ∀ w ∈ s.board.writes, w.InBounds

theorem inv_of_boot {s : SlaveDevice} (h : s.Boot) : Inv s := by
  obtain ⟨hstatics, hboard, -⟩ := h
  constructor
  case rows_eq =>
    rw [hstatics, hboard]
    rfl
  case active =>
    rw [hboard]
    intro hactive
    cases hactive
  case writes_inBounds =>
    rw [hboard]
    simp

theorem inv_condCfg {s : SlaveDevice} {m : Master2Slave.CondCfgMsg}
    (hs : Inv s) (hm : Accepted m) :
    Inv (s.receive (.master2Slave .condCfgMsg) m) := by
  obtain ⟨-, -, -, hinterval⟩ := hm
  have hperiod : Harness.setPeriod m.interval s.board =
      { s.board with harness :=
        { s.board.harness with timerActive := false } } := by
    rw [Harness.setPeriod, if_pos hinterval]
  obtain ⟨hharness, hwrites, -⟩ := receive_condCfg_spec s m
  constructor
  case rows_eq =>
    rw [hharness]
    rfl
  case active =>
    intro h
    rw [hharness, hperiod] at h
    cases h
  case writes_inBounds =>
    intro w hw
    rw [hwrites, hperiod] at hw
    exact hs.writes_inBounds w hw

theorem inv_sync {s : SlaveDevice} (m : Master2Slave.SyncMsg) (hs : Inv s)
    (hrow : s.board.harness.rowIndex = 0) :
    Inv (s.receive (.master2Slave .syncMsg) m) := by
  change Inv { s with
    statics := { s.statics with m2sSync := m }
    board := Harness.startWithCount
      s.statics.m2sCondCfg.totalConductionNum.toNat s.board }
  unfold Harness.startWithCount
  split
  next hpos =>
    constructor
    case rows_eq => exact hs.rows_eq
    case active =>
      intro _
      exact ⟨hrow.symm, hs.rows_eq.symm, hpos⟩
    case writes_inBounds => exact hs.writes_inBounds
  next => exact ⟨hs.rows_eq, hs.active, hs.writes_inBounds⟩

theorem inv_callback {s : SlaveDevice} (input : GpioInput) (hs : Inv s)
    (hactive : s.board.harness.timerActive = true) :
    Inv { s with board := Harness.myTimerCallback input s.board } := by
  obtain ⟨htrigger, hmax, hpos⟩ := hs.active hactive
  by_cases hlt : s.board.harness.triggerCount <
      s.board.harness.maxTriggerCount
  · rw [Harness.myTimerCallback_of_lt hlt]
    constructor
    case rows_eq => exact (BinaryMatrix.rows_fillRow _ _ _ _).trans hs.rows_eq
    case active =>
      intro _
      refine ⟨congrArg (· + 1) htrigger, ?_, hpos⟩
      exact hmax.trans (BinaryMatrix.rows_fillRow _ _ _ _).symm
    case writes_inBounds =>
      intro w hw
      rcases List.mem_append.mp hw with hw | hw
      · exact hs.writes_inBounds w hw
      · obtain ⟨i, hi, rfl⟩ := List.mem_map.mp hw
        rw [List.mem_range] at hi
        constructor
        · simp only [Harness.rowWrite, Harness.harness_setCurrentPin]
          omega
        · simpa [Harness.rowWrite] using hi
  · rw [Harness.myTimerCallback_of_le hpos (by omega)]
    constructor
    case rows_eq => exact hs.rows_eq
    case active =>
      intro h
      cases h
    case writes_inBounds => exact hs.writes_inBounds

theorem inv_step (s : SlaveDevice) (e : Event) (s' : SlaveDevice)
    (hs : Inv s) (he : SyncAtRowZero s e) (hstep : step s e = some s') :
    Inv s' := by
  cases e with
  | condCfg m =>
      obtain ⟨hm, heq⟩ := Option.ite_none_right_eq_some.mp hstep
      cases heq
      exact inv_condCfg hs hm
  | sync m =>
      cases hstep
      exact inv_sync m hs he
  | callback input =>
      obtain ⟨hactive, heq⟩ := Option.ite_none_right_eq_some.mp hstep
      cases heq
      exact inv_callback input hs hactive

/-- In a run whose `SyncMsg`s all find the harness at row 0, every `setValue`
call is in bounds. -/
theorem writes_inBounds_of_meets {s s' : SlaveDevice} (es : List Event)
    (hboot : s.Boot) (hmeets : Meets step SyncAtRowZero s es)
    (hrun : run step s es = some s') : ∀ w ∈ s'.board.writes, w.InBounds :=
  (run_invariant_of_meets inv_step (inv_of_boot hboot) hmeets
    hrun).writes_inBounds

/-- Two lines of which this slave has the first. -/
def firstOfTwoCfg : Master2Slave.CondCfgMsg :=
  ⟨0, 20, 2, 0, 1⟩

def twoScans : List Event :=
  [.condCfg firstOfTwoCfg, .sync {}, .callback fun _ _ => true,
    .callback fun _ _ => true, .callback fun _ _ => true, .sync {},
    .callback fun _ _ => true]

/-- A whole scan, its closing callback and the start of the next one. -/
theorem writes_inBounds_twoScans :
    ∃ s', run step bootDevice twoScans = some s' ∧
      ∀ w ∈ s'.board.writes, w.InBounds :=
  ⟨_, rfl, writes_inBounds_of_meets twoScans (s := bootDevice)
    ⟨rfl, rfl, rfl⟩ (by decide) rfl⟩

/-- A `SyncMsg` after the first of two rows: the second callback after it
writes row 2 of a matrix with 2 rows. -/
theorem not_writes_inBounds_syncDuringScan :
    ¬ ∀ s', run step bootDevice
        [.condCfg firstOfTwoCfg, .sync {}, .callback fun _ _ => true,
          .sync {}, .callback fun _ _ => true, .callback fun _ _ => true] =
        some s' →
      ∀ w ∈ s'.board.writes, w.InBounds := by
  intro h
  have hall := h _ rfl
  revert hall
  decide

/-! ## A synchronization at another row -/

/-- Callbacks before the last trigger each move on by one row. -/
theorem run_callbacks {s : SlaveDevice} (inputs : ℕ → GpioInput)
    (hactive : s.board.harness.timerActive = true)
    (htrigger : s.board.harness.triggerCount = 0) {n : ℕ}
    (hn : n ≤ s.board.harness.maxTriggerCount) :
    ∃ s', run step s ((List.range n).map fun k => .callback (inputs k)) =
        some s' ∧
      s'.board.harness.timerActive = true ∧
      s'.board.harness.triggerCount = n ∧
      s'.board.harness.maxTriggerCount = s.board.harness.maxTriggerCount ∧
      s'.board.harness.rowIndex = s.board.harness.rowIndex + n ∧
      s'.board.harness.data.rows = s.board.harness.data.rows ∧
      s'.board.harness.data.cols = s.board.harness.data.cols := by
  induction n with
  | zero => exact ⟨s, rfl, hactive, htrigger, rfl, rfl, rfl, rfl⟩
  | succ n ih =>
      obtain ⟨t, hrun, hact, htrig, hmax, hrow, hrows, hcols⟩ :=
        ih (by omega)
      refine ⟨{ t with
        board := Harness.myTimerCallback (inputs n) t.board }, ?_, ?_⟩
      · rw [List.range_succ, List.map_append, run_append_eq_some]
        refine ⟨t, hrun, ?_⟩
        simp [run, step, hact]
      · rw [Harness.myTimerCallback_of_lt (by omega)]
        simp only [BinaryMatrix.rows_fillRow, BinaryMatrix.cols_fillRow]
        exact ⟨hact, by omega, hmax, by omega, hrows, hcols⟩

/-- A `SyncMsg` that finds the harness at a later row is followed, after as
many callbacks as there are rows, by a `setValue` call out of bounds. -/
theorem sync_overruns {s : SlaveDevice} (hs : Inv s)
    (m : Master2Slave.SyncMsg) (inputs : ℕ → GpioInput)
    (hrow : 0 < s.board.harness.rowIndex)
    (hrows : 0 < s.board.harness.data.rows)
    (hcols : 0 < s.board.harness.data.cols) :
    ∃ s', run step s (.sync m ::
        (List.range s.board.harness.data.rows).map
          fun k => .callback (inputs k)) = some s' ∧
      ∃ w ∈ s'.board.writes, ¬ w.InBounds := by
  have htotal := hs.rows_eq ▸ hrows
  obtain ⟨n, hn⟩ : ∃ n, s.board.harness.data.rows = n + 1 :=
    ⟨_, (Nat.succ_pred_eq_of_pos hrows).symm⟩
  let s₁ := s.receive (.master2Slave .syncMsg) m
  have hstart : s₁.board = { s.board with
      harness := { s.board.harness with
        triggerCount := 0
        maxTriggerCount := s.board.harness.data.rows
        timerActive := true } } := by
    rw [hs.rows_eq]
    exact if_pos htotal
  have hmax : s₁.board.harness.maxTriggerCount = n + 1 := by
    rw [hstart]
    exact hn
  obtain ⟨t, hrun, hact, htrig, htmax, htrow, htrows, htcols⟩ :=
    run_callbacks (s := s₁) (n := n) inputs (by rw [hstart])
      (by rw [hstart]) (by omega)
  rw [hstart] at htrow htrows htcols
  simp only at htrow htrows htcols
  refine ⟨{ t with
    board := Harness.myTimerCallback (inputs n) t.board }, ?_, ?_⟩
  · rw [hn, List.range_succ, List.map_append, run_cons_eq_some]
    refine ⟨s₁, rfl, ?_⟩
    rw [run_append_eq_some]
    refine ⟨t, hrun, ?_⟩
    simp [run, step, hact]
  · rw [Harness.myTimerCallback_of_lt (by omega)]
    refine ⟨_, List.mem_append_right _ (List.mem_map_of_mem
      (List.mem_range.mpr (by omega : 0 < t.board.harness.data.cols))), ?_⟩
    rintro ⟨hbound, -⟩
    simp only [Harness.rowWrite, Harness.harness_setCurrentPin] at hbound
    omega

end RowBounds

end WirelessHarness
