import WirelessHarness.Master.SyncPeriod
import WirelessHarness.Slave.RowBounds
import WirelessHarness.Slave.Scan

/-!
# Scans started again and again

The master broadcasts a `SyncMsg` whenever its timer expires, and nothing tells
it how far the slaves are.  Here a slave runs on its own clock: `harnessTimer`
expires once in every period after its start, and its callback blocks in `run`
for the delays before it moves on to the next row.  Every `SyncMsg` finds the
harness at row 0 and outside a callback exactly if it comes before the first
callback of the scan before or not before the callback that ends it, and the
period that the master programs leaves 80 ticks for that.
-/

namespace WirelessHarness

open CheckedRead Runs SlaveDevice

/-! ## A callback in parts -/

namespace Harness

/-- The callback that ends a scan. -/
def Ends (b : Board) : Prop :=
  0 < b.harness.maxTriggerCount ∧
    b.harness.maxTriggerCount ≤ b.harness.triggerCount

instance (b : Board) : Decidable (Ends b) :=
  inferInstanceAs (Decidable (_ ∧ _))

/-- `myTimerCallback` up to the first delay in `run`. -/
def startRow (b : Board) : Board :=
  releaseLastPin (if 0 < b.harness.maxTriggerCount then counted b else b)

theorem harness_startRow {b : Board} (h : 0 < b.harness.maxTriggerCount) :
    (startRow b).harness =
      { b.harness with triggerCount := b.harness.triggerCount + 1 } := by
  rw [startRow, if_pos h, harness_releaseLastPin]
  rfl

theorem writes_startRow (b : Board) : (startRow b).writes = b.writes := by
  rw [startRow, writes_releaseLastPin]
  split <;> rfl

/-- The sampling loop and the end of `myTimerCallback`. -/
def finishRow (input : GpioInput) (b : Board) : Board :=
  let b := (List.range b.harness.data.cols).foldl (sample input) b
  { b with harness := { b.harness with rowIndex := b.harness.rowIndex + 1 } }

/-- Put together the parts are the callback. -/
theorem myTimerCallback_of_not_ends {b : Board} (input : GpioInput)
    (h : ¬ Ends b) :
    myTimerCallback input b = finishRow input (driveRowPin (startRow b)) := by
  rw [Ends, not_and, Nat.not_le] at h
  by_cases hpos : 0 < b.harness.maxTriggerCount
  · simp only [myTimerCallback, startRow, if_pos hpos,
      if_neg (Nat.not_le.mpr (h hpos))]
    rfl
  · simp only [myTimerCallback, startRow, if_neg hpos]
    rfl

theorem finishRow_eq (input : GpioInput) (b : Board) :
    finishRow input b =
      { harness :=
          { b.harness with
            data := b.harness.data.fillRow b.harness.rowIndex
              (readPin input b) b.harness.data.cols
            rowIndex := b.harness.rowIndex + 1 }
        gpio := b.gpio
        accesses := b.accesses ++
          (List.range b.harness.data.cols).map
            fun i => ⟨i, b.harness.pins.length⟩
        writes := b.writes ++
          (List.range b.harness.data.cols).map (rowWrite input b) } := by
  rw [finishRow, foldl_sample]

end Harness

namespace ScanCycles

open Harness (Ends startRow finishRow)

/-! ## A slave and its clock -/

/-- What `run` does when a delay is over. -/
inductive Delay
  | drive
  | sample
deriving DecidableEq, Repr

/-- `period` and `due` are those of `harnessTimer`, `due` for as long as it is
active.  `blocked` is the delay of the callback under way and the tick at which
it is over, `synced` the tick of the last `SyncMsg`. -/
structure Clocked where
  slave : SlaveDevice
  period : ℕ
  due : ℕ := 0
  now : ℕ := 0
  blocked : Option (Delay × ℕ) := none
  synced : Option ℕ := none

namespace Clocked

def withBoard (s : Clocked) (b : Board) : Clocked :=
  { s with slave := { s.slave with board := b } }

/-- A callback begins; `TaskBase::delay(2)` stands before a pin is driven, and
`TaskBase::delay(4)` before the pins are sampled.  The callback that ends a scan
does not block. -/
def expire (s : Clocked) (input : GpioInput) : Clocked :=
  let b := s.slave.board
  let s := { s with due := s.due + s.period }
  if Ends b then s.withBoard (Harness.myTimerCallback input b)
  else
    { s.withBoard (startRow b) with
      blocked :=
        if b.harness.isDeviceOutput then some (.drive, s.now + 2)
        else some (.sample, s.now + 4) }

/-- A callback goes on. -/
def resume (s : Clocked) (input : GpioInput) : Delay → Clocked
  | .drive =>
      { s.withBoard (Harness.driveRowPin s.slave.board) with
        blocked := some (.sample, s.now + 4) }
  | .sample =>
      { s.withBoard (finishRow input s.slave.board) with blocked := none }

end Clocked

inductive Event
  | sync (m : Master2Slave.SyncMsg)
  | read (reserve : UInt8)
  | tick (input : GpioInput)

/-- Starting an active timer starts it anew.  While a callback blocks the timer
task, messages are processed and the timer does not expire; a start is carried
out later, but counts from the tick of the message.  This describes periods
that are longer than a callback, which takes at most six ticks. -/
def step (s : Clocked) : Event → Option Clocked
  | .sync m =>
      some { s with
        slave := s.slave.receive (.master2Slave .syncMsg) m
        due :=
          if 0 < s.slave.statics.m2sCondCfg.totalConductionNum.toNat then
            s.now + s.period
          else s.due
        synced := some s.now }
  | .read reserve =>
      some { s with
        slave := s.slave.receive (.master2Slave .readCondDataMsg) reserve }
  | .tick input =>
      let s := { s with now := s.now + 1 }
      match s.blocked with
      | some (delay, wake) =>
          if wake = s.now then some (s.resume input delay) else some s
      | none =>
          if s.slave.board.harness.timerActive ∧ s.due = s.now then
            some (s.expire input)
          else some s

/-- A slave that was just configured. -/
def configured (s : SlaveDevice) (m : Master2Slave.CondCfgMsg) : Clocked where
  slave := s.receive (.master2Slave .condCfgMsg) m
  period := m.interval.toNat

/-- A `SyncMsg` finds the harness at row 0 and no callback under way. -/
def SyncAtRowZero (s : Clocked) : Event → Prop
  | .sync _ => s.slave.board.harness.rowIndex = 0 ∧ s.blocked = none
  | _ => True

/-- A `SyncMsg` comes before the first callback of the scan before it, or not
before the callback that ends that scan. -/
def Spaced (s : Clocked) : Event → Prop
  | .sync _ => ∀ t, s.synced = some t →
      s.now < t + s.period ∨
        t + (s.slave.statics.m2sCondCfg.totalConductionNum.toNat + 1) *
          s.period ≤ s.now
  | _ => True

instance (s : Clocked) : (e : Event) → Decidable (Spaced s e)
  | .sync _ =>
      decidable_of_iff (∀ t ∈ s.synced, s.now < t + s.period ∨
        t + (s.slave.statics.m2sCondCfg.totalConductionNum.toNat + 1) *
          s.period ≤ s.now) Iff.rfl
  | .read _ => .isTrue trivial
  | .tick _ => .isTrue trivial

/-! ## Where the scan is -/

/-- The ticks from the beginning of a callback to the end of the delay, at
most. -/
def Delay.latest : Delay → ℕ
  | drive => 2
  | sample => 6

/-- `row` callbacks have begun since the `SyncMsg` of tick `t`, the last of
which may be under way. -/
structure InRow (s : Clocked) (t row : ℕ) : Prop where
  row_le : row ≤ s.slave.statics.m2sCondCfg.totalConductionNum.toNat
  active : s.slave.board.harness.timerActive = true
  triggerCount_eq : s.slave.board.harness.triggerCount = row
  maxTriggerCount_eq : s.slave.board.harness.maxTriggerCount =
    s.slave.statics.m2sCondCfg.totalConductionNum.toNat
  due_eq : s.due = t + row * s.period + s.period
  le_now : t + row * s.period ≤ s.now
  now_lt : s.now < s.due
  rowIndex_eq : s.blocked = none → s.slave.board.harness.rowIndex = row
  under_way : ∀ delay wake, s.blocked = some (delay, wake) →
    s.slave.board.harness.rowIndex + 1 = row ∧ s.now < wake ∧
      wake ≤ t + row * s.period + delay.latest

/-- The timer is stopped and the harness at row 0. -/
structure AtRest (s : Clocked) : Prop where
  inactive : s.slave.board.harness.timerActive = false
  rowIndex_eq : s.slave.board.harness.rowIndex = 0
  idle : s.blocked = none

/-- Either in a row of the scan begun at tick `t` or behind its end. -/
def Scanning (s : Clocked) (t : ℕ) : Prop :=
  (∃ row, InRow s t row) ∨ AtRest s ∧
    t + s.slave.statics.m2sCondCfg.totalConductionNum.toNat * s.period +
      s.period ≤ s.now

structure Inv (s : Clocked) : Prop where
  rows_eq : s.slave.board.harness.data.rows =
    s.slave.statics.m2sCondCfg.totalConductionNum.toNat
  writes_inBounds : ∀ w ∈ s.slave.board.writes, w.InBounds
  total_pos : 0 < s.slave.statics.m2sCondCfg.totalConductionNum.toNat
  period_gt : 6 < s.period
  fresh : s.synced = none → AtRest s
  scanning : ∀ t, s.synced = some t → Scanning s t

theorem inv_configured {s : SlaveDevice} (hboot : s.Boot)
    {m : Master2Slave.CondCfgMsg} (hm : RowBounds.Accepted m)
    (hlong : 6 < m.interval.toNat) : Inv (configured s m) := by
  have hbounds := RowBounds.inv_condCfg (RowBounds.inv_of_boot hboot) hm
  obtain ⟨hpos, -, hfits, hinterval⟩ := hm
  obtain ⟨hharness, -⟩ := receive_condCfg_spec s m
  obtain ⟨-, hboard, -⟩ := hboot
  constructor
  case rows_eq => exact hbounds.rows_eq
  case writes_inBounds => exact hbounds.writes_inBounds
  case total_pos =>
    change 0 < m.totalConductionNum.toNat
    omega
  case period_gt => exact hlong
  case fresh =>
    intro _
    constructor
    case inactive =>
      rw [configured, hharness, Harness.setPeriod, if_pos hinterval]
    case rowIndex_eq =>
      rw [configured, hharness, Harness.rowIndex_setPeriod, hboard]
    case idle => rfl
  case scanning =>
    intro t ht
    cases ht

/-- A `SyncMsg` at row 0 starts a scan. -/
theorem inv_sync {s : Clocked} (hs : Inv s) (m : Master2Slave.SyncMsg)
    (hready : SyncAtRowZero s (.sync m)) {s' : Clocked}
    (h : step s (.sync m) = some s') : Inv s' := by
  cases h
  obtain ⟨hrow, hidle⟩ := hready
  have hboard : (s.slave.receive (.master2Slave .syncMsg) m).board =
      { s.slave.board with harness := { s.slave.board.harness with
        triggerCount := 0
        maxTriggerCount :=
          s.slave.statics.m2sCondCfg.totalConductionNum.toNat
        timerActive := true } } := by
    rw [board_receive_sync, Harness.startWithCount, if_pos hs.total_pos]
  have hperiod := hs.period_gt
  constructor
  case rows_eq =>
    simp only [hboard]
    exact hs.rows_eq
  case writes_inBounds =>
    simp only [hboard]
    exact hs.writes_inBounds
  case total_pos => exact hs.total_pos
  case period_gt => exact hs.period_gt
  case fresh =>
    intro hnone
    cases hnone
  case scanning =>
    intro t ht
    cases ht
    left
    refine ⟨0, ?_⟩
    constructor
    case row_le => exact Nat.zero_le _
    case active => simp only [hboard]
    case triggerCount_eq => simp only [hboard]
    case maxTriggerCount_eq =>
      simp only [hboard]
      rfl
    case due_eq =>
      simp only [if_pos hs.total_pos]
      omega
    case le_now => simp only [Nat.zero_mul, Nat.add_zero, le_refl]
    case now_lt =>
      simp only [if_pos hs.total_pos]
      omega
    case rowIndex_eq =>
      intro _
      simp only [hboard]
      exact hrow
    case under_way =>
      intro delay wake hblocked
      cases hidle.symm.trans hblocked

/-- A report changes neither the harness nor the clock. -/
theorem inv_read {s : Clocked} (hs : Inv s) (reserve : UInt8) {s' : Clocked}
    (h : step s (.read reserve) = some s') : Inv s' := by
  cases h
  constructor
  case rows_eq => exact hs.rows_eq
  case writes_inBounds => exact hs.writes_inBounds
  case total_pos => exact hs.total_pos
  case period_gt => exact hs.period_gt
  case fresh =>
    intro hnone
    obtain ⟨hinactive, hrow, hidle⟩ := hs.fresh hnone
    exact ⟨hinactive, hrow, hidle⟩
  case scanning =>
    intro t ht
    rcases hs.scanning t ht with ⟨row, hrow⟩ | ⟨hrest, hlate⟩
    · left
      exact ⟨row, { hrow with }⟩
    · right
      exact ⟨{ hrest with }, hlate⟩

/-- The scan in whose row a slave is if its timer is active or a callback under
way. -/
theorem Inv.exists_inRow {s : Clocked} (hs : Inv s)
    (h : s.slave.board.harness.timerActive = true ∨ s.blocked ≠ none) :
    ∃ t row, s.synced = some t ∧ InRow s t row := by
  have hrest (hrest : AtRest s) : False := by
    rcases h with hactive | hblocked
    · rw [hrest.inactive] at hactive
      cases hactive
    · exact hblocked hrest.idle
  cases hsynced : s.synced with
  | none => exact (hrest (hs.fresh hsynced)).elim
  | some t =>
      rcases hs.scanning t hsynced with ⟨row, hrow⟩ | ⟨hat, -⟩
      · exact ⟨t, row, rfl, hrow⟩
      · exact (hrest hat).elim

/-- A tick in which no delay is over and the timer does not expire. -/
theorem inv_pass {s : Clocked} (hs : Inv s)
    (hwake : ∀ delay wake, s.blocked = some (delay, wake) → wake ≠ s.now + 1)
    (hdue : s.blocked = none → s.slave.board.harness.timerActive = true →
      s.due ≠ s.now + 1) : Inv { s with now := s.now + 1 } := by
  have hperiod := hs.period_gt
  constructor
  case rows_eq => exact hs.rows_eq
  case writes_inBounds => exact hs.writes_inBounds
  case total_pos => exact hs.total_pos
  case period_gt => exact hs.period_gt
  case fresh =>
    intro hnone
    obtain ⟨hinactive, hrow, hidle⟩ := hs.fresh hnone
    exact ⟨hinactive, hrow, hidle⟩
  case scanning =>
    intro t ht
    rcases hs.scanning t ht with ⟨row, hrow⟩ | ⟨hrest, hlate⟩
    · left
      have hlt := hrow.now_lt
      have hdueEq := hrow.due_eq
      refine ⟨row, { hrow with le_now := ?_, now_lt := ?_, under_way := ?_ }⟩
      · exact Nat.le_succ_of_le hrow.le_now
      · simp only
        cases hblocked : s.blocked with
        | none =>
            have hne := hdue hblocked hrow.active
            omega
        | some b =>
            obtain ⟨delay, wake⟩ := b
            obtain ⟨-, hnow, hlatest⟩ := hrow.under_way delay wake hblocked
            have hdelay : delay.latest ≤ 6 := by cases delay <;> decide
            omega
      · intro delay wake hblocked
        obtain ⟨hrowIndex, hnow, hlatest⟩ :=
          hrow.under_way delay wake hblocked
        have hne := hwake delay wake hblocked
        exact ⟨hrowIndex, by simp only; omega, hlatest⟩
    · right
      exact ⟨{ hrest with }, Nat.le_succ_of_le hlate⟩

/-- A tick that leaves a slave in its row, with a callback under way or not. -/
theorem inv_goesOn {s : Clocked} (hs : Inv s) {t row : ℕ}
    (hsynced : s.synced = some t) (hrow : InRow s t row) {b : Board}
    {blocked : Option (Delay × ℕ)}
    (hrows : b.harness.data.rows = s.slave.board.harness.data.rows)
    (hwrites : ∀ w ∈ b.writes, w.InBounds)
    (hactive : b.harness.timerActive = s.slave.board.harness.timerActive)
    (htrigger : b.harness.triggerCount = s.slave.board.harness.triggerCount)
    (hmax : b.harness.maxTriggerCount =
      s.slave.board.harness.maxTriggerCount)
    (hlt : s.now + 1 < s.due)
    (hidle : blocked = none → b.harness.rowIndex = row)
    (hunder : ∀ delay wake, blocked = some (delay, wake) →
      b.harness.rowIndex + 1 = row ∧ s.now + 1 < wake ∧
        wake ≤ t + row * s.period + delay.latest) :
    Inv { s.withBoard b with now := s.now + 1, blocked } where
  rows_eq := hrows.trans hs.rows_eq
  writes_inBounds := hwrites
  total_pos := hs.total_pos
  period_gt := hs.period_gt
  fresh := by
    intro hnone
    cases hsynced.symm.trans hnone
  scanning := by
    intro t' ht'
    cases hsynced.symm.trans ht'
    refine .inl ⟨row, ?_⟩
    constructor
    case row_le => exact hrow.row_le
    case active => exact hactive.trans hrow.active
    case triggerCount_eq => exact htrigger.trans hrow.triggerCount_eq
    case maxTriggerCount_eq => exact hmax.trans hrow.maxTriggerCount_eq
    case due_eq => exact hrow.due_eq
    case le_now => exact Nat.le_succ_of_le hrow.le_now
    case now_lt => exact hlt
    case rowIndex_eq => exact hidle
    case under_way => exact hunder

/-- A callback drives its pin, or samples and moves on to the next row. -/
theorem inv_resume {s : Clocked} (hs : Inv s) (input : GpioInput)
    {delay : Delay} (hblocked : s.blocked = some (delay, s.now + 1)) :
    Inv (Clocked.resume { s with now := s.now + 1 } input delay) := by
  obtain ⟨t, row, hsynced, hrow⟩ :=
    hs.exists_inRow (.inr (by simp [hblocked]))
  obtain ⟨hrowIndex, -, hlatest⟩ := hrow.under_way _ _ hblocked
  have hperiod := hs.period_gt
  have hdue := hrow.due_eq
  cases delay with
  | drive =>
      have hboard := Harness.harness_driveRowPin s.slave.board
      rw [Delay.latest] at hlatest
      apply inv_goesOn hs hsynced hrow
      case hwrites =>
        rw [Harness.writes_driveRowPin]
        exact hs.writes_inBounds
      case hlt => omega
      case hidle =>
        intro hnone
        cases hnone
      case hunder =>
        intro delay wake hsome
        cases hsome
        simp only [hboard, Delay.latest]
        omega
      all_goals rw [hboard]
  | sample =>
      have hboard := Harness.finishRow_eq input s.slave.board
      rw [Delay.latest] at hlatest
      apply inv_goesOn hs hsynced hrow
      case hrows =>
        rw [hboard]
        exact BinaryMatrix.rows_fillRow _ _ _ _
      case hwrites =>
        intro w hw
        rw [hboard] at hw
        rcases List.mem_append.mp hw with hw | hw
        · exact hs.writes_inBounds w hw
        · obtain ⟨i, hi, rfl⟩ := List.mem_map.mp hw
          rw [List.mem_range] at hi
          have hrows := hs.rows_eq
          have hle := hrow.row_le
          refine ⟨?_, hi⟩
          simp only [Harness.rowWrite]
          omega
      case hlt => omega
      case hidle =>
        intro _
        rw [hboard]
        exact hrowIndex
      case hunder =>
        intro delay wake hsome
        cases hsome
      all_goals rw [hboard]

/-- The callback behind the last row ends the scan. -/
theorem inv_expire_of_ends {s : Clocked} (hs : Inv s) (input : GpioInput)
    (hidle : s.blocked = none)
    (hactive : s.slave.board.harness.timerActive = true)
    (hdue : s.due = s.now + 1) (hends : Ends s.slave.board) :
    Inv (Clocked.expire { s with now := s.now + 1 } input) := by
  obtain ⟨t, row, hsynced, hrow⟩ := hs.exists_inRow (.inl hactive)
  have hrowEq :
      row = s.slave.statics.m2sCondCfg.totalConductionNum.toNat := by
    have hmax := hrow.maxTriggerCount_eq
    have htrigger := hrow.triggerCount_eq
    have hle := hrow.row_le
    have hmaxLe := hends.2
    omega
  have hcallback := @Harness.myTimerCallback_of_le input _ hends.1 hends.2
  rw [Clocked.expire, if_pos hends]
  simp only [Clocked.withBoard, hcallback]
  constructor
  case rows_eq => exact hs.rows_eq
  case writes_inBounds => exact hs.writes_inBounds
  case total_pos => exact hs.total_pos
  case period_gt => exact hs.period_gt
  case fresh =>
    intro hnone
    cases hsynced.symm.trans hnone
  case scanning =>
    intro t' ht'
    cases hsynced.symm.trans ht'
    refine .inr ⟨⟨rfl, rfl, hidle⟩, ?_⟩
    have hdueEq := hrow.due_eq
    simp only [← hrowEq]
    omega

/-- The next callback begins on time. -/
theorem InRow.expire {s : Clocked} {t row : ℕ} (h : InRow s t row)
    (hperiod : 6 < s.period) (hidle : s.blocked = none)
    (hdue : s.due = s.now + 1) (hends : ¬ Ends s.slave.board)
    (hlt : row < s.slave.statics.m2sCondCfg.totalConductionNum.toNat)
    (input : GpioInput) :
    InRow (Clocked.expire { s with now := s.now + 1 } input) t (row + 1) := by
  have hmax := h.maxTriggerCount_eq
  have htrigger := h.triggerCount_eq
  have hdueEq := h.due_eq
  have hboard := Harness.harness_startRow
    (show 0 < s.slave.board.harness.maxTriggerCount by omega)
  rw [Clocked.expire, if_neg hends]
  constructor
  case row_le => exact hlt
  case active =>
    simp only [Clocked.withBoard, hboard]
    exact h.active
  case triggerCount_eq =>
    simp only [Clocked.withBoard, hboard, htrigger]
  case maxTriggerCount_eq =>
    simp only [Clocked.withBoard, hboard]
    exact hmax
  case due_eq =>
    simp only [Clocked.withBoard, Nat.add_one_mul]
    omega
  case le_now =>
    simp only [Clocked.withBoard, Nat.add_one_mul]
    omega
  case now_lt =>
    simp only [Clocked.withBoard]
    omega
  case rowIndex_eq =>
    intro hnone
    simp only at hnone
    split at hnone <;> cases hnone
  case under_way =>
    intro delay wake hsome
    have hrowIndex := h.rowIndex_eq hidle
    simp only at hsome
    simp only [Clocked.withBoard, hboard, Nat.add_one_mul]
    split at hsome
    all_goals
      cases hsome
      simp only [Delay.latest]
      omega

/-- The next row begins. -/
theorem inv_expire_of_not_ends {s : Clocked} (hs : Inv s) (input : GpioInput)
    (hidle : s.blocked = none)
    (hactive : s.slave.board.harness.timerActive = true)
    (hdue : s.due = s.now + 1) (hends : ¬ Ends s.slave.board) :
    Inv (Clocked.expire { s with now := s.now + 1 } input) := by
  obtain ⟨t, row, hsynced, hrow⟩ := hs.exists_inRow (.inl hactive)
  have hmax := hrow.maxTriggerCount_eq
  have htrigger := hrow.triggerCount_eq
  have hpos : 0 < s.slave.board.harness.maxTriggerCount :=
    hs.total_pos.trans_eq hmax.symm
  have hlt : row < s.slave.statics.m2sCondCfg.totalConductionNum.toNat := by
    rw [Ends, not_and, Nat.not_le] at hends
    have hlt := hends hpos
    omega
  have hinRow := hrow.expire hs.period_gt hidle hdue hends hlt input
  rw [Clocked.expire, if_neg hends] at hinRow ⊢
  constructor
  case rows_eq =>
    simp only [Clocked.withBoard, Harness.harness_startRow hpos]
    exact hs.rows_eq
  case writes_inBounds =>
    simp only [Clocked.withBoard, Harness.writes_startRow]
    exact hs.writes_inBounds
  case total_pos => exact hs.total_pos
  case period_gt => exact hs.period_gt
  case fresh =>
    intro hnone
    cases hsynced.symm.trans hnone
  case scanning =>
    intro t' ht'
    cases hsynced.symm.trans ht'
    exact .inl ⟨row + 1, hinRow⟩

theorem inv_tick {s : Clocked} (hs : Inv s) (input : GpioInput)
    {s' : Clocked} (h : step s (.tick input) = some s') : Inv s' := by
  simp only [step] at h
  split at h
  next delay wake hblocked =>
    split at h
    next hwake =>
      cases h
      exact inv_resume hs input (hwake ▸ hblocked)
    next hwake =>
      cases h
      apply inv_pass hs
      · intro delay' wake' hblocked'
        cases hblocked.symm.trans hblocked'
        exact hwake
      · intro hnone
        cases hblocked.symm.trans hnone
  next hidle =>
    split at h
    next hfires =>
      cases h
      obtain ⟨hactive, hdue⟩ := hfires
      by_cases hends : Ends s.slave.board
      · exact inv_expire_of_ends hs input hidle hactive hdue hends
      · exact inv_expire_of_not_ends hs input hidle hactive hdue hends
    next hfires =>
      cases h
      apply inv_pass hs
      · intro delay wake hblocked
        cases hidle.symm.trans hblocked
      · exact fun _ hactive hdue => hfires ⟨hactive, hdue⟩

theorem inv_step (s : Clocked) (e : Event) (s' : Clocked) (hs : Inv s)
    (he : SyncAtRowZero s e) (h : step s e = some s') : Inv s' := by
  cases e with
  | sync m => exact inv_sync hs m he h
  | read reserve => exact inv_read hs reserve h
  | tick input => exact inv_tick hs input h

/-! ## Synchronizations that come too early -/

theorem spaced_iff_syncAtRowZero {s : Clocked} (hs : Inv s) (e : Event) :
    SyncAtRowZero s e ↔ Spaced s e := by
  cases e with
  | read reserve => exact Iff.rfl
  | tick input => exact Iff.rfl
  | sync m =>
      have hperiod := hs.period_gt
      simp only [SyncAtRowZero, Spaced, Nat.add_one_mul]
      cases hsynced : s.synced with
      | none =>
          obtain ⟨-, hrow, hidle⟩ := hs.fresh hsynced
          refine iff_of_true ⟨hrow, hidle⟩ ?_
          intro t ht
          cases ht
      | some t =>
          simp only [Option.some.injEq, forall_eq']
          rcases hs.scanning t hsynced with ⟨row, hrow⟩ | ⟨hrest, hlate⟩
          · have hdue := hrow.due_eq
            have hlow := hrow.le_now
            have hhigh := hrow.now_lt
            have hmul := Nat.mul_le_mul_right s.period hrow.row_le
            constructor
            · rintro ⟨hrowIndex, hidle⟩
              obtain rfl := (hrow.rowIndex_eq hidle).symm.trans hrowIndex
              left
              omega
            · rintro (hearly | hlate)
              · have hzero : row = 0 := by
                  by_contra hne
                  have hrow' := Nat.mul_le_mul_right s.period
                    (Nat.one_le_iff_ne_zero.mpr hne)
                  omega
                -- No callback has begun.
                have hidle : s.blocked = none := by
                  by_contra hblocked
                  obtain ⟨⟨delay, wake⟩, hsome⟩ :=
                    Option.ne_none_iff_exists'.mp hblocked
                  obtain ⟨hrowIndex, -⟩ := hrow.under_way delay wake hsome
                  omega
                exact ⟨(hrow.rowIndex_eq hidle).trans hzero, hidle⟩
              · omega
          · exact iff_of_true ⟨hrest.rowIndex_eq, hrest.idle⟩
              (Or.inr (by omega))

/-- In a run from a configuration with an interval longer than a callback, the
synchronizations find the harness at row 0 and no callback under way exactly if
they are spaced. -/
theorem syncAtRowZero_iff_spaced {s : SlaveDevice} (hboot : s.Boot)
    {m : Master2Slave.CondCfgMsg} (hm : RowBounds.Accepted m)
    (hlong : 6 < m.interval.toNat) (es : List Event) :
    Meets step SyncAtRowZero (configured s m) es ↔
      Meets step Spaced (configured s m) es := by
  have hinv := inv_configured hboot hm hlong
  constructor
  · apply meets_mono_of_invariant inv_step _ hinv
    exact fun s e hs => (spaced_iff_syncAtRowZero hs e).mp
  · apply meets_mono_of_invariant _ _ hinv
    · intro s e s' hs he
      exact inv_step s e s' hs ((spaced_iff_syncAtRowZero hs e).mpr he)
    · exact fun s e hs => (spaced_iff_syncAtRowZero hs e).mpr

/-- One of two lines, a row in 20 ticks. -/
def twoRows : Master2Slave.CondCfgMsg :=
  ⟨0, 20, 2, 0, 1⟩

/-- A start, `n` ticks and another start. -/
def startedAfter (n : ℕ) : List Event :=
  .sync {} :: List.replicate n (.tick fun _ _ => true) ++ [.sync {}]

/-- The scan ends with tick 60; at tick 23 the first callback is under way, and
the row still 0. -/
theorem syncAtRowZero_twoRows :
    Meets step SyncAtRowZero (configured bootDevice twoRows)
        (startedAfter 60) ∧
      ¬ Meets step SyncAtRowZero (configured bootDevice twoRows)
        (startedAfter 23) := by
  have hiff (n : ℕ) := syncAtRowZero_iff_spaced (s := bootDevice)
    (m := twoRows) ⟨rfl, rfl, rfl⟩ (by decide) (by decide) (startedAfter n)
  exact ⟨(hiff 60).mpr (by decide +kernel),
    (hiff 23).not.mpr (by decide +kernel)⟩

/-! ## The master's timer -/

/-- The master sends every `SyncMsg` at least `period` ticks after the one
before, and none is more than 80 ticks less on its way than that one. -/
def SentApart (period : ℕ) (s : Clocked) : Event → Prop
  | .sync _ => ∀ t, s.synced = some t → t + period ≤ s.now + 80
  | _ => True

instance (period : ℕ) (s : Clocked) :
    (e : Event) → Decidable (SentApart period s e)
  | .sync _ =>
      decidable_of_iff (∀ t ∈ s.synced, t + period ≤ s.now + 80) Iff.rfl
  | .read _ => .isTrue trivial
  | .tick _ => .isTrue trivial

/-- Only a configuration changes the period and the number of rows. -/
theorem period_total_step (s : Clocked) (e : Event) (s' : Clocked)
    (h : step s e = some s') : s'.period = s.period ∧
      s'.slave.statics.m2sCondCfg = s.slave.statics.m2sCondCfg := by
  cases e with
  | sync m =>
      cases h
      exact ⟨rfl, rfl⟩
  | read reserve =>
      cases h
      exact ⟨rfl, rfl⟩
  | tick input =>
      simp only [step] at h
      split at h
      next delay wake _ =>
        split at h
        · cases h
          cases delay <;> exact ⟨rfl, rfl⟩
        · cases h
          exact ⟨rfl, rfl⟩
      next =>
        split at h
        · cases h
          simp only [Clocked.expire]
          split <;> exact ⟨rfl, rfl⟩
        · cases h
          exact ⟨rfl, rfl⟩

open SlaveConfigForward SyncPeriod in
/-- A manager configured with the slaves of the frames it received and started
in conduction mode sends its synchronizations far enough apart for each of the
slaves, as long as there are at most 3271 lines: in every run all `setValue`
calls are in bounds. -/
theorem writes_inBounds_of_sentApart (frames : List Bytes)
    (self : SlaveConfigForward) {s : SlaveManager} {ctrl_cmd : CtrlCmd}
    (hslaves : receivedSlaves frames ≠ []) (hrunning : s.running = false)
    (hstate : s.cfg_state ≠ .CONFIG_DONE) (hmode : s.mode = CONDUCTION_TEST)
    (hnum : 0 < (SyncPeriod.configured self (receivedSlaves frames)
      s).slave_num)
    (henable : ctrl_cmd.ctrl = DEV_ENABLE)
    (hlines : (widths (receivedSlaves frames)).sum ≤ 3271)
    {device : SlaveDevice} (hboot : device.Boot) {cmd : CfgCmd}
    (hcmd : cmd ∈ forwarded SlaveManager.port self (receivedSlaves frames) s)
    (hpos : 1 ≤ cmd.cond.toNat) (hpins : cmd.cond.toNat ≤ 62)
    (timeSlot : UInt8) {es : List Event} {c : Clocked}
    (hes : Meets step
      (SentApart ((SyncPeriod.configured self (receivedSlaves frames)
        s).ctrl_process ctrl_cmd).sync_timer_period)
      (configured device (DeviceConfigProcessor.condCfgMsg cmd timeSlot)) es)
    (hrun : run step
      (configured device (DeviceConfigProcessor.condCfgMsg cmd timeSlot)) es =
        some c) :
    ∀ w ∈ c.slave.board.writes, w.InBounds := by
  have hlen := length_receivedSlaves_le frames
  obtain ⟨hrun', hmode', htotal⟩ :=
    configured_spec self hslaves hlen hrunning hstate
  obtain ⟨-, hperiod⟩ := @sync_timer_ctrl_process _ ctrl_cmd
    (hmode'.trans hmode) hrun' hnum henable
  rw [htotal, Nat.mod_eq_of_lt (by omega)] at hperiod
  obtain ⟨k, hk⟩ := List.getElem?_of_mem hcmd
  obtain ⟨dev, hdev, -, hcond, htot, -⟩ := getElem?_forwarded hlen hk
  have haccepted : RowBounds.Accepted
      (DeviceConfigProcessor.condCfgMsg cmd timeSlot) := by
    refine ⟨hpos, hpins, ?_, show (0 : UInt8) < 20 by decide⟩
    have hlast := lt_of_mem_lines_forwarded hlen hcmd
      (r := cmd.startHarnessNum.toNat + cmd.cond.toNat - 1)
      (by rw [CfgCmd.lines, Set.mem_Ico]; omega)
    simp only [DeviceConfigProcessor.condCfgMsg]
    omega
  -- The numbers of the command stay what they are along the run.
  let I (c : Clocked) : Prop := Inv c ∧ c.period = 20 ∧
    c.slave.statics.m2sCondCfg =
      DeviceConfigProcessor.condCfgMsg cmd timeSlot
  have hI : I (configured device
      (DeviceConfigProcessor.condCfgMsg cmd timeSlot)) :=
    ⟨inv_configured hboot haccepted (show 6 < (20 : UInt8).toNat by decide),
      rfl, rfl⟩
  have hspaced (c : Clocked) (e : Event) (hc : I c)
      (he : SentApart ((SyncPeriod.configured self (receivedSlaves frames)
        s).ctrl_process ctrl_cmd).sync_timer_period c e) : Spaced c e := by
    obtain ⟨-, hticks, hcfg⟩ := hc
    cases e with
    | read reserve => trivial
    | tick input => trivial
    | sync m =>
        intro t ht
        right
        have hapart := he t ht
        rw [hperiod] at hapart
        rw [hticks, hcfg]
        simp only [DeviceConfigProcessor.condCfgMsg]
        omega
  have hstep (c : Clocked) (e : Event) (c' : Clocked) (hc : I c)
      (he : SentApart ((SyncPeriod.configured self (receivedSlaves frames)
        s).ctrl_process ctrl_cmd).sync_timer_period c e)
      (h : step c e = some c') : I c' := by
    obtain ⟨hticks, hcfg⟩ := period_total_step c e c' h
    refine ⟨?_, hticks.trans hc.2.1, hcfg.trans hc.2.2⟩
    exact inv_step c e c' hc.1
      ((spaced_iff_syncAtRowZero hc.1 e).mpr (hspaced c e hc he)) h
  exact (run_invariant_of_meets hstep hI hes hrun).1.writes_inBounds

section

open SlaveConfigForward SyncPeriod

/-- A slave with two lines and one with one line. -/
def threeLines : Backend2Master.SlaveCfgMsg :=
  ⟨2, [⟨1, 2, 0, 0, 0⟩, ⟨2, 1, 0, 0, 0⟩]⟩

/-- The command for the first of them. -/
def firstCmd : CfgCmd :=
  (forwarded SlaveManager.port {} threeLines.slaves
    { radio := fun _ => true }).get ⟨0, by decide⟩

/-- Two scans, 160 ticks apart: the first one is over at tick 80, the second one
in its second row. -/
def twoScans : List Event :=
  .sync {} :: List.replicate 160 (.tick fun _ _ => true) ++
    .sync {} :: List.replicate 46 (.tick fun _ _ => true)

def secondScan : Clocked :=
  (run step (configured bootDevice
    (DeviceConfigProcessor.condCfgMsg firstCmd 0)) twoScans).get
      (by decide +kernel)

theorem writes_inBounds_secondScan :
    (secondScan.slave.board.writes.map fun w => (w.row, w.col)) =
        [(0, 0), (0, 1), (1, 0), (1, 1), (2, 0), (2, 1),
          (0, 0), (0, 1), (1, 0), (1, 1)] ∧
      ∀ w ∈ secondScan.slave.board.writes, w.InBounds :=
  ⟨by decide +kernel, @writes_inBounds_of_sentApart
    [slaveCfgFrame threeLines] {} { radio := fun _ => true }
    ⟨DEV_ENABLE⟩ (by decide) rfl (by decide) rfl (by decide) rfl (by decide)
    bootDevice ⟨rfl, rfl, rfl⟩ firstCmd (by decide +kernel) (by decide)
    (by decide) 0 twoScans secondScan (by decide +kernel)
    (Option.some_get _).symm⟩

end

end ScanCycles

end WirelessHarness
