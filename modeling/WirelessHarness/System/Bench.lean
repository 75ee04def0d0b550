import WirelessHarness.Slave.Reconfigured

/-!
# Slaves on one cable

Several slaves scan at the same time.  In each row the slave that has the line
drives its pin, and every slave samples its own pins, which are high when the
cable connects them with a driven pin of any slave.  The slaves run
independently: when one of them samples, the others may be anywhere in their
scans, before them or behind them.  The matrices show the cable, whatever it
is, exactly if at every sample each of the other slaves drives the pin of that
row if it has it, and no other pin.
-/

namespace WirelessHarness

open Harness

namespace Bench

/-! ## The cable -/

/-- `cable k q j p`: pin `q` of slave `k` is connected with pin `p` of slave
`j`, and perhaps in this direction only.  Every pin is connected with itself,
so that a driven pin reads high. -/
structure Cable (n : ℕ) where
  connects : Fin n → Gpio → Fin n → Gpio → Bool
  self : ∀ k q, connects k q k q = true

instance {n : ℕ} :
    CoeFun (Cable n) (fun _ => Fin n → Gpio → Fin n → Gpio → Bool) :=
  ⟨Cable.connects⟩

/-- The pin is driven, and driven high. -/
def High (g : GpioState) (q : Gpio) : Prop :=
  g.mode q = .output ∧ g.level q = true

instance (g : GpioState) (q : Gpio) : Decidable (High g q) :=
  inferInstanceAs (Decidable (_ ∧ _))

/-- The level at pin `p` of slave `j`.  Only the pins of `condPinInfo` are on
the cable. -/
def sensed {n : ℕ} (cable : Cable n) (gpios : Fin n → GpioState) (j : Fin n)
    (p : Gpio) : Bool :=
  decide (∃ k, ∃ q ∈ condPinInfo, High (gpios k) q ∧ cable k q j p = true)

/-! ## Where a slave is in its scan -/

/-- `between m`: the pins are as callback `m - 1` has set them.  `released m`:
callback `m` has released the pin of the row before and not yet driven its
own.  The callback behind the last row ends the scan, and all later points are
as it leaves the pins. -/
inductive Point
  | between (m : ℕ)
  | released (m : ℕ)
deriving DecidableEq, Repr

namespace Point

/-- The row whose pin is driven if the slave has it. -/
def row : Point → Option ℕ
  | between 0 => none
  | between (m + 1) => some m
  | released _ => none

/-- The board after `m` callbacks since a start on board `b`.  What the slave
samples does not matter for its pins. -/
def board (b : Board) (m : ℕ) : Board :=
  callbacks (fun _ _ _ => false)
    (startWithCount b.harness.totalConductionNum.toNat b) m

/-- The pins of a slave that was started on board `b`. -/
def gpio (b : Board) : Point → GpioState
  | between m => (board b (min m (b.harness.totalConductionNum.toNat + 1))).gpio
  | released m =>
      if m < b.harness.totalConductionNum.toNat then
        (releaseLastPin (counted (board b m))).gpio
      else (board b (b.harness.totalConductionNum.toNat + 1)).gpio

end Point

/-- `points r j p k` is where slave `k` is when slave `j` samples pin `p` in
row `r`. -/
abbrev Schedule (n : ℕ) := ℕ → Fin n → Gpio → Fin n → Point

/-- What slave `j` reads in callback `r`. -/
def inputs {n : ℕ} (cable : Cable n) (b : Fin n → Board) (points : Schedule n)
    (j : Fin n) (r : ℕ) : GpioInput :=
  fun g p => sensed cable
    (fun k => if k = j then g else (points r j p k).gpio (b k)) j p

/-! ## Prepared slaves -/

/-- The pin that belongs to a row, if the slave has that row. -/
def rowPin (b : Board) (r : ℕ) : Option Gpio :=
  b.harness.pinAt? ((r : ℤ) - b.harness.startConductionNum.toNat)

/-- All slaves are configured for `total` rows, and every row is that of
exactly one of them. -/
structure Prepared {n : ℕ} (total : ℕ) (b : Fin n → Board) : Prop where
  ready : ∀ k, Ready (b k).harness.conductionNum
    (b k).harness.totalConductionNum (b k).harness.startConductionNum (b k)
  total_eq : ∀ k, (b k).harness.totalConductionNum.toNat = total
  pins_input : ∀ k, ∀ q ∈ condPinInfo, (b k).gpio.mode q = .input
  pins_subset : ∀ k, ∀ q ∈ (b k).harness.pins, q ∈ condPinInfo
  row_lt : ∀ k r q, rowPin (b k) r = some q → r < total
  cover : ∀ r < total, ∃ k q, rowPin (b k) r = some q
  disjoint : ∀ k k' r q q', rowPin (b k) r = some q →
    rowPin (b k') r = some q' → k = k'

/-- Slave `j` after all rows and before the callback that ends its scan. -/
def scanned {n : ℕ} (cable : Cable n) (b : Fin n → Board)
    (points : Schedule n) (total : ℕ) (j : Fin n) : Board :=
  callbacks (inputs cable b points j)
    (startWithCount (b j).harness.totalConductionNum.toNat (b j)) total

/-- Every cell tells whether the cable connects the line of its row with the
pin of its column. -/
def Shows {n : ℕ} (cable : Cable n) (b : Fin n → Board) (total : ℕ)
    (matrices : Fin n → BinaryMatrix) : Prop :=
  ∀ j r c k q p, r < total → rowPin (b k) r = some q →
    (b j).harness.pins[c]? = some p →
      (matrices j).getValue r c = some (cable k q j p)

/-- At every sample of a pin that the slave does not drive itself, the other
slaves drive what belongs to the row. -/
def Aligned {n : ℕ} (b : Fin n → Board) (total : ℕ) (points : Schedule n) :
    Prop :=
  ∀ r < total, ∀ j, ∀ p ∈ (b j).harness.pins, rowPin (b j) r ≠ some p →
    ∀ k ≠ j, ∀ x q, rowPin (b k) x = some q →
      ((points r j p k).row = some x ↔ x = r)

/-! ## The pins of one slave -/

section

variable {conductionNum : UInt8}
  {totalConductionNum startConductionNum : UInt16} {b : Board}

theorem rowPin_eq_some_iff {r : ℕ} {q : Gpio} :
    rowPin b r = some q ↔
      ∃ i, r = b.harness.startConductionNum.toNat + i ∧
        b.harness.pins[i]? = some q := by
  rw [rowPin, pinAt?_eq_some_iff]
  constructor
  · rintro ⟨i, hi, hq⟩
    exact ⟨i, by omega, hq⟩
  · rintro ⟨i, hi, hq⟩
    exact ⟨i, by omega, hq⟩

/-- A slave has no pin twice. -/
theorem rowPin_inj
    (hb : Ready conductionNum totalConductionNum startConductionNum b)
    {r x : ℕ} {q : Gpio} (hr : rowPin b r = some q)
    (hx : rowPin b x = some q) : r = x := by
  obtain ⟨i, rfl, hi⟩ := rowPin_eq_some_iff.mp hr
  obtain ⟨j, rfl, hj⟩ := rowPin_eq_some_iff.mp hx
  have hlt := (List.getElem?_eq_some_iff.mp hi).1
  have hij := (List.getElem?_inj hlt hb.nodup_pins).mp (hi.trans hj.symm)
  rw [hij]

/-- Among the pins of the cable, those driven while a row is sampled. -/
theorem high_iff_of_drivesOnly
    (hinput : ∀ q ∈ condPinInfo, b.gpio.mode q = .input)
    {r : ℕ} {g : GpioState} (hg : DrivesOnly b r g) {q : Gpio}
    (hq : q ∈ condPinInfo) : High g q ↔ rowPin b r = some q := by
  rw [rowPin_eq_some_iff]
  constructor
  · rintro ⟨hmode, -⟩
    by_cases hmem : q ∈ b.harness.pins
    · obtain ⟨i, hi⟩ := List.getElem?_of_mem hmem
      exact ⟨i, (hg.driven i q hi).mp hmode, hi⟩
    · rw [hg.others q hmem, hinput q hq] at hmode
      cases hmode
  · rintro ⟨i, hr, hi⟩
    exact ⟨(hg.driven i q hi).mpr hr, hg.high i q hi hr⟩

/-- Between two callbacks the pins are as the last one has set them. -/
theorem gpio_callbacks_succ {ins : ℕ → GpioInput}
    (hb : Ready conductionNum totalConductionNum startConductionNum b)
    {m : ℕ} (hm : m < totalConductionNum.toNat) :
    (callbacks ins (startWithCount b.harness.totalConductionNum.toNat b)
        (m + 1)).gpio =
      (setCurrentPin (counted (callbacks ins
        (startWithCount b.harness.totalConductionNum.toNat b) m))).gpio := by
  have hc := scanAt_callbacks ins hb (by omega) hm.le
  rw [callbacks, myTimerCallback_of_lt (by
    rw [hc.triggerCount_eq, hc.maxTriggerCount_eq, hb.totalConductionNum_eq]
    exact hm)]
  rfl

/-- Whatever a slave samples, between two callbacks it drives the pin of the
row of the first of them. -/
theorem high_callbacks_iff (ins : ℕ → GpioInput)
    (hb : Ready conductionNum totalConductionNum startConductionNum b)
    (hinput : ∀ q ∈ condPinInfo, b.gpio.mode q = .input)
    (htotal : 0 < totalConductionNum.toNat) {m : ℕ}
    (hm : m ≤ totalConductionNum.toNat) {q : Gpio} (hq : q ∈ condPinInfo) :
    High (callbacks ins
        (startWithCount b.harness.totalConductionNum.toNat b) m).gpio q ↔
      ∃ x, (Point.between m).row = some x ∧ rowPin b x = some q := by
  by_cases hzero : m = 0
  · subst hzero
    have hc := scanAt_callbacks ins hb htotal hm
    have hmode := hc.mode_eq q
    rw [pinAt?_eq_none (by omega), if_neg (by simp), hinput q hq] at hmode
    simp [High, hmode, Point.row]
  · obtain ⟨r, rfl⟩ := Nat.exists_eq_succ_of_ne_zero hzero
    have hc := scanAt_callbacks ins hb htotal (Nat.le_of_succ_le hm)
    rw [gpio_callbacks_succ hb hm,
      high_iff_of_drivesOnly hinput (hc.drivesOnly hb) hq]
    simp [Point.row]

/-- In the first delay of a callback no pin of the cable is driven. -/
theorem not_high_released
    (hb : Ready conductionNum totalConductionNum startConductionNum b)
    (hinput : ∀ q ∈ condPinInfo, b.gpio.mode q = .input) {m : ℕ}
    (hm : m < totalConductionNum.toNat) {q : Gpio} (hq : q ∈ condPinInfo) :
    ¬ High (releaseLastPin (counted (Point.board b m))).gpio q := by
  have hc : ScanAt (fun _ _ _ => false) b m (Point.board b m) :=
    scanAt_callbacks _ hb (by omega) hm.le
  have hpins : (counted (Point.board b m)).harness.pins.length =
      (counted (Point.board b m)).harness.conductionNum.toNat :=
    (hc.length_pins hb :)
  rintro ⟨hmode, -⟩
  rw [mode_releaseLastPin hpins, hc.pinAt?_counted] at hmode
  simp only [counted, hc.rowIndex_eq, hc.startConductionNum_eq, hc.mode_eq]
    at hmode
  split at hmode
  next => cases hmode
  next =>
    rw [hinput q hq] at hmode
    cases hmode

/-- When the scan has ended no pin of the cable is driven. -/
theorem not_high_ended
    (hb : Ready conductionNum totalConductionNum startConductionNum b)
    (hinput : ∀ q ∈ condPinInfo, b.gpio.mode q = .input)
    (htotal : 0 < totalConductionNum.toNat) {q : Gpio}
    (hq : q ∈ condPinInfo) :
    ¬ High (Point.board b (totalConductionNum.toNat + 1)).gpio q := by
  obtain ⟨-, -, -, -, hended⟩ := ended_of_extends hb hinput htotal
    (hb.extends_self.callbacks hb (fun _ _ _ => false) le_rfl)
    fun _ _ => false
  rintro ⟨hmode, -⟩
  cases (hended q hq).symm.trans hmode

/-- A slave drives the pin of the row it is in, and no other one; a row behind
the last one has no pin. -/
theorem high_point_iff
    (hb : Ready conductionNum totalConductionNum startConductionNum b)
    (hinput : ∀ q ∈ condPinInfo, b.gpio.mode q = .input)
    (htotal : 0 < totalConductionNum.toNat)
    (hlt : ∀ x q, rowPin b x = some q → x < totalConductionNum.toNat)
    (pt : Point) {q : Gpio} (hq : q ∈ condPinInfo) :
    High (pt.gpio b) q ↔ ∃ x, pt.row = some x ∧ rowPin b x = some q := by
  cases pt with
  | between m =>
      rw [Point.gpio, hb.totalConductionNum_eq]
      by_cases hm : m ≤ totalConductionNum.toNat
      · rw [min_eq_left (Nat.le_succ_of_le hm)]
        exact high_callbacks_iff _ hb hinput htotal hm hq
      · rw [min_eq_right (by omega)]
        refine iff_of_false (not_high_ended hb hinput htotal hq) ?_
        obtain ⟨r, rfl⟩ : ∃ r, m = r + 1 := ⟨m - 1, by omega⟩
        rintro ⟨x, hx, hq'⟩
        have hxlt := hlt x q hq'
        cases hx
        omega
  | released m =>
      refine iff_of_false ?_ (by simp [Point.row])
      rw [Point.gpio, hb.totalConductionNum_eq]
      split
      next hm => exact not_high_released hb hinput hm hq
      next => exact not_high_ended hb hinput htotal hq

/-- What a slave stores in a cell is what it read at the column's pin while it
drove what belongs to the row. -/
theorem getValue_callbacks (ins : ℕ → GpioInput)
    (hb : Ready conductionNum totalConductionNum startConductionNum b)
    (htotal : 0 < totalConductionNum.toNat) {m r c : ℕ} {p : Gpio}
    (hm : m ≤ totalConductionNum.toNat) (hr : r < m)
    (hp : b.harness.pins[c]? = some p) :
    ∃ g, DrivesOnly b r g ∧
      (callbacks ins (startWithCount b.harness.totalConductionNum.toNat b)
        m).harness.data.getValue r c = some (ins r g p) := by
  have hc := scanAt_callbacks ins hb htotal hm
  have hlt : c < b.harness.conductionNum.toNat := by
    rw [hb.conductionNum_eq, ← hb.length_pins]
    exact (List.getElem?_eq_some_iff.mp hp).1
  have hcell : (r, c) ∈ (callbacks ins
      (startWithCount b.harness.totalConductionNum.toNat b) m).writes.map
        (fun w => (w.row, w.col)) := by
    rw [hc.cells_once]
    exact List.mem_product.mpr ⟨List.mem_range.mpr hr, List.mem_range.mpr hlt⟩
  obtain ⟨w, hw, hrc⟩ := List.mem_map.mp hcell
  obtain ⟨rfl, rfl⟩ := Prod.mk.inj hrc
  have hcorrect := hc.writes_correct w hw
  obtain ⟨p', hp', hvalue⟩ := hcorrect.sampled
  cases hp.symm.trans hp'
  exact ⟨w.gpio, hcorrect.drives, by rw [hc.writes_kept w hw, hvalue]⟩

end

/-! ## The matrices of all slaves -/

section

variable {n total : ℕ} {b : Fin n → Board} {points : Schedule n}

/-- The line of a row. -/
theorem Prepared.eq_of_rowPin (hb : Prepared total b) {r : ℕ} {k k' : Fin n}
    {q q' : Gpio} (hq : rowPin (b k) r = some q)
    (hq' : rowPin (b k') r = some q') : k = k' ∧ q = q' := by
  obtain rfl := hb.disjoint k k' r q q' hq hq'
  exact ⟨rfl, Option.some.inj (hq.symm.trans hq')⟩

theorem Prepared.rowPin_mem (hb : Prepared total b) {r : ℕ} {k : Fin n}
    {q : Gpio} (hq : rowPin (b k) r = some q) : q ∈ condPinInfo := by
  obtain ⟨i, -, hi⟩ := rowPin_eq_some_iff.mp hq
  exact hb.pins_subset k q (List.mem_of_getElem? hi)

/-- The slave that samples is itself in the row; where the other slaves are is
up to the schedule. -/
theorem Prepared.getValue_scanned (hb : Prepared total b) (cable : Cable n)
    {r : ℕ} (hr : r < total) {j : Fin n} {c : ℕ} {p : Gpio}
    (hp : (b j).harness.pins[c]? = some p) :
    ∃ value, (scanned cable b points total j).harness.data.getValue r c =
        some value ∧
      (value = true ↔ ∃ k q, (if k = j then rowPin (b j) r = some q
        else ∃ x, (points r j p k).row = some x ∧ rowPin (b k) x = some q) ∧
          cable k q j p = true) := by
  have htotal (k : Fin n) :
      0 < (b k).harness.totalConductionNum.toNat := by
    rw [hb.total_eq k]
    omega
  obtain ⟨g, hg, hvalue⟩ := getValue_callbacks (inputs cable b points j)
    (hb.ready j) (htotal j) (hb.total_eq j).ge hr hp
  refine ⟨_, hvalue, ?_⟩
  rw [inputs, sensed, decide_eq_true_iff]
  have hhigh (k : Fin n) {q : Gpio} (hq : q ∈ condPinInfo) :
      High (if k = j then g else (points r j p k).gpio (b k)) q ↔
        if k = j then rowPin (b j) r = some q
        else ∃ x, (points r j p k).row = some x ∧ rowPin (b k) x = some q := by
    split
    · exact high_iff_of_drivesOnly (hb.pins_input j) hg hq
    · apply high_point_iff (hb.ready k) (hb.pins_input k) (htotal k) _ _ hq
      rw [hb.total_eq k]
      exact hb.row_lt k
  constructor
  · rintro ⟨k, q, hq, hdriven, hcable⟩
    exact ⟨k, q, (hhigh k hq).mp hdriven, hcable⟩
  · rintro ⟨k, q, hdriven, hcable⟩
    have hq : q ∈ condPinInfo := by
      split at hdriven
      · exact hb.rowPin_mem hdriven
      · obtain ⟨x, -, hx⟩ := hdriven
        exact hb.rowPin_mem hx
    exact ⟨k, q, hq, (hhigh k hq).mpr hdriven, hcable⟩

/-- Aligned slaves see the line of the row and nothing else. -/
theorem Prepared.shows_of_aligned (hb : Prepared total b)
    (haligned : Aligned b total points) (cable : Cable n) :
    Shows cable b total fun j =>
      (scanned cable b points total j).harness.data := by
  intro j r c k q p hr hq hp
  obtain ⟨value, hvalue, hiff⟩ := hb.getValue_scanned cable hr hp
  rw [hvalue, Option.some.injEq, Bool.eq_iff_iff, hiff]
  by_cases hown : rowPin (b j) r = some p
  -- The pin that the slave drives reads high and is connected with itself.
  · obtain ⟨rfl, rfl⟩ := hb.eq_of_rowPin hq hown
    refine iff_of_true ⟨k, q, ?_, cable.self k q⟩ (cable.self k q)
    rw [if_pos rfl]
    exact hown
  constructor
  · rintro ⟨k', q', hdriven, hcable⟩
    have hq' : rowPin (b k') r = some q' := by
      split at hdriven
      next hk => rwa [hk]
      next hk =>
        obtain ⟨x, hx, hxq⟩ := hdriven
        have hmem := List.mem_of_getElem? hp
        rwa [← (haligned r hr j p hmem hown k' hk x q' hxq).mp hx]
    obtain ⟨rfl, rfl⟩ := hb.eq_of_rowPin hq hq'
    exact hcable
  · intro hcable
    refine ⟨k, q, ?_, hcable⟩
    split
    next hk => rwa [← hk]
    next hk =>
      have hmem := List.mem_of_getElem? hp
      exact ⟨r, (haligned r hr j p hmem hown k hk r q hq).mpr rfl, hq⟩

/-- A cable of one wire between pin `q` of slave `k` and pin `p` of slave
`j`. -/
def wire (k : Fin n) (q : Gpio) (j : Fin n) (p : Gpio) : Cable n where
  connects := fun k' q' j' p' =>
    decide (k' = j' ∧ q' = p' ∨
      (k' = k ∧ q' = q ∨ k' = j ∧ q' = p) ∧
        (j' = k ∧ p' = q ∨ j' = j ∧ p' = p))
  self := fun _ _ => decide_eq_true (.inl ⟨rfl, rfl⟩)

/-- What the wire connects with its end at slave `j`. -/
theorem wire_eq_true_iff {k k' j : Fin n} {q q' p : Gpio} :
    wire k q j p k' q' j p = true ↔ k' = k ∧ q' = q ∨ k' = j ∧ q' = p := by
  rw [wire, decide_eq_true_iff]
  constructor
  · rintro (hself | ⟨hends, -⟩)
    · exact .inr hself
    · exact hends
  · exact fun hends => .inr ⟨hends, .inr ⟨rfl, rfl⟩⟩

/-- Were another slave not aligned, a wire at one of its pins would show
it. -/
theorem Prepared.aligned_of_shows (hb : Prepared total b)
    (hshows : ∀ k q j p, Shows (wire k q j p) b total fun j' =>
      (scanned (wire k q j p) b points total j').harness.data) :
    Aligned b total points := by
  intro r hr j p hp hown k hk x q hx
  obtain ⟨c, hc⟩ := List.getElem?_of_mem hp
  obtain ⟨value, hvalue, hiff⟩ := hb.getValue_scanned (wire k q j p) hr hc
  constructor
  · intro hrow
    obtain ⟨k', q', hq'⟩ := hb.cover r hr
    have htrue : value = true := by
      refine hiff.mpr ⟨k, q, ?_, wire_eq_true_iff.mpr (.inl ⟨rfl, rfl⟩)⟩
      rw [if_neg hk]
      exact ⟨x, hrow, hx⟩
    have hshown := hshows k q j p j r c k' q' p hr hq' hc
    rw [hvalue, Option.some.injEq, htrue] at hshown
    rcases wire_eq_true_iff.mp hshown.symm with
      ⟨rfl, rfl⟩ | ⟨rfl, rfl⟩
    · exact rowPin_inj (hb.ready k') hx hq'
    · exact absurd hq' hown
  · rintro rfl
    have hshown := hshows k q j p j x c k q p hr hx hc
    rw [hvalue, Option.some.injEq] at hshown
    have htrue : value = true :=
      hshown.trans (wire_eq_true_iff.mpr (.inl ⟨rfl, rfl⟩))
    obtain ⟨k', q', hdriven, hcable⟩ := hiff.mp htrue
    rcases wire_eq_true_iff.mp hcable with ⟨rfl, rfl⟩ | ⟨rfl, rfl⟩
    · rw [if_neg hk] at hdriven
      obtain ⟨x', hx', hq'⟩ := hdriven
      exact hx'.trans (congrArg some (rowPin_inj (hb.ready k') hq' hx))
    · rw [if_pos rfl] at hdriven
      exact absurd hdriven hown

end

end Bench

end WirelessHarness
