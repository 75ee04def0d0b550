import WirelessHarness.Slave.Harness
import WirelessHarness.Support.BitFields

/-!
# The GPIO registers

A `GPIO` object works on the registers its port shares with fifteen other pins:
`CTL` and `PUD` are read, changed in the fields of the selected pins and
written back.  A pin sees exactly the calls on objects that select it.
-/

namespace WirelessHarness

open BitFields

/-! ## Registers -/

/-- The registers of a port.  `ISTAT`, which only reads, is no part of them. -/
structure PortRegisters where
  CTL : BitVec 32
  OMODE : BitVec 32
  OSPD : BitVec 32
  PUD : BitVec 32
  OCTL : BitVec 32
  AFSEL0 : BitVec 32
  AFSEL1 : BitVec 32
deriving Inhabited

namespace PortRegisters

/-- `GPIO_BOP` sets the bits of its lower half and clears those of its upper
half. -/
def writeBOP (v : BitVec 32) (r : PortRegisters) : PortRegisters :=
  { r with OCTL := (r.OCTL &&& ~~~(v >>> 16)) ||| (v &&& 0xFFFF#32) }

/-- `GPIO_BC` clears the bits that are written as ones. -/
def writeBC (v : BitVec 32) (r : PortRegisters) : PortRegisters :=
  { r with OCTL := r.OCTL &&& ~~~(v &&& 0xFFFF#32) }

/-- `GPIO_TG` toggles the bits that are written as ones. -/
def writeTG (v : BitVec 32) (r : PortRegisters) : PortRegisters :=
  { r with OCTL := r.OCTL ^^^ (v &&& 0xFFFF#32) }

end PortRegisters

/-! ## The driver -/

def GPIO_MODE_SET (n : ℕ) (mode : BitVec 32) : BitVec 32 := mode <<< (2 * n)

def GPIO_MODE_MASK (n : ℕ) : BitVec 32 := 0x3#32 <<< (2 * n)

def GPIO_PUPD_SET (n : ℕ) (pupd : BitVec 32) : BitVec 32 := pupd <<< (2 * n)

def GPIO_PUPD_MASK (n : ℕ) : BitVec 32 := 0x3#32 <<< (2 * n)

def GPIO_OSPEED_SET (n : ℕ) (speed : BitVec 32) : BitVec 32 :=
  speed <<< (2 * n)

def GPIO_OSPEED_MASK (n : ℕ) : BitVec 32 := 0x3#32 <<< (2 * n)

def GPIO_AFR_SET (n : ℕ) (af : BitVec 32) : BitVec 32 := af <<< (4 * n)

def GPIO_AFR_MASK (n : ℕ) : BitVec 32 := 0xF#32 <<< (4 * n)

def gpio_mode_set (mode pull_up_down pin : BitVec 32) (r : PortRegisters) :
    PortRegisters :=
  let regs := (List.range 16).foldl
    (fun regs i =>
      if bit 32 i &&& pin ≠ 0 then
        ((regs.1 &&& ~~~GPIO_MODE_MASK i) ||| GPIO_MODE_SET i mode,
          (regs.2 &&& ~~~GPIO_PUPD_MASK i) ||| GPIO_PUPD_SET i pull_up_down)
      else regs)
    (r.CTL, r.PUD)
  { r with CTL := regs.1, PUD := regs.2 }

/-- `otype` is compared with `GPIO_OTYPE_OD`. -/
def gpio_output_options_set (otype : BitVec 8) (speed pin : BitVec 32)
    (r : PortRegisters) : PortRegisters :=
  let r :=
    if 0x01#8 = otype then { r with OMODE := r.OMODE ||| pin }
    else { r with OMODE := r.OMODE &&& ~~~pin }
  { r with
    OSPD := (List.range 16).foldl
      (fun ospeedr i =>
        if bit 32 i &&& pin ≠ 0 then
          (ospeedr &&& ~~~GPIO_OSPEED_MASK i) ||| GPIO_OSPEED_SET i speed
        else ospeedr)
      r.OSPD }

def gpio_bit_set (pin : BitVec 32) (r : PortRegisters) : PortRegisters :=
  r.writeBOP pin

def gpio_bit_reset (pin : BitVec 32) (r : PortRegisters) : PortRegisters :=
  r.writeBC pin

def gpio_bit_write (pin : BitVec 32) (bit_value : Bool) (r : PortRegisters) :
    PortRegisters :=
  if bit_value then r.writeBOP pin else r.writeBC pin

def gpio_bit_toggle (pin : BitVec 32) (r : PortRegisters) : PortRegisters :=
  r.writeTG pin

def gpio_input_bit_get (istat pin : BitVec 32) : Bool :=
  decide (0#32 ≠ istat &&& pin)

/-- Pins 0 to 7 are in one register and pins 8 to 15 in the other. -/
def gpio_af_set (alt_func_num pin : BitVec 32) (r : PortRegisters) :
    PortRegisters :=
  { r with
    AFSEL0 := (List.range 8).foldl
      (fun afrl i =>
        if bit 32 i &&& pin ≠ 0 then
          (afrl &&& ~~~GPIO_AFR_MASK i) ||| GPIO_AFR_SET i alt_func_num
        else afrl)
      r.AFSEL0
    AFSEL1 := (List.range' 8 8).foldl
      (fun afrh i =>
        if bit 32 i &&& pin ≠ 0 then
          (afrh &&& ~~~GPIO_AFR_MASK (i - 8)) |||
            GPIO_AFR_SET (i - 8) alt_func_num
        else afrh)
      r.AFSEL1 }

/-! ## The class -/

/-- `GPIO::Mode` as a number. -/
def GpioMode.value : GpioMode → BitVec 32
  | .input => 0
  | .output => 1
  | .af => 2
  | .analog => 3

/-- `GPIO::PullUpDown`. -/
inductive PullUpDown
  | none
  | pullup
  | pulldown
deriving DecidableEq, Repr

def PullUpDown.value : PullUpDown → BitVec 32
  | .none => 0
  | .pullup => 1
  | .pulldown => 2

/-- `GPIO::OType`: push-pull or open drain. -/
inductive OType
  | pp
  | od
deriving DecidableEq, Repr

def OType.value : OType → BitVec 8
  | .pp => 0x00
  | .od => 0x01

/-- `GPIO::Speed`. -/
inductive Speed
  | speed_2mhz
  | speed_25mhz
  | speed_50mhz
  | speed_max
deriving DecidableEq, Repr

def Speed.value : Speed → BitVec 32
  | .speed_2mhz => 0
  | .speed_25mhz => 1
  | .speed_50mhz => 2
  | .speed_max => 3

/-- `GPIO::Pin`. -/
inductive GpioPin
  | pin (n : Fin 16)
  | all
deriving DecidableEq, Repr

namespace GpioPin

def pin_mask : GpioPin → BitVec 32
  | .pin n => bit 32 n
  | .all => 0xFFFF#32

def Selects : GpioPin → Fin 16 → Prop
  | .pin n, m => n = m
  | .all, _ => True

instance : (p : GpioPin) → (m : Fin 16) → Decidable (p.Selects m)
  | .pin n, m => inferInstanceAs (Decidable (n = m))
  | .all, _ => .isTrue trivial

end GpioPin

namespace GpioPin

def mode_set (p : GpioPin) (mode : GpioMode) (pull : PullUpDown)
    (r : PortRegisters) : PortRegisters :=
  gpio_mode_set mode.value pull.value p.pin_mask r

def switch_to_input (p : GpioPin) (r : PortRegisters) : PortRegisters :=
  gpio_mode_set GpioMode.input.value PullUpDown.pulldown.value p.pin_mask r

def switch_to_output (p : GpioPin) (r : PortRegisters) : PortRegisters :=
  gpio_mode_set GpioMode.output.value PullUpDown.pulldown.value p.pin_mask r

def output_options_set (p : GpioPin) (otype : OType) (speed : Speed)
    (r : PortRegisters) : PortRegisters :=
  gpio_output_options_set otype.value speed.value p.pin_mask r

def bit_set (p : GpioPin) (r : PortRegisters) : PortRegisters :=
  gpio_bit_set p.pin_mask r

def bit_reset (p : GpioPin) (r : PortRegisters) : PortRegisters :=
  gpio_bit_reset p.pin_mask r

def bit_write (p : GpioPin) (bit_value : Bool) (r : PortRegisters) :
    PortRegisters :=
  gpio_bit_write p.pin_mask bit_value r

def input_bit_get (p : GpioPin) (istat : BitVec 32) : Bool :=
  gpio_input_bit_get istat p.pin_mask

/-- The number is handed on unmasked. -/
def af_set (p : GpioPin) (alt_func_num : BitVec 32) (r : PortRegisters) :
    PortRegisters :=
  gpio_af_set alt_func_num p.pin_mask r

def toggle (p : GpioPin) (r : PortRegisters) : PortRegisters :=
  gpio_bit_toggle p.pin_mask r

/-- The constructor, with the clock of the port running. -/
def construct (p : GpioPin) (mode : GpioMode) (pull : PullUpDown)
    (otype : OType) (speed : Speed) (r : PortRegisters) : PortRegisters :=
  let r := output_options_set p otype speed (mode_set p mode pull r)
  if mode = .output then bit_reset p r else r

end GpioPin

/-! ## The loops of the driver -/

theorem gpio_mode_set_eq (mode pull_up_down pin : BitVec 32)
    (r : PortRegisters) :
    gpio_mode_set mode pull_up_down pin r =
      { r with
        CTL := setFields 2 16 pin.getLsbD mode r.CTL
        PUD := setFields 2 16 pin.getLsbD pull_up_down r.PUD } := by
  have hloop : ∀ count ≤ 16, (List.range count).foldl
      (fun regs i =>
        if bit 32 i &&& pin ≠ 0 then
          ((regs.1 &&& ~~~GPIO_MODE_MASK i) ||| GPIO_MODE_SET i mode,
            (regs.2 &&& ~~~GPIO_PUPD_MASK i) ||| GPIO_PUPD_SET i pull_up_down)
        else regs)
      (r.CTL, r.PUD) =
      (setFields 2 count pin.getLsbD mode r.CTL,
        setFields 2 count pin.getLsbD pull_up_down r.PUD) := by
    intro count hcount
    induction count with
    | zero => rfl
    | succ count ih =>
        rw [List.range_succ, List.foldl_append, ih (by omega)]
        simp only [List.foldl_cons, List.foldl_nil, setFields_succ,
          bit_and_ne_zero_iff (show count < 32 by omega)]
        by_cases hsel : pin.getLsbD count
        · simp only [if_pos hsel]
          rfl
        · simp only [if_neg hsel]
  rw [gpio_mode_set, hloop 16 le_rfl]

/-- A loop over one register, whose first field belongs to pin `first`. -/
theorem foldl_setField (k first count : ℕ) (h : first + count ≤ 32)
    (v pin r : BitVec 32) :
    (List.range count).foldl
      (fun r i =>
        if bit 32 (first + i) &&& pin ≠ 0 then setField k i v r else r) r =
      setFields k count (fun i => pin.getLsbD (first + i)) v r := by
  induction count with
  | zero => rfl
  | succ count ih =>
      rw [List.range_succ, List.foldl_append, ih (by omega), setFields_succ]
      simp only [List.foldl_cons, List.foldl_nil,
        bit_and_ne_zero_iff (show first + count < 32 by omega)]

theorem gpio_output_options_set_eq (otype : BitVec 8) (speed pin : BitVec 32)
    (r : PortRegisters) :
    gpio_output_options_set otype speed pin r =
      { r with
        OMODE :=
          if 0x01#8 = otype then r.OMODE ||| pin else r.OMODE &&& ~~~pin
        OSPD := setFields 2 16 pin.getLsbD speed r.OSPD } := by
  have hloop := foldl_setField 2 0 16 (by decide) speed pin r.OSPD
  simp only [Nat.zero_add] at hloop
  rw [← hloop, gpio_output_options_set]
  split <;> rfl

theorem gpio_af_set_eq (alt_func_num pin : BitVec 32) (r : PortRegisters) :
    gpio_af_set alt_func_num pin r =
      { r with
        AFSEL0 := setFields 4 8 pin.getLsbD alt_func_num r.AFSEL0
        AFSEL1 :=
          setFields 4 8 (fun i => pin.getLsbD (8 + i)) alt_func_num r.AFSEL1 }
    := by
  have hlow := foldl_setField 4 0 8 (by decide) alt_func_num pin r.AFSEL0
  have hhigh := foldl_setField 4 8 8 (by decide) alt_func_num pin r.AFSEL1
  simp only [Nat.zero_add] at hlow
  rw [← hlow, ← hhigh, gpio_af_set, List.range'_eq_map_range,
    List.foldl_map]
  simp only [Nat.add_sub_cancel_left]
  rfl

/-! ## Pins -/

/-- What the registers say about one pin; `pull` is `none` for the reserved
value. -/
structure PinState where
  mode : GpioMode
  pull : Option PullUpDown
  otype : OType
  speed : Speed
  af : BitVec 4
  level : Bool
deriving DecidableEq

def GpioMode.ofField (b : BitVec 2) : GpioMode :=
  if b = 0 then .input else if b = 1 then .output
  else if b = 2 then .af else .analog

def PullUpDown.ofField (b : BitVec 2) : Option PullUpDown :=
  if b = 0 then some .none else if b = 1 then some .pullup
  else if b = 2 then some .pulldown else none

def Speed.ofField (b : BitVec 2) : Speed :=
  if b = 0 then .speed_2mhz else if b = 1 then .speed_25mhz
  else if b = 2 then .speed_50mhz else .speed_max

namespace PortRegisters

def afField (r : PortRegisters) (n : ℕ) : BitVec 4 :=
  if n < 8 then field 4 n r.AFSEL0 else field 4 (n - 8) r.AFSEL1

def pinState (r : PortRegisters) (n : Fin 16) : PinState where
  mode := .ofField (field 2 n r.CTL)
  pull := PullUpDown.ofField (field 2 n r.PUD)
  otype := if r.OMODE.getLsbD n then .od else .pp
  speed := .ofField (field 2 n r.OSPD)
  af := r.afField n
  level := r.OCTL.getLsbD n

end PortRegisters

/-- A member call on a `GPIO` object. -/
inductive GpioCall
  | construct (mode : GpioMode) (pull : PullUpDown) (otype : OType)
      (speed : Speed)
  | mode_set (mode : GpioMode) (pull : PullUpDown)
  | switch_to_input
  | switch_to_output
  | output_options_set (otype : OType) (speed : Speed)
  | bit_set
  | bit_reset
  | bit_write (bit_value : Bool)
  | af_set (alt_func_num : BitVec 32)
  | toggle
deriving DecidableEq

namespace GpioCall

/-- The driver knows the alternate functions `GPIO_AF_0` to `GPIO_AF_15`. -/
def InDomain : GpioCall → Prop
  | .af_set alt_func_num => alt_func_num.toNat < 2 ^ 4
  | _ => True

instance : (c : GpioCall) → Decidable c.InDomain
  | .af_set alt_func_num =>
      inferInstanceAs (Decidable (alt_func_num.toNat < 2 ^ 4))
  | .construct .. | .mode_set .. | .switch_to_input | .switch_to_output
  | .output_options_set .. | .bit_set | .bit_reset | .bit_write _
  | .toggle => .isTrue trivial

def perform (p : GpioPin) (r : PortRegisters) : GpioCall → PortRegisters
  | .construct mode pull otype speed => GpioPin.construct p mode pull otype speed r
  | .mode_set mode pull => GpioPin.mode_set p mode pull r
  | .switch_to_input => GpioPin.switch_to_input p r
  | .switch_to_output => GpioPin.switch_to_output p r
  | .output_options_set otype speed => GpioPin.output_options_set p otype speed r
  | .bit_set => GpioPin.bit_set p r
  | .bit_reset => GpioPin.bit_reset p r
  | .bit_write bit_value => GpioPin.bit_write p bit_value r
  | .af_set alt_func_num => GpioPin.af_set p alt_func_num r
  | .toggle => GpioPin.toggle p r

/-- What a call means for one selected pin. -/
def effect (s : PinState) : GpioCall → PinState
  | .construct mode pull otype speed =>
      { s with
        mode
        pull := some pull
        otype
        speed
        level := if mode = .output then false else s.level }
  | .mode_set mode pull => { s with mode, pull := some pull }
  | .switch_to_input => { s with mode := .input, pull := some .pulldown }
  | .switch_to_output => { s with mode := .output, pull := some .pulldown }
  | .output_options_set otype speed => { s with otype, speed }
  | .bit_set => { s with level := true }
  | .bit_reset => { s with level := false }
  | .bit_write bit_value => { s with level := bit_value }
  | .af_set alt_func_num => { s with af := alt_func_num.setWidth 4 }
  | .toggle => { s with level := !s.level }

end GpioCall

/-! ## What the driver does to a pin -/

theorem GpioMode.ofField_value (mode : GpioMode) :
    GpioMode.ofField (mode.value.setWidth 2) = mode := by
  cases mode <;> rfl

theorem PullUpDown.ofField_value (pull : PullUpDown) :
    PullUpDown.ofField (pull.value.setWidth 2) = some pull := by
  cases pull <;> rfl

theorem Speed.ofField_value (speed : Speed) :
    Speed.ofField (speed.value.setWidth 2) = speed := by
  cases speed <;> rfl

theorem GpioMode.value_fits (mode : GpioMode) : mode.value.toNat < 2 ^ 2 := by
  cases mode <;> decide

theorem PullUpDown.value_fits (pull : PullUpDown) :
    pull.value.toNat < 2 ^ 2 := by
  cases pull <;> decide

theorem Speed.value_fits (speed : Speed) : speed.value.toNat < 2 ^ 2 := by
  cases speed <;> decide

/-- The two-bit field of a pin. -/
theorem field_setFields_pin {v : BitVec 32} (hv : v.toNat < 2 ^ 2)
    (pin r : BitVec 32) (n : Fin 16) :
    field 2 n (setFields 2 16 pin.getLsbD v r) =
      if pin.getLsbD n then v.setWidth 2 else field 2 n r := by
  rw [field_setFields hv (by omega)]
  simp only [n.isLt, true_and]

namespace PortRegisters

variable (r : PortRegisters) (pin : BitVec 32) (n : Fin 16)

theorem pinState_mode_set (mode : GpioMode) (pull : PullUpDown) :
    (gpio_mode_set mode.value pull.value pin r).pinState n =
      if pin.getLsbD n then
        { r.pinState n with mode, pull := some pull }
      else r.pinState n := by
  rw [gpio_mode_set_eq]
  simp only [pinState, afField, field_setFields_pin mode.value_fits,
    field_setFields_pin pull.value_fits]
  by_cases hsel : pin.getLsbD n
  · simp only [if_pos hsel, GpioMode.ofField_value, PullUpDown.ofField_value]
  · simp only [if_neg hsel]

theorem getLsbD_OMODE (otype : OType) (speed : BitVec 32) :
    (gpio_output_options_set otype.value speed pin r).OMODE.getLsbD n =
      if pin.getLsbD n then decide (otype = .od) else r.OMODE.getLsbD n := by
  have hn : n.val < 32 := by omega
  rw [gpio_output_options_set_eq]
  cases otype
  · change (r.OMODE &&& ~~~pin).getLsbD n = _
    rw [BitVec.getLsbD_and, BitVec.getLsbD_not, decide_eq_true hn]
    by_cases hsel : pin.getLsbD n <;> simp [hsel]
  · change (r.OMODE ||| pin).getLsbD n = _
    rw [BitVec.getLsbD_or]
    by_cases hsel : pin.getLsbD n <;> simp [hsel]

theorem pinState_output_options_set (otype : OType) (speed : Speed) :
    (gpio_output_options_set otype.value speed.value pin r).pinState n =
      if pin.getLsbD n then { r.pinState n with otype, speed }
      else r.pinState n := by
  rw [pinState, getLsbD_OMODE, gpio_output_options_set_eq]
  simp only [afField, field_setFields_pin speed.value_fits]
  by_cases hsel : pin.getLsbD n
  · simp only [if_pos hsel, Speed.ofField_value]
    cases otype <;> rfl
  · simp only [if_neg hsel]
    rfl

theorem pinState_af_set {alt_func_num : BitVec 32}
    (hv : alt_func_num.toNat < 2 ^ 4) :
    (gpio_af_set alt_func_num pin r).pinState n =
      if pin.getLsbD n then
        { r.pinState n with af := alt_func_num.setWidth 4 }
      else r.pinState n := by
  rw [gpio_af_set_eq]
  simp only [pinState, afField]
  by_cases hlow : n.val < 8
  · rw [if_pos hlow, field_setFields hv (by omega)]
    by_cases hsel : pin.getLsbD n
    · simp only [hlow, hsel, and_self, if_true]
    · simp only [hlow, hsel, if_true, Bool.false_eq_true, and_false, if_false]
  · have hhigh : n.val - 8 < 8 := by omega
    rw [if_neg hlow, field_setFields hv (by omega),
      show 8 + (n.val - 8) = n.val by omega]
    by_cases hsel : pin.getLsbD n
    · simp only [hhigh, hsel, and_self, if_true]
    · simp only [hlow, hsel, Bool.false_eq_true, and_false, if_false]

/-- The lower half of `v` is meant: the ports have sixteen pins. -/
theorem getLsbD_low_half (v : BitVec 32) :
    (v &&& 0xFFFF#32).getLsbD n = v.getLsbD n := by
  have hlow : (0xFFFF#32).getLsbD n = true := by
    revert n
    decide
  rw [BitVec.getLsbD_and, hlow, Bool.and_true]

/-- The output register holds the level and nothing else. -/
theorem pinState_OCTL (v : BitVec 32) :
    { r with OCTL := v }.pinState n =
      { r.pinState n with level := v.getLsbD n } := rfl

theorem pinState_writeBC :
    (r.writeBC pin).pinState n =
      if pin.getLsbD n then { r.pinState n with level := false }
      else r.pinState n := by
  have hn : n.val < 32 := by omega
  rw [writeBC, pinState_OCTL, BitVec.getLsbD_and, BitVec.getLsbD_not,
    getLsbD_low_half]
  by_cases hsel : pin.getLsbD n
  · rw [if_pos hsel, hsel, Bool.not_true, Bool.and_false, Bool.and_false]
  · rw [if_neg hsel]
    rw [Bool.not_eq_true] at hsel
    rw [hsel, decide_eq_true hn, Bool.not_false, Bool.and_true, Bool.and_true]
    rfl

theorem pinState_writeTG :
    (r.writeTG pin).pinState n =
      if pin.getLsbD n then { r.pinState n with level := !(r.pinState n).level }
      else r.pinState n := by
  rw [writeTG, pinState_OCTL, BitVec.getLsbD_xor, getLsbD_low_half]
  by_cases hsel : pin.getLsbD n
  · rw [if_pos hsel, hsel, Bool.xor_true]
    rfl
  · rw [if_neg hsel]
    rw [Bool.not_eq_true] at hsel
    rw [hsel, Bool.xor_false]
    rfl

/-- Without bits in the upper half nothing is cleared. -/
theorem pinState_writeBOP (hpin : pin >>> 16 = 0#32) :
    (r.writeBOP pin).pinState n =
      if pin.getLsbD n then { r.pinState n with level := true }
      else r.pinState n := by
  have hkeep : r.OCTL &&& ~~~(0#32) = r.OCTL := by
    rw [BitVec.not_zero, BitVec.and_allOnes]
  rw [writeBOP, hpin, hkeep, pinState_OCTL,
    BitVec.getLsbD_or, getLsbD_low_half]
  by_cases hsel : pin.getLsbD n
  · rw [if_pos hsel, hsel, Bool.or_true]
  · rw [if_neg hsel]
    rw [Bool.not_eq_true] at hsel
    rw [hsel, Bool.or_false]
    rfl

end PortRegisters

/-! ## What a call does to a pin -/

namespace GpioPin

theorem getLsbD_pin_mask (p : GpioPin) (n : Fin 16) :
    p.pin_mask.getLsbD n = true ↔ p.Selects n := by
  cases p with
  | pin m =>
      have hn : n.val < 32 := by omega
      rw [pin_mask, getLsbD_bit, decide_eq_true_iff, Selects, Fin.ext_iff]
      exact ⟨fun h => h.2.symm, fun h => ⟨hn, h.symm⟩⟩
  | all =>
      simp only [pin_mask, Selects, iff_true]
      revert n
      decide

theorem pin_mask_shift (p : GpioPin) : p.pin_mask >>> 16 = 0#32 := by
  cases p with
  | pin n =>
      revert n
      decide
  | all => rfl

end GpioPin

/-- A call has its effect on the selected pins and none on the others. -/
theorem pinState_perform (p : GpioPin) {c : GpioCall} (hc : c.InDomain)
    (r : PortRegisters) (n : Fin 16) :
    (c.perform p r).pinState n =
      if p.Selects n then c.effect (r.pinState n) else r.pinState n := by
  have hconstruct : ∀ mode pull otype speed,
      (GpioPin.output_options_set p otype speed
        (GpioPin.mode_set p mode pull r)).pinState n =
        if p.Selects n then
          { r.pinState n with mode, pull := some pull, otype, speed }
        else r.pinState n := by
    intro mode pull otype speed
    rw [GpioPin.output_options_set, PortRegisters.pinState_output_options_set,
      GpioPin.mode_set, PortRegisters.pinState_mode_set]
    simp only [p.getLsbD_pin_mask]
    split <;> rfl
  cases c with
  | construct mode pull otype speed =>
      simp only [GpioCall.perform, GpioPin.construct, GpioCall.effect]
      by_cases hmode : mode = .output
      · rw [if_pos hmode, if_pos hmode, GpioPin.bit_reset, gpio_bit_reset,
          PortRegisters.pinState_writeBC, hconstruct]
        simp only [p.getLsbD_pin_mask]
        split <;> rfl
      · rw [if_neg hmode, if_neg hmode]
        exact hconstruct mode pull otype speed
  | mode_set mode pull =>
      simp only [← p.getLsbD_pin_mask]
      exact r.pinState_mode_set p.pin_mask n mode pull
  | switch_to_input =>
      simp only [← p.getLsbD_pin_mask]
      exact r.pinState_mode_set p.pin_mask n .input .pulldown
  | switch_to_output =>
      simp only [← p.getLsbD_pin_mask]
      exact r.pinState_mode_set p.pin_mask n .output .pulldown
  | output_options_set otype speed =>
      simp only [← p.getLsbD_pin_mask]
      exact r.pinState_output_options_set p.pin_mask n otype speed
  | bit_set =>
      simp only [← p.getLsbD_pin_mask]
      exact r.pinState_writeBOP p.pin_mask n p.pin_mask_shift
  | bit_reset =>
      simp only [← p.getLsbD_pin_mask]
      exact r.pinState_writeBC p.pin_mask n
  | bit_write bit_value =>
      simp only [← p.getLsbD_pin_mask]
      by_cases hvalue : bit_value
      · subst hvalue
        exact r.pinState_writeBOP p.pin_mask n p.pin_mask_shift
      · rw [Bool.not_eq_true] at hvalue
        subst hvalue
        exact r.pinState_writeBC p.pin_mask n
  | af_set alt_func_num =>
      simp only [← p.getLsbD_pin_mask]
      exact r.pinState_af_set p.pin_mask n hc
  | toggle =>
      simp only [← p.getLsbD_pin_mask]
      exact r.pinState_writeTG p.pin_mask n

/-- A larger number on pin 0 reaches the field of pin 1. -/
example :
    (GpioPin.af_set (.pin ⟨0, by decide⟩) 0x10#32 default).afField 1 = 1#4 := by
  decide

/-! ## All ports -/

abbrev Registers := GpioPort → PortRegisters

/-- The members of a `GPIO` object. -/
structure GpioObject where
  port : GpioPort
  pin : GpioPin
deriving DecidableEq

namespace GpioObject

def Drives (o : GpioObject) (g : Gpio) : Prop :=
  o.port = g.port ∧ o.pin.Selects g.pin

instance (o : GpioObject) (g : Gpio) : Decidable (o.Drives g) :=
  inferInstanceAs (Decidable (_ ∧ _))

end GpioObject

/-- The object of a single pin. -/
def Gpio.object (g : Gpio) : GpioObject := ⟨g.port, .pin g.pin⟩

namespace Registers

def perform (regs : Registers) (call : GpioObject × GpioCall) : Registers :=
  Function.update regs call.1.port
    (call.2.perform call.1.pin (regs call.1.port))

def performAll (regs : Registers) (calls : List (GpioObject × GpioCall)) :
    Registers :=
  calls.foldl perform regs

def stateOf (regs : Registers) (g : Gpio) : PinState :=
  (regs g.port).pinState g.pin

theorem stateOf_perform (regs : Registers) {call : GpioObject × GpioCall}
    (hcall : call.2.InDomain) (g : Gpio) :
    (regs.perform call).stateOf g =
      if call.1.Drives g then call.2.effect (regs.stateOf g)
      else regs.stateOf g := by
  rw [stateOf, perform]
  by_cases hport : call.1.port = g.port
  · have hdrives : call.1.Drives g ↔ call.1.pin.Selects g.pin :=
      and_iff_right hport
    rw [hport, Function.update_self, pinState_perform _ hcall]
    simp only [hdrives]
    rfl
  · have hdrives : ¬call.1.Drives g := fun h => hport h.1
    rw [Function.update_of_ne (Ne.symm hport), if_neg hdrives]
    rfl

/-- After any calls on any objects a pin is as the calls that select it leave
it, in their order. -/
theorem stateOf_performAll (calls : List (GpioObject × GpioCall))
    (hcalls : ∀ call ∈ calls, call.2.InDomain) (regs : Registers) (g : Gpio) :
    (regs.performAll calls).stateOf g =
      (calls.filter fun call => call.1.Drives g).foldl
        (fun s call => call.2.effect s) (regs.stateOf g) := by
  induction calls generalizing regs with
  | nil => rfl
  | cons call calls ih =>
      obtain ⟨hcall, hcalls⟩ := List.forall_mem_cons.mp hcalls
      rw [performAll, List.foldl_cons, ← performAll, ih hcalls,
        stateOf_perform _ hcall]
      by_cases hdrives : call.1.Drives g
      · rw [if_pos hdrives, List.filter_cons_of_pos (by simpa using hdrives),
          List.foldl_cons]
      · rw [if_neg hdrives, List.filter_cons_of_neg (by simpa using hdrives)]

/-- Calls on pins 3 and 9 of port A, on a pin of port B and on all of
port A. -/
def callsOnTwoPorts : List (GpioObject × GpioCall) :=
  [((Harness.pinInfo 0).object, .construct .af .none .od .speed_25mhz),
    ((Harness.pinInfo 0).object, .af_set 7#32),
    ((Harness.pinInfo 51).object, .af_set 15#32),
    ((Harness.pinInfo 7).object, .af_set 3#32),
    (⟨.A, .all⟩, .mode_set .output .pullup),
    (⟨.A, .all⟩, .toggle)]

/-- Pin 3 of port A after the calls, from ports whose outputs are high. -/
theorem stateOf_performAll_twoPorts :
    (performAll (fun _ => { (default : PortRegisters) with OCTL := 0xFFFF#32 })
      callsOnTwoPorts).stateOf (Harness.pinInfo 0) =
      ⟨.output, some .pullup, .od, .speed_25mhz, 7#4, false⟩ := by
  rw [stateOf_performAll callsOnTwoPorts (by decide)]
  decide

end Registers

end WirelessHarness
