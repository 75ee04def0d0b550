import Mathlib.Data.Nat.Bitwise
import Mathlib.Data.UInt
import Mathlib.Tactic.NormNum
import Mathlib.Tactic.Ring

/-!
# Little-endian words

Two- and four-byte little-endian words, read with shifts and bitwise `or` as
byte-oriented code does.  The two directions are inverse to each other, and a
16-bit word is the expected sum of its bytes.
-/

namespace ByteOrder

/-- The word `lo | hi << 8`. -/
def word16 (lo hi : UInt8) : UInt16 :=
  lo.toUInt16 ||| (hi.toUInt16 <<< 8)

/-- The word `b₀ | b₁ << 8 | b₂ << 16 | b₃ << 24`. -/
def word32 (b₀ b₁ b₂ b₃ : UInt8) : UInt32 :=
  b₀.toUInt32 ||| (b₁.toUInt32 <<< 8) ||| (b₂.toUInt32 <<< 16) |||
    (b₃.toUInt32 <<< 24)

/-- The two bytes of a word, low byte first. -/
def bytes16 (w : UInt16) : List UInt8 :=
  [w.toUInt8, (w >>> 8).toUInt8]

/-- The four bytes of a word, low byte first. -/
def bytes32 (w : UInt32) : List UInt8 :=
  [w.toUInt8, (w >>> 8).toUInt8, (w >>> 16).toUInt8, (w >>> 24).toUInt8]

@[simp] theorem length_bytes16 (w : UInt16) : (bytes16 w).length = 2 := rfl

@[simp] theorem length_bytes32 (w : UInt32) : (bytes32 w).length = 4 := rfl

/-- Putting a byte above the low `k` bits of a machine word is addition. -/
private theorem or_shiftLeft_byte {x k : ℕ} (hlow : x < 2 ^ k)
    (b : UInt8) {M : ℕ} (hM : 2 ^ (k + 8) ≤ M) :
    x ||| (b.toNat <<< k) % M = x + 2 ^ k * b.toNat := by
  have hb : b.toNat < 2 ^ 8 := b.toNat_lt
  have hshift : b.toNat <<< k < M := by
    rw [Nat.shiftLeft_eq]
    calc
      b.toNat * 2 ^ k < 2 ^ 8 * 2 ^ k :=
        Nat.mul_lt_mul_of_pos_right hb (Nat.two_pow_pos k)
      _ = 2 ^ (k + 8) := by rw [pow_add, Nat.mul_comm]
      _ ≤ M := hM
  rw [Nat.mod_eq_of_lt hshift, Nat.or_comm,
    ← Nat.shiftLeft_add_eq_or_of_lt hlow, Nat.shiftLeft_eq]
  ring

theorem word16_toNat (lo hi : UInt8) :
    (word16 lo hi).toNat = lo.toNat + 256 * hi.toNat := by
  have hlo : lo.toNat < 2 ^ 8 := lo.toNat_lt
  simp only [word16, UInt16.toNat_or, UInt16.toNat_shiftLeft,
    UInt8.toNat_toUInt16]
  exact or_shiftLeft_byte hlo hi (M := 2 ^ 16) (by norm_num)

theorem word32_toNat (b₀ b₁ b₂ b₃ : UInt8) :
    (word32 b₀ b₁ b₂ b₃).toNat =
      b₀.toNat + 256 * b₁.toNat + 65536 * b₂.toNat +
        16777216 * b₃.toNat := by
  have h₀ : b₀.toNat < 2 ^ 8 := b₀.toNat_lt
  have h₁ : b₁.toNat < 2 ^ 8 := b₁.toNat_lt
  have h₂ : b₂.toNat < 2 ^ 8 := b₂.toNat_lt
  have hor₁ := or_shiftLeft_byte h₀ b₁ (M := 2 ^ 32) (by norm_num)
  have hor₂ := or_shiftLeft_byte (x := b₀.toNat + 2 ^ 8 * b₁.toNat)
    (k := 16) (by omega) b₂ (M := 2 ^ 32) (by norm_num)
  have hor₃ := or_shiftLeft_byte
    (x := b₀.toNat + 2 ^ 8 * b₁.toNat + 2 ^ 16 * b₂.toNat)
    (k := 24) (by omega) b₃ (M := 2 ^ 32) (by norm_num)
  simp only [word32, UInt32.toNat_or, UInt32.toNat_shiftLeft,
    UInt8.toNat_toUInt32]
  exact (congrArg₂ (· ||| ·) (congrArg₂ (· ||| ·) hor₁ rfl |>.trans hor₂)
    rfl).trans hor₃

/-- Reading back the two bytes of a word gives the word. -/
@[simp] theorem word16_bytes (w : UInt16) :
    word16 w.toUInt8 (w >>> 8).toUInt8 = w := by
  apply UInt16.toNat_inj.mp
  have hw : w.toNat < 65536 := w.toNat_lt
  rw [word16_toNat]
  simp only [UInt16.toNat_toUInt8, UInt16.toNat_shiftRight,
    Nat.shiftRight_eq_div_pow, UInt16.reduceToNat, Nat.reduceMod,
    Nat.reducePow]
  omega

/-- Reading back the four bytes of a word gives the word. -/
@[simp] theorem word32_bytes (w : UInt32) :
    word32 w.toUInt8 (w >>> 8).toUInt8 (w >>> 16).toUInt8
      (w >>> 24).toUInt8 = w := by
  apply UInt32.toNat_inj.mp
  have hw : w.toNat < 4294967296 := w.toNat_lt
  rw [word32_toNat]
  simp only [UInt32.toNat_toUInt8, UInt32.toNat_shiftRight,
    Nat.shiftRight_eq_div_pow, UInt32.reduceToNat, Nat.reduceMod,
    Nat.reducePow]
  omega

/-- Writing out a word gives the two bytes it was read from. -/
@[simp] theorem bytes16_word16 (lo hi : UInt8) :
    bytes16 (word16 lo hi) = [lo, hi] := by
  have hlo : lo.toNat < 256 := lo.toNat_lt
  have hhi : hi.toNat < 256 := hi.toNat_lt
  simp only [bytes16, List.cons.injEq, ← UInt8.toNat_inj, and_true,
    UInt16.toNat_toUInt8, UInt16.toNat_shiftRight, word16_toNat,
    Nat.shiftRight_eq_div_pow, UInt16.reduceToNat, Nat.reduceMod,
    Nat.reducePow]
  constructor <;> omega

/-- Writing out a word gives the four bytes it was read from. -/
@[simp] theorem bytes32_word32 (b₀ b₁ b₂ b₃ : UInt8) :
    bytes32 (word32 b₀ b₁ b₂ b₃) = [b₀, b₁, b₂, b₃] := by
  have h₀ : b₀.toNat < 256 := b₀.toNat_lt
  have h₁ : b₁.toNat < 256 := b₁.toNat_lt
  have h₂ : b₂.toNat < 256 := b₂.toNat_lt
  have h₃ : b₃.toNat < 256 := b₃.toNat_lt
  simp only [bytes32, List.cons.injEq, ← UInt8.toNat_inj, and_true,
    UInt32.toNat_toUInt8, UInt32.toNat_shiftRight, word32_toNat,
    Nat.shiftRight_eq_div_pow, UInt32.reduceToNat, Nat.reduceMod,
    Nat.reducePow]
  refine ⟨?_, ?_, ?_, ?_⟩ <;> omega

end ByteOrder
