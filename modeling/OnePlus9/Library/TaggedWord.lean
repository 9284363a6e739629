import Mathlib.Data.Nat.Bitwise
import Mathlib.Tactic.Common
import Mathlib.Tactic.Ring

/-!
# Words with a tag in the high bits

A word of width `n` is split at bit `k`: the low `k` bits carry a payload, the bits above carry a
tag.  Packing is `payload ||| tag <<< k`, the payload is read back with a mask and the tag with a
right shift.  The lemmas translate these operations to arithmetic on `toNat`, where they are
`tag * 2 ^ k + payload`, `% 2 ^ k` and `/ 2 ^ k`.

The shift that reads the tag is arithmetic, followed by a sign extension to a wider word
(`signExtend_sshiftRight_of_lt`): it gives the tag exactly when the sign bit is clear, and a
number in the upper half of the wider word otherwise (`le_signExtend_sshiftRight`).
-/

namespace TaggedWord

variable {n k : ℕ}

/-- Packing a tag over a payload that fits the low bits is addition. -/
theorem toNat_or_shiftLeft (x : BitVec n) (i : ℕ) (hx : x.toNat < 2 ^ k)
    (hi : i * 2 ^ k < 2 ^ n) :
    (x ||| (BitVec.ofNat n i <<< k)).toNat = i * 2 ^ k + x.toNat := by
  have hin : i < 2 ^ n := lt_of_le_of_lt (Nat.le_mul_of_pos_right i (Nat.two_pow_pos k)) hi
  have hshift : (BitVec.ofNat n i <<< k).toNat = i <<< k := by
    rw [BitVec.toNat_shiftLeft, BitVec.toNat_ofNat, Nat.mod_eq_of_lt hin, Nat.shiftLeft_eq,
      Nat.mod_eq_of_lt hi]
  rw [BitVec.toNat_or, hshift, Nat.or_comm, ← Nat.shiftLeft_add_eq_or_of_lt hx, Nat.shiftLeft_eq]

/-- Masking the low bits is a remainder. -/
theorem toNat_and_low (x : BitVec n) (hk : k ≤ n) :
    (x &&& BitVec.ofNat n (2 ^ k - 1)).toNat = x.toNat % 2 ^ k := by
  have hlt : 2 ^ k - 1 < 2 ^ n :=
    lt_of_lt_of_le (Nat.sub_lt (Nat.two_pow_pos k) one_pos) (Nat.pow_le_pow_right two_pos hk)
  rw [BitVec.toNat_and, BitVec.toNat_ofNat, Nat.mod_eq_of_lt hlt, Nat.and_two_pow_sub_one_eq_mod]

/-- No bit of `x` lies outside a mask exactly when masking leaves `x` as it is. -/
theorem and_not_eq_zero_iff (x mask : BitVec n) : x &&& ~~~mask = 0#n ↔ x &&& mask = x := by
  constructor <;> intro h <;> ext i hi
  all_goals
    have hbit := congrArg (fun y : BitVec n => y[i]) h
    simp only [BitVec.getElem_and, BitVec.getElem_not, BitVec.getElem_zero] at hbit ⊢
    revert hbit
    cases x[i] <;> cases mask[i] <;> simp

/-- The high bits are clear exactly when the word is its own payload. -/
theorem and_not_low_eq_zero_iff (x : BitVec n) (hk : k ≤ n) :
    x &&& ~~~BitVec.ofNat n (2 ^ k - 1) = 0#n ↔ x.toNat < 2 ^ k := by
  rw [and_not_eq_zero_iff, ← BitVec.toNat_inj, toNat_and_low x hk]
  exact Nat.mod_eq_iff_lt (Nat.two_pow_pos k).ne'

/-- The mask reads the payload back, whatever the tag. -/
theorem or_shiftLeft_and_low (x tag : BitVec n) (hx : x.toNat < 2 ^ k) (hk : k ≤ n) :
    (x ||| (tag <<< k)) &&& BitVec.ofNat n (2 ^ k - 1) = x := by
  have hshift : (tag <<< k).toNat % 2 ^ k = 0 := by
    rw [BitVec.toNat_shiftLeft, Nat.mod_mod_of_dvd _ (Nat.pow_dvd_pow 2 hk), Nat.shiftLeft_eq,
      Nat.mul_mod_left]
  rw [← BitVec.toNat_inj, toNat_and_low _ hk, BitVec.toNat_or, Nat.or_mod_two_pow, hshift,
    Nat.or_zero, Nat.mod_eq_of_lt hx]

/-- Packing a tag over any word: the tag read back is mixed with the high bits of the word. -/
theorem toNat_or_shiftLeft_div (x : BitVec n) (i : ℕ) (hk : k ≤ n) :
    (x ||| (BitVec.ofNat n i <<< k)).toNat / 2 ^ k = x.toNat / 2 ^ k ||| i % 2 ^ (n - k) := by
  have hsplit : 2 ^ n = 2 ^ (n - k) * 2 ^ k := by rw [← pow_add, Nat.sub_add_cancel hk]
  have htag : (BitVec.ofNat n i <<< k).toNat = i % 2 ^ (n - k) * 2 ^ k := by
    rw [BitVec.toNat_shiftLeft, BitVec.toNat_ofNat, Nat.shiftLeft_eq, hsplit,
      Nat.mul_mod_mul_right, Nat.mod_mod_of_dvd _ (Nat.dvd_mul_right _ _)]
  rw [BitVec.toNat_or, Nat.or_div_two_pow, htag, Nat.mul_div_cancel _ (Nat.two_pow_pos k)]

/-- With a clear sign bit, the arithmetic shift reads the tag. -/
theorem signExtend_sshiftRight_of_lt {m : ℕ} (x : BitVec n) (hx : x.msb = false) (hm : n ≤ m) :
    ((x.sshiftRight k).signExtend m).toNat = x.toNat / 2 ^ k := by
  have hmsb : (x.sshiftRight k).msb = false := by rw [BitVec.msb_sshiftRight, hx]
  have hlt : x.toNat / 2 ^ k < 2 ^ m :=
    lt_of_le_of_lt (Nat.div_le_self _ _)
      (lt_of_lt_of_le x.isLt (Nat.pow_le_pow_right two_pos hm))
  rw [BitVec.signExtend_eq_setWidth_of_msb_false hmsb, BitVec.toNat_setWidth,
    BitVec.toNat_sshiftRight_of_msb_false hx, Nat.shiftRight_eq_div_pow, Nat.mod_eq_of_lt hlt]

/-- With the sign bit set, the arithmetic shift and the sign extension give a number in the upper
half of the wider word. -/
theorem le_signExtend_sshiftRight {m : ℕ} (x : BitVec n) (hx : x.msb = true) (hm : n ≤ m) :
    2 ^ (m - 1) ≤ ((x.sshiftRight k).signExtend m).toNat := by
  have hmsb : ((x.sshiftRight k).signExtend m).msb = true := by
    rcases hm.eq_or_lt with rfl | hlt
    · rw [BitVec.signExtend_eq, BitVec.msb_sshiftRight, hx]
    · have hpos : 0 < m := by omega
      rw [BitVec.msb_signExtend, if_neg (not_le.mpr hlt), BitVec.msb_sshiftRight, hx]
      simp [hpos]
  exact BitVec.le_toNat_of_msb_true hmsb

end TaggedWord
