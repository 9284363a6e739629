import OnePlus9.Sensors.Handle
import OnePlus9.Library.TaggedWord

/-!
# Correctness of the handle tagging

Handles are read as the unsigned value of their 32 bits.  A local handle with a clear top byte is
below `2 ^ 24` (`subHalIndexIsClear_iff`), tagging it with `i < 128` gives `i * 2 ^ 24 + h`
(`toNat_setSubHalIndex`), and from that number the two parts are read back
(`extractSubHalIndex_setSubHalIndex`, `clearSubHalIndex_setSubHalIndex`).

`extractSubHalIndex` agrees with the top byte on every non-negative handle and exceeds every
possible list length on a negative one (`le_extractSubHalIndex`), since the arithmetic shift
of a negative handle is negative.
-/

namespace OnePlus9

/-- The top byte of a handle, as an unsigned number. -/
def indexByte (sensorHandle : Int32) : ℕ := sensorHandle.toBitVec.toNat / 2 ^ 24

theorem toBitVec_setSubHalIndex (h : Int32) (i : ℕ) :
    (setSubHalIndex h i).toBitVec = h.toBitVec ||| (BitVec.ofNat 32 i <<< 24) := by
  simp [setSubHalIndex, kBitsAfterSubHalIndex]

theorem toBitVec_clearSubHalIndex (h : Int32) :
    (clearSubHalIndex h).toBitVec = h.toBitVec &&& BitVec.ofNat 32 (2 ^ 24 - 1) := by
  simp [clearSubHalIndex, kSensorHandleSubHalIndexMask]

/-- A clear index byte bounds the handle. -/
theorem subHalIndexIsClear_iff (h : Int32) :
    subHalIndexIsClear h = true ↔ h.toBitVec.toNat < 2 ^ 24 := by
  have hmask : kSensorHandleSubHalIndexMask.toBitVec = ~~~BitVec.ofNat 32 (2 ^ 24 - 1) := by
    decide
  rw [subHalIndexIsClear, beq_iff_eq, ← Int32.toBitVec_inj, Int32.toBitVec_and, hmask]
  exact TaggedWord.and_not_low_eq_zero_iff _ (by decide)

/-- **Tagging is addition.** -/
theorem toNat_setSubHalIndex {h : Int32} {i : ℕ} (hh : subHalIndexIsClear h = true)
    (hi : i < 128) : (setSubHalIndex h i).toBitVec.toNat = i * 2 ^ 24 + h.toBitVec.toNat := by
  rw [toBitVec_setSubHalIndex]
  exact TaggedWord.toNat_or_shiftLeft _ _ ((subHalIndexIsClear_iff h).mp hh) (by omega)

theorem extractSubHalIndex_eq (h : Int32) :
    extractSubHalIndex h = ((h.toBitVec.sshiftRight 24).signExtend 64).toNat := by
  rw [extractSubHalIndex, sizeOfInt32, ← Int64.toNat_toBitVec, Int32.toBitVec_toInt64,
    Int32.toBitVec_shiftRight]
  rfl

/-- On a non-negative handle the extracted index is the top byte. -/
theorem extractSubHalIndex_of_lt {h : Int32} (hh : h.toBitVec.toNat < 2 ^ 31) :
    extractSubHalIndex h = indexByte h := by
  have hmsb : h.toBitVec.msb = false := BitVec.msb_eq_false_iff_two_mul_lt.mpr (by omega)
  rw [extractSubHalIndex_eq, TaggedWord.signExtend_sshiftRight_of_lt _ hmsb (by decide),
    indexByte]

/-- On a negative handle the extracted index is at least `2 ^ 63`. -/
theorem le_extractSubHalIndex {h : Int32} (hh : 2 ^ 31 ≤ h.toBitVec.toNat) :
    2 ^ 63 ≤ extractSubHalIndex h := by
  have hmsb : h.toBitVec.msb = true := BitVec.msb_eq_true_iff_two_mul_ge.mpr (by omega)
  rw [extractSubHalIndex_eq]
  exact TaggedWord.le_signExtend_sshiftRight (m := 64) _ hmsb (by decide)

/-- **The index test.**  Against at most 128 sub-HALs, the extracted index is in range exactly
when the index byte is: negative handles fail both tests. -/
theorem extractSubHalIndex_lt_iff {h : Int32} {n : ℕ} (hn : n ≤ 128) :
    extractSubHalIndex h < n ↔ indexByte h < n := by
  rcases Nat.lt_or_ge h.toBitVec.toNat (2 ^ 31) with hlt | hge
  · rw [extractSubHalIndex_of_lt hlt]
  · -- A negative handle has an index byte of at least 128.
    have hext := le_extractSubHalIndex hge
    have hbyte : 128 ≤ indexByte h := by unfold indexByte; omega
    constructor <;> intro hlt <;> omega

/-! ### Round trips -/

variable {h k : Int32} {i j : ℕ}

theorem indexByte_setSubHalIndex (hh : subHalIndexIsClear h = true) (hi : i < 128) :
    indexByte (setSubHalIndex h i) = i := by
  have hlt := (subHalIndexIsClear_iff h).mp hh
  rw [indexByte, toNat_setSubHalIndex hh hi]
  omega

/-- The index is read back. -/
theorem extractSubHalIndex_setSubHalIndex (hh : subHalIndexIsClear h = true) (hi : i < 128) :
    extractSubHalIndex (setSubHalIndex h i) = i := by
  have hlt := (subHalIndexIsClear_iff h).mp hh
  have hpos : (setSubHalIndex h i).toBitVec.toNat < 2 ^ 31 := by
    rw [toNat_setSubHalIndex hh hi]
    omega
  rw [extractSubHalIndex_of_lt hpos, indexByte_setSubHalIndex hh hi]

/-- The local handle is read back, whatever the index. -/
theorem clearSubHalIndex_setSubHalIndex (hh : subHalIndexIsClear h = true) (i : ℕ) :
    clearSubHalIndex (setSubHalIndex h i) = h := by
  have hlt := (subHalIndexIsClear_iff h).mp hh
  rw [← Int32.toBitVec_inj, toBitVec_clearSubHalIndex, toBitVec_setSubHalIndex,
    TaggedWord.or_shiftLeft_and_low _ _ hlt (by decide)]

/-- **Distinct sensors have distinct handles.** -/
theorem setSubHalIndex_inj (hh : subHalIndexIsClear h = true) (hk : subHalIndexIsClear k = true)
    (hi : i < 128) (hj : j < 128) (heq : setSubHalIndex h i = setSubHalIndex k j) :
    i = j ∧ h = k := by
  constructor
  · rw [← extractSubHalIndex_setSubHalIndex hh hi, heq, extractSubHalIndex_setSubHalIndex hk hj]
  · rw [← clearSubHalIndex_setSubHalIndex hh i, heq, clearSubHalIndex_setSubHalIndex hk j]

/-- The two copies of `setSubHalIndex` agree. -/
theorem HalProxyCallback.setSubHalIndex_eq (h : Int32) (i : ℕ) :
    HalProxyCallback.setSubHalIndex h i = OnePlus9.setSubHalIndex h i := rfl

/-- An index that fits a byte survives being stored as an `int32_t`. -/
theorem sizeOfInt32_ofNat (hi : i < 128) : sizeOfInt32 (Int32.ofNat i) = i := by
  have hmsb : (BitVec.ofNat 32 i).msb = false :=
    BitVec.msb_eq_false_iff_two_mul_lt.mpr (by rw [BitVec.toNat_ofNat]; omega)
  rw [sizeOfInt32, ← Int64.toNat_toBitVec, Int32.toBitVec_toInt64, Int32.toBitVec_ofNat',
    BitVec.signExtend_eq_setWidth_of_msb_false hmsb, BitVec.toNat_setWidth, BitVec.toNat_ofNat]
  omega

/-- An `int32_t` survives being converted to a `size_t` and back. -/
theorem ofNat_sizeOfInt32 (x : Int32) : Int32.ofNat (sizeOfInt32 x) = x := by
  rw [sizeOfInt32, ← Int32.toBitVec_inj, Int32.toBitVec_ofNat', ← Int64.toNat_toBitVec,
    Int32.toBitVec_toInt64, BitVec.ofNat_toNat]
  ext i hi
  have hwide : i < 64 := by omega
  rw [BitVec.getElem_setWidth, BitVec.getLsbD_signExtend]
  simp [hi, hwide, BitVec.getLsbD_eq_getElem]

/-- An index stored as an `int32_t` tags like the index itself. -/
theorem setSubHalIndex_ofNat (h : Int32) (i : ℕ) :
    setSubHalIndex h (sizeOfInt32 (Int32.ofNat i)) = setSubHalIndex h i := by
  rw [setSubHalIndex, ofNat_sizeOfInt32, setSubHalIndex]

end OnePlus9
