import OnePlus9.Library.Narrowing
import OnePlus9.Sensors.Batch

/-!
# What `batch` makes of a sampling period

`Sensor::batch` clamps the period to the sensor's limits, but only after it was narrowed to 32 bits.
A period of more than about 2.1 seconds, which should become the longest one, becomes whatever its
low 32 bits say; so the outcome is the exact clamp if and only if the period fits 32 bits, or its
low 32 bits happen to be clamped to the same end (`batch_exact_iff`).

The one-shot sensors of this repository have no period (`call_batch`).
-/

namespace OnePlus9

open Narrowing

variable {s : SamplingSensor} {sensorHandle : Int32}
  {mSensors : Std.TreeMap Int32 SamplingSensor}

/-! ### Clamping in 32 bits -/

theorem toInt_clampInt32 {v lo hi : Int32} (hle : lo.toInt ≤ hi.toInt) :
    (clampInt32 v lo hi).toInt = clamp lo.toInt hi.toInt v.toInt := by
  rw [clamp_eq_ite hle, clampInt32]
  simp only [Int32.lt_iff_toInt_lt]
  split_ifs <;> rfl

/-- A number of microseconds, in nanoseconds. -/
theorem toInt_mul_thousand {delay : Int32} (hnonneg : 0 ≤ delay.toInt)
    (hfit : delay.toInt * 1000 < 2 ^ 31) : (delay * 1000).toInt = delay.toInt * 1000 := by
  have hthousand : (1000 : Int32).toInt = 1000 := by decide
  rw [Int32.toInt_mul, hthousand]
  apply bmod_of_fits
  unfold Fits
  omega

namespace SamplingSensor

/-- The limits that a sensor that uses `Sensor::batch` may have. -/
structure HasLimits (s : SamplingSensor) : Prop where
  isOneShot : s.isOneShot = false
  minDelay : 0 ≤ s.minDelay.toInt
  le : s.minDelay.toInt ≤ s.maxDelay.toInt
  maxDelay : s.maxDelay.toInt * 1000 < 2 ^ 31

/-- The period clamped to the limits, in exact integers. -/
def exactPeriod (s : SamplingSensor) (samplingPeriodNs : ℤ) : ℤ :=
  clamp (s.minDelay.toInt * 1000) (s.maxDelay.toInt * 1000) samplingPeriodNs

/-- `Sensor::batch` clamps what it gets. -/
theorem mSamplingPeriodNs_batch (h : s.HasLimits) (samplingPeriodNs : Int32) :
    (s.batch samplingPeriodNs).1.mSamplingPeriodNs.toInt
      = s.exactPeriod samplingPeriodNs.toInt := by
  have hmin := toInt_mul_thousand h.minDelay (by have := h.le; have := h.maxDelay; omega)
  have hmax := toInt_mul_thousand (by have := h.minDelay; have := h.le; omega) h.maxDelay
  have hle : (s.minDelay * 1000).toInt ≤ (s.maxDelay * 1000).toInt := by
    have := h.le
    omega
  have hclamp := toInt_clampInt32 (v := samplingPeriodNs) hle
  rw [hmin, hmax] at hclamp
  rw [batch, h.isOneShot, exactPeriod, ← hclamp]
  unfold sensorBatch
  dsimp only
  rw [if_neg Bool.false_ne_true]
  split_ifs with hne
  · exact Int32.toInt_toInt64 _
  · rw [not_not.mp hne]
    exact Int32.toInt_toInt64 _

/-- The period fits 32 bits, there is only one to choose from, or the low 32 bits are beyond the
same limit. -/
def Representable (s : SamplingSensor) (samplingPeriodNs : Int64) : Prop :=
  Fits (2 ^ 32) samplingPeriodNs.toInt ∨ s.minDelay = s.maxDelay
    ∨ (s.maxDelay.toInt * 1000 < samplingPeriodNs.toInt
      ∧ s.maxDelay.toInt * 1000 ≤ samplingPeriodNs.toInt.bmod (2 ^ 32))
    ∨ (samplingPeriodNs.toInt < s.minDelay.toInt * 1000
      ∧ samplingPeriodNs.toInt.bmod (2 ^ 32) ≤ s.minDelay.toInt * 1000)

instance (s : SamplingSensor) (samplingPeriodNs : Int64) :
    Decidable (s.Representable samplingPeriodNs) :=
  inferInstanceAs (Decidable (_ ∨ _ ∨ _ ∨ _))

/-- Of the limits, narrowed periods and exact ones. -/
theorem exactPeriod_toInt32_iff (h : s.HasLimits) (samplingPeriodNs : Int64) :
    s.exactPeriod samplingPeriodNs.toInt32.toInt = s.exactPeriod samplingPeriodNs.toInt
      ↔ s.Representable samplingPeriodNs := by
  obtain ⟨-, hmin, hle, hmax⟩ := h
  have hlo : Fits (2 ^ 32) (s.minDelay.toInt * 1000) := by
    unfold Fits
    omega
  have hhi : Fits (2 ^ 32) (s.maxDelay.toInt * 1000) := by
    unfold Fits
    omega
  have hsame : s.minDelay.toInt * 1000 = s.maxDelay.toInt * 1000 ↔ s.minDelay = s.maxDelay := by
    rw [← Int32.toInt_inj]
    omega
  rw [Int64.toInt_toInt32, exactPeriod, exactPeriod, clamp_bmod_eq_iff hlo hhi (by omega), hsame]
  rfl

/-- **Longer requests, longer periods**, where they are representable. -/
theorem mSamplingPeriodNs_mono (h : s.HasLimits) {p q : Int64} (hp : s.Representable p)
    (hq : s.Representable q) (hle : p ≤ q) :
    (s.batch p.toInt32).1.mSamplingPeriodNs ≤ (s.batch q.toInt32).1.mSamplingPeriodNs := by
  rw [Int64.le_iff_toInt_le, mSamplingPeriodNs_batch h, mSamplingPeriodNs_batch h,
    (exactPeriod_toInt32_iff h p).mpr hp, (exactPeriod_toInt32_iff h q).mpr hq]
  exact clamp_mono (Int64.le_iff_toInt_le.mp hle)

end SamplingSensor

/-! ### `SensorsSubHal::batch` -/

namespace SensorsSubHal

/-- The sampling period of a sensor. -/
def samplingPeriod (sensorHandle : Int32) (mSensors : Std.TreeMap Int32 SamplingSensor) :
    Option ℤ :=
  mSensors[sensorHandle]?.map fun sensor => sensor.mSamplingPeriodNs.toInt

/-- **When a period is clamped and not wrapped.**  For every sensor that uses `Sensor::batch`, and
every period: what the sensor gets is the period clamped to its limits, in exact integers, if and
only if the period is representable. -/
theorem batch_exact_iff (hsensor : mSensors[sensorHandle]? = some s) (h : s.HasLimits)
    (samplingPeriodNs maxReportLatencyNs : Int64) :
    samplingPeriod sensorHandle
        (batch sensorHandle samplingPeriodNs maxReportLatencyNs mSensors).2
        = some (s.exactPeriod samplingPeriodNs.toInt)
      ↔ s.Representable samplingPeriodNs := by
  have hafter : samplingPeriod sensorHandle
      (batch sensorHandle samplingPeriodNs maxReportLatencyNs mSensors).2
      = some (s.exactPeriod samplingPeriodNs.toInt32.toInt) := by
    rw [batch, hsensor, samplingPeriod]
    dsimp only
    rw [Std.TreeMap.getElem?_insert_self, Option.map_some, SamplingSensor.mSamplingPeriodNs_batch h]
  rw [hafter, Option.some.injEq, SamplingSensor.exactPeriod_toInt32_iff h]

/-- A sensor that takes between 100 and 1 samples a second. -/
def hundredHertz : Std.TreeMap Int32 SamplingSensor :=
  (∅ : Std.TreeMap Int32 SamplingSensor).insert 1 (.construct 10000)

/-- A period of 20 milliseconds. -/
theorem batch_exact_twentyMillis :
    samplingPeriod 1 (batch 1 20000000 0 hundredHertz).2
      = some ((SamplingSensor.construct 10000).exactPeriod 20000000) :=
  (batch_exact_iff (s := .construct 10000) rfl ⟨rfl, by decide, by decide, by decide⟩ 20000000
    0).mpr (by decide)

/-- A period of `2 ^ 32` nanoseconds, which is longer than the longest, becomes the shortest. -/
theorem exists_wrapped_period :
    ¬samplingPeriod 1 (batch 1 4294967296 0 hundredHertz).2
      = some ((SamplingSensor.construct 10000).exactPeriod 4294967296) := by
  decide

/-- The sensors of this repository: all are one-shot sensors. -/
def samplings (h : SensorsSubHal) : Std.TreeMap Int32 SamplingSensor :=
  h.mSensors.map fun _ _ => .oneShot

/-- **`batch` of a one-shot sensor** does nothing, as `call` has it. -/
theorem call_batch (h : SensorsSubHal) (sensorHandle : Int32)
    (samplingPeriodNs maxReportLatencyNs : Int64) :
    h.call (.batch sensorHandle samplingPeriodNs maxReportLatencyNs)
        = ((batch sensorHandle samplingPeriodNs maxReportLatencyNs h.samplings).1, h)
      ∧ ∀ k : Int32, (batch sensorHandle samplingPeriodNs maxReportLatencyNs h.samplings).2[k]?
        = h.samplings[k]? := by
  have hsamplings : ∀ k : Int32, h.samplings[k]?
      = h.mSensors[k]?.map fun _ => SamplingSensor.oneShot := by
    intro k
    rw [samplings, Std.TreeMap.getElem?_map]
  unfold call batch
  dsimp only
  rw [hsamplings]
  cases hsensor : h.mSensors[sensorHandle]? with
  | none => exact ⟨rfl, fun k => rfl⟩
  | some sensor =>
    refine ⟨rfl, fun k => ?_⟩
    rw [Option.map_some]
    dsimp only
    rw [Std.TreeMap.getElem?_insert]
    split_ifs with heq
    · obtain rfl := Std.LawfulEqCmp.eq_of_compare heq
      rw [hsamplings, hsensor]
      rfl
    · rfl

end SensorsSubHal

end OnePlus9
