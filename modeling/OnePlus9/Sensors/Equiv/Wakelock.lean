import OnePlus9.Sensors.Wakelock

/-!
# What the wakelock functions do to the count

One formula per function: while the threads run, `increment` adds `delta`
(`count_increment`), and `decrement` subtracts `delta`, stopping at zero, unless the claim is stale
(`count_decrement`).  While they do not run, neither changes the count or the OS wakelock.

`Synced w` says that the OS wakelock is held exactly while claims are counted.  Giving back
claims keeps it (`Synced.decrement`, `Synced.reset`).  Adding claims keeps it unless nothing is
added to a count of zero (`synced_increment_iff`).
-/

namespace OnePlus9.SharedWakelock

variable {run : Bool} {delta : ℕ} {now start : ℤ} {w : SharedWakelock}

/-! ### The threads do not run -/

@[simp] theorem increment_stopped :
    incrementRefCountAndMaybeAcquireWakelock false delta now w = (false, w) := rfl

@[simp] theorem decrement_stopped :
    decrementRefCountAndMaybeReleaseWakelock false delta start w = w := rfl

@[simp] theorem reset_stopped :
    resetSharedWakelock false now w = { w with mWakelockTimeoutResetTime := now } := rfl

/-! ### The threads run -/

@[simp] theorem increment_running :
    (incrementRefCountAndMaybeAcquireWakelock true delta now w).1 = true := rfl

@[simp] theorem count_increment :
    (incrementRefCountAndMaybeAcquireWakelock true delta now w).2.mWakelockRefCount
      = w.mWakelockRefCount + delta := rfl

@[simp] theorem resetTime_increment :
    (incrementRefCountAndMaybeAcquireWakelock run delta now w).2.mWakelockTimeoutResetTime
      = w.mWakelockTimeoutResetTime := by
  cases run <;> rfl

/-- A claim made before the last reset, as far as its timestamp tells. -/
def Stale (start : ℤ) (w : SharedWakelock) : Prop :=
  start ≠ -1 ∧ start < w.mWakelockTimeoutResetTime

instance : Decidable (Stale start w) := inferInstanceAs (Decidable (_ ∧ _))

/-- A claim without a timestamp is never stale. -/
@[simp] theorem not_stale_neg_one : ¬Stale (-1) w := fun h => h.1 rfl

/-- The two early returns of `decrement`, and what it does past them. -/
theorem decrement_running :
    decrementRefCountAndMaybeReleaseWakelock true delta start w
      = if w.mWakelockRefCount = 0 ∨ Stale start w then w
        else { w with
          mWakelockRefCount := w.mWakelockRefCount - delta
          held := if w.mWakelockRefCount - delta = 0 then false else w.held } := by
  have hmin : w.mWakelockRefCount - min w.mWakelockRefCount delta
      = w.mWakelockRefCount - delta := by omega
  have hguard : (w.mWakelockRefCount = 0 ∨
      (if start = -1 then w.mWakelockTimeoutResetTime else start) < w.mWakelockTimeoutResetTime)
      ↔ (w.mWakelockRefCount = 0 ∨ Stale start w) := by
    unfold Stale
    split_ifs with hstart
    · simp [hstart]
    · simp [hstart]
  simp only [decrementRefCountAndMaybeReleaseWakelock, Bool.not_true, Bool.false_eq_true,
    if_false, hguard, hmin]

/-- **Giving back claims** subtracts, stopping at zero, unless the claim is stale. -/
theorem count_decrement :
    (decrementRefCountAndMaybeReleaseWakelock true delta start w).mWakelockRefCount
      = if Stale start w then w.mWakelockRefCount else w.mWakelockRefCount - delta := by
  rw [decrement_running]
  by_cases hstale : Stale start w
  · rw [if_pos (Or.inr hstale), if_pos hstale]
  · rw [if_neg hstale]
    by_cases hzero : w.mWakelockRefCount = 0
    · rw [if_pos (Or.inl hzero), hzero, Nat.zero_sub]
    · rw [if_neg (not_or.mpr ⟨hzero, hstale⟩)]

theorem count_decrement_fresh (h : ¬Stale start w) :
    (decrementRefCountAndMaybeReleaseWakelock true delta start w).mWakelockRefCount
      = w.mWakelockRefCount - delta := by
  rw [count_decrement, if_neg h]

@[simp] theorem resetTime_decrement :
    (decrementRefCountAndMaybeReleaseWakelock run delta start w).mWakelockTimeoutResetTime
      = w.mWakelockTimeoutResetTime := by
  cases run
  · rfl
  · rw [decrement_running]
    split_ifs <;> rfl

/-- Only adding claims moves the start of the timeout. -/
@[simp] theorem startTime_decrement :
    (decrementRefCountAndMaybeReleaseWakelock run delta start w).mWakelockTimeoutStartTime
      = w.mWakelockTimeoutStartTime := by
  cases run
  · rfl
  · rw [decrement_running]
    split_ifs <;> rfl

@[simp] theorem startTime_reset :
    (resetSharedWakelock run now w).mWakelockTimeoutStartTime = w.mWakelockTimeoutStartTime :=
  startTime_decrement

theorem startTime_increment :
    (incrementRefCountAndMaybeAcquireWakelock run delta now w).2.mWakelockTimeoutStartTime
      = if run then now else w.mWakelockTimeoutStartTime := by
  cases run <;> rfl

/-- What is left of the timeout, where it is not negative. -/
theorem didTimeout_eq_some_iff {limit left : ℤ} :
    sharedWakelockDidTimeout limit now w = some left
      ↔ left = w.mWakelockTimeoutStartTime + limit - now ∧ 0 ≤ left := by
  unfold sharedWakelockDidTimeout
  dsimp only
  split_ifs with htime
  · constructor
    · exact fun h => nomatch h
    · rintro ⟨rfl, hleft⟩
      omega
  · rw [Option.some_inj]
    omega

/-! ### The OS wakelock -/

/-- The OS wakelock is held exactly while claims are counted. -/
def Synced (w : SharedWakelock) : Prop := w.held = true ↔ 0 < w.mWakelockRefCount

instance : Decidable (Synced w) := inferInstanceAs (Decidable (_ ↔ _))

theorem synced_fresh : Synced fresh := by decide

/-- Adding claims breaks the agreement only by adding nothing to a count of zero: then the OS
wakelock is acquired for no claim. -/
theorem synced_increment_iff (h : Synced w) :
    Synced (incrementRefCountAndMaybeAcquireWakelock true delta now w).2
      ↔ 0 < w.mWakelockRefCount + delta := by
  unfold Synced at h ⊢
  rw [count_increment]
  unfold incrementRefCountAndMaybeAcquireWakelock
  rcases Nat.eq_zero_or_pos w.mWakelockRefCount with hzero | hpos
  · simp [hzero]
  · have hheld : w.held = true := h.mpr hpos
    simp [hheld]

theorem Synced.decrement (h : Synced w) :
    Synced (decrementRefCountAndMaybeReleaseWakelock run delta start w) := by
  cases run
  · exact h
  · rw [decrement_running]
    by_cases hskip : w.mWakelockRefCount = 0 ∨ Stale start w
    · rw [if_pos hskip]
      exact h
    · have hheld : w.held = true := h.mpr (by omega)
      rw [if_neg hskip, Synced]
      by_cases hlast : w.mWakelockRefCount - delta = 0
      · simp [hlast]
      · simp only [hlast, if_false, hheld, true_iff]
        omega

theorem Synced.reset (h : Synced w) : Synced (resetSharedWakelock run now w) :=
  h.decrement

end OnePlus9.SharedWakelock
