import Mathlib.Data.Int.Notation
import Mathlib.Tactic.Common

/-!
# The shared wakelock

The proxy keeps one OS wakelock (`kWakelockName`) for all sub-HALs and counts the claims on it in
`mWakelockRefCount`: one for every live `ScopedWakelock` and one for every wake-up event that was
posted and that the framework has not acknowledged.  The functions below are those of
`HalProxy.cpp` that touch the count; each holds `mWakelockMutex` for its whole body.

`mThreadsRun` is read by each of them and is an argument, as is every reading of `getTimeNow()`.
The count is a `size_t`; it is a natural number here, since reaching `2 ^ 64` takes that many
outstanding claims.
-/

namespace OnePlus9

/-- The wakelock fields of `HalProxy`, with the state of the OS wakelock. -/
structure SharedWakelock where
  mWakelockRefCount : ℕ
  mWakelockTimeoutStartTime : ℤ
  mWakelockTimeoutResetTime : ℤ
  /-- Whether the last of the calls `acquire_wake_lock` and `release_wake_lock` was an acquire. -/
  held : Bool
  deriving DecidableEq, Repr

namespace SharedWakelock

/-- The wakelock of a freshly constructed proxy. -/
def fresh : SharedWakelock where
  mWakelockRefCount := 0
  mWakelockTimeoutStartTime := 0
  mWakelockTimeoutResetTime := 0
  held := false

/-- Returns whether the claim was counted.  Where it was, `*timeoutStart` is the new
`mWakelockTimeoutStartTime`. -/
def incrementRefCountAndMaybeAcquireWakelock (mThreadsRun : Bool) (delta : ℕ) (now : ℤ)
    (w : SharedWakelock) : Bool × SharedWakelock :=
  if !mThreadsRun then (false, w)
  else
    (true,
      -- The OS wakelock is acquired on the count before `delta` is added, even if `delta` is 0.
      { w with
        held := if w.mWakelockRefCount = 0 then true else w.held
        mWakelockTimeoutStartTime := now
        mWakelockRefCount := w.mWakelockRefCount + delta })

/-- Give back `delta` claims.  `timeoutStart` is when the claim was made; the default `-1` stands
for a claim that carries no time and is taken to be made at the last reset. -/
def decrementRefCountAndMaybeReleaseWakelock (mThreadsRun : Bool) (delta : ℕ)
    (timeoutStart : ℤ) (w : SharedWakelock) : SharedWakelock :=
  if !mThreadsRun then w
  else
    let timeoutStart := if timeoutStart = -1 then w.mWakelockTimeoutResetTime else timeoutStart
    if w.mWakelockRefCount = 0 ∨ timeoutStart < w.mWakelockTimeoutResetTime then w
    else
      -- More claims than are counted can be given back; the source logs that.
      let refCount := w.mWakelockRefCount - min w.mWakelockRefCount delta
      { w with
        mWakelockRefCount := refCount
        held := if refCount = 0 then false else w.held }

/-- Drop every claim and remember when. -/
def resetSharedWakelock (mThreadsRun : Bool) (now : ℤ) (w : SharedWakelock) : SharedWakelock :=
  { decrementRefCountAndMaybeReleaseWakelock mThreadsRun w.mWakelockRefCount (-1) w with
    mWakelockTimeoutResetTime := now }

/-- `none` where the wakelock timed out, otherwise `*timeLeft`. -/
def sharedWakelockDidTimeout (kWakelockTimeoutNs now : ℤ) (w : SharedWakelock) : Option ℤ :=
  let duration := now - w.mWakelockTimeoutStartTime
  if duration > kWakelockTimeoutNs then none else some (kWakelockTimeoutNs - duration)

end SharedWakelock

/-- A locked `ScopedWakelock`: its constructor called `increment` with delta 1, which returned
`true`, and its destructor will call `decrement` with delta 1 and `mCreatedAtTimeNs`. -/
structure ScopedWakelock where
  mCreatedAtTimeNs : ℤ
  /-- How many times the shared wakelock had timed out when this one was created.  The code does
  not see this number. -/
  epoch : ℕ
  deriving DecidableEq, Repr

end OnePlus9
