import OnePlus9.Sensors.Equiv.System

/-!
# Sessions

`initialization args` are the actions of an `initializeCommon` call that nothing interrupts.  Taken
from a freshly constructed proxy they can all be executed and lead to a `FreshSession`
(`run_initialization`): both threads wait, no claim is counted, and nothing is posted, pending or
unacknowledged.  Statements about what happens between two initializations start there.

A session lasts while nobody initializes (`uninterrupted`): `InSession.step`.
-/

namespace OnePlus9.System

/-- An `initializeCommon` call without interruption, at one point in time. -/
def initialization (args : HalProxy.InitializeArgs) : List Action :=
  .initializeCommon args :: List.replicate 13 (.initStage 0)

/-- A session that has just begun. -/
structure FreshSession (s : System) : Prop where
  mThreadsRun : s.proxy.mThreadsRun = true
  initializing : s.initializing = none
  writer : s.writer = .waiting
  wakelockThread : s.wakelockThread = .waiting
  posts : s.posts = []
  scopedWakelocks : s.scopedWakelocks = []
  queue : s.proxy.pendingWrites.mPendingWriteEventsQueue = []
  count : s.proxy.wakelock.mWakelockRefCount = 0
  resetTime : s.proxy.wakelock.mWakelockTimeoutResetTime ≤ s.clock
  unackedLate : s.history.unackedLate = 0
  unackedFresh : s.history.unackedFresh = 0

/-- **The first initialization** of a proxy begins a session. -/
theorem run_initialization (c : Constants) (subHalList : List SubHalWrapper)
    (args : HalProxy.InitializeArgs) :
    ∃ s, (machine c).run (start subHalList) (initialization args) = some s ∧ FreshSession s := by
  have hqueues := HalProxy.sameQueues_disableAllSensors
    { (HalProxy.construct subHalList : HalProxy PostedEvent) with
      mThreadsRun := false
      wakelock := SharedWakelock.fresh.resetSharedWakelock false 0 }
  refine ⟨_, rfl, ?_⟩
  constructor
  case count => exact congrArg SharedWakelock.mWakelockRefCount hqueues.wakelock
  case resetTime =>
    exact Int.le_of_eq (congrArg SharedWakelock.mWakelockTimeoutResetTime hqueues.wakelock)
  all_goals rfl

/-! ### A system with one sub-HAL -/

/-- A vendor's sub-HAL with a wake-up pick-up sensor, another wake-up sensor, and a sensor that
does not wake up. -/
def pickUpSubHal : SubHalWrapper where
  subHal := .vendor
    { sensors :=
        [⟨1, .tiltDetector, "android.sensor.tilt_detector", WAKE_UP⟩,
          ⟨2, .other 17, "android.sensor.significant_motion", WAKE_UP⟩,
          ⟨3, .other 1, "android.sensor.accelerometer", 0⟩]
      setOperationModeResult := fun _ => .ok
      normal_accepted := rfl
      initializeResult := .ok
      respond := fun _ => .ok
      mode := .normal }
  calls := []

/-- Constants of the size the headers have. -/
def sampleConstants : Constants where
  kMaxSizePendingWriteEventsQueue := 100000
  kWakelockTimeoutNs := 1000000000
  kWakelockTimeoutNs_pos := by decide

/-- An initialization with an event queue for two events. -/
def sampleArgs : HalProxy.InitializeArgs := ⟨0, 2, true, true⟩

/-- A sample of the pick-up sensor that means "not picked up". -/
def notPickedUp : Event := ⟨1, .pickUpGesture, ⟨0x3f800000, 0, []⟩⟩

/-- An event of the other wake-up sensor. -/
def wakeUpEvent : Event := ⟨2, .other 17, ⟨0, 0, []⟩⟩

/-- An event of the sensor that does not wake up. -/
def quietEvent : Event := ⟨3, .other 1, ⟨0, 0, []⟩⟩

/-- The first session of that system. -/
def sampleSession : System :=
  ((machine sampleConstants).run (start [pickUpSubHal]) (initialization sampleArgs)).getD
    (start [pickUpSubHal])

theorem run_sampleSession :
    (machine sampleConstants).run (start [pickUpSubHal]) (initialization sampleArgs)
      = some sampleSession := by
  obtain ⟨s, hrun, -⟩ := run_initialization sampleConstants [pickUpSubHal] sampleArgs
  rw [sampleSession, hrun]
  rfl

theorem freshSession_sampleSession : FreshSession sampleSession := by
  obtain ⟨s, hrun, hfresh⟩ := run_initialization sampleConstants [pickUpSubHal] sampleArgs
  obtain rfl : s = sampleSession := Option.some.inj (hrun.symm.trans run_sampleSession)
  exact hfresh

/-! ### While a session lasts -/

/-- Nobody initializes. -/
def uninterrupted : Action → Bool
  | .initializeCommon _ => false
  | _ => true

/-- The threads run and no initialization is under way. -/
structure InSession (s : System) : Prop where
  mThreadsRun : s.proxy.mThreadsRun = true
  initializing : s.initializing = none

theorem FreshSession.inSession {s : System} (h : FreshSession s) : InSession s :=
  ⟨h.mThreadsRun, h.initializing⟩

variable {c : Constants} {s t : System} {a : Action}

/-- **A session lasts** until the next initialization. -/
theorem InSession.step (h : InSession s) (ha : uninterrupted a = true)
    (hstep : step c s a = some t) : InSession t := by
  cases step_cases hstep with
  | perform request => exact ⟨(HalProxy.sameQueues_perform _ _).mThreadsRun.trans h.1, h.2⟩
  | initializeCommon args _ => exact nomatch ha
  | initStage dt stage args hstage _ => exact nomatch h.2.symm.trans hstage
  | _ => exact ⟨h.1, h.2⟩

end OnePlus9.System
