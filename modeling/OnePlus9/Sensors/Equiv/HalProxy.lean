import OnePlus9.Sensors.HalProxy

/-!
# What the calls of the proxy leave alone

Requests, dynamic connections and `disableAllSensors` touch sub-HALs, the dynamic sensors and the
mode, and nothing else: `sameQueues_perform`, `sameQueues_disableAllSensors`.  `SameQueues p q`
lists what `p` and `q` then have in common.
-/

namespace OnePlus9.HalProxy

variable {ε : Type*} {p : HalProxy ε}

/-- The two proxies agree on the static sensors, the queues, the wakelock and the threads. -/
structure SameQueues (p q : HalProxy ε) : Prop where
  mSensors : q.mSensors = p.mSensors
  wakelock : q.wakelock = p.wakelock
  pendingWrites : q.pendingWrites = p.pendingWrites
  eventQueue : q.eventQueue = p.eventQueue
  mThreadsRun : q.mThreadsRun = p.mThreadsRun

theorem SameQueues.refl (p : HalProxy ε) : SameQueues p p := ⟨rfl, rfl, rfl, rfl, rfl⟩

/-! ### Routed requests -/

/-- A routed request leaves a proxy that differs at most in one sub-HAL. -/
theorem afterRoute_route (h : Int32) (request : Int32 → SubHalCall) :
    ∃ subHals, afterRoute (p.route h request) p = { p with mSubHalList := subHals } := by
  unfold route
  split_ifs with hvalid
  · exact ⟨p.mSubHalList, rfl⟩
  · cases hget : p.getSubHalForSensorHandle h with
    | none => exact ⟨p.mSubHalList, rfl⟩
    | some subHal => exact ⟨_, rfl⟩

theorem sameQueues_afterRoute (h : Int32) (request : Int32 → SubHalCall) :
    SameQueues p (afterRoute (p.route h request) p) := by
  obtain ⟨subHals, heq⟩ := afterRoute_route (p := p) h request
  rw [heq]
  exact ⟨rfl, rfl, rfl, rfl, rfl⟩

/-- Disabling all sensors calls sub-HALs and does nothing else. -/
theorem disableAllSensors_eq (p : HalProxy ε) :
    ∃ subHals, p.disableAllSensors = { p with mSubHalList := subHals } := by
  refine List.foldlRecOn
    (motive := fun q : HalProxy ε => ∃ subHals, q = { p with mSubHalList := subHals })
    (p.mSensors.keys ++ p.mDynamicSensors.keys) _ ⟨p.mSubHalList, rfl⟩ ?_
  rintro q ⟨subHals, rfl⟩ h -
  obtain ⟨subHals', heq⟩ := afterRoute_route (p := { p with mSubHalList := subHals }) h
    fun h => .activate h false
  exact ⟨subHals', heq⟩

theorem sameQueues_disableAllSensors (p : HalProxy ε) : SameQueues p p.disableAllSensors := by
  obtain ⟨subHals, heq⟩ := p.disableAllSensors_eq
  rw [heq]
  exact ⟨rfl, rfl, rfl, rfl, rfl⟩

/-! ### Dynamic sensors and the mode -/

/-- Connecting dynamic sensors changes only which ones are known. -/
theorem onDynamicSensorsConnected_snd (sensors : List SensorInfo) (i : Int32) (p : HalProxy ε) :
    ∃ m, (p.onDynamicSensorsConnected sensors i).2 = { p with mDynamicSensors := m } := by
  refine List.foldlRecOn
    (motive := fun acc : List SensorInfo × HalProxy ε =>
      ∃ m, acc.2 = { p with mDynamicSensors := m })
    sensors _ ⟨p.mDynamicSensors, rfl⟩ ?_
  rintro acc ⟨m, hacc⟩ sensor -
  unfold connectSensor
  split_ifs
  · exact ⟨m, hacc⟩
  · dsimp only
    rw [hacc]
    exact ⟨_, rfl⟩

/-- So does disconnecting them. -/
theorem onDynamicSensorsDisconnected_snd (handles : List Int32) (i : Int32) (p : HalProxy ε) :
    ∃ m, (p.onDynamicSensorsDisconnected handles i).2 = { p with mDynamicSensors := m } := by
  refine List.foldlRecOn
    (motive := fun acc : List Int32 × HalProxy ε => ∃ m, acc.2 = { p with mDynamicSensors := m })
    handles _ ⟨p.mDynamicSensors, rfl⟩ ?_
  rintro acc ⟨m, hacc⟩ h -
  unfold disconnectSensor
  dsimp only
  split_ifs
  · exact ⟨m, hacc⟩
  · dsimp only
    rw [hacc]
    exact ⟨_, rfl⟩
  · exact ⟨m, hacc⟩

theorem sameQueues_setOperationMode (mode : OperationMode) (p : HalProxy ε) :
    SameQueues p (p.setOperationMode mode).2 := by
  unfold setOperationMode
  dsimp only
  split_ifs <;> exact ⟨rfl, rfl, rfl, rfl, rfl⟩

/-- **Requests leave the queues alone.** -/
theorem sameQueues_perform (p : HalProxy ε) (request : Request) :
    SameQueues p (p.perform request) := by
  cases request with
  | setOperationMode mode => exact sameQueues_setOperationMode mode p
  | activate h enabled => exact sameQueues_afterRoute h _
  | batch h samplingPeriodNs maxReportLatencyNs => exact sameQueues_afterRoute h _
  | flush h => exact sameQueues_afterRoute h _
  | injectSensorData event =>
    unfold perform injectSensorData
    dsimp only
    split_ifs
    · exact .refl p
    · exact sameQueues_afterRoute event.sensorHandle _
  | onDynamicSensorsConnected sensors i =>
    obtain ⟨m, heq⟩ := onDynamicSensorsConnected_snd sensors i p
    rw [perform, heq]
    exact ⟨rfl, rfl, rfl, rfl, rfl⟩
  | onDynamicSensorsDisconnected handles i =>
    obtain ⟨m, heq⟩ := onDynamicSensorsDisconnected_snd handles i p
    rw [perform, heq]
    exact ⟨rfl, rfl, rfl, rfl, rfl⟩

/-! ### The number of sub-HALs -/

theorem length_afterRoute (h : Int32) (request : Int32 → SubHalCall) :
    (afterRoute (p.route h request) p).mSubHalList.length = p.mSubHalList.length := by
  unfold route
  split_ifs with hvalid
  · rfl
  · cases hget : p.getSubHalForSensorHandle h with
    | none => rfl
    | some subHal => exact List.length_set

theorem length_disableAllSensors (p : HalProxy ε) :
    p.disableAllSensors.mSubHalList.length = p.mSubHalList.length := by
  refine List.foldlRecOn
    (motive := fun q : HalProxy ε => q.mSubHalList.length = p.mSubHalList.length)
    (p.mSensors.keys ++ p.mDynamicSensors.keys) _ rfl ?_
  intro q hq h _
  exact (length_afterRoute h _).trans hq

theorem length_switchModes (mode : OperationMode) (subHals : List SubHalWrapper) :
    (switchModes mode subHals).2.2.length = subHals.length := by
  induction subHals with
  | nil => rfl
  | cons subHal subHals ih =>
    rw [switchModes]
    dsimp only
    split_ifs
    · rfl
    · rw [List.length_cons, ih, List.length_cons]

theorem length_restoreModes (mode : OperationMode) (n : ℕ) (subHals : List SubHalWrapper) :
    (restoreModes mode n subHals).length = subHals.length := by
  rw [restoreModes, List.length_append, List.length_map, ← List.length_append,
    List.take_append_drop]

/-- **Requests** neither add nor remove sub-HALs. -/
theorem length_perform (p : HalProxy ε) (request : Request) :
    (p.perform request).mSubHalList.length = p.mSubHalList.length := by
  cases request with
  | setOperationMode mode =>
    have hswitched := length_switchModes mode p.mSubHalList
    unfold perform setOperationMode
    dsimp only
    split_ifs
    · exact (length_restoreModes _ _ _).trans hswitched
    · exact hswitched
  | activate h enabled => exact length_afterRoute h _
  | batch h samplingPeriodNs maxReportLatencyNs => exact length_afterRoute h _
  | flush h => exact length_afterRoute h _
  | injectSensorData event =>
    unfold perform injectSensorData
    dsimp only
    split_ifs
    · rfl
    · exact length_afterRoute event.sensorHandle _
  | onDynamicSensorsConnected sensors i =>
    obtain ⟨m, heq⟩ := onDynamicSensorsConnected_snd sensors i p
    rw [perform, heq]
  | onDynamicSensorsDisconnected handles i =>
    obtain ⟨m, heq⟩ := onDynamicSensorsDisconnected_snd handles i p
    rw [perform, heq]

/-- Nor do the stages of an initialization. -/
theorem length_initStage (p : HalProxy ε) (args : InitializeArgs) (now : ℤ) (stage : InitStage) :
    (p.initStage args now stage).mSubHalList.length = p.mSubHalList.length := by
  cases stage with
  | disableAllSensors => exact length_disableAllSensors p
  | initializeSubHals => exact List.length_map _
  | _ => rfl

end OnePlus9.HalProxy
