import OnePlus9.Sensors.Equiv.CallLog
import OnePlus9.Sensors.Equiv.StaticList

/-!
# Which sensors are enabled

For the sub-HAL of this repository, a sensor is a register that the last activation addressed to it
has written: `isEnabled_of_run` says so for every run.  An initialization addresses a deactivation
to every sensor of the proxy's table, and that table never loses a sensor (`contains_step`).  So
after the stage that disables all sensors none is enabled: `isEnabled_of_disableAllSensors`.
-/

namespace OnePlus9

/-! ### One sensor -/

/-- Whether the sensor `k` is enabled after a call. -/
def SubHalCall.enables (k : Int32) (enabled : Bool) : SubHalCall → Bool
  | .activate sensorHandle enable => if sensorHandle = k then enable else enabled
  | _ => enabled

/-- Whether the sensor `k` is enabled after some calls. -/
def enabledAfter (k : Int32) (calls : List SubHalCall) (enabled : Bool) : Bool :=
  calls.foldl (SubHalCall.enables k) enabled

theorem Sensor.mIsEnabled_activate (enable : Bool) (s : Sensor) :
    (s.activate enable).mIsEnabled = enable := by
  unfold Sensor.activate
  split_ifs with hne
  · rfl
  · exact not_not.mp hne

theorem Sensor.mIsEnabled_setOperationMode (mode : OperationMode) (s : Sensor) :
    (s.setOperationMode mode).mIsEnabled = s.mIsEnabled := by
  unfold Sensor.setOperationMode
  split_ifs <;> rfl

namespace SensorsSubHal

/-- Whether the sensor `k` is enabled; `none` where there is no such sensor. -/
def isEnabled (k : Int32) (h : SensorsSubHal) : Option Bool :=
  h.mSensors[k]?.map Sensor.mIsEnabled

theorem isEnabled_call (k : Int32) (h : SensorsSubHal) (c : SubHalCall) :
    (h.call c).2.isEnabled k = (h.isEnabled k).map fun enabled => c.enables k enabled := by
  have hsame : h.isEnabled k = (h.isEnabled k).map id := Option.map_id'.symm
  cases c with
  | activate k' enable =>
    rw [SensorsSubHal.call, isEnabled, isEnabled]
    cases hget : h.mSensors[k']? with
    | none =>
      by_cases hk : k' = k
      · rw [← hk, hget]
        rfl
      · simp only [SubHalCall.enables, if_neg hk]
        exact hsame
    | some sensor =>
      dsimp only
      rw [Std.TreeMap.getElem?_insert]
      by_cases hk : k' = k
      · subst hk
        simp [SubHalCall.enables, hget, Sensor.mIsEnabled_activate]
      · have hcompare : ¬compare k' k = .eq := fun heq => hk (Std.LawfulEqCmp.eq_of_compare heq)
        simp only [if_neg hcompare, SubHalCall.enables, if_neg hk]
        exact hsame
  | batch k' samplingPeriodNs maxReportLatencyNs =>
    rw [SensorsSubHal.call]
    cases h.mSensors[k']? <;> exact hsame
  | flush k' =>
    rw [SensorsSubHal.call]
    cases h.mSensors[k']? <;> exact hsame
  | injectSensorData event =>
    rw [SensorsSubHal.call]
    cases h.mSensors[event.sensorHandle]? <;> exact hsame

theorem isEnabled_setOperationMode (k : Int32) (h : SensorsSubHal) (mode : OperationMode) :
    (h.setOperationMode mode).2.isEnabled k = h.isEnabled k := by
  rw [setOperationMode, isEnabled, Std.TreeMap.getElem?_map, Option.map_map, isEnabled]
  congr 1
  funext sensor
  exact sensor.mIsEnabled_setOperationMode mode

end SensorsSubHal

namespace SubHalWrapper

variable {w w' : SubHalWrapper} {calls : List SubHalCall}

/-- **A register for each sensor.**  What a sub-HAL of this repository receives decides which of its
sensors are enabled. -/
theorem Receives.isEnabled (hreceives : Receives w calls w') {h : SensorsSubHal}
    (hw : w.subHal = .sensorsSubHal h) :
    ∃ h', w'.subHal = .sensorsSubHal h' ∧ ∀ k,
      h'.isEnabled k = (h.isEnabled k).map (enabledAfter k calls) := by
  induction hreceives generalizing h with
  | done w => exact ⟨h, hw, fun k => Option.map_id'.symm⟩
  | @call w _ c calls _ ih =>
    obtain ⟨h', hw', hlater⟩ := ih (h := (h.call c).2) (by rw [SubHalWrapper.call, hw]; rfl)
    refine ⟨h', hw', fun k => ?_⟩
    rw [hlater, SensorsSubHal.isEnabled_call, Option.map_map]
    rfl
  | @setOperationMode w _ mode calls _ ih =>
    obtain ⟨h', hw', hlater⟩ := ih (h := (h.setOperationMode mode).2)
      (by rw [SubHalWrapper.setOperationMode, hw]; rfl)
    refine ⟨h', hw', fun k => ?_⟩
    rw [hlater, SensorsSubHal.isEnabled_setOperationMode]
  | @initializeSubHal w _ calls _ ih =>
    obtain ⟨h', hw', hlater⟩ := ih (h := (h.setOperationMode .normal).2)
      (by rw [SubHalWrapper.initializeSubHal, hw]; rfl)
    refine ⟨h', hw', fun k => ?_⟩
    rw [hlater, SensorsSubHal.isEnabled_setOperationMode]

end SubHalWrapper

/-! ### Deactivations -/

/-- Deactivations leave a disabled sensor disabled. -/
theorem enabledAfter_of_disabled {k : Int32} {calls : List SubHalCall}
    (hall : ∀ c ∈ calls, ∃ h, c = .activate h false) : enabledAfter k calls false = false := by
  induction calls with
  | nil => rfl
  | cons c calls ih =>
    obtain ⟨h, rfl⟩ := hall c List.mem_cons_self
    have hfirst : SubHalCall.enables k false (.activate h false) = false := ite_self _
    rw [enabledAfter, List.foldl_cons, hfirst]
    exact ih fun c hc => hall c (List.mem_cons_of_mem _ hc)

/-- Deactivations disable the sensors among them. -/
theorem enabledAfter_of_mem {k : Int32} {calls : List SubHalCall}
    (hall : ∀ c ∈ calls, ∃ h, c = .activate h false)
    (hmem : SubHalCall.activate k false ∈ calls) (enabled : Bool) :
    enabledAfter k calls enabled = false := by
  induction calls generalizing enabled with
  | nil => exact absurd hmem List.not_mem_nil
  | cons c calls ih =>
    have hrest : ∀ c ∈ calls, ∃ h, c = .activate h false :=
      fun c hc => hall c (List.mem_cons_of_mem _ hc)
    rw [enabledAfter, List.foldl_cons]
    rcases List.mem_cons.mp hmem with rfl | hlater
    · have hfirst : SubHalCall.enables k enabled (.activate k false) = false := if_pos rfl
      rw [hfirst]
      exact enabledAfter_of_disabled hrest
    · exact ih hrest hlater _

namespace HalProxy

variable {ε : Type*} {p : HalProxy ε} {i : ℕ} {k : Int32}

theorem exists_of_mem_deactivations {c : SubHalCall} (h : c ∈ deactivations i p) :
    ∃ k, c = .activate k false := by
  obtain ⟨k, -, hc⟩ := List.mem_flatMap.mp h
  unfold addressed at hc
  split_ifs at hc
  · exact ⟨_, List.mem_singleton.mp hc⟩
  · exact absurd hc List.not_mem_nil

/-- Every sensor in the table is deactivated under its local handle. -/
theorem mem_deactivations (hi : i < 128) (hclear : subHalIndexIsClear k = true)
    (hknown : p.mSensors.contains (setSubHalIndex k i) = true) :
    .activate k false ∈ deactivations i p := by
  refine List.mem_flatMap.mpr ⟨setSubHalIndex k i, ?_, ?_⟩
  · refine List.mem_append_left _ ?_
    rw [Std.TreeMap.mem_keys, Std.TreeMap.mem_iff_contains]
    exact hknown
  · rw [addressed, extractSubHalIndex_setSubHalIndex hclear hi, if_pos rfl,
      clearSubHalIndex_setSubHalIndex hclear]
    exact List.mem_singleton_self _

end HalProxy

/-! ### The running system -/

theorem PendingWrites.contains_numToGiveBack {ε : Type*} [SensorEvent ε] {m : SensorMap}
    {events : List ε} {stored q : ℕ} {k : Int32} (h : m.contains k = true) :
    (numToGiveBack m events stored q).2.contains k = true := by
  unfold numToGiveBack
  split_ifs
  · refine List.foldlRecOn (motive := fun acc : ℕ × SensorMap => acc.2.contains k = true)
      (events.take q) _ h ?_
    rintro acc hacc event -
    exact SensorMap.contains_index_snd.mpr (.inl hacc)
  · exact h
  · exact h

namespace System

variable {c : Constants} {s t : System} {a : Action} {as : List Action} {i : ℕ}

/-- **No step** takes a sensor out of the proxy's table. -/
theorem contains_step {k : Int32} (hstep : step c s a = some t)
    (h : s.proxy.mSensors.contains k = true) : t.proxy.mSensors.contains k = true := by
  cases step_cases hstep with
  | processEvents j post events hj hpc out hout =>
    subst hout
    exact (HalProxyCallback.contains_processEvents _ events s.proxy.mSensors k).mpr (.inl h)
  | giveBack ok stored q n front stored' rest hpc hq =>
    exact PendingWrites.contains_numToGiveBack h
  | perform request =>
    show (s.proxy.perform request).mSensors.contains k = true
    rw [(HalProxy.sameQueues_perform s.proxy request).mSensors]
    exact h
  | initStage dt stage args hstage henabled =>
    show (s.proxy.initStage args _ stage).mSensors.contains k = true
    rw [mSensors_initStage]
    exact h
  | _ => exact h

/-- So a sensor of the table is known throughout. -/
theorem contains_of_visits {k : Int32} (hv : (machine c).Visits s as t)
    (h : s.proxy.mSensors.contains k = true) : t.proxy.mSensors.contains k = true :=
  Machine.invariant_of_step (I := fun t => t.proxy.mSensors.contains k = true)
    (fun _ _ _ h hstep => contains_step hstep h) h hv

/-- In particular every sensor listed at the start. -/
theorem contains_of_lists {subHalList : List SubHalWrapper} {k : Int32}
    (hlists : HalProxy.Lists subHalList i k) (hclear : subHalIndexIsClear k = true)
    (hv : (machine c).Visits (start subHalList) as t) :
    t.proxy.mSensors.contains (setSubHalIndex k i) = true := by
  refine contains_of_visits hv ?_
  have hhandle := (HalProxy.mem_handles_construct (ε := PostedEvent) subHalList
    (setSubHalIndex k i)).mpr ⟨i, k, hlists, hclear, rfl⟩
  rw [HalProxy.handles_construct, Std.TreeMap.mem_keys, Std.TreeMap.mem_iff_contains] at hhandle
  exact hhandle

/-- The sub-HAL of this repository, before any call. -/
def ownSubHal : SubHalWrapper := ⟨.sensorsSubHal .construct, []⟩

/-- In the first session the sensor 2 is enabled; then a second initialization gets to the stage
that disables all sensors. -/
def enableAndReinitialize : List Action :=
  initialization sampleArgs ++
    [.perform (.activate 2 true), .initializeCommon sampleArgs, .handlePendingWrites true,
      .handlePendingWrites true, .handleWakelocks none 0 0 0, .initStage 0, .initStage 0]

theorem exists_run_enableAndReinitialize :
    ∃ s, (machine sampleConstants).run (start [ownSubHal]) enableAndReinitialize = some s
      ∧ s.initializing = some (.disableAllSensors, sampleArgs) := by
  obtain ⟨s, hrun, hs⟩ := Option.map_eq_some_iff.mp
    (show ((machine sampleConstants).run (start [ownSubHal]) enableAndReinitialize).map
      (fun s => s.initializing) = some (some (.disableAllSensors, sampleArgs)) from rfl)
  exact ⟨s, hrun, hs⟩

/-- **The last activation decides.**  Over every run, which sensors of a sub-HAL of this repository
are enabled is decided by the calls addressed to it. -/
theorem isEnabled_of_run (hrun : (machine c).run s as = some t) {w : SubHalWrapper}
    {h : SensorsSubHal} (hw : s.proxy.mSubHalList[i]? = some w)
    (hsub : w.subHal = .sensorsSubHal h) :
    ∃ w' h', t.proxy.mSubHalList[i]? = some w' ∧ w'.subHal = .sensorsSubHal h' ∧ ∀ k,
      h'.isEnabled k
        = (h.isEnabled k).map (enabledAfter k ((machine c).log (callsTo i) s as)) := by
  obtain ⟨w', hw', hreceives⟩ := delivers_of_run hrun w hw
  obtain ⟨h', hsub', henabled⟩ := hreceives.isEnabled hsub
  exact ⟨w', h', hw', hsub', henabled⟩

/-- The sensor 2 is enabled in the end, the sensor 1 is not. -/
theorem isEnabled_of_run_enableAndReinitialize :
    ∃ s w h, (machine sampleConstants).run (start [ownSubHal]) enableAndReinitialize = some s
      ∧ s.proxy.mSubHalList[0]? = some w ∧ w.subHal = .sensorsSubHal h
      ∧ h.isEnabled 1 = some false ∧ h.isEnabled 2 = some true := by
  obtain ⟨s, hrun, -⟩ := exists_run_enableAndReinitialize
  obtain ⟨w, h, hw, hsub, henabled⟩ :=
    isEnabled_of_run hrun (w := ownSubHal) (i := 0) rfl rfl
  refine ⟨s, w, h, hrun, hw, hsub, ?_, ?_⟩
  · rw [henabled 1]
    decide
  · rw [henabled 2]
    decide

/-- **An initialization disables every sensor.**  Whatever happened before, and whatever other
threads do meanwhile: after the stage that disables all sensors, no sensor that a sub-HAL of this
repository listed is enabled. -/
theorem isEnabled_of_disableAllSensors {subHalList : List SubHalWrapper} {w : SubHalWrapper}
    {h : SensorsSubHal} (hi : i < 128) (hw : subHalList[i]? = some w)
    (hsub : w.subHal = .sensorsSubHal h) (hrun : (machine c).run (start subHalList) as = some s)
    {args : HalProxy.InitializeArgs} {dt : ℕ}
    (hstage : s.initializing = some (.disableAllSensors, args))
    (hstep : step c s (.initStage dt) = some t) :
    ∃ w' h', t.proxy.mSubHalList[i]? = some w' ∧ w'.subHal = .sensorsSubHal h' ∧ ∀ k,
      HalProxy.Lists subHalList i k → subHalIndexIsClear k = true →
      h'.isEnabled k = (h.isEnabled k).map fun _ => false := by
  obtain ⟨u, hu, hreceived⟩ := delivers_of_run (s := start subHalList) hrun w hw
  obtain ⟨h₁, hsub₁, hbefore⟩ := hreceived.isEnabled hsub
  obtain ⟨w', hw', hreceives⟩ := delivers_step (i := i) hstep u hu
  obtain ⟨h', hsub', hafter⟩ := hreceives.isEnabled hsub₁
  refine ⟨w', h', hw', hsub', fun k hlists hclear => ?_⟩
  have hcalls : s.callsTo i (.initStage dt) = HalProxy.deactivations i s.proxy := by
    rw [callsTo, hstage]
    rfl
  have hmem := HalProxy.mem_deactivations hi hclear
    (contains_of_lists hlists hclear ((machine c).visits_of_run hrun))
  rw [hafter, hbefore, Option.map_map, hcalls]
  congr 1
  funext enabled
  exact enabledAfter_of_mem (fun c hc => HalProxy.exists_of_mem_deactivations hc) hmem _

/-- After one more stage neither is. -/
theorem isEnabled_of_disableAllSensors_ownSubHal :
    ∃ s t w h, (machine sampleConstants).run (start [ownSubHal]) enableAndReinitialize = some s
      ∧ step sampleConstants s (.initStage 0) = some t
      ∧ t.proxy.mSubHalList[0]? = some w ∧ w.subHal = .sensorsSubHal h
      ∧ h.isEnabled 1 = some false ∧ h.isEnabled 2 = some false := by
  obtain ⟨s, hrun, hstage⟩ := exists_run_enableAndReinitialize
  have hstep : step sampleConstants s (.initStage 0)
      = some (s.afterStage .disableAllSensors sampleArgs (s.clock + 0)) := by
    rw [step, initStage, hstage]
    rfl
  obtain ⟨w, h, hw, hsub, henabled⟩ :=
    isEnabled_of_disableAllSensors (w := ownSubHal) (i := 0) (by decide) rfl rfl hrun hstage hstep
  refine ⟨s, _, w, h, hrun, hstep, hw, hsub, ?_, ?_⟩
  · rw [henabled 1 ⟨ownSubHal, _, rfl, List.mem_cons_self, rfl⟩ (by decide)]
    decide
  · rw [henabled 2 ⟨ownSubHal, _, rfl, List.mem_cons_of_mem _ List.mem_cons_self, rfl⟩ (by decide)]
    decide

end System

end OnePlus9
