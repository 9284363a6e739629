import OnePlus9.Sensors.Equiv.DirectChannel
import OnePlus9.Sensors.Equiv.Session

/-!
# The owner of the direct channels

A channel handle means something only to the sub-HAL that made it.  The proxy passes all requests
about direct channels to `mDirectChannelSubHal`, which the constructor sets and nobody changes
(`mDirectChannelSubHal_of_visits`), so over every run they reach one and the same sub-HAL: the first
one that lists a sensor with direct-channel flags (`channelRequests_of_visits`).
-/

namespace OnePlus9

namespace HalProxy

variable {ε : Type*} {p : HalProxy ε}

theorem mDirectChannelSubHal_perform (p : HalProxy ε) (request : Request) :
    (p.perform request).mDirectChannelSubHal = p.mDirectChannelSubHal := by
  have hrouted : ∀ (k : Int32) (call : Int32 → SubHalCall),
      (afterRoute (p.route k call) p).mDirectChannelSubHal = p.mDirectChannelSubHal := by
    intro k call
    obtain ⟨subHals, heq⟩ := afterRoute_route (p := p) k call
    rw [heq]
  cases request with
  | setOperationMode mode =>
    unfold perform setOperationMode
    dsimp only
    split_ifs <;> rfl
  | activate k enabled => exact hrouted k _
  | batch k samplingPeriodNs maxReportLatencyNs => exact hrouted k _
  | flush k => exact hrouted k _
  | injectSensorData event =>
    unfold perform injectSensorData
    dsimp only
    split_ifs
    · rfl
    · exact hrouted event.sensorHandle _
  | onDynamicSensorsConnected sensors i =>
    obtain ⟨m, heq⟩ := onDynamicSensorsConnected_snd sensors i p
    rw [perform, heq]
  | onDynamicSensorsDisconnected handles i =>
    obtain ⟨m, heq⟩ := onDynamicSensorsDisconnected_snd handles i p
    rw [perform, heq]

theorem mDirectChannelSubHal_initStage (p : HalProxy ε) (args : InitializeArgs) (now : ℤ)
    (stage : InitStage) :
    (p.initStage args now stage).mDirectChannelSubHal = p.mDirectChannelSubHal := by
  cases stage with
  | disableAllSensors =>
    obtain ⟨subHals, heq⟩ := p.disableAllSensors_eq
    rw [initStage, heq]
  | _ => rfl

end HalProxy

namespace System

variable {c : Constants} {s t : System} {a : Action} {as : List Action}
  {subHalList : List SubHalWrapper}

theorem mDirectChannelSubHal_step (hstep : step c s a = some t) :
    t.proxy.mDirectChannelSubHal = s.proxy.mDirectChannelSubHal := by
  cases step_cases hstep with
  | perform request => exact HalProxy.mDirectChannelSubHal_perform s.proxy request
  | initStage dt stage args hstage henabled =>
    exact HalProxy.mDirectChannelSubHal_initStage s.proxy args _ stage
  | _ => rfl

/-- **The owner** is elected by the constructor, for good. -/
theorem mDirectChannelSubHal_of_visits (hv : (machine c).Visits (start subHalList) as s) :
    s.proxy.mDirectChannelSubHal = HalProxy.electedSubHal subHalList :=
  Machine.invariant_of_step
    (I := fun s => s.proxy.mDirectChannelSubHal = HalProxy.electedSubHal subHalList)
    (fun _ _ _ h hstep => (mDirectChannelSubHal_step hstep).trans h)
    (HalProxy.mDirectChannelSubHal_construct subHalList) hv

/-- What becomes of the requests about direct channels. -/
structure ChannelRequests (s : System) (owner : Option ℕ) : Prop where
  /-- Without an owner all are refused, and no channel handle is handed out. -/
  refused : owner = none →
    s.proxy.registerDirectChannel = .error (.invalidOperation, -1)
      ∧ (∀ channelHandle, s.proxy.unregisterDirectChannel channelHandle = .error .invalidOperation)
      ∧ ∀ sensorHandle channelHandle rate,
        s.proxy.configDirectReport sensorHandle channelHandle rate = .error (.invalidOperation, -1)
  /-- Otherwise all that call a sub-HAL call the owner, with the channel handle they were given. -/
  owned : ∀ subHal, owner = some subHal →
    s.proxy.registerDirectChannel = .ok subHal
      ∧ (∀ channelHandle,
        s.proxy.unregisterDirectChannel channelHandle = .ok (subHal, channelHandle))
      ∧ ∀ sensorHandle channelHandle rate call,
        s.proxy.configDirectReport sensorHandle channelHandle rate = .ok call →
          call.subHal = subHal ∧ call.channelHandle = channelHandle ∧ call.rate = rate

/-- **One owner for all channels.**  In every state of every run the requests about direct channels
reach the first sub-HAL that lists a sensor with direct-channel flags, or nobody if there is
none. -/
theorem channelRequests_of_visits (hv : (machine c).Visits (start subHalList) as s) :
    ChannelRequests s (HalProxy.electedSubHal subHalList) := by
  have howner := mDirectChannelSubHal_of_visits hv
  constructor
  · intro hnone
    rw [hnone] at howner
    refine ⟨?_, fun channelHandle => ?_, fun sensorHandle channelHandle rate => ?_⟩
    · rw [HalProxy.registerDirectChannel, howner]
    · rw [HalProxy.unregisterDirectChannel, howner]
    · rw [HalProxy.configDirectReport, howner]
  · intro subHal hsome
    rw [hsome] at howner
    refine ⟨?_, fun channelHandle => ?_, fun sensorHandle channelHandle rate call hcall => ?_⟩
    · rw [HalProxy.registerDirectChannel, howner]
    · rw [HalProxy.unregisterDirectChannel, howner]
    · rw [HalProxy.configDirectReport, howner] at hcall
      dsimp only at hcall
      split_ifs at hcall
      all_goals
        obtain rfl := Except.ok.inj hcall
        exact ⟨rfl, rfl, rfl⟩

/-- With a sub-HAL for direct channels behind one without, across an initialization. -/
theorem channelRequests_of_visits_directSubHal :
    ∃ s, (machine sampleConstants).run (start [pickUpSubHal, HalProxy.directSubHal])
        (initialization sampleArgs) = some s ∧ s.proxy.registerDirectChannel = .ok 1 := by
  obtain ⟨s, hrun, -⟩ :=
    run_initialization sampleConstants [pickUpSubHal, HalProxy.directSubHal] sampleArgs
  have hrequests := channelRequests_of_visits ((machine sampleConstants).visits_of_run hrun)
  exact ⟨s, hrun, (hrequests.owned 1 (by decide)).1⟩

end System

end OnePlus9
