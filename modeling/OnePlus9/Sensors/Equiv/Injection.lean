import OnePlus9.Sensors.Equiv.OperationMode
import OnePlus9.Sensors.Equiv.Routing

/-!
# Injected events

An injected event passes two tests of the operation mode: the gate of `HalProxy::injectSensorData`,
on the mode of the proxy, and that of `Sensor::injectEvent`, on the mode of the sensor.  After any
sequence of the framework's calls the two modes agree, so the second test never refuses what the
first let through: `injectSensorData_eq` says what the framework gets back, and the mode of the
sensor does not appear in it.
-/

namespace OnePlus9

/-- What a sensor answers to an injected event in the mode `mode`. -/
def injectionResult (mode : OperationMode) (event : Event) : Option Sensor → Result
  | none => .badValue
  | some sensor =>
    if event.sensorType = .additionalInfo then .ok
    else if mode = .normal then .badValue
    else if sensor.supportsDataInjection then .ok
    else .invalidOperation

/-- A sensor in the current mode lets pass what the gate of the proxy does. -/
theorem injectEvent_eq {sensor : Sensor} {event : Event} {mode : OperationMode}
    (hmode : sensor.mMode = mode)
    (hgate : ¬(mode = .normal ∧ event.sensorType ≠ .additionalInfo)) :
    sensor.injectEvent event = injectionResult mode event (some sensor) := by
  unfold Sensor.injectEvent injectionResult
  dsimp only
  by_cases hinfo : event.sensorType = .additionalInfo
  · rw [if_pos hinfo, if_pos hinfo]
  · have hne : mode ≠ .normal := fun hnormal => hgate ⟨hnormal, hinfo⟩
    have hinjection : sensor.mMode = .dataInjection := by
      rw [hmode]
      cases mode with
      | normal => exact absurd rfl hne
      | dataInjection => rfl
    rw [if_neg hinfo, if_neg hinfo, if_neg hne, if_pos hinjection]
    cases sensor.supportsDataInjection <;> simp

namespace HalProxy

variable {ε : Type*} {p : HalProxy ε} {i : ℕ} {k : Int32} {event : Event}

theorem passesModeGate_iff :
    p.passesModeGate event = true
      ↔ ¬(p.mCurrentOperationMode = .normal ∧ event.sensorType ≠ .additionalInfo) := by
  rw [passesModeGate, Bool.not_eq_true', decide_eq_false_iff_not]

/-- Past the gate, the sub-HAL of this repository answers for the sensor. -/
theorem injectSensorData_of_gate {h : SensorsSubHal} {calls : List SubHalCall} (hi : i < 128)
    (hclear : subHalIndexIsClear k = true)
    (hget : p.mSubHalList[i]? = some ⟨.sensorsSubHal h, calls⟩)
    (hgate : p.passesModeGate event = true) :
    (p.injectSensorData { event with sensorHandle := setSubHalIndex k i }).map Prod.fst
      = some (match h.mSensors[k]? with
        | some sensor => sensor.injectEvent { event with sensorHandle := k }
        | none => .badValue) := by
  have hindex := extractSubHalIndex_setSubHalIndex hclear hi
  have hlt : i < p.mSubHalList.length := (List.getElem?_eq_some_iff.mp hget).1
  have hsubHal : p.getSubHalForSensorHandle (setSubHalIndex k i)
      = some ⟨.sensorsSubHal h, calls⟩ := by
    rw [getSubHalForSensorHandle, hindex]
    exact hget
  have hgate' : passesModeGate { event with sensorHandle := setSubHalIndex k i } p = true := hgate
  rw [injectSensorData, hgate', if_neg (by decide), route, isSubHalIndexValid, hindex,
    decide_eq_true hlt, if_neg (by decide), hsubHal, Option.map_some, Option.map_some,
    clearSubHalIndex_setSubHalIndex hclear]
  dsimp only [SubHalWrapper.call, SubHal.call, SensorsSubHal.call]
  cases h.mSensors[k]? <;> rfl

/-- **The two tests agree.**  After every sequence of the framework's calls, the answer to an event
injected for a sensor of this repository's sub-HAL is decided by the mode of the proxy alone. -/
theorem injectSensorData_eq {subHalList : List SubHalWrapper}
    (hnormal : ∀ w ∈ subHalList, w.InMode .normal) {requests : List FrameworkCall}
    (hv : (framework ε).Visits (construct subHalList) requests p) {h : SensorsSubHal}
    {calls : List SubHalCall} (hi : i < 128) (hclear : subHalIndexIsClear k = true)
    (hget : p.mSubHalList[i]? = some ⟨.sensorsSubHal h, calls⟩) (event : Event) :
    (p.injectSensorData { event with sensorHandle := setSubHalIndex k i }).map Prod.fst
      = some (injectionResult p.mCurrentOperationMode event h.mSensors[k]?) := by
  have haligned : Aligned p :=
    aligned_of_visits (fun w hw => ⟨hnormal w hw, w.accepts_normal⟩) hv
  cases hgate : p.passesModeGate event with
  | false =>
    have hgate' : passesModeGate { event with sensorHandle := setSubHalIndex k i } p = false :=
      hgate
    have hrefused : p.mCurrentOperationMode = .normal ∧ event.sensorType ≠ .additionalInfo := by
      by_contra hpasses
      rw [passesModeGate_iff.mpr hpasses] at hgate
      exact absurd hgate.symm Bool.false_ne_true
    rw [injectSensorData, hgate', if_pos (by decide)]
    cases h.mSensors[k]? with
    | none => rfl
    | some sensor =>
      rw [injectionResult, if_neg hrefused.2, if_pos hrefused.1]
      rfl
  | true =>
    rw [injectSensorData_of_gate hi hclear hget hgate]
    cases hsensor : h.mSensors[k]? with
    | none => rfl
    | some sensor =>
      have hmode := haligned.mMode (List.mem_of_getElem? hget) hsensor
      have hgate' : p.passesModeGate { event with sensorHandle := k } = true := hgate
      exact congrArg some (injectEvent_eq hmode (passesModeGate_iff.mp hgate'))

/-- In data injection mode the tap sensors refuse what they do not support. -/
theorem injectSensorData_eq_construct :
    (((construct [⟨.sensorsSubHal .construct, []⟩] : HalProxy Event).perform
        (.setOperationMode .dataInjection)).injectSensorData
          ⟨setSubHalIndex 1 0, .other 1, ⟨0, 0, []⟩⟩).map Prod.fst = some .invalidOperation := by
  have hrun : (framework Event).run (construct [⟨.sensorsSubHal .construct, []⟩])
      [.perform (.setOperationMode .dataInjection)]
        = some ((construct [⟨.sensorsSubHal .construct, []⟩]).perform
          (.setOperationMode .dataInjection)) := rfl
  exact injectSensorData_eq (by decide) ((framework Event).visits_of_run hrun) (i := 0) (k := 1)
    (by decide) (by decide) rfl ⟨1, .other 1, ⟨0, 0, []⟩⟩

end HalProxy

end OnePlus9
