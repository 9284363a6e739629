import OnePlus9.Sensors.Equiv.ProcessEvents
import OnePlus9.Sensors.Equiv.SensorList
import OnePlus9.Sensors.Equiv.Session

/-!
# Routing by handles

The framework names a sensor by the handle the proxy advertised for it.  A request with that handle
goes to the sub-HAL whose sensor it is, with the local handle (`send_setSubHalIndex`); no request
indexes the list of sub-HALs out of range (`isSome_send`), and one whose index byte names no sub-HAL
gets `BAD_VALUE` (`send_of_le_indexByte`).  In the other direction, the events a sub-HAL posts carry
the advertised handle (`carries_processEvents`).

`faithfulRouting` puts the two directions and the advertised lists together, for up to 128 sub-HALs:
the index byte of a non-negative handle has no more values.
-/

namespace OnePlus9

/-! ### Requests for one sensor -/

/-- The requests that are routed by the handle, with their other arguments. -/
inductive SensorRequest where
  | activate (enabled : Bool)
  | batch (samplingPeriodNs maxReportLatencyNs : Int64)
  | flush
  | injectSensorData (event : Event)

namespace SensorRequest

variable {ε : Type*}

/-- Call the proxy with a handle. -/
def send (sensorHandle : Int32) (p : HalProxy ε) : SensorRequest → Option (Result × HalProxy ε)
  | activate enabled => p.activate sensorHandle enabled
  | batch samplingPeriodNs maxReportLatencyNs =>
    p.batch sensorHandle samplingPeriodNs maxReportLatencyNs
  | flush => p.flush sensorHandle
  | injectSensorData event => p.injectSensorData { event with sensorHandle := sensorHandle }

/-- The call a sub-HAL should receive, with the local handle. -/
def call (sensorHandle : Int32) : SensorRequest → SubHalCall
  | activate enabled => .activate sensorHandle enabled
  | batch samplingPeriodNs maxReportLatencyNs =>
    .batch sensorHandle samplingPeriodNs maxReportLatencyNs
  | flush => .flush sensorHandle
  | injectSensorData event => .injectSensorData { event with sensorHandle := sensorHandle }

/-- Only `injectSensorData` has a gate to pass. -/
def passesGate (p : HalProxy ε) : SensorRequest → Bool
  | injectSensorData event => p.passesModeGate event
  | _ => true

/-- Every request that passes the gate is routed. -/
theorem send_eq (request : SensorRequest) (k : Int32) (p : HalProxy ε) :
    request.send k p
      = if request.passesGate p then p.route k fun h => request.call h
        else some (.badValue, p) := by
  cases request with
  | injectSensorData event =>
    have hgate : passesGate p (.injectSensorData event) = p.passesModeGate event := rfl
    show (if !p.passesModeGate event then _ else _) = _
    rw [hgate]
    cases p.passesModeGate event with
    | false => rfl
    | true => rfl
  | _ => rfl

end SensorRequest

/-! ### Routing -/

namespace HalProxy

variable {ε : Type*} {p : HalProxy ε}

/-- The calls every sub-HAL received. -/
def calls (p : HalProxy ε) : List (List SubHalCall) := p.mSubHalList.map SubHalWrapper.calls

/-- An index byte that names no sub-HAL: nobody is called. -/
theorem route_of_le {k : Int32} (h : p.mSubHalList.length ≤ extractSubHalIndex k)
    (request : Int32 → SubHalCall) : p.route k request = some (.badValue, p) := by
  rw [route, isSubHalIndexValid, decide_eq_false (Nat.not_lt.mpr h)]
  rfl

/-- Otherwise the sub-HAL at that index is called, and no other. -/
theorem route_of_lt {k : Int32} (h : extractSubHalIndex k < p.mSubHalList.length)
    (request : Int32 → SubHalCall) :
    ∃ result p', p.route k request = some (result, p')
      ∧ p'.calls
        = p.calls.modify (extractSubHalIndex k) (· ++ [request (clearSubHalIndex k)]) := by
  have hget : p.getSubHalForSensorHandle k = some p.mSubHalList[extractSubHalIndex k] :=
    List.getElem?_eq_getElem h
  rw [route, isSubHalIndexValid, decide_eq_true h, hget]
  refine ⟨_, _, rfl, ?_⟩
  -- Entry by entry: only the one at the index changes.
  apply List.ext_getElem?
  intro j
  rw [calls, calls, List.getElem?_map, List.getElem?_set, List.getElem?_modify, List.getElem?_map]
  by_cases hj : extractSubHalIndex k = j
  · subst hj
    simp [h, SubHalWrapper.call]
  · simp [hj]

end HalProxy

namespace SensorRequest

variable {ε : Type*} {p : HalProxy ε} {i : ℕ} {h k : Int32}

/-- **An advertised handle** leads to its sub-HAL, with the local handle. -/
theorem send_setSubHalIndex (request : SensorRequest) (hlen : p.mSubHalList.length ≤ 128)
    (hi : i < p.mSubHalList.length) (hclear : subHalIndexIsClear h = true)
    (hgate : request.passesGate p = true) :
    ∃ result p', request.send (setSubHalIndex h i) p = some (result, p')
      ∧ p'.calls = p.calls.modify i (· ++ [request.call h]) := by
  have hindex := extractSubHalIndex_setSubHalIndex hclear (Nat.lt_of_lt_of_le hi hlen)
  have hlocal := clearSubHalIndex_setSubHalIndex hclear i
  rw [send_eq, if_pos hgate]
  have hroute := HalProxy.route_of_lt (p := p) (k := setSubHalIndex h i) (by rw [hindex]; exact hi)
    fun h => request.call h
  rw [hindex, hlocal] at hroute
  exact hroute

/-- **No handle** indexes the list of sub-HALs out of range. -/
theorem isSome_send (request : SensorRequest) (k : Int32) (p : HalProxy ε) :
    (request.send k p).isSome = true := by
  rw [send_eq]
  split_ifs
  · rcases Nat.lt_or_ge (extractSubHalIndex k) p.mSubHalList.length with hlt | hge
    · obtain ⟨result, p', hroute, -⟩ := HalProxy.route_of_lt hlt fun h => request.call h
      rw [hroute]
      rfl
    · rw [HalProxy.route_of_le hge]
      rfl
  · rfl

/-- **A handle whose index byte names no sub-HAL** gets `BAD_VALUE`. -/
theorem send_of_le_indexByte (request : SensorRequest) (hlen : p.mSubHalList.length ≤ 128)
    (hk : p.mSubHalList.length ≤ indexByte k) : request.send k p = some (.badValue, p) := by
  have hge : p.mSubHalList.length ≤ extractSubHalIndex k := by
    have hiff := extractSubHalIndex_lt_iff (h := k) hlen
    omega
  rw [send_eq, HalProxy.route_of_le hge]
  split_ifs <;> rfl

end SensorRequest

/-! ### Both directions -/

/-- Handles name sensors faithfully, for a proxy of `subHalList`. -/
structure FaithfulRouting (ε : Type*) (subHalList : List SubHalWrapper) : Prop where
  /-- A listed sensor is advertised under its tagged handle if its top byte is clear, and not at all
  otherwise. -/
  listed : ∀ k, k ∈ (HalProxy.construct subHalList : HalProxy ε).handles
    ↔ ∃ i h, HalProxy.Lists subHalList i h ∧ subHalIndexIsClear h = true ∧ k = setSubHalIndex h i
  /-- So is a connected one. -/
  connected : ∀ (p : HalProxy ε) (sensors : List SensorInfo) (i : ℕ), i < subHalList.length →
    (p.onDynamicSensorsConnected sensors (Int32.ofNat i)).1.map SensorInfo.sensorHandle
      = ((sensors.map SensorInfo.sensorHandle).filter subHalIndexIsClear).map
        (setSubHalIndex · i)
  /-- Distinct sensors are advertised under distinct handles. -/
  distinct : ∀ (i j : ℕ) (h k : Int32), i < subHalList.length → j < subHalList.length →
    subHalIndexIsClear h = true → subHalIndexIsClear k = true →
    setSubHalIndex h i = setSubHalIndex k j → i = j ∧ h = k
  /-- An advertised handle leads to its sub-HAL and to no other. -/
  routed : ∀ (p : HalProxy ε) (request : SensorRequest) (i : ℕ) (h : Int32),
    p.mSubHalList.length = subHalList.length → i < subHalList.length →
    subHalIndexIsClear h = true → request.passesGate p = true →
    ∃ result p', request.send (setSubHalIndex h i) p = some (result, p')
      ∧ p'.calls = p.calls.modify i (· ++ [request.call h])
  /-- No handle indexes the list out of range. -/
  inRange : ∀ (p : HalProxy ε) (request : SensorRequest) (k : Int32),
    (request.send k p).isSome = true
  /-- A handle that names no sub-HAL gets `BAD_VALUE`, and nobody is called. -/
  refused : ∀ (p : HalProxy ε) (request : SensorRequest) (k : Int32),
    p.mSubHalList.length = subHalList.length → subHalList.length ≤ indexByte k →
    request.send k p = some (.badValue, p)
  /-- The posted events arrive in order with the advertised handles, all but the non-zero samples
  of sensors listed as pick-up gestures. -/
  posted : ∀ (i : ℕ) (events : List Event) (mSensors : SensorMap), i < subHalList.length →
    List.Forall₂ (HalProxyCallback.Carries i)
      (events.filter fun event => !HalProxyCallback.isRemoved i mSensors event)
      (HalProxyCallback.processEvents (Int32.ofNat i) events mSensors).eventsOut

/-- **Routing is faithful** with up to 128 sub-HALs, whatever sensors they have. -/
theorem faithfulRouting (ε : Type*) (subHalList : List SubHalWrapper)
    (hlen : subHalList.length ≤ 128) : FaithfulRouting ε subHalList where
  listed := HalProxy.mem_handles_construct subHalList
  connected := fun p sensors i hi => by
    rw [HalProxy.onDynamicSensorsConnected_fst, sizeOfInt32_ofNat (Nat.lt_of_lt_of_le hi hlen),
      List.filter_map, List.map_map, List.map_map]
    rfl
  distinct := fun i j h k hi hj hh hk heq =>
    setSubHalIndex_inj hh hk (Nat.lt_of_lt_of_le hi hlen) (Nat.lt_of_lt_of_le hj hlen) heq
  routed := fun p request i h hp hi hh hgate =>
    request.send_setSubHalIndex (hp ▸ hlen) (hp ▸ hi) hh hgate
  inRange := fun p request k => request.isSome_send k p
  refused := fun p request k hp hk => request.send_of_le_indexByte (hp ▸ hlen) (hp ▸ hk)
  posted := fun i events mSensors hi => by
    have hi' : i < 128 := Nat.lt_of_lt_of_le hi hlen
    have hcarries := HalProxyCallback.carries_processEvents (Int32.ofNat i) events mSensors
    rw [sizeOfInt32_ofNat hi'] at hcarries
    exact hcarries

/-- A proxy of two sub-HALs with the same sensors. -/
def twoPickUpSubHals : HalProxy Event :=
  .construct [System.pickUpSubHal, System.pickUpSubHal]

/-- The second sub-HAL posts a non-zero sample of its pick-up sensor, an event of its wake-up
sensor, and the news that its dynamic sensor 4 is connected. -/
def mixedBatch : List Event :=
  [System.notPickedUp, System.wakeUpEvent, ⟨3, .dynamicSensorMeta, ⟨1, 4, []⟩⟩]

/-- A request for sensor 2 of the second sub-HAL goes there, a dynamic sensor of it is advertised
with its index, index byte 5 is refused, and its batch arrives without the first event. -/
theorem faithfulRouting_twoPickUpSubHals :
    (∃ result p', (SensorRequest.activate true).send (setSubHalIndex 2 1) twoPickUpSubHals
          = some (result, p')
        ∧ p'.calls = [[], [.activate 2 true]])
      ∧ (twoPickUpSubHals.onDynamicSensorsConnected
          [⟨4, .other 1, "android.sensor.accelerometer", 0⟩] 1).1.map SensorInfo.sensorHandle
        = [0x01000004]
      ∧ SensorRequest.flush.send 0x05000002 twoPickUpSubHals = some (.badValue, twoPickUpSubHals)
      ∧ List.Forall₂ (HalProxyCallback.Carries 1) (mixedBatch.drop 1)
          (HalProxyCallback.processEvents 1 mixedBatch twoPickUpSubHals.mSensors).eventsOut
      ∧ (HalProxyCallback.processEvents 1 mixedBatch twoPickUpSubHals.mSensors).eventsOut
        = [⟨0x01000002, .other 17, ⟨0, 0, []⟩⟩,
          ⟨0x01000003, .dynamicSensorMeta, ⟨1, 0x01000004, []⟩⟩] := by
  have hfaithful := faithfulRouting Event [System.pickUpSubHal, System.pickUpSubHal] (by decide)
  have hkept : (mixedBatch.filter fun event =>
      !HalProxyCallback.isRemoved 1 twoPickUpSubHals.mSensors event) = mixedBatch.drop 1 := by
    decide
  refine ⟨?_, ?_, ?_, ?_, ?_⟩
  · exact hfaithful.routed twoPickUpSubHals (.activate true) 1 2 rfl (by decide) (by decide) rfl
  · rw [show (1 : Int32) = Int32.ofNat 1 from rfl, hfaithful.connected _ _ 1 (by decide)]
    decide
  · exact hfaithful.refused twoPickUpSubHals .flush 0x05000002 rfl (by decide)
  · have hposted := hfaithful.posted 1 mixedBatch twoPickUpSubHals.mSensors (by decide)
    rw [hkept] at hposted
    exact hposted
  · decide

end OnePlus9
