import OnePlus9.Sensors.ProcessEvents
import OnePlus9.Sensors.Equiv.Handle
import Mathlib.Data.List.Forall2

/-!
# What `processEvents` emits and counts

The entries that `processEvents` inserts into the sensor table read like absent ones, so every
lookup of the loop reads the table it started with.  Hence the output is the tagged batch without
the filtered events (`eventsOut_processEvents`), the count is the number of wake-up events in the
output (`numWakeupEvents_processEvents`), and the table it leaves behind reads the same
(`info_processEvents`).

In the proxy's own terms, the output is the batch without the non-zero samples of the sensors listed
as pick-up gestures (`isRemoved`), each event with the handles that `HalProxy.cpp` gives the sensors
of the sub-HAL (`Carries`), in order (`carries_processEvents`).
-/

namespace OnePlus9.HalProxyCallback

variable (i : Int32) (events : List Event) (mSensors : SensorMap)

/-- Whether the loop emits a tagged event, as a function of the table at the start. -/
def keeps (mSensors : SensorMap) (event : Event) : Bool :=
  !isFiltered (mSensors.info event.sensorHandle) event

/-! ### One iteration of the loop -/

variable {i mSensors} {e : Event} {es : List Event}

theorem processEvents_cons_filtered (h : keeps mSensors (tagEvent i e) = false) :
    processEvents i (e :: es) mSensors
      = processEvents i es (mSensors.index (tagEvent i e).sensorHandle).2 := by
  rw [keeps, Bool.not_eq_false'] at h
  rw [processEvents]
  simp only [SensorMap.index_fst, h, if_true]

theorem processEvents_cons_kept (h : keeps mSensors (tagEvent i e) = true) :
    processEvents i (e :: es) mSensors
      = let out := processEvents i es (mSensors.index (tagEvent i e).sensorHandle).2
        { out with
          eventsOut := tagEvent i e :: out.eventsOut
          numWakeupEvents := out.numWakeupEvents
            + if mSensors.isWakeUp (tagEvent i e).sensorHandle then 1 else 0 } := by
  rw [keeps, Bool.not_eq_true'] at h
  rw [processEvents]
  simp only [SensorMap.index_fst, h, Bool.false_eq_true, if_false]
  rfl

/-! ### The whole batch -/

variable (i mSensors)

/-- The table left behind reads like the table at the start. -/
@[simp] theorem info_processEvents :
    SensorMap.info (processEvents i events mSensors).mSensors = mSensors.info := by
  induction events generalizing mSensors with
  | nil => rfl
  | cons e es ih =>
    have hsnd : SensorMap.info (mSensors.index (tagEvent i e).sensorHandle).2 = mSensors.info :=
      funext fun k => SensorMap.info_index_snd _ _ _
    cases hk : keeps mSensors (tagEvent i e) with
    | false => rw [processEvents_cons_filtered hk, ih, hsnd]
    | true => rw [processEvents_cons_kept hk, ih, hsnd]

@[simp] theorem isWakeUp_processEvents :
    SensorMap.isWakeUp (processEvents i events mSensors).mSensors = mSensors.isWakeUp :=
  SensorMap.isWakeUp_congr (info_processEvents i events mSensors)

/-- **The output** is the tagged batch, in order, without the filtered events. -/
theorem eventsOut_processEvents :
    (processEvents i events mSensors).eventsOut
      = (events.map (tagEvent i)).filter (keeps mSensors) := by
  induction events generalizing mSensors with
  | nil => rfl
  | cons e es ih =>
    have hsnd : keeps (mSensors.index (tagEvent i e).sensorHandle).2 = keeps mSensors :=
      funext fun k => by rw [keeps, SensorMap.info_index_snd, keeps]
    cases hk : keeps mSensors (tagEvent i e) with
    | false =>
      rw [processEvents_cons_filtered hk, ih, hsnd, List.map_cons, List.filter_cons_of_neg]
      rw [hk]
      exact Bool.false_ne_true
    | true =>
      rw [processEvents_cons_kept hk, List.map_cons, List.filter_cons_of_pos hk]
      dsimp only
      rw [ih, hsnd]

/-- An event of the output is an event of the batch that the loop keeps, tagged. -/
theorem mem_eventsOut {event : Event} :
    event ∈ (processEvents i events mSensors).eventsOut
      ↔ ∃ e ∈ events, keeps mSensors (tagEvent i e) = true ∧ tagEvent i e = event := by
  rw [eventsOut_processEvents, List.mem_filter, List.mem_map]
  constructor
  · rintro ⟨⟨e, he, rfl⟩, hkeeps⟩
    exact ⟨e, he, hkeeps, rfl⟩
  · rintro ⟨e, he, hkeeps, rfl⟩
    exact ⟨⟨e, he, rfl⟩, hkeeps⟩

/-- What holds of the output, said of the batch. -/
theorem forall_mem_eventsOut {P : Event → Prop} :
    (∀ event ∈ (processEvents i events mSensors).eventsOut, P event)
      ↔ ∀ e ∈ events, keeps mSensors (tagEvent i e) = true → P (tagEvent i e) := by
  constructor
  · intro hall e he hkeeps
    exact hall _ ((mem_eventsOut i events mSensors).mpr ⟨e, he, hkeeps, rfl⟩)
  · intro hall event hmem
    obtain ⟨e, he, hkeeps, rfl⟩ := (mem_eventsOut i events mSensors).mp hmem
    exact hall e he hkeeps

/-! ### What the framework receives of a batch -/

/-- `out` is `event` with the handles advertised for those that the sub-HAL at index `i` put into
it. -/
structure Carries (i : ℕ) (event out : Event) : Prop where
  sensorType : out.sensorType = event.sensorType
  sensorHandle : out.sensorHandle = OnePlus9.setSubHalIndex event.sensorHandle i
  /-- Only a `DYNAMIC_SENSOR_META` payload has a handle in it. -/
  payload : event.sensorType ≠ .dynamicSensorMeta → out.u = event.u
  dynamicSensorHandle : event.sensorType = .dynamicSensorMeta →
    out.u.dynamicSensorHandle = OnePlus9.setSubHalIndex event.u.dynamicSensorHandle i
  word0 : out.u.word0 = event.u.word0
  rest : out.u.rest = event.u.rest

/-- A sample with a non-zero scalar of a sensor that is listed as a pick-up gesture. -/
def isRemoved (i : ℕ) (mSensors : SensorMap) (event : Event) : Bool :=
  (mSensors.info (OnePlus9.setSubHalIndex event.sensorHandle i)).type == .pickUpGesture
    && event.u.scalarIsNonzero

/-- The callback keeps the index as an `int32_t` and tags with its own copy of `setSubHalIndex`. -/
theorem carries_tagEvent (event : Event) : Carries (sizeOfInt32 i) event (tagEvent i event) where
  sensorType := rfl
  sensorHandle := HalProxyCallback.setSubHalIndex_eq _ _
  payload := fun htype => by rw [tagEvent, if_neg htype]
  dynamicSensorHandle := fun htype => by
    rw [tagEvent, if_pos htype, EventPayload.dynamicSensorHandle_set,
      HalProxyCallback.setSubHalIndex_eq]
  word0 := by
    rw [tagEvent]
    split_ifs <;> rfl
  rest := by
    rw [tagEvent]
    split_ifs <;> rfl

/-- Tagging leaves the scalar alone, so the filter may as well look at the posted event. -/
theorem keeps_tagEvent (event : Event) :
    keeps mSensors (tagEvent i event) = !isRemoved (sizeOfInt32 i) mSensors event := by
  have hcarries := carries_tagEvent i event
  have hscalar : (tagEvent i event).u.scalarIsNonzero = event.u.scalarIsNonzero := by
    rw [EventPayload.scalarIsNonzero, hcarries.word0, EventPayload.scalarIsNonzero]
  rw [keeps, isFiltered, hcarries.sensorHandle, hscalar, isRemoved]

/-- **The batch arrives** in order, without the removed samples and with the advertised handles. -/
theorem carries_processEvents :
    List.Forall₂ (Carries (sizeOfInt32 i))
      (events.filter fun event => !isRemoved (sizeOfInt32 i) mSensors event)
      (processEvents i events mSensors).eventsOut := by
  have hkeeps : (keeps mSensors ∘ tagEvent i)
      = fun event => !isRemoved (sizeOfInt32 i) mSensors event :=
    funext fun event => keeps_tagEvent i mSensors event
  rw [eventsOut_processEvents, List.filter_map, hkeeps, List.forall₂_map_right_iff]
  exact List.forall₂_same.mpr fun event _ => carries_tagEvent i event

/-! ### The count -/

/-- **The count** is the number of wake-up events in the output. -/
theorem numWakeupEvents_processEvents :
    (processEvents i events mSensors).numWakeupEvents
      = (processEvents i events mSensors).eventsOut.countP
          fun e => mSensors.isWakeUp e.sensorHandle := by
  induction events generalizing mSensors with
  | nil => rfl
  | cons e es ih =>
    cases hk : keeps mSensors (tagEvent i e) with
    | false => rw [processEvents_cons_filtered hk, ih, SensorMap.isWakeUp_index_snd]
    | true =>
      rw [processEvents_cons_kept hk]
      dsimp only
      rw [List.countP_cons, ih, SensorMap.isWakeUp_index_snd]

/-- A batch of equal events, none of them filtered. -/
theorem eventsOut_replicate {n : ℕ} (h : keeps mSensors (tagEvent i e) = true) :
    (processEvents i (List.replicate n e) mSensors).eventsOut
      = List.replicate n (tagEvent i e) := by
  rw [eventsOut_processEvents, List.map_replicate, List.filter_replicate_of_pos h]

theorem numWakeupEvents_replicate {n : ℕ} (h : keeps mSensors (tagEvent i e) = true)
    (hwake : mSensors.isWakeUp (tagEvent i e).sensorHandle = true) :
    (processEvents i (List.replicate n e) mSensors).numWakeupEvents = n := by
  rw [numWakeupEvents_processEvents, eventsOut_replicate _ _ h, List.countP_replicate, if_pos hwake]

end OnePlus9.HalProxyCallback
