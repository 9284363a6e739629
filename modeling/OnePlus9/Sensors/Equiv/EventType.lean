import OnePlus9.Sensors.Equiv.PickupFilter

/-!
# The type of an event and the type of its sensor

`initializeSensorList` gives the pick-up sensors another type than their sub-HAL reports, and so the
framework expects their events to have it.  `processEvents` drops the events of such a sensor with a
non-zero scalar, and passes the others on with the type they came with.

So the data events of a batch all arrive with the type that their sensor is listed with if and only
if none of them is a zero sample of a re-typed sensor (`carriesListedType_iff`).  Flush completions
and additional information are marked by types of their own and are no data events.
-/

open OnePlus9.System

namespace OnePlus9.HalProxyCallback

open HalProxy

variable {c : Constants} {t : System} {subHalList : List SubHalWrapper} {as : List Action}

/-! ### Kinds of events -/

/-- Whether the event is a sample of its sensor. -/
def isDataEvent (event : Event) : Bool :=
  event.sensorType != .metaData && event.sensorType != .additionalInfo

/-- The event has the type its sensor was reported with. -/
def hasReportedType (subHalList : List SubHalWrapper) (event : Event) : Bool :=
  (reported subHalList event.sensorHandle).any fun o => event.sensorType == o.2.type

/-- An event with a zero scalar, of a sensor that was reported with another type than the one its
type string gives it in the list. -/
def isRetypedZero (subHalList : List SubHalWrapper) (event : Event) : Bool :=
  !event.u.scalarIsNonzero && (reported subHalList event.sensorHandle).any fun o =>
    o.2.typeAsString == "android.sensor.tilt_detector" && o.2.type != .pickUpGesture

/-- What a lookup of a reported sensor reads. -/
theorem type_info_of_reported (hv : (machine c).Visits (start subHalList) as t) {h : Int32}
    {o : ℕ × SensorInfo} (hreported : reported subHalList h = some o) :
    (t.proxy.mSensors.info h).type
      = if o.2.typeAsString = "android.sensor.tilt_detector" then .pickUpGesture else o.2.type := by
  rw [info_of_visits hv, SensorMap.info, getElem?_construct, hreported, Option.map_some,
    Option.getD_some, type_listed]

/-- **A single event** that has the type its sensor was reported with: it is filtered or carries the
type that its sensor is listed with, unless it is a zero sample of a re-typed sensor. -/
theorem keeps_imp_carries_iff (hv : (machine c).Visits (start subHalList) as t) {event : Event}
    (htype : hasReportedType subHalList event = true) :
    (keeps t.proxy.mSensors event = true →
        event.sensorType = (t.proxy.mSensors.info event.sensorHandle).type)
      ↔ isRetypedZero subHalList event = false := by
  unfold hasReportedType at htype
  unfold isRetypedZero keeps isFiltered
  cases hreported : reported subHalList event.sensorHandle with
  | none =>
    rw [hreported] at htype
    exact nomatch htype
  | some o =>
    rw [hreported, Option.any_some, beq_iff_eq] at htype
    rw [type_info_of_reported hv hreported, Option.any_some, htype]
    by_cases htilt : o.2.typeAsString = "android.sensor.tilt_detector"
    · -- A re-typed sensor: its non-zero samples are filtered.
      rw [if_pos htilt, htilt]
      cases event.u.scalarIsNonzero <;> simp
    · -- A sensor that keeps its type.
      rw [if_neg htilt]
      simp [htilt]

/-! ### A batch -/

/-- **The data events arrive with the type that their sensor is listed with**, if they are posted
with the type it was reported with and if and only if none of them is a zero sample of a re-typed
sensor. -/
theorem carriesListedType_iff (hv : (machine c).Visits (start subHalList) as t) (i : Int32)
    {events : List Event}
    (htypes : ∀ e ∈ events, isDataEvent e = true →
      hasReportedType subHalList (tagEvent i e) = true) :
    (∀ e ∈ (processEvents i events t.proxy.mSensors).eventsOut, isDataEvent e = true →
        e.sensorType = (t.proxy.mSensors.info e.sensorHandle).type)
      ↔ ∀ e ∈ events, isDataEvent e = true →
        isRetypedZero subHalList (tagEvent i e) = false := by
  -- Tagging changes no type.
  have hdata : ∀ e, isDataEvent (tagEvent i e) = isDataEvent e := fun e => rfl
  rw [forall_mem_eventsOut]
  constructor
  · intro hall e he hkind
    rw [← keeps_imp_carries_iff hv (htypes e he hkind)]
    intro hkeeps
    exact hall e he hkeeps ((hdata e).trans hkind)
  · intro hall e he hkeeps hkind
    rw [hdata] at hkind
    exact (keeps_imp_carries_iff hv (htypes e he hkind)).mpr (hall e he hkind) hkeeps

/-- A non-zero sample of the pick-up sensor, the event that completes its flush, and an event of
another sensor. -/
def sampleBatch : List Event :=
  [⟨1, .tiltDetector, ⟨0x3f800000, 0, []⟩⟩, flushComplete, wakeUpEvent]

/-- The event of the other sensor arrives, and with the type its sensor is listed with. -/
theorem carriesListedType_sample :
    wakeUpEvent ∈ (processEvents 0 sampleBatch sampleSession.proxy.mSensors).eventsOut
      ∧ ∀ e ∈ (processEvents 0 sampleBatch sampleSession.proxy.mSensors).eventsOut,
        isDataEvent e = true →
          e.sensorType = (sampleSession.proxy.mSensors.info e.sensorHandle).type := by
  refine ⟨by decide, ?_⟩
  exact (carriesListedType_iff visits_sampleSession 0 (by decide)).mpr (by decide)

/-- A zero sample of the pick-up sensor. -/
def pickedUp : Event := ⟨1, .tiltDetector, ⟨0, 0, []⟩⟩

/-- It has the type its sub-HAL reports for the sensor, and not the one the sensor is listed
with. -/
theorem exists_other_type :
    ¬((∀ e ∈ [pickedUp], hasReportedType [pickUpSubHal] (tagEvent 0 e) = true) →
      ∀ e ∈ (processEvents 0 [pickedUp] sampleSession.proxy.mSensors).eventsOut,
        e.sensorType = (sampleSession.proxy.mSensors.info e.sensorHandle).type) := by
  decide

end OnePlus9.HalProxyCallback
