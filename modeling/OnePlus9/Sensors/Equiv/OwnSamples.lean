import OnePlus9.Sensors.Equiv.Activation
import OnePlus9.Sensors.Equiv.Listing
import OnePlus9.Sensors.Equiv.WakeUps

/-!
# The samples of this repository's sensors

`SensorsSubHal` has two sensors, and when one of them fires its thread posts a single event through
the proxy's callback.  Whatever other sub-HALs there are and whatever has happened so far, that
event gets through: it is not taken for a pick-up sample, it counts as one wake-up event, it carries
the handle and the type that the proxy advertises for the sensor, and looking the sensor up leaves
the table alone (`forwards_of_visits`).
-/

namespace OnePlus9

namespace HalProxy

variable {ε : Type*} {subHalList : List SubHalWrapper} {i : ℕ}

theorem mem_offered {info : SensorInfo} :
    (i, info) ∈ offered subHalList
      ↔ (∃ w, subHalList[i]? = some w ∧ info ∈ w.getSensorsList)
        ∧ subHalIndexIsClear info.sensorHandle = true := by
  rw [offered, List.mem_filter, List.mem_flatMap]
  refine and_congr_left fun _ => ?_
  constructor
  · rintro ⟨⟨w, j⟩, hw, hmem⟩
    obtain ⟨info', hinfo, heq⟩ := List.mem_map.mp hmem
    obtain ⟨rfl, rfl⟩ := Prod.mk.inj heq
    exact ⟨w, List.mem_zipIdx_iff_getElem?.mp hw, hinfo⟩
  · rintro ⟨w, hw, hinfo⟩
    exact ⟨(w, i), List.mem_zipIdx_iff_getElem?.mpr hw, List.mem_map_of_mem hinfo⟩

/-- What a sub-HAL with distinct handles reports is what is reported under its tagged handles. -/
theorem reported_of_mem (hlen : subHalList.length ≤ 128) {w : SubHalWrapper} {info : SensorInfo}
    (hw : subHalList[i]? = some w) (hinfo : info ∈ w.getSensorsList)
    (hclear : subHalIndexIsClear info.sensorHandle = true)
    (hdistinct : ∀ info' ∈ w.getSensorsList,
      info'.sensorHandle = info.sensorHandle → info' = info) :
    reported subHalList (setSubHalIndex info.sensorHandle i) = some (i, info) := by
  have hoffered : (i, info) ∈ offered subHalList := mem_offered.mpr ⟨⟨w, hw, hinfo⟩, hclear⟩
  have hsome : ((offered subHalList).reverse.find? fun o =>
      taggedHandle o == setSubHalIndex info.sensorHandle i).isSome = true :=
    List.find?_isSome.mpr ⟨(i, info), List.mem_reverse.mpr hoffered, beq_self_eq_true _⟩
  obtain ⟨⟨j, info'⟩, hfound⟩ := Option.isSome_iff_exists.mp hsome
  obtain ⟨hmem, htagged⟩ := taggedHandle_of_reported hfound
  obtain ⟨⟨w', hw', hinfo'⟩, hclear'⟩ := mem_offered.mp hmem
  have hi : i < 128 := Nat.lt_of_lt_of_le (List.getElem?_eq_some_iff.mp hw).1 hlen
  have hj : j < 128 := Nat.lt_of_lt_of_le (List.getElem?_eq_some_iff.mp hw').1 hlen
  obtain ⟨rfl, hhandle⟩ := setSubHalIndex_inj hclear' hclear hj hi htagged
  obtain rfl : w = w' := Option.some.inj (hw.symm.trans hw')
  rw [reported, hfound, hdistinct info' hinfo' hhandle]

end HalProxy

/-! ### The two sensors -/

/-- A sensor of the sub-HAL that the constructor makes. -/
def IsOwnSensor (sensor : Sensor) : Prop :=
  sensor = .doubleTapSensor 1 ∨ sensor = .singleTapSensor 2

/-- What the sub-HAL lists. -/
theorem getSensorsList_construct :
    SensorsSubHal.construct.getSensorsList
      = [(Sensor.doubleTapSensor 1).mSensorInfo, (Sensor.singleTapSensor 2).mSensorInfo] := by
  decide

variable {subHalList : List SubHalWrapper} {i : ℕ} {sensor : Sensor}

/-- A sensor of the sub-HAL is reported under its tagged handle, whatever the others report. -/
theorem reported_ownSensor (hlen : subHalList.length ≤ 128) {w : SubHalWrapper}
    (hw : subHalList[i]? = some w) (hsub : w.subHal = .sensorsSubHal .construct)
    (hsensor : IsOwnSensor sensor) :
    HalProxy.reported subHalList (setSubHalIndex sensor.mSensorInfo.sensorHandle i)
      = some (i, sensor.mSensorInfo) := by
  have hlist : w.getSensorsList = SensorsSubHal.construct.getSensorsList := by
    rw [SubHalWrapper.getSensorsList, hsub]
    rfl
  rw [getSensorsList_construct] at hlist
  refine HalProxy.reported_of_mem hlen hw ?_ ?_ ?_
  · rw [hlist]
    rcases hsensor with rfl | rfl
    · exact List.mem_cons_self
    · exact List.mem_cons_of_mem _ List.mem_cons_self
  · rcases hsensor with rfl | rfl
    · decide
    · decide
  · -- The two handles differ.
    rw [hlist]
    rcases hsensor with rfl | rfl
    · decide
    · decide

/-- Its entry in the proxy's table. -/
theorem listed_ownSensor (elected : Option ℕ) (i : ℕ) (hsensor : IsOwnSensor sensor) :
    HalProxy.listed elected (i, sensor.mSensorInfo)
      = { sensor.mSensorInfo with
          sensorHandle := setSubHalIndex sensor.mSensorInfo.sensorHandle i } := by
  have htype : ¬sensor.mSensorInfo.typeAsString = "android.sensor.tilt_detector" := by
    rcases hsensor with rfl | rfl
    · decide
    · decide
  have hflags : sensor.mSensorInfo.flags &&& ~~~directFlags = sensor.mSensorInfo.flags := by
    rcases hsensor with rfl | rfl
    · decide
    · decide
  unfold HalProxy.listed HalProxy.standardizePickup
  rw [hflags, ite_self, if_neg htype]
  rfl

/-! ### Its samples -/

namespace System

variable {c : Constants} {s : System} {as : List Action}

/-- A sample of the sensor gets through as it should. -/
structure Forwards (i : ℕ) (s : System) (sensor : Sensor) : Prop where
  /-- The proxy advertises the sensor with the type that its samples have. -/
  advertised : ∃ info,
    s.proxy.mSensors[setSubHalIndex sensor.mSensorInfo.sensorHandle i]? = some info
    ∧ info.sensorHandle = setSubHalIndex sensor.mSensorInfo.sensorHandle i
    ∧ info.type = sensor.mSensorInfo.type
  /-- The sample is emitted with the advertised handle, and counted once. -/
  processed : HalProxyCallback.processEvents (Int32.ofNat i) sensor.readEvents s.proxy.mSensors
    = { eventsOut := [{
          sensorHandle := setSubHalIndex sensor.mSensorInfo.sensorHandle i
          sensorType := sensor.mSensorInfo.type
          u := ⟨0, 0, []⟩ }]
        numWakeupEvents := 1
        mSensors := s.proxy.mSensors }
  /-- The wakelock that the sub-HAL passes, if it could be locked, is what `postEvents` asserts. -/
  asserted : HalProxyCallback.assertionsHold 1 sensor.isWakeUpSensor = true

/-- The entry of the sensor in every state of a run. -/
theorem info_ownSensor (hlen : subHalList.length ≤ 128) {w : SubHalWrapper}
    (hw : subHalList[i]? = some w) (hsub : w.subHal = .sensorsSubHal .construct)
    (hsensor : IsOwnSensor sensor) (hv : (machine c).Visits (start subHalList) as s) :
    s.proxy.mSensors[setSubHalIndex sensor.mSensorInfo.sensorHandle i]?
      = some { sensor.mSensorInfo with
          sensorHandle := setSubHalIndex sensor.mSensorInfo.sensorHandle i } := by
  set k := setSubHalIndex sensor.mSensorInfo.sensorHandle i with hk
  have hentry : (HalProxy.construct subHalList : HalProxy PostedEvent).mSensors[k]?
      = some { sensor.mSensorInfo with sensorHandle := k } := by
    rw [HalProxy.getElem?_construct, reported_ownSensor hlen hw hsub hsensor, Option.map_some,
      listed_ownSensor _ i hsensor]
  -- A step changes neither what a lookup reads nor that there is an entry.
  have hcontains : s.proxy.mSensors.contains k = true := by
    refine contains_of_visits hv ?_
    show (HalProxy.construct subHalList : HalProxy PostedEvent).mSensors.contains k = true
    rw [Std.TreeMap.contains_eq_isSome_getElem?, hentry]
    rfl
  rw [Std.TreeMap.contains_eq_isSome_getElem?] at hcontains
  obtain ⟨info, hinfo⟩ := Option.isSome_iff_exists.mp hcontains
  have hread := congrFun (info_of_visits hv) k
  rw [SensorMap.info, SensorMap.info, hinfo, hentry] at hread
  rw [hinfo]
  exact congrArg some hread

/-- **Own samples get through**, in every state of every run, whatever other sub-HALs there are. -/
theorem forwards_of_visits (hlen : subHalList.length ≤ 128) {w : SubHalWrapper}
    (hw : subHalList[i]? = some w) (hsub : w.subHal = .sensorsSubHal .construct)
    (hsensor : IsOwnSensor sensor) (hv : (machine c).Visits (start subHalList) as s) :
    Forwards i s sensor := by
  have hinfo := info_ownSensor hlen hw hsub hsensor hv
  have hi : i < 128 := Nat.lt_of_lt_of_le (List.getElem?_eq_some_iff.mp hw).1 hlen
  have htype : ¬sensor.mSensorInfo.type = .dynamicSensorMeta
      ∧ ¬sensor.mSensorInfo.type = .pickUpGesture := by
    rcases hsensor with rfl | rfl
    · decide
    · decide
  have hwake : sensor.isWakeUpSensor = true := by
    rcases hsensor with rfl | rfl
    · decide
    · decide
  refine ⟨⟨_, hinfo, rfl, rfl⟩, ?_, by rw [hwake]; rfl⟩
  have htag : HalProxyCallback.tagEvent (Int32.ofNat i)
      ⟨sensor.mSensorInfo.sensorHandle, sensor.mSensorInfo.type, ⟨0, 0, []⟩⟩
        = ⟨setSubHalIndex sensor.mSensorInfo.sensorHandle i, sensor.mSensorInfo.type,
          ⟨0, 0, []⟩⟩ := by
    rw [HalProxyCallback.tagEvent, if_neg htype.1, sizeOfInt32_ofNat hi,
      HalProxyCallback.setSubHalIndex_eq]
  have hread : s.proxy.mSensors.info (setSubHalIndex sensor.mSensorInfo.sensorHandle i)
      = { sensor.mSensorInfo with
          sensorHandle := setSubHalIndex sensor.mSensorInfo.sensorHandle i } := by
    rw [SensorMap.info, hinfo]
    rfl
  have hkeeps : HalProxyCallback.keeps s.proxy.mSensors (HalProxyCallback.tagEvent (Int32.ofNat i)
      ⟨sensor.mSensorInfo.sensorHandle, sensor.mSensorInfo.type, ⟨0, 0, []⟩⟩) = true := by
    rw [htag, HalProxyCallback.keeps, hread, HalProxyCallback.isFiltered,
      beq_eq_false_iff_ne.mpr htype.2]
    rfl
  have hcounted : s.proxy.mSensors.isWakeUp
      (setSubHalIndex sensor.mSensorInfo.sensorHandle i) = true := by
    rw [SensorMap.isWakeUp, hread]
    exact hwake
  have hknown : (s.proxy.mSensors.index
      (setSubHalIndex sensor.mSensorInfo.sensorHandle i)).2 = s.proxy.mSensors := by
    refine SensorMap.index_snd_of_contains ?_
    rw [Std.TreeMap.contains_eq_isSome_getElem?, hinfo]
    rfl
  rw [Sensor.readEvents, HalProxyCallback.processEvents_cons_kept hkeeps, htag, hknown, hcounted]
  rfl

/-- Behind a vendor's sub-HAL, after an initialization. -/
theorem forwards_of_visits_initialization :
    ∃ s, (machine sampleConstants).run (start [pickUpSubHal, ownSubHal])
        (initialization sampleArgs) = some s ∧ Forwards 1 s (.doubleTapSensor 1) := by
  obtain ⟨s, hrun, -⟩ := run_initialization sampleConstants [pickUpSubHal, ownSubHal] sampleArgs
  exact ⟨s, hrun, forwards_of_visits (by decide) rfl rfl (.inl rfl)
    ((machine sampleConstants).visits_of_run hrun)⟩

end System

end OnePlus9
