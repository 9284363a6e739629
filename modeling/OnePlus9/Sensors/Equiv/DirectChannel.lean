import OnePlus9.Sensors.Equiv.HalProxy
import OnePlus9.Sensors.Equiv.Listing

/-!
# Direct channels

Only one sub-HAL may use direct channels, `mDirectChannelSubHal`, and `configDirectReport` calls
this one whatever the handle says.  So a sensor that is handed to the framework with direct-channel
flags must be a sensor of this sub-HAL (`Serves`).

The constructor takes the flags from the sensors of all other sub-HALs (`isDirect_listed`).
`onDynamicSensorsConnected` does not: it passes the flags on as they come.  All sensors with
direct-channel flags that the framework ever sees are served if and only if every dynamic sensor
with such flags is connected by the sub-HAL elected among the static sensors, and none of these
sensors has the handle -1 that `configDirectReport` takes for all sensors (`serves_iff`).

The other requests check the index byte of a handle before they clear it.  `configDirectReport` does
not, so it refuses no handle of another sub-HAL (`reportsToOwner_iff`).
-/

namespace OnePlus9.HalProxy

variable {ε : Type*} {p : HalProxy ε} {i : ℕ} {h : Int32} {info : SensorInfo}

/-! ### What the framework is told -/

/-- A sequence of `onDynamicSensorsConnected` calls, each with the index of the sub-HAL that makes
it: the sensors passed to the callback, with the sub-HALs they are from, and the proxy left. -/
def connectAll : List (ℕ × List SensorInfo) → HalProxy ε → List (ℕ × SensorInfo) × HalProxy ε
  | [], p => ([], p)
  | (subHalIndex, dynamicSensorsAdded) :: calls, p =>
    let added := p.onDynamicSensorsConnected dynamicSensorsAdded (Int32.ofNat subHalIndex)
    let rest := connectAll calls added.2
    (added.1.map (fun sensor => (subHalIndex, sensor)) ++ rest.1, rest.2)

/-- The framework is handed `info`, which is of a sensor of the sub-HAL at the given index: in the
list of the proxy `p`, or among the dynamic sensors passed on. -/
inductive HandedOut (subHalList : List SubHalWrapper) (passedOn : List (ℕ × SensorInfo))
    (p : HalProxy ε) : ℕ → SensorInfo → Prop
  | static (o : ℕ × SensorInfo) (info : SensorInfo) (hmem : info ∈ p.getSensorsList_2_1)
      (hreported : reported subHalList info.sensorHandle = some o) :
    HandedOut subHalList passedOn p o.1 info
  | dynamic (i : ℕ) (info : SensorInfo) (hmem : (i, info) ∈ passedOn) :
    HandedOut subHalList passedOn p i info

/-- The sub-HAL at index `i` is the one that may use direct channels, and `configDirectReport` with
the handle of its sensor reaches it with the local handle of this sensor. -/
def Serves (p : HalProxy ε) (i : ℕ) (info : SensorInfo) : Prop :=
  p.mDirectChannelSubHal = some i ∧
    ∃ h, subHalIndexIsClear h = true ∧ info.sensorHandle = setSubHalIndex h i ∧
      ∀ channelHandle rate, p.configDirectReport info.sensorHandle channelHandle rate
        = .ok ⟨i, h, channelHandle, rate⟩

/-- Every dynamic sensor with direct-channel flags is connected by the elected sub-HAL, and no
sensor of this sub-HAL with such flags has the handle -1. -/
structure DirectFromElected (subHalList : List SubHalWrapper) (calls : List (ℕ × List SensorInfo)) :
    Prop where
  dynamic : ∀ i sensors sensor, (i, sensors) ∈ calls → sensor ∈ sensors →
    subHalIndexIsClear sensor.sensorHandle = true → sensor.isDirect = true →
    electedSubHal subHalList = some i ∧ taggedHandle (i, sensor) ≠ -1
  static : ∀ o, reported subHalList (-1) = some o → o.2.isDirect = true →
    electedSubHal subHalList ≠ some o.1

/-! ### `configDirectReport` -/

/-- A sensor of the sub-HAL that may use direct channels is served, unless its handle is -1. -/
theorem serves_iff_of_handle (hclear : subHalIndexIsClear h = true)
    (hhandle : info.sensorHandle = setSubHalIndex h i) :
    Serves p i info ↔ p.mDirectChannelSubHal = some i ∧ info.sensorHandle ≠ -1 := by
  constructor
  · rintro ⟨helected, _, -, -, hcall⟩
    refine ⟨helected, fun hall => ?_⟩
    -- With -1 only `STOP` is accepted.
    have hnormal := hcall 0 .normal
    rw [configDirectReport, helected, hall] at hnormal
    exact nomatch hnormal
  · rintro ⟨helected, hone⟩
    refine ⟨helected, h, hclear, hhandle, fun channelHandle rate => ?_⟩
    have hlocal := clearSubHalIndex_setSubHalIndex hclear i
    rw [← hhandle] at hlocal
    simp [configDirectReport, helected, hone, hlocal]

/-- With a handle other than -1 the call is made, whatever the index byte. -/
theorem configDirectReport_of_ne (helected : p.mDirectChannelSubHal = some i) (hone : h ≠ -1)
    (channelHandle : Int32) (rate : RateLevel) :
    p.configDirectReport h channelHandle rate
      = .ok ⟨i, clearSubHalIndex h, channelHandle, rate⟩ := by
  simp [configDirectReport, helected, hone]

/-- A `configDirectReport` call reaches a sub-HAL, the one that may use direct channels and with the
cleared handle, only if the handle is of this sub-HAL; with any other handle it is refused. -/
structure ReportsToOwner (p : HalProxy ε) (sensorHandle channelHandle : Int32) (rate : RateLevel) :
    Prop where
  called : ∀ call, p.configDirectReport sensorHandle channelHandle rate = .ok call →
    p.mDirectChannelSubHal = some call.subHal
      ∧ call.sensorHandle = clearSubHalIndex sensorHandle
      ∧ indexByte sensorHandle = call.subHal
  refused : p.mDirectChannelSubHal ≠ some (indexByte sensorHandle) →
    ∃ refusal, p.configDirectReport sensorHandle channelHandle rate = .error refusal

/-- **The right sensor** is configured if and only if the handle is of the sub-HAL that may use
direct channels. -/
theorem reportsToOwner_iff (helected : p.mDirectChannelSubHal = some i) (hone : h ≠ -1)
    (channelHandle : Int32) (rate : RateLevel) :
    ReportsToOwner p h channelHandle rate ↔ indexByte h = i := by
  have hcall := configDirectReport_of_ne helected hone channelHandle rate
  constructor
  · intro hreports
    exact (hreports.called _ hcall).2.2
  · intro hindex
    constructor
    · intro call hok
      obtain rfl := Except.ok.inj (hcall.symm.trans hok)
      exact ⟨helected, rfl, hindex⟩
    · intro hother
      rw [hindex] at hother
      exact absurd helected hother

/-! ### Static sensors -/

/-- Taking the direct-channel flags away leaves none. -/
theorem and_directFlags_of_taken (flags : UInt32) :
    flags &&& ~~~directFlags &&& directFlags = 0 := by
  rw [← UInt32.toBitVec_inj]
  simp [BitVec.and_assoc]

/-- A listed sensor has direct-channel flags if it is reported with some by the elected sub-HAL. -/
theorem isDirect_listed (elected : Option ℕ) (o : ℕ × SensorInfo) :
    (listed elected o).isDirect = true ↔ elected = some o.1 ∧ o.2.isDirect = true := by
  have hflags : (listed elected o).flags
      = if elected = some o.1 then o.2.flags else o.2.flags &&& ~~~directFlags := by
    unfold listed standardizePickup
    dsimp only
    split_ifs <;> rfl
  unfold SensorInfo.isDirect
  rw [hflags]
  split_ifs with helected
  · simp [helected]
  · simp [helected, and_directFlags_of_taken]

/-! ### Dynamic sensors -/

/-- Connecting dynamic sensors changes only which ones are known. -/
theorem connectAll_snd (calls : List (ℕ × List SensorInfo)) (p : HalProxy ε) :
    ∃ m, (connectAll calls p).2 = { p with mDynamicSensors := m } := by
  induction calls generalizing p with
  | nil => exact ⟨p.mDynamicSensors, rfl⟩
  | cons call calls ih =>
    obtain ⟨m, hm⟩ := onDynamicSensorsConnected_snd call.2 (Int32.ofNat call.1) p
    obtain ⟨m', hm'⟩ := ih (p.onDynamicSensorsConnected call.2 (Int32.ofNat call.1)).2
    refine ⟨m', ?_⟩
    rw [connectAll]
    dsimp only
    rw [hm', hm]

/-- What is passed on are the sensors with a clear top byte, under their tagged handles. -/
theorem mem_connectAll (calls : List (ℕ × List SensorInfo)) (p : HalProxy ε) (i : ℕ)
    (info : SensorInfo) :
    (i, info) ∈ (connectAll calls p).1
      ↔ ∃ sensors sensor, (i, sensors) ∈ calls ∧ sensor ∈ sensors
        ∧ subHalIndexIsClear sensor.sensorHandle = true
        ∧ info = { sensor with sensorHandle := taggedHandle (i, sensor) } := by
  induction calls generalizing p with
  | nil => simp [connectAll]
  | cons call calls ih =>
    have hadded : (i, info) ∈ (p.onDynamicSensorsConnected call.2 (Int32.ofNat call.1)).1.map
          (fun sensor => (call.1, sensor))
        ↔ ∃ sensor ∈ call.2, i = call.1 ∧ subHalIndexIsClear sensor.sensorHandle = true
          ∧ info = { sensor with sensorHandle := taggedHandle (i, sensor) } := by
      rw [onDynamicSensorsConnected_fst]
      simp only [setSubHalIndex_ofNat, List.mem_map, List.mem_filter, taggedHandle]
      constructor
      · rintro ⟨_, ⟨sensor, ⟨hsensor, hclear⟩, rfl⟩, heq⟩
        obtain ⟨rfl, rfl⟩ := Prod.mk.inj heq
        exact ⟨sensor, hsensor, rfl, hclear, rfl⟩
      · rintro ⟨sensor, hsensor, rfl, hclear, rfl⟩
        exact ⟨_, ⟨sensor, ⟨hsensor, hclear⟩, rfl⟩, rfl⟩
    rw [connectAll]
    dsimp only
    rw [List.mem_append, hadded, ih]
    constructor
    · rintro (⟨sensor, hsensor, rfl, hrest⟩ | ⟨sensors, sensor, hcall, hrest⟩)
      · exact ⟨call.2, sensor, List.mem_cons_self .., hsensor, hrest⟩
      · exact ⟨sensors, sensor, List.mem_cons_of_mem _ hcall, hrest⟩
    · rintro ⟨sensors, sensor, hcall, hsensor, hrest⟩
      rcases List.mem_cons.mp hcall with rfl | hcall
      · exact Or.inl ⟨sensor, hsensor, rfl, hrest⟩
      · exact Or.inr ⟨sensors, sensor, hcall, hsensor, hrest⟩

/-! ### All sensors -/

/-- **What is handed out**: the last static sensors reported under their handles, as the constructor
lists them, and the dynamic sensors as they are connected. -/
theorem handedOut_iff (subHalList : List SubHalWrapper) (calls : List (ℕ × List SensorInfo))
    (i : ℕ) (info : SensorInfo) :
    HandedOut subHalList (connectAll calls (construct subHalList : HalProxy ε)).1
        (connectAll calls (construct subHalList : HalProxy ε)).2 i info
      ↔ ∃ sensor, subHalIndexIsClear sensor.sensorHandle = true
        ∧ ((reported subHalList (taggedHandle (i, sensor)) = some (i, sensor)
            ∧ info = listed (electedSubHal subHalList) (i, sensor))
          ∨ ∃ sensors, (i, sensors) ∈ calls ∧ sensor ∈ sensors
            ∧ info = { sensor with sensorHandle := taggedHandle (i, sensor) }) := by
  obtain ⟨m, hproxy⟩ := connectAll_snd calls (construct subHalList : HalProxy ε)
  have hlist : (connectAll calls (construct subHalList : HalProxy ε)).2.getSensorsList_2_1
      = (construct subHalList : HalProxy ε).getSensorsList_2_1 := by
    rw [hproxy]
    rfl
  constructor
  · intro hout
    cases hout with
    | static o info hmem hreported =>
      rw [hlist, mem_getSensorsList_construct] at hmem
      obtain ⟨o', hreported', rfl⟩ := hmem
      rw [sensorHandle_listed] at hreported
      obtain rfl : o' = o := Option.some.inj (hreported'.symm.trans hreported)
      obtain ⟨hoffered, -⟩ := taggedHandle_of_reported hreported
      exact ⟨o'.2, (List.mem_filter.mp hoffered).2, Or.inl ⟨hreported, rfl⟩⟩
    | dynamic i info hmem =>
      obtain ⟨sensors, sensor, hcall, hsensor, hclear, rfl⟩ := (mem_connectAll _ _ i info).mp hmem
      exact ⟨sensor, hclear, Or.inr ⟨sensors, hcall, hsensor, rfl⟩⟩
  · rintro ⟨sensor, hclear, ⟨hreported, rfl⟩ | ⟨sensors, hcall, hsensor, rfl⟩⟩
    · refine .static (i, sensor) _ ?_ ?_
      · rw [hlist, mem_getSensorsList_construct]
        exact ⟨(i, sensor), hreported, rfl⟩
      · rw [sensorHandle_listed]
        exact hreported
    · exact .dynamic i _
        ((mem_connectAll calls _ i _).mpr ⟨sensors, sensor, hcall, hsensor, hclear, rfl⟩)

/-- **Direct-channel sensors are served**, all of those the framework is ever handed, if and only if
`DirectFromElected`. -/
theorem serves_iff (subHalList : List SubHalWrapper) (calls : List (ℕ × List SensorInfo)) :
    let out := connectAll calls (construct subHalList : HalProxy ε)
    (∀ i info, HandedOut subHalList out.1 out.2 i info → info.isDirect = true →
        Serves out.2 i info)
      ↔ DirectFromElected subHalList calls := by
  intro out
  have helected : out.2.mDirectChannelSubHal = electedSubHal subHalList := by
    obtain ⟨m, hproxy⟩ := connectAll_snd calls (construct subHalList : HalProxy ε)
    rw [hproxy]
    exact mDirectChannelSubHal_construct subHalList
  constructor
  · intro hserves
    constructor
    · intro i sensors sensor hcall hsensor hclear hdirect
      have hout := (handedOut_iff (ε := ε) subHalList calls i _).mpr
        ⟨sensor, hclear, Or.inr ⟨sensors, hcall, hsensor, rfl⟩⟩
      rw [← helected]
      exact (serves_iff_of_handle hclear rfl).mp (hserves i _ hout hdirect)
    · intro o hreported hdirect hown
      obtain ⟨hoffered, hhandle⟩ := taggedHandle_of_reported hreported
      have hclear : subHalIndexIsClear o.2.sensorHandle = true := (List.mem_filter.mp hoffered).2
      have hout := (handedOut_iff (ε := ε) subHalList calls o.1 _).mpr
        ⟨o.2, hclear, Or.inl ⟨hhandle.symm ▸ hreported, rfl⟩⟩
      have hserved := hserves o.1 _ hout ((isDirect_listed _ o).mpr ⟨hown, hdirect⟩)
      rw [serves_iff_of_handle hclear (sensorHandle_listed _ o), sensorHandle_listed] at hserved
      exact hserved.2 hhandle
  · intro hc i info hout hdirect
    obtain ⟨sensor, hclear, ⟨hreported, rfl⟩ | ⟨sensors, hcall, hsensor, rfl⟩⟩ :=
      (handedOut_iff subHalList calls i info).mp hout
    · obtain ⟨hown, hsensor⟩ := (isDirect_listed _ (i, sensor)).mp hdirect
      rw [serves_iff_of_handle hclear (sensorHandle_listed _ _), sensorHandle_listed]
      refine ⟨helected.trans hown, fun hall => ?_⟩
      rw [hall] at hreported
      exact hc.static (i, sensor) hreported hsensor hown
    · rw [serves_iff_of_handle hclear rfl, helected]
      exact hc.dynamic i sensors sensor hcall hsensor hclear hdirect

/-! ### A dynamic sensor that is not served -/

/-- A vendor's sub-HAL with a sensor that may use direct channels. -/
def directSubHal : SubHalWrapper where
  subHal := .vendor
    { sensors := [⟨1, .other 1, "android.sensor.accelerometer", MASK_DIRECT_CHANNEL⟩]
      setOperationModeResult := fun _ => .ok
      normal_accepted := rfl
      initializeResult := .ok
      respond := fun _ => .ok
      mode := .normal }
  calls := []

theorem reportsToOwner_directSubHal :
    ReportsToOwner (construct [directSubHal, directSubHal] : HalProxy Event) 1 7 .fast :=
  (reportsToOwner_iff (i := 0) (by decide) (by decide) 7 .fast).mpr (by decide)

/-- The handle of the second of two such sub-HALs' sensor configures the sensor of the first. -/
theorem exists_not_reportsToOwner :
    ¬ReportsToOwner (construct [directSubHal, directSubHal] : HalProxy Event) 0x01000001 7
      .fast := by
  intro hreports
  obtain ⟨-, -, hindex⟩ := hreports.called ⟨0, 1, 7, .fast⟩ (by decide)
  exact absurd hindex (by decide)

/-- Of two such sub-HALs the first is elected, and the second connects another such sensor. -/
def connectDirect : List (ℕ × List SensorInfo) :=
  [(1, [⟨5, .other 1, "android.sensor.accelerometer", MASK_DIRECT_CHANNEL⟩])]

/-- A `configDirectReport` for the new sensor goes to the first sub-HAL. -/
theorem exists_not_serves :
    ¬∀ i info,
      HandedOut [directSubHal, directSubHal]
        (connectAll connectDirect (construct [directSubHal, directSubHal] : HalProxy Event)).1
        (connectAll connectDirect (construct [directSubHal, directSubHal] : HalProxy Event)).2
        i info →
      info.isDirect = true →
      Serves
        (connectAll connectDirect (construct [directSubHal, directSubHal] : HalProxy Event)).2
        i info := by
  intro hall
  have hserves := hall 1
    ⟨0x01000005, .other 1, "android.sensor.accelerometer", MASK_DIRECT_CHANNEL⟩
    (.dynamic _ _ (by decide)) (by decide)
  exact absurd hserves.1 (by decide)

end OnePlus9.HalProxy
