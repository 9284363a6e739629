import OnePlus9.Sensors.Equiv.Handle
import OnePlus9.Sensors.HalProxy

/-!
# Which sensors the proxy advertises

The constructor fills the table of the static sensors in two nested loops, over the sub-HALs and
over the sensors each of them lists.  The handles in the table are the tagged local handles of the
listed sensors whose top byte is clear (`contains_initializeSensorList`), each sensor is stored
under its own handle (`Keyed`), and these are the handles that `getSensorsList_2_1` returns
(`mem_handles_construct`).

What `onDynamicSensorsConnected` passes on is tagged and filtered the same way
(`onDynamicSensorsConnected_fst`) and becomes known (`contains_onDynamicSensorsConnected`); what
`onDynamicSensorsDisconnected` passes on was known and no longer is
(`contains_onDynamicSensorsDisconnected`).
-/

namespace OnePlus9

/-- A loop whose body adds to `P` what `Q` says of the element. -/
theorem foldl_iff_or {α β : Type*} {f : β → α → β} {P : β → Prop} {Q : α → Prop}
    (hf : ∀ acc x, P (f acc x) ↔ P acc ∨ Q x) (xs : List α) (acc : β) :
    P (xs.foldl f acc) ↔ P acc ∨ ∃ x ∈ xs, Q x := by
  induction xs generalizing acc with
  | nil => simp
  | cons x xs ih =>
    rw [List.foldl_cons, ih, hf, or_assoc]
    simp only [List.mem_cons, exists_eq_or_imp]

namespace SensorMap

/-- Every sensor is stored under its own handle. -/
def Keyed (m : SensorMap) : Prop :=
  ∀ (k : Int32) (info : SensorInfo), m[k]? = some info → info.sensorHandle = k

theorem keyed_empty : Keyed ∅ := fun k info h => by
  rw [Std.TreeMap.getElem?_emptyc] at h
  exact nomatch h

theorem Keyed.insert {m : SensorMap} (h : Keyed m) (info : SensorInfo) :
    Keyed (m.insert info.sensorHandle info) := by
  intro k info' hk
  rw [Std.TreeMap.getElem?_insert] at hk
  split_ifs at hk with heq
  · rw [← Option.some.inj hk]
    exact Std.LawfulEqCmp.eq_of_compare heq
  · exact h k info' hk

theorem contains_insert_iff {m : SensorMap} {h k : Int32} {info : SensorInfo} :
    (m.insert h info).contains k = true ↔ m.contains k = true ∨ k = h := by
  rw [Std.TreeMap.contains_insert, Bool.or_eq_true, beq_iff_eq, Std.compare_eq_iff_eq,
    @eq_comm _ h k, or_comm]

theorem contains_erase_iff {m : SensorMap} {h k : Int32} :
    (m.erase h).contains k = true ↔ m.contains k = true ∧ k ≠ h := by
  rw [Std.TreeMap.contains_erase, Bool.and_eq_true, and_comm, bne_iff_ne, ne_eq,
    Std.compare_eq_iff_eq, @eq_comm _ h k]

/-- The handles of a keyed table are its keys. -/
theorem Keyed.handles {m : SensorMap} (h : Keyed m) :
    (m.toList.map Prod.snd).map SensorInfo.sensorHandle = m.keys := by
  rw [List.map_map, ← Std.TreeMap.map_fst_toList_eq_keys]
  apply List.map_congr_left
  intro entry hmem
  exact h entry.1 entry.2 (Std.TreeMap.mem_toList_iff_getElem?_eq_some.mp hmem)

end SensorMap

namespace HalProxy

open SensorMap

variable {ε : Type*}

/-! ### Static sensors -/

/-- The sub-HAL at index `i` lists a sensor with the local handle `h`. -/
def Lists (subHalList : List SubHalWrapper) (i : ℕ) (h : Int32) : Prop :=
  ∃ subHal sensor, subHalList[i]? = some subHal ∧ sensor ∈ subHal.getSensorsList
    ∧ sensor.sensorHandle = h

@[simp] theorem sensorHandle_setDirectChannelFlags (sensor : SensorInfo) (i : ℕ)
    (elected : Option ℕ) :
    (setDirectChannelFlags sensor i elected).1.sensorHandle = sensor.sensorHandle := by
  unfold setDirectChannelFlags
  dsimp only
  split_ifs <;> rfl

@[simp] theorem sensorHandle_standardizePickup (sensor : SensorInfo) :
    (standardizePickup sensor).sensorHandle = sensor.sensorHandle := by
  unfold standardizePickup
  split_ifs <;> rfl

/-- One sensor: it enters the table under its tagged handle, unless its top byte is not clear. -/
theorem listSensor_fst (i : ℕ) (acc : SensorMap × Option ℕ) (sensor : SensorInfo) :
    (subHalIndexIsClear sensor.sensorHandle = false ∧ listSensor i acc sensor = acc)
      ∨ (subHalIndexIsClear sensor.sensorHandle = true
        ∧ ∃ info, info.sensorHandle = setSubHalIndex sensor.sensorHandle i
          ∧ (listSensor i acc sensor).1 = acc.1.insert info.sensorHandle info) := by
  unfold listSensor
  cases subHalIndexIsClear sensor.sensorHandle with
  | false => exact Or.inl ⟨rfl, rfl⟩
  | true =>
    refine Or.inr ⟨rfl, standardizePickup (setDirectChannelFlags
      { sensor with sensorHandle := setSubHalIndex sensor.sensorHandle i } i acc.2).1, ?_, rfl⟩
    rw [sensorHandle_standardizePickup, sensorHandle_setDirectChannelFlags]

theorem keyed_listSensor (i : ℕ) {acc : SensorMap × Option ℕ} (h : Keyed acc.1)
    (sensor : SensorInfo) : Keyed (listSensor i acc sensor).1 := by
  rcases listSensor_fst i acc sensor with ⟨-, heq⟩ | ⟨-, info, -, heq⟩
  · rw [heq]
    exact h
  · rw [heq]
    exact h.insert info

theorem contains_listSensor (k : Int32) (i : ℕ) (acc : SensorMap × Option ℕ)
    (sensor : SensorInfo) :
    (listSensor i acc sensor).1.contains k = true
      ↔ acc.1.contains k = true ∨ (subHalIndexIsClear sensor.sensorHandle = true
        ∧ k = setSubHalIndex sensor.sensorHandle i) := by
  rcases listSensor_fst i acc sensor with ⟨hclear, heq⟩ | ⟨hclear, info, hinfo, heq⟩
  · rw [heq, hclear]
    simp
  · rw [heq, contains_insert_iff, hclear, hinfo]
    simp

theorem keyed_initializeSensorList (p : HalProxy ε) (h : Keyed p.mSensors) :
    Keyed p.initializeSensorList.mSensors := by
  unfold initializeSensorList
  dsimp only
  refine List.foldlRecOn (motive := fun acc : SensorMap × Option ℕ => Keyed acc.1)
    p.mSubHalList.zipIdx _ h ?_
  intro acc hacc entry _
  refine List.foldlRecOn (motive := fun acc : SensorMap × Option ℕ => Keyed acc.1)
    entry.1.getSensorsList _ hacc ?_
  exact fun acc hacc sensor _ => keyed_listSensor entry.2 hacc sensor

/-- **The table of the static sensors** has the tagged handles of the listed sensors. -/
theorem contains_initializeSensorList (p : HalProxy ε) (k : Int32) :
    p.initializeSensorList.mSensors.contains k = true
      ↔ p.mSensors.contains k = true
        ∨ ∃ i h, Lists p.mSubHalList i h ∧ subHalIndexIsClear h = true
          ∧ k = setSubHalIndex h i := by
  unfold initializeSensorList
  dsimp only
  -- The outer loop over the sub-HALs, and in its body the loop over the sensors of one.
  rw [foldl_iff_or (P := fun acc : SensorMap × Option ℕ => acc.1.contains k = true)
    (fun acc entry => foldl_iff_or (P := fun acc : SensorMap × Option ℕ => acc.1.contains k = true)
      (contains_listSensor k entry.2) entry.1.getSensorsList acc)]
  refine or_congr Iff.rfl ⟨?_, ?_⟩
  · rintro ⟨⟨subHal, i⟩, hmem, sensor, hsensor, hclear, hk⟩
    exact ⟨i, sensor.sensorHandle,
      ⟨subHal, sensor, List.mem_zipIdx_iff_getElem?.mp hmem, hsensor, rfl⟩, hclear, hk⟩
  · rintro ⟨i, h, ⟨subHal, sensor, hget, hsensor, rfl⟩, hclear, hk⟩
    exact ⟨(subHal, i), List.mem_zipIdx_iff_getElem?.mpr hget, sensor, hsensor, hclear, hk⟩

/-- The handles that `getSensorsList_2_1` returns. -/
def handles (p : HalProxy ε) : List Int32 := p.getSensorsList_2_1.map SensorInfo.sensorHandle

theorem handles_construct (subHalList : List SubHalWrapper) :
    (construct subHalList : HalProxy ε).handles
      = (construct subHalList : HalProxy ε).mSensors.keys :=
  (keyed_initializeSensorList _ keyed_empty).handles

/-- **The advertised handles** are the tagged handles of the listed sensors with a clear top
byte. -/
theorem mem_handles_construct (subHalList : List SubHalWrapper) (k : Int32) :
    k ∈ (construct subHalList : HalProxy ε).handles
      ↔ ∃ i h, Lists subHalList i h ∧ subHalIndexIsClear h = true ∧ k = setSubHalIndex h i := by
  rw [handles_construct, Std.TreeMap.mem_keys, Std.TreeMap.mem_iff_contains, construct,
    contains_initializeSensorList]
  simp

/-! ### Dynamic sensors -/

/-- What is passed on about connected sensors, started at any list. -/
theorem foldl_connectSensor_fst (i : Int32) (sensors : List SensorInfo)
    (acc : List SensorInfo × HalProxy ε) :
    (sensors.foldl (connectSensor i) acc).1
      = acc.1 ++ (sensors.filter fun sensor => subHalIndexIsClear sensor.sensorHandle).map
        fun sensor => { sensor with
          sensorHandle := setSubHalIndex sensor.sensorHandle (sizeOfInt32 i) } := by
  induction sensors generalizing acc with
  | nil => simp
  | cons sensor sensors ih =>
    rw [List.foldl_cons, ih]
    unfold connectSensor
    cases hclear : subHalIndexIsClear sensor.sensorHandle with
    | false => simp [hclear]
    | true => simp [hclear]

/-- **Connected sensors** are passed on with tagged handles, those with a clear top byte. -/
theorem onDynamicSensorsConnected_fst (sensors : List SensorInfo) (i : Int32) (p : HalProxy ε) :
    (p.onDynamicSensorsConnected sensors i).1
      = (sensors.filter fun sensor => subHalIndexIsClear sensor.sensorHandle).map
        fun sensor => { sensor with
          sensorHandle := setSubHalIndex sensor.sensorHandle (sizeOfInt32 i) } := by
  rw [onDynamicSensorsConnected, foldl_connectSensor_fst, List.nil_append]

/-- They are the ones that become known. -/
theorem contains_onDynamicSensorsConnected (sensors : List SensorInfo) (i : Int32)
    (p : HalProxy ε) (k : Int32) :
    (p.onDynamicSensorsConnected sensors i).2.mDynamicSensors.contains k = true
      ↔ p.mDynamicSensors.contains k = true
        ∨ k ∈ (p.onDynamicSensorsConnected sensors i).1.map SensorInfo.sensorHandle := by
  have hone : ∀ (acc : List SensorInfo × HalProxy ε) sensor,
      (connectSensor i acc sensor).2.mDynamicSensors.contains k = true
        ↔ acc.2.mDynamicSensors.contains k = true
          ∨ (subHalIndexIsClear sensor.sensorHandle = true
            ∧ setSubHalIndex sensor.sensorHandle (sizeOfInt32 i) = k) := by
    intro acc sensor
    unfold connectSensor
    cases hclear : subHalIndexIsClear sensor.sensorHandle with
    | false => simp
    | true =>
      simp only [Bool.not_true, Bool.false_eq_true, if_false, contains_insert_iff, true_and]
      rw [@eq_comm _ k]
  rw [onDynamicSensorsConnected_fst, onDynamicSensorsConnected,
    foldl_iff_or (P := fun acc : List SensorInfo × HalProxy ε =>
      acc.2.mDynamicSensors.contains k = true) hone]
  simp [and_assoc]

/-- **Disconnected sensors** are no longer known, the others are as before. -/
theorem contains_onDynamicSensorsDisconnected (handles : List Int32) (i : Int32) (p : HalProxy ε)
    (k : Int32) :
    (p.onDynamicSensorsDisconnected handles i).2.mDynamicSensors.contains k = true
      ↔ p.mDynamicSensors.contains k = true ∧ k ∉ (p.onDynamicSensorsDisconnected handles i).1 := by
  refine List.foldlRecOn (motive := fun acc : List Int32 × HalProxy ε =>
    acc.2.mDynamicSensors.contains k = true ↔ p.mDynamicSensors.contains k = true ∧ k ∉ acc.1)
    handles (disconnectSensor i) (by simp) ?_
  intro acc hacc handle _
  unfold disconnectSensor
  dsimp only
  split_ifs
  · exact hacc
  · dsimp only
    rw [contains_erase_iff, hacc, List.mem_append, List.mem_singleton, not_or, and_assoc]
  · exact hacc

/-- They were known. -/
theorem contains_of_mem_onDynamicSensorsDisconnected {handles : List Int32} {i : Int32}
    {p : HalProxy ε} {k : Int32} (h : k ∈ (p.onDynamicSensorsDisconnected handles i).1) :
    p.mDynamicSensors.contains k = true := by
  have hloop : (∀ k ∈ (p.onDynamicSensorsDisconnected handles i).1,
      p.mDynamicSensors.contains k = true)
      ∧ ∀ k, (p.onDynamicSensorsDisconnected handles i).2.mDynamicSensors.contains k = true →
        p.mDynamicSensors.contains k = true := by
    refine List.foldlRecOn (motive := fun acc : List Int32 × HalProxy ε =>
      (∀ k ∈ acc.1, p.mDynamicSensors.contains k = true)
        ∧ ∀ k, acc.2.mDynamicSensors.contains k = true → p.mDynamicSensors.contains k = true)
      handles (disconnectSensor i) (by simp) ?_
    rintro acc ⟨hlist, htable⟩ handle _
    unfold disconnectSensor
    dsimp only
    split_ifs with hclear hknown
    · exact ⟨hlist, htable⟩
    · refine ⟨fun k hk => ?_, fun k hk => htable k (contains_erase_iff.mp hk).1⟩
      rcases List.mem_append.mp hk with hold | hnew
      · exact hlist k hold
      · rw [List.mem_singleton.mp hnew]
        exact htable _ hknown
    · exact ⟨hlist, htable⟩
  exact hloop.1 k h

end HalProxy

end OnePlus9
