import Std.Data.TreeMap.Lemmas
import Mathlib.Tactic.Common

/-!
# Sensor HAL data types

The types of the sensor HAL that the multi-HAL proxy (`HalProxy.cpp`, `HalProxyCallback.cpp`) and
the sub-HAL of this repository (`SensorsSubHal.cpp`) pass around, with the fields those files read
or write.  Numbers of fixed width keep their width: handles are `Int32`, flags are `UInt32`.

`mSensors` and `mDynamicSensors` are `std::map`s keyed by the handle, here `Std.TreeMap`s.  Their
`operator[]` inserts a value-initialized `SensorInfo` where the key is absent (`SensorMap.index`).
-/

namespace OnePlus9

/-- `V1_0::Result`. -/
inductive Result where
  | ok
  | permissionDenied
  | noMemory
  | badValue
  | invalidOperation
  deriving DecidableEq, Repr, Inhabited

/-- `V1_0::OperationMode`. -/
inductive OperationMode where
  | normal
  | dataInjection
  deriving DecidableEq, Repr, Inhabited

/-- `V1_0::RateLevel`. -/
inductive RateLevel where
  | stop
  | normal
  | fast
  | veryFast
  deriving DecidableEq, Repr, Inhabited

/-- `V2_1::SensorType`: the types the code names, and every other value of the enumeration
(the vendor-private ones included). -/
inductive SensorType where
  | metaData
  | tiltDetector
  | pickUpGesture
  | dynamicSensorMeta
  | additionalInfo
  | hingeAngle
  | other (value : Int32)
  deriving DecidableEq, Repr, Inhabited

/-- `SensorType::DEVICE_PRIVATE_BASE`. -/
def DEVICE_PRIVATE_BASE : Int32 := 0x10000

/-- `SensorFlagBits::WAKE_UP`. -/
def WAKE_UP : UInt32 := 0x1
/-- `SensorFlagBits::ONE_SHOT_MODE`. -/
def ONE_SHOT_MODE : UInt32 := 0x4
/-- `SensorFlagBits::DATA_INJECTION`. -/
def DATA_INJECTION : UInt32 := 0x10
/-- `SensorFlagBits::MASK_DIRECT_REPORT`. -/
def MASK_DIRECT_REPORT : UInt32 := 0x380
/-- `SensorFlagBits::MASK_DIRECT_CHANNEL`. -/
def MASK_DIRECT_CHANNEL : UInt32 := 0xC00

/-- `SENSOR_STRING_TYPE_PICK_UP_GESTURE`. -/
def SENSOR_STRING_TYPE_PICK_UP_GESTURE : String := "android.sensor.pick_up_gesture"

/-- `V2_1::SensorInfo`.  The fields that are only copied or logged are left out. -/
structure SensorInfo where
  sensorHandle : Int32
  type : SensorType
  typeAsString : String
  flags : UInt32
  deriving DecidableEq, Repr, Inhabited

/-- `V2_1::EventPayload`, a C union: the views overlap, so the payload is its 32-bit words. -/
structure EventPayload where
  /-- The first word: `scalar`, `meta.what` and `dynamic.connected` are views of it. -/
  word0 : UInt32
  /-- The second word: `dynamic.sensorHandle` is a view of it. -/
  word1 : UInt32
  /-- The words no function of the proxy looks at. -/
  rest : List UInt32
  deriving DecidableEq, Repr, Inhabited

namespace EventPayload

/-- `u.scalar != 0`: a float is zero exactly when all its bits but the sign are. -/
def scalarIsNonzero (u : EventPayload) : Bool := u.word0 &&& 0x7FFFFFFF != 0

/-- `u.dynamic.sensorHandle`. -/
def dynamicSensorHandle (u : EventPayload) : Int32 := u.word1.toInt32

/-- Assign `u.dynamic.sensorHandle`. -/
def setDynamicSensorHandle (u : EventPayload) (sensorHandle : Int32) : EventPayload :=
  { u with word1 := sensorHandle.toUInt32 }

@[simp] theorem dynamicSensorHandle_set (u : EventPayload) (sensorHandle : Int32) :
    (u.setDynamicSensorHandle sensorHandle).dynamicSensorHandle = sensorHandle := rfl

end EventPayload

/-- `V2_1::Event`.  The timestamp is only copied and is left out. -/
structure Event where
  sensorHandle : Int32
  sensorType : SensorType
  u : EventPayload
  deriving DecidableEq, Repr, Inhabited

/-- Values the queues of the proxy hold: events, possibly with a record of where they came from
that the code does not see. -/
class SensorEvent (ε : Type*) where
  /-- The event itself. -/
  toEvent : ε → Event

instance : SensorEvent Event := ⟨id⟩

/-- `std::map<int32_t, SensorInfo>`. -/
abbrev SensorMap := Std.TreeMap Int32 SensorInfo

namespace SensorMap

/-- `m[sensorHandle]`, with the map it leaves behind: an absent key is inserted. -/
def index (m : SensorMap) (sensorHandle : Int32) : SensorInfo × SensorMap :=
  match m[sensorHandle]? with
  | some info => (info, m)
  | none => (default, m.insert sensorHandle default)

/-- The `SensorInfo` an `operator[]` lookup reads. -/
def info (m : SensorMap) (sensorHandle : Int32) : SensorInfo := m[sensorHandle]?.getD default

@[simp] theorem index_fst (m : SensorMap) (sensorHandle : Int32) :
    (m.index sensorHandle).1 = m.info sensorHandle := by
  unfold index info
  cases m[sensorHandle]? <;> rfl

/-- The entries `operator[]` inserts read as the absent entries they replace. -/
@[simp] theorem info_index_snd (m : SensorMap) (h k : Int32) :
    SensorMap.info (m.index h).2 k = m.info k := by
  unfold index info
  cases hm : m[h]? with
  | some i => rfl
  | none =>
    simp only [Std.TreeMap.getElem?_insert]
    split_ifs with heq
    · rw [Std.LawfulEqCmp.eq_of_compare heq] at hm
      rw [hm]
      rfl
    · rfl

/-- Whether the sensor with this handle has the `WAKE_UP` flag, as `m[sensorHandle].flags`. -/
def isWakeUp (m : SensorMap) (sensorHandle : Int32) : Bool :=
  (m.info sensorHandle).flags &&& WAKE_UP != 0

/-- The number of wake-up events in a list. -/
def numWakeUps {ε : Type*} [SensorEvent ε] (m : SensorMap) (events : List ε) : ℕ :=
  events.countP fun e => m.isWakeUp (SensorEvent.toEvent e).sensorHandle

theorem isWakeUp_congr {m m' : SensorMap} (h : m.info = m'.info) : m.isWakeUp = m'.isWakeUp := by
  funext k
  rw [isWakeUp, h, isWakeUp]

@[simp] theorem isWakeUp_index_snd (m : SensorMap) (h : Int32) :
    isWakeUp (m.index h).2 = isWakeUp m := isWakeUp_congr (funext fun k => info_index_snd m h k)

end SensorMap

end OnePlus9
