import Mathlib.Tactic.Common

/-!
# Sensor handles

The proxy tags the handle a sub-HAL gives its sensor (the local handle) with the index of the
sub-HAL, in the top byte of the 32-bit handle.  `HalProxy.cpp` and `HalProxyCallback.cpp` each
have their own copy of `setSubHalIndex`; both are here.

A `size_t` is a natural number below `2 ^ 64`.  Conversions between `size_t` and `int32_t` are
`Int32.ofNat` (truncation) and `sizeOfInt32` (sign extension).
-/

namespace OnePlus9

/-- `static_cast<size_t>` of an `int32_t`. -/
def sizeOfInt32 (x : Int32) : ℕ := x.toInt64.toUInt64.toNat

/-- `kBitsAfterSubHalIndex`. -/
def kBitsAfterSubHalIndex : Int32 := 24

/-- `kSensorHandleSubHalIndexMask` of `HalProxy.h`. -/
def kSensorHandleSubHalIndexMask : Int32 := 0xFF000000

/-- Set the sub-HAL index as first byte of the sensor handle. -/
def setSubHalIndex (sensorHandle : Int32) (subHalIndex : ℕ) : Int32 :=
  sensorHandle ||| (Int32.ofNat subHalIndex <<< kBitsAfterSubHalIndex)

/-- Extract the sub-HAL index from the sensor handle: an arithmetic shift, converted to
`size_t`. -/
def extractSubHalIndex (sensorHandle : Int32) : ℕ :=
  sizeOfInt32 (sensorHandle >>> kBitsAfterSubHalIndex)

/-- Clear the sub-HAL index byte. -/
def clearSubHalIndex (sensorHandle : Int32) : Int32 :=
  sensorHandle &&& ~~~kSensorHandleSubHalIndexMask

/-- Whether the sub-HAL index byte is zero. -/
def subHalIndexIsClear (sensorHandle : Int32) : Bool :=
  sensorHandle &&& kSensorHandleSubHalIndexMask == 0

namespace HalProxyCallback

/-- `kBitsAfterSubHalIndex` of `HalProxyCallback.cpp`. -/
def kBitsAfterSubHalIndex : Int32 := 24

/-- `setSubHalIndex` of `HalProxyCallback.cpp`. -/
def setSubHalIndex (sensorHandle : Int32) (subHalIndex : ℕ) : Int32 :=
  sensorHandle ||| (Int32.ofNat subHalIndex <<< kBitsAfterSubHalIndex)

end HalProxyCallback

end OnePlus9
