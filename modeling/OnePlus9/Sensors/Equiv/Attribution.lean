import OnePlus9.Sensors.Equiv.DirectChannel
import OnePlus9.Sensors.Equiv.ProcessEvents

/-!
# Which sub-HAL an event is attributed to

The index byte of a handle says whose sensor it is.  `initializeSensorList` and
`onDynamicSensorsConnected` tag a local handle only if its top byte is clear.  `processEvents` tags
every handle, and the tag is or-ed in: the index byte that comes out is the tag mixed with the top
byte that was there (`indexByte_setSubHalIndex_eq_or`).

So an event is attributed to the sub-HAL that posted it if and only if the top byte of its handle
has no bits but those of the index, and the index itself is below 128
(`belongsTo_setSubHalIndex_iff`).  `attributed_iff` says this of all that `processEvents` emits.
-/

namespace OnePlus9

variable {h : Int32} {i : ℕ}

/-! ### Handles -/

/-- The handle is of a sensor of the sub-HAL at index `i`, by its index byte and as the proxy
extracts the index. -/
def BelongsTo (i : ℕ) (sensorHandle : Int32) : Prop :=
  indexByte sensorHandle = i ∧ extractSubHalIndex sensorHandle = i

instance : Decidable (BelongsTo i h) := inferInstanceAs (Decidable (_ ∧ _))

/-- The top byte of the handle has no bit that the index lacks. -/
def NoForeignBits (i : ℕ) (sensorHandle : Int32) : Prop := indexByte sensorHandle ||| i = i

instance : Decidable (NoForeignBits i h) := inferInstanceAs (Decidable (_ = _))

/-- **Tagging any handle** mixes the index into its top byte. -/
theorem indexByte_setSubHalIndex_eq_or (h : Int32) (i : ℕ) :
    indexByte (setSubHalIndex h i) = indexByte h ||| i % 2 ^ 8 := by
  rw [indexByte, toBitVec_setSubHalIndex]
  exact TaggedWord.toNat_or_shiftLeft_div _ i (by decide)

/-- An index byte below 128 is the extracted index, and no other is. -/
theorem extractSubHalIndex_eq_indexByte_iff (h : Int32) :
    extractSubHalIndex h = indexByte h ↔ indexByte h < 128 := by
  have hbyte : indexByte h < 2 ^ 8 := by
    have hword := h.toBitVec.isLt
    unfold indexByte
    omega
  constructor
  · intro heq
    by_contra hge
    have hneg : 2 ^ 31 ≤ h.toBitVec.toNat := by
      unfold indexByte at hge
      omega
    have hlarge := le_extractSubHalIndex hneg
    omega
  · intro hlt
    apply extractSubHalIndex_of_lt
    unfold indexByte at hlt
    omega

/-- **A tagged handle** is of the sub-HAL it is tagged with. -/
theorem belongsTo_setSubHalIndex_iff :
    BelongsTo i (setSubHalIndex h i) ↔ i < 128 ∧ NoForeignBits i h := by
  have hbyte := indexByte_setSubHalIndex_eq_or h i
  have hextract := extractSubHalIndex_eq_indexByte_iff (setSubHalIndex h i)
  constructor
  · rintro ⟨hindex, hsize⟩
    have hlt : i < 128 := by
      have hsmall := hextract.mp (hsize.trans hindex.symm)
      omega
    refine ⟨hlt, ?_⟩
    rw [hindex, Nat.mod_eq_of_lt (by omega)] at hbyte
    exact hbyte.symm
  · rintro ⟨hlt, hbits⟩
    have hindex : indexByte (setSubHalIndex h i) = i := by
      rw [hbyte, Nat.mod_eq_of_lt (by omega)]
      exact hbits
    refine ⟨hindex, ?_⟩
    rw [hextract.mpr (by omega), hindex]

/-! ### Events -/

namespace HalProxyCallback

/-- The handles of the event are of sensors of the sub-HAL at index `i`. -/
structure AttributedTo (i : ℕ) (event : Event) : Prop where
  sensorHandle : BelongsTo i event.sensorHandle
  dynamic : event.sensorType = .dynamicSensorMeta → BelongsTo i event.u.dynamicSensorHandle

/-- The index fits its byte, and the handles of the event, as the sub-HAL posts it, have no bit in
their top bytes that the index lacks. -/
structure OwnHandles (i : ℕ) (event : Event) : Prop where
  index : i < 128
  sensorHandle : NoForeignBits i event.sensorHandle
  dynamic : event.sensorType = .dynamicSensorMeta → NoForeignBits i event.u.dynamicSensorHandle

/-- A tagged event. -/
theorem attributedTo_tagEvent_iff {event : Event} :
    AttributedTo i (tagEvent (Int32.ofNat i) event) ↔ OwnHandles i event := by
  have hhandle : (tagEvent (Int32.ofNat i) event).sensorHandle
      = OnePlus9.setSubHalIndex event.sensorHandle i := setSubHalIndex_ofNat _ i
  have hdynamic : event.sensorType = .dynamicSensorMeta →
      (tagEvent (Int32.ofNat i) event).u.dynamicSensorHandle
        = OnePlus9.setSubHalIndex event.u.dynamicSensorHandle i := by
    intro hmeta
    rw [tagEvent, if_pos hmeta]
    exact setSubHalIndex_ofNat _ i
  constructor
  · intro h
    have hown := h.sensorHandle
    rw [hhandle, belongsTo_setSubHalIndex_iff] at hown
    refine ⟨hown.1, hown.2, fun hmeta => ?_⟩
    have hpayload := h.dynamic hmeta
    rw [hdynamic hmeta, belongsTo_setSubHalIndex_iff] at hpayload
    exact hpayload.2
  · intro h
    constructor
    · rw [hhandle, belongsTo_setSubHalIndex_iff]
      exact ⟨h.index, h.sensorHandle⟩
    · intro hmeta
      rw [hdynamic hmeta, belongsTo_setSubHalIndex_iff]
      exact ⟨h.index, h.dynamic hmeta⟩

/-- **No sub-HAL speaks for another** if and only if every event it posts that passes the filter has
handles of its own. -/
theorem attributed_iff (i : ℕ) (events : List Event) (mSensors : SensorMap) :
    (∀ e ∈ (processEvents (Int32.ofNat i) events mSensors).eventsOut, AttributedTo i e)
      ↔ ∀ e ∈ events, keeps mSensors (tagEvent (Int32.ofNat i) e) = true → OwnHandles i e := by
  rw [forall_mem_eventsOut]
  constructor
  · intro hall e he hkeeps
    exact attributedTo_tagEvent_iff.mp (hall e he hkeeps)
  · intro hall e he hkeeps
    exact attributedTo_tagEvent_iff.mpr (hall e he hkeeps)

/-- An event with the handle that the sensor of the second of two sub-HALs is listed under. -/
def foreignEvent : Event := ⟨0x01000001, .other 1, ⟨0, 0, []⟩⟩

/-- Posted by the first sub-HAL, it is attributed to the second. -/
theorem exists_not_attributed :
    ¬∀ e ∈ (processEvents 0 [foreignEvent]
        (HalProxy.construct [HalProxy.directSubHal, HalProxy.directSubHal]
          : HalProxy Event).mSensors).eventsOut, AttributedTo 0 e := by
  intro hall
  have hforeign := (hall foreignEvent (by decide)).sensorHandle
  exact absurd hforeign (by decide)

end HalProxyCallback

end OnePlus9
