import OnePlus9.Sensors.Equiv.SensorList

/-!
# The table of the static sensors, entry by entry

`offered subHalList` are the sensors that the sub-HALs list with a clear top byte, in the order of
the two loops of `initializeSensorList`, each with the index of its sub-HAL.  In these terms the
constructor does the following.

* The sub-HAL of the first offered sensor with direct-channel flags is elected
  (`mDirectChannelSubHal_construct`).
* The entry of a handle is the last offered sensor with this tagged handle (`reported`), with the
  direct-channel flags taken away unless its sub-HAL is the elected one, and with another type if it
  is a pick-up sensor (`listed`): `getElem?_construct`.
-/

namespace OnePlus9

/-- The flags of the two direct-channel masks. -/
def directFlags : UInt32 := MASK_DIRECT_REPORT ||| MASK_DIRECT_CHANNEL

/-- Whether the flags intersect the direct-channel masks. -/
def SensorInfo.isDirect (info : SensorInfo) : Bool := info.flags &&& directFlags != 0

namespace HalProxy

variable {ε : Type*}

/-- The sensors listed with a clear top byte, each with the index of its sub-HAL. -/
def offered (subHalList : List SubHalWrapper) : List (ℕ × SensorInfo) :=
  (subHalList.zipIdx.flatMap fun (subHal, i) => subHal.getSensorsList.map fun sensor => (i, sensor))
    |>.filter fun o => subHalIndexIsClear o.2.sensorHandle

/-- The handle an offered sensor is listed under. -/
def taggedHandle (o : ℕ × SensorInfo) : Int32 := setSubHalIndex o.2.sensorHandle o.1

/-- The sub-HAL of the first offered sensor with direct-channel flags. -/
def electedSubHal (subHalList : List SubHalWrapper) : Option ℕ :=
  ((offered subHalList).find? fun o => o.2.isDirect).map Prod.fst

/-- The last sensor offered under a handle, as its sub-HAL reports it. -/
def reported (subHalList : List SubHalWrapper) (h : Int32) : Option (ℕ × SensorInfo) :=
  (offered subHalList).reverse.find? fun o => taggedHandle o == h

/-- The entry of an offered sensor, when `elected` may use direct channels. -/
def listed (elected : Option ℕ) (o : ℕ × SensorInfo) : SensorInfo :=
  standardizePickup
    { o.2 with
      sensorHandle := taggedHandle o
      flags := if elected = some o.1 then o.2.flags else o.2.flags &&& ~~~directFlags }

/-! ### One sensor -/

/-- The loop body for an offered sensor. -/
def listOffered (acc : SensorMap × Option ℕ) (o : ℕ × SensorInfo) : SensorMap × Option ℕ :=
  let sensor := setDirectChannelFlags { o.2 with sensorHandle := taggedHandle o } o.1 acc.2
  (acc.1.insert (taggedHandle o) (standardizePickup sensor.1), sensor.2)

theorem listSensor_of_clear {i : ℕ} {acc : SensorMap × Option ℕ} {sensor : SensorInfo}
    (h : subHalIndexIsClear sensor.sensorHandle = true) :
    listSensor i acc sensor = listOffered acc (i, sensor) := by
  have hhandle : (standardizePickup (setDirectChannelFlags
      { sensor with sensorHandle := setSubHalIndex sensor.sensorHandle i } i acc.2).1).sensorHandle
      = setSubHalIndex sensor.sensorHandle i := by
    rw [sensorHandle_standardizePickup, sensorHandle_setDirectChannelFlags]
  unfold listSensor
  rw [h]
  simp only [Bool.not_true, Bool.false_eq_true, if_false, hhandle]
  rfl

/-- A sensor with direct-channel flags elects its sub-HAL if none is elected. -/
theorem listOffered_snd (acc : SensorMap × Option ℕ) (o : ℕ × SensorInfo) :
    (listOffered acc o).2 = acc.2.or (if o.2.isDirect then some o.1 else none) := by
  have hdirect : o.2.isDirect
      = (o.2.flags &&& (MASK_DIRECT_REPORT ||| MASK_DIRECT_CHANNEL) != 0) := rfl
  unfold listOffered setDirectChannelFlags
  cases acc.2 with
  | none => cases hd : o.2.isDirect <;> simp [← hdirect, hd]
  | some elected => by_cases hi : o.1 = elected <;> simp [hi]

/-- Flags without direct-channel bits have none to lose. -/
theorem and_not_directFlags {flags : UInt32} (h : (flags &&& directFlags != 0) = false) :
    flags &&& ~~~directFlags = flags := by
  rw [bne_eq_false_iff_eq, ← UInt32.toBitVec_inj] at h
  rw [← UInt32.toBitVec_inj, UInt32.toBitVec_and, UInt32.toBitVec_not,
    ← TaggedWord.and_not_eq_zero_iff, BitVec.not_not, ← UInt32.toBitVec_and, h]
  rfl

/-- The entry that is inserted, by the sub-HAL elected in the end. -/
theorem listOffered_fst {acc : SensorMap × Option ℕ} {o : ℕ × SensorInfo} {elected : Option ℕ}
    (h : ∀ i, (listOffered acc o).2 = some i → elected = some i) :
    (listOffered acc o).1 = acc.1.insert (taggedHandle o) (listed elected o) := by
  have hdirect : o.2.isDirect
      = (o.2.flags &&& (MASK_DIRECT_REPORT ||| MASK_DIRECT_CHANNEL) != 0) := rfl
  rw [listOffered_snd] at h
  show acc.1.insert _ (standardizePickup (setDirectChannelFlags _ o.1 acc.2).1) = _
  unfold listed setDirectChannelFlags
  cases hacc : acc.2 with
  | none =>
    rw [hacc] at h
    cases hd : o.2.isDirect with
    | true =>
      -- It elects its sub-HAL.
      have helected := h o.1 (by rw [hd]; rfl)
      simp [← hdirect, hd, helected]
    | false =>
      have hflags := and_not_directFlags hd
      simp [← hdirect, hd, hflags]
  | some i =>
    have helected := h i (by rw [hacc]; rfl)
    by_cases hi : o.1 = i
    · simp [helected, hi]
    · have hne : ¬i = o.1 := fun heq => hi heq.symm
      simp [helected, hi, hne, directFlags]

/-! ### The two loops -/

theorem initializeSensorList_eq (p : HalProxy ε) :
    p.initializeSensorList
      = { p with
          mSensors := ((offered p.mSubHalList).foldl listOffered
            (p.mSensors, p.mDirectChannelSubHal)).1
          mDirectChannelSubHal := ((offered p.mSubHalList).foldl listOffered
            (p.mSensors, p.mDirectChannelSubHal)).2 } := by
  have hloops : (offered p.mSubHalList).foldl listOffered (p.mSensors, p.mDirectChannelSubHal)
      = p.mSubHalList.zipIdx.foldl
        (fun acc (subHal, subHalIndex) => subHal.getSensorsList.foldl (listSensor subHalIndex) acc)
        (p.mSensors, p.mDirectChannelSubHal) := by
    rw [offered, List.foldl_filter, List.foldl_flatMap]
    congr 1
    funext acc entry
    rw [List.foldl_map]
    congr 1
    funext acc sensor
    cases hclear : subHalIndexIsClear sensor.sensorHandle with
    | true => rw [if_pos rfl, listSensor_of_clear hclear]
    | false =>
      rw [if_neg Bool.false_ne_true, listSensor, hclear]
      rfl
  rw [hloops]
  rfl

/-- The first sensor with direct-channel flags elects. -/
theorem foldl_listOffered_snd (os : List (ℕ × SensorInfo)) (acc : SensorMap × Option ℕ) :
    (os.foldl listOffered acc).2
      = acc.2.or ((os.find? fun o => o.2.isDirect).map Prod.fst) := by
  induction os generalizing acc with
  | nil => simp
  | cons o os ih =>
    rw [List.foldl_cons, ih, listOffered_snd, Option.or_assoc, List.find?_cons]
    cases o.2.isDirect <;> rfl

/-- The last sensor with a handle is its entry. -/
theorem getElem?_foldl_listOffered (os : List (ℕ × SensorInfo)) (acc : SensorMap × Option ℕ)
    (h : Int32) :
    (os.foldl listOffered acc).1[h]?
      = ((os.reverse.find? fun o => taggedHandle o == h).map
          (listed (os.foldl listOffered acc).2)).or acc.1[h]? := by
  induction os generalizing acc with
  | nil => simp
  | cons o os ih =>
    -- Whoever is elected by now is elected in the end.
    have hfst : (listOffered acc o).1 = acc.1.insert (taggedHandle o)
        (listed (os.foldl listOffered (listOffered acc o)).2 o) := by
      apply listOffered_fst
      intro i hi
      rw [foldl_listOffered_snd, hi, Option.some_or]
    have hentry : (listOffered acc o).1[h]? = (if taggedHandle o == h then
        some (listed (os.foldl listOffered (listOffered acc o)).2 o) else acc.1[h]?) := by
      rw [hfst, Std.TreeMap.getElem?_insert]
      simp only [Std.compare_eq_iff_eq, beq_iff_eq]
    rw [List.foldl_cons, ih, hentry, List.reverse_cons, List.find?_append, List.find?_singleton]
    cases os.reverse.find? fun o => taggedHandle o == h with
    | some last => rfl
    | none =>
      simp only [Option.none_or, Option.map_none]
      split_ifs <;> rfl

/-! ### The constructor -/

/-- **The elected sub-HAL.** -/
theorem mDirectChannelSubHal_construct (subHalList : List SubHalWrapper) :
    (construct subHalList : HalProxy ε).mDirectChannelSubHal = electedSubHal subHalList := by
  rw [construct, initializeSensorList_eq]
  dsimp only
  rw [foldl_listOffered_snd, Option.none_or, electedSubHal]

/-- **The entry of a handle.** -/
theorem getElem?_construct (subHalList : List SubHalWrapper) (h : Int32) :
    (construct subHalList : HalProxy ε).mSensors[h]?
      = (reported subHalList h).map (listed (electedSubHal subHalList)) := by
  rw [← mDirectChannelSubHal_construct (ε := ε), construct, initializeSensorList_eq]
  dsimp only
  rw [getElem?_foldl_listOffered, Std.TreeMap.getElem?_emptyc, Option.or_none, reported]

/-- What is reported under a handle was offered under it. -/
theorem taggedHandle_of_reported {subHalList : List SubHalWrapper} {h : Int32}
    {o : ℕ × SensorInfo} (hr : reported subHalList h = some o) :
    o ∈ offered subHalList ∧ taggedHandle o = h := by
  refine ⟨List.mem_reverse.mp (List.mem_of_find?_eq_some hr), ?_⟩
  have hfound := List.find?_some hr
  exact beq_iff_eq.mp hfound

@[simp] theorem sensorHandle_listed (elected : Option ℕ) (o : ℕ × SensorInfo) :
    (listed elected o).sensorHandle = taggedHandle o := sensorHandle_standardizePickup _

/-- **The advertised list**: the last sensors reported under their handles. -/
theorem mem_getSensorsList_construct (subHalList : List SubHalWrapper) (info : SensorInfo) :
    info ∈ (construct subHalList : HalProxy ε).getSensorsList_2_1
      ↔ ∃ o, reported subHalList (taggedHandle o) = some o
        ∧ info = listed (electedSubHal subHalList) o := by
  rw [getSensorsList_2_1, List.mem_map]
  constructor
  · rintro ⟨⟨h, info'⟩, hmem, rfl⟩
    rw [Std.TreeMap.mem_toList_iff_getElem?_eq_some, getElem?_construct] at hmem
    obtain ⟨o, hreported, rfl⟩ := Option.map_eq_some_iff.mp hmem
    obtain ⟨-, rfl⟩ := taggedHandle_of_reported hreported
    exact ⟨o, hreported, rfl⟩
  · rintro ⟨o, hreported, rfl⟩
    refine ⟨(taggedHandle o, _), ?_, rfl⟩
    rw [Std.TreeMap.mem_toList_iff_getElem?_eq_some, getElem?_construct, hreported]
    rfl

end HalProxy

end OnePlus9
