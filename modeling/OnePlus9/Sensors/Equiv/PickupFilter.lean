import OnePlus9.Sensors.Equiv.Listing
import OnePlus9.Sensors.Equiv.Session
import OnePlus9.Sensors.Equiv.WakeUps

/-!
# What the pick-up filter drops

`initializeSensorList` gives the sensors of type string `android.sensor.tilt_detector` the type
`PICK_UP_GESTURE`, and `processEvents` drops the events of sensors of this type whose scalar is not
zero.  It is meant to drop data samples of the re-typed sensors (`isPickupSample`), but it looks at
no event type: it also drops the flush completions and the additional information of such a sensor,
and all but the zero samples of a sensor that has the type from its sub-HAL (`isMisfiltered`).  A
batch is forwarded without its pick-up samples if and only if it has no such event
(`forwards_iff`).

The wake-up events are counted behind the filter, while a sub-HAL locks the wakelock of a batch by
what it posts.  The assertions of `postEvents` compare the two; they hold if and only if the filter
leaves a batch with wake-up events one of them (`assertionsHold_iff`).
-/

open OnePlus9.System

namespace OnePlus9.HalProxyCallback

open HalProxy

variable {c : Constants} {t : System} {subHalList : List SubHalWrapper} {as : List Action}

/-! ### Kinds of events -/

/-- A non-zero data sample of a re-typed sensor: of the type its sub-HAL reported. -/
def isPickupSample (subHalList : List SubHalWrapper) (event : Event) : Bool :=
  event.u.scalarIsNonzero && (reported subHalList event.sensorHandle).any fun o =>
    o.2.typeAsString == "android.sensor.tilt_detector" && event.sensorType == o.2.type

/-- An event with a non-zero scalar, of another type than a re-typed sensor was reported with, or of
a sensor that its sub-HAL reported as a pick-up sensor. -/
def isMisfiltered (subHalList : List SubHalWrapper) (event : Event) : Bool :=
  event.u.scalarIsNonzero && (reported subHalList event.sensorHandle).any fun o =>
    if o.2.typeAsString = "android.sensor.tilt_detector" then event.sensorType != o.2.type
    else o.2.type == .pickUpGesture

/-- What is misfiltered is no pick-up sample. -/
theorem isPickupSample_of_isMisfiltered {event : Event}
    (h : isMisfiltered subHalList event = true) : isPickupSample subHalList event = false := by
  unfold isMisfiltered at h
  unfold isPickupSample
  cases hreported : reported subHalList event.sensorHandle with
  | none => simp
  | some o =>
    simp only [hreported, Option.any_some, Bool.and_eq_true] at h ⊢
    obtain ⟨-, hkind⟩ := h
    split_ifs at hkind with htilt
    · simp only [bne_iff_ne] at hkind
      simp [hkind]
    · simp [htilt]

/-- The type a sensor is listed with. -/
theorem type_listed (elected : Option ℕ) (o : ℕ × SensorInfo) :
    (listed elected o).type
      = if o.2.typeAsString = "android.sensor.tilt_detector" then .pickUpGesture else o.2.type := by
  unfold listed standardizePickup
  dsimp only
  split_ifs <;> rfl

/-- **The filter** drops the pick-up samples and the misfiltered events. -/
theorem keeps_eq (hv : (machine c).Visits (start subHalList) as t) (event : Event) :
    keeps t.proxy.mSensors event
      = !(isPickupSample subHalList event || isMisfiltered subHalList event) := by
  have hinfo : t.proxy.mSensors.info event.sensorHandle
      = ((reported subHalList event.sensorHandle).map
        (listed (electedSubHal subHalList))).getD default := by
    rw [info_of_visits hv, SensorMap.info, getElem?_construct]
  unfold keeps isFiltered isPickupSample isMisfiltered
  rw [hinfo]
  cases reported subHalList event.sensorHandle with
  | none =>
    have hdefault : (default : SensorInfo).type ≠ .pickUpGesture := by decide
    simp [hdefault]
  | some o =>
    simp only [Option.map_some, Option.getD_some, type_listed, Option.any_some]
    by_cases htilt : o.2.typeAsString = "android.sensor.tilt_detector"
    · -- A re-typed sensor: its samples and its other events.
      cases event.u.scalarIsNonzero <;> by_cases hsample : event.sensorType = o.2.type <;>
        simp [htilt, hsample]
    · cases event.u.scalarIsNonzero <;> simp [htilt]

/-! ### A batch -/

/-- **All but the pick-up samples is forwarded**, in order, if and only if nothing in the batch is
misfiltered. -/
theorem forwards_iff (hv : (machine c).Visits (start subHalList) as t) (i : Int32)
    (events : List Event) :
    ((events.map (tagEvent i)).filter fun e => !isPickupSample subHalList e).Sublist
        (processEvents i events t.proxy.mSensors).eventsOut
      ↔ ∀ e ∈ events, isMisfiltered subHalList (tagEvent i e) = false := by
  rw [eventsOut_processEvents]
  constructor
  · intro hsub e he
    by_contra hmis
    have hmis : isMisfiltered subHalList (tagEvent i e) = true := (Bool.not_eq_false _).mp hmis
    -- It is no sample, so it is forwarded, but the filter does not keep it.
    have hmem : tagEvent i e ∈ (events.map (tagEvent i)).filter fun e =>
        !isPickupSample subHalList e := by
      refine List.mem_filter.mpr ⟨List.mem_map_of_mem he, ?_⟩
      rw [isPickupSample_of_isMisfiltered hmis]
      rfl
    have hkept := (List.mem_filter.mp (hsub.subset hmem)).2
    rw [keeps_eq hv, hmis, Bool.or_true] at hkept
    exact nomatch hkept
  · intro hnone
    have hsame : (events.map (tagEvent i)).filter (fun e => !isPickupSample subHalList e)
        = (events.map (tagEvent i)).filter (keeps t.proxy.mSensors) := by
      apply List.filter_congr
      intro e' hmem
      obtain ⟨e, he, rfl⟩ := List.mem_map.mp hmem
      rw [keeps_eq hv, hnone e he, Bool.or_false]
    rw [hsame]

theorem visits_sampleSession :
    (machine sampleConstants).Visits (start [pickUpSubHal]) (initialization sampleArgs)
      sampleSession :=
  (machine sampleConstants).visits_of_run run_sampleSession

/-- A sample of the pick-up sensor, as its sub-HAL reports it, is dropped. -/
theorem forwards_notPickedUp :
    (([⟨1, .tiltDetector, ⟨0x3f800000, 0, []⟩⟩, wakeUpEvent].map (tagEvent 0)).filter
        fun e => !isPickupSample [pickUpSubHal] e).Sublist
      (processEvents 0 [⟨1, .tiltDetector, ⟨0x3f800000, 0, []⟩⟩, wakeUpEvent]
        sampleSession.proxy.mSensors).eventsOut :=
  (forwards_iff visits_sampleSession 0 _).mpr (by decide)

/-- The event that completes a flush of the pick-up sensor. -/
def flushComplete : Event := ⟨1, .metaData, ⟨1, 0, []⟩⟩

/-- It is dropped, although it is no pick-up sample. -/
theorem exists_flush_dropped :
    ¬(([flushComplete].map (tagEvent 0)).filter
        fun e => !isPickupSample [pickUpSubHal] e).Sublist
      (processEvents 0 [flushComplete] sampleSession.proxy.mSensors).eventsOut := by
  decide

/-! ### The assertions of `postEvents` -/

/-- The event is of a sensor listed with the `WAKE_UP` flag. -/
def wakesUp (m : SensorMap) (i : Int32) (event : Event) : Bool :=
  m.isWakeUp (tagEvent i event).sensorHandle

/-- Wake-up events are counted if one of the batch passes the filter. -/
theorem numWakeupEvents_pos_iff (i : Int32) (events : List Event) (m : SensorMap) :
    0 < (processEvents i events m).numWakeupEvents
      ↔ ∃ e ∈ events, wakesUp m i e = true ∧ keeps m (tagEvent i e) = true := by
  rw [numWakeupEvents_processEvents, List.countP_pos_iff]
  constructor
  · rintro ⟨event, hmem, hwake⟩
    obtain ⟨e, he, hkeeps, rfl⟩ := (mem_eventsOut i events m).mp hmem
    exact ⟨e, he, hwake, hkeeps⟩
  · rintro ⟨e, he, hwake, hkeeps⟩
    exact ⟨tagEvent i e, (mem_eventsOut i events m).mpr ⟨e, he, hkeeps, rfl⟩, hwake⟩

/-- **The assertions** of a `postEvents` call whose wakelock is locked exactly when the batch has a
wake-up event: they hold if and only if such a batch has a wake-up event that is not filtered. -/
theorem assertionsHold_iff {s : System} {k : ℕ} {post : Post} {events : List Event}
    (hk : s.posts[k]? = some post) (hpc : post.pc = .tested events)
    (hlocked : post.wakelock.isSome = true
      ↔ ∃ e ∈ events, wakesUp s.proxy.mSensors (Int32.ofNat post.mSubHalIndex) e = true) :
    ∃ t eventsOut numWakeupEvents, step c s (.processEvents k) = some t
      ∧ t.posts[k]? = some { post with pc := .processed eventsOut numWakeupEvents }
      ∧ (assertionsHold numWakeupEvents post.wakelock.isSome = true
        ↔ ((∃ e ∈ events, wakesUp s.proxy.mSensors (Int32.ofNat post.mSubHalIndex) e = true) →
          ∃ e ∈ events, wakesUp s.proxy.mSensors (Int32.ofNat post.mSubHalIndex) e = true
            ∧ isFiltered (s.proxy.mSensors.info
                (tagEvent (Int32.ofNat post.mSubHalIndex) e).sensorHandle)
              (tagEvent (Int32.ofNat post.mSubHalIndex) e) = false)) := by
  have hcount := numWakeupEvents_pos_iff (Int32.ofNat post.mSubHalIndex) events s.proxy.mSensors
  simp only [keeps, Bool.not_eq_true'] at hcount
  have hlength : k < s.posts.length := (List.getElem?_eq_some_iff.mp hk).1
  have hstep : step c s (.processEvents k) = some
      (let out := processEvents (Int32.ofNat post.mSubHalIndex) events s.proxy.mSensors
      { s with
        proxy.mSensors := out.mSensors
        posts := s.posts.set k
          { post with pc := .processed out.eventsOut out.numWakeupEvents } }) := by
    rw [step, System.processEvents, hk, Option.bind_some, hpc]
  refine ⟨_, _, _, hstep, List.getElem?_set_self hlength, ?_⟩
  rw [← hcount, ← hlocked, assertionsHold]
  by_cases hpos :
      0 < (processEvents (Int32.ofNat post.mSubHalIndex) events s.proxy.mSensors).numWakeupEvents
  · -- What is counted is posted, so the wakelock is locked.
    obtain ⟨e, he, hwake, -⟩ := hcount.mp hpos
    have hisSome := hlocked.mpr ⟨e, he, hwake⟩
    simp [hpos, hisSome]
  · simp [hpos]

/-- The sub-HAL posts a batch with a locked wakelock. -/
def postLocked (events : List Event) : System :=
  ((machine sampleConstants).run sampleSession
    [.createScopedWakelock 0, .testThreadsRunning 0 events (some 0)]).getD sampleSession

theorem posts_postLocked :
    (postLocked [wakeUpEvent]).posts[0]?
      = some ⟨0, .tested [wakeUpEvent], some ⟨0, 0⟩, 1⟩ := rfl

theorem assertionsHold_wakeUpEvent :
    ∃ t eventsOut numWakeupEvents,
      step sampleConstants (postLocked [wakeUpEvent]) (.processEvents 0) = some t
      ∧ t.posts[0]? = some ⟨0, .processed eventsOut numWakeupEvents, some ⟨0, 0⟩, 1⟩
      ∧ assertionsHold numWakeupEvents true = true := by
  obtain ⟨t, eventsOut, n, hstep, hpost, hassert⟩ :=
    assertionsHold_iff (c := sampleConstants) posts_postLocked rfl (by decide)
  exact ⟨t, eventsOut, n, hstep, hpost, hassert.mpr (by decide)⟩

/-- A sample of the pick-up sensor is posted with a locked wakelock, and nothing is counted. -/
theorem exists_assertion_fails :
    ¬∀ t eventsOut numWakeupEvents,
      (∃ e ∈ [notPickedUp], wakesUp (postLocked [notPickedUp]).proxy.mSensors 0 e = true) →
      step sampleConstants (postLocked [notPickedUp]) (.processEvents 0) = some t →
      t.posts[0]? = some ⟨0, .processed eventsOut numWakeupEvents, some ⟨0, 0⟩, 1⟩ →
      assertionsHold numWakeupEvents true = true := by
  intro hall
  have hholds := hall _ [] 0 (by decide) rfl rfl
  exact absurd hholds (by decide)

end OnePlus9.HalProxyCallback
