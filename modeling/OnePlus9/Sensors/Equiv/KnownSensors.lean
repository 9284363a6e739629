import OnePlus9.Sensors.Equiv.PendingWrites
import OnePlus9.Sensors.Equiv.ProcessEvents
import OnePlus9.Sensors.Equiv.Session

/-!
# Wake-up events of static and of dynamic sensors

Wake-up events are counted twice: `processEvents` counts what it emits, and `countNumWakeupEvents`
recounts a chunk that could not be written.  A sensor is known if it is in `mSensors` or in
`mDynamicSensors`, and `disableAllSensors` goes through both tables.  The counters look at
`mSensors` only, where a dynamic sensor has no flags.

So each counter is right for what it counts if and only if none of its events is of a sensor that
has the `WAKE_UP` flag in `mDynamicSensors` alone (`countsKnown_iff`).
-/

namespace OnePlus9

/-! ### Two predicates on a list -/

/-- Where one predicate implies another, they count the same if and only if they agree on every
element. -/
theorem countP_eq_iff_of_imp {α : Type*} {p q : α → Bool} (hpq : ∀ x, p x = true → q x = true)
    (xs : List α) : xs.countP p = xs.countP q ↔ ∀ x ∈ xs, q x = true → p x = true := by
  induction xs with
  | nil => simp
  | cons x xs ih =>
    have hle : xs.countP p ≤ xs.countP q := List.countP_mono_left fun x _ => hpq x
    rw [List.countP_cons, List.countP_cons, List.forall_mem_cons, ← ih]
    cases hq : q x with
    | false =>
      have hp : p x = false := by
        rw [← Bool.not_eq_true]
        intro hp
        exact Bool.false_ne_true (hq.symm.trans (hpq x hp))
      simp [hp]
    | true =>
      cases hp : p x with
      | false =>
        simp only [Bool.false_eq_true, if_false, if_true]
        constructor
        · intro heq
          omega
        · rintro ⟨himp, -⟩
          exact (himp trivial).elim
      | true => simp

/-! ### Known sensors -/

/-- The sensor has the `WAKE_UP` flag. -/
def SensorInfo.isWakeUp (info : SensorInfo) : Bool := info.flags &&& WAKE_UP != 0

/-- The flag of a lookup is the flag of the entry, if there is one. -/
theorem SensorMap.isWakeUp_eq_any (m : SensorMap) (h : Int32) :
    m.isWakeUp h = m[h]?.any SensorInfo.isWakeUp := by
  unfold isWakeUp info
  cases m[h]? with
  | none => decide
  | some info => rfl

namespace HalProxy

variable {ε : Type*} {p : HalProxy ε}

/-- The handle is of a static or of a connected dynamic sensor with the `WAKE_UP` flag. -/
def knownWakeUp (p : HalProxy ε) (sensorHandle : Int32) : Bool :=
  p.mSensors[sensorHandle]?.any SensorInfo.isWakeUp
    || p.mDynamicSensors[sensorHandle]?.any SensorInfo.isWakeUp

/-- It has the flag as a dynamic sensor, and not as a static one. -/
def dynamicWakeUp (p : HalProxy ε) (sensorHandle : Int32) : Bool :=
  p.mDynamicSensors[sensorHandle]?.any SensorInfo.isWakeUp
    && !p.mSensors[sensorHandle]?.any SensorInfo.isWakeUp

/-- Counting by `mSensors` misses the dynamic sensors alone. -/
theorem countP_isWakeUp_iff {α : Type*} (handle : α → Int32) (events : List α) :
    events.countP (fun e => p.mSensors.isWakeUp (handle e))
        = events.countP (fun e => p.knownWakeUp (handle e))
      ↔ ∀ e ∈ events, p.dynamicWakeUp (handle e) = false := by
  rw [countP_eq_iff_of_imp]
  · apply forall₂_congr
    intro e _
    rw [knownWakeUp, dynamicWakeUp, SensorMap.isWakeUp_eq_any]
    cases p.mSensors[handle e]?.any SensorInfo.isWakeUp <;> simp
  · intro e hwake
    rw [knownWakeUp, ← SensorMap.isWakeUp_eq_any, hwake, Bool.true_or]

/-- **Every wake-up event is counted**, by `processEvents` and by `countNumWakeupEvents`, if and
only if none of those they look at has the flag as a dynamic sensor only. -/
theorem countsKnown_iff (p : HalProxy ε) (i : Int32) (events : List Event) {α : Type*}
    [SensorEvent α] (queued : List α) (n : ℕ) :
    ((HalProxyCallback.processEvents i events p.mSensors).numWakeupEvents
        = (HalProxyCallback.processEvents i events p.mSensors).eventsOut.countP
          (fun e => p.knownWakeUp e.sensorHandle)
      ↔ ∀ e ∈ events, HalProxyCallback.keeps p.mSensors (HalProxyCallback.tagEvent i e) = true →
        p.dynamicWakeUp (HalProxyCallback.tagEvent i e).sensorHandle = false)
    ∧ ((PendingWrites.countNumWakeupEvents p.mSensors queued n).1
        = (queued.take n).countP (fun e => p.knownWakeUp (SensorEvent.toEvent e).sensorHandle)
      ↔ ∀ e ∈ queued.take n, p.dynamicWakeUp (SensorEvent.toEvent e).sensorHandle = false) := by
  constructor
  · rw [HalProxyCallback.numWakeupEvents_processEvents, countP_isWakeUp_iff,
      HalProxyCallback.forall_mem_eventsOut]
  · rw [PendingWrites.countNumWakeupEvents_fst, SensorMap.numWakeUps, countP_isWakeUp_iff]

end HalProxy

/-! ### A dynamic sensor that wakes up -/

namespace System

/-- An event of a dynamic sensor, with its tagged handle. -/
def dynamicWakeUpEvent : Event := ⟨7, .other 17, ⟨0, 0, []⟩⟩

/-- A sub-HAL connects a dynamic sensor with the `WAKE_UP` flag and posts an event of it. -/
def postOfDynamicWakeUp : List Action :=
  initialization sampleArgs ++
    [.perform (.onDynamicSensorsConnected
        [⟨7, .other 17, "android.sensor.significant_motion", WAKE_UP⟩] 0),
      .testThreadsRunning 0 [dynamicWakeUpEvent] none, .processEvents 0]

/-- The event is not counted. -/
theorem exists_uncounted_wakeUp :
    ¬∀ t post events n,
      (machine sampleConstants).Visits (start [pickUpSubHal]) postOfDynamicWakeUp t →
      t.posts[0]? = some post → post.pc = .processed events n →
      n = events.countP fun e => t.proxy.knownWakeUp e.sensorHandle := by
  intro hall
  obtain ⟨t, hvisits, ht⟩ := (machine sampleConstants).exists_visits (start [pickUpSubHal])
    postOfDynamicWakeUp (fun t => (t.posts[0]?, t.proxy.knownWakeUp 7))
    (some ⟨0, .processed [dynamicWakeUpEvent] 0, none, 1⟩, true) rfl
  obtain ⟨hpost, hknown⟩ := Prod.mk.inj ht
  have hcount := hall t _ _ _ hvisits hpost rfl
  have hone : [dynamicWakeUpEvent].countP (fun e => t.proxy.knownWakeUp e.sensorHandle) = 1 :=
    List.countP_eq_length.mpr fun e he => by rw [List.mem_singleton.mp he]; exact hknown
  rw [hone] at hcount
  exact absurd hcount (by decide)

end System

end OnePlus9
