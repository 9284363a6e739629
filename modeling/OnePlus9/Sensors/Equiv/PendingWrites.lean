import OnePlus9.Sensors.PendingWrites
import Mathlib.Data.List.Basic

/-!
# The pending-writes queue as a list of events

`pendingEvents p` are the queued batches laid end to end.  Queueing appends the events left over
(`pendingEvents_pushLeft`) and taking a chunk off drops it from the front
(`pendingEvents_finishWrite`).

`Accounted p` says that `mSizePendingWriteEventsQueue` is the number of those events and that no
batch is empty.  Both operations keep it, so the unsigned subtraction in `finishWrite` never
underflows (`numToWrite_le_size`).

`numWakeUps mSensors` counts the wake-up events of a list; `countNumWakeupEvents` computes it on a
prefix (`countNumWakeupEvents_fst`), whatever entries it inserts into the table on the way.
-/

namespace OnePlus9

variable {ε : Type*}

/-! ### Counting wake-up events -/

section Count

variable [SensorEvent ε]

namespace SensorMap

theorem numWakeUps_append (mSensors : SensorMap) (xs ys : List ε) :
    numWakeUps mSensors (xs ++ ys) = numWakeUps mSensors xs + numWakeUps mSensors ys :=
  List.countP_append

theorem numWakeUps_take_add_drop (mSensors : SensorMap) (xs : List ε) (n : ℕ) :
    numWakeUps mSensors (xs.take n) + numWakeUps mSensors (xs.drop n) = numWakeUps mSensors xs := by
  rw [← numWakeUps_append, List.take_append_drop]

/-- Only the wake-up flags of the table matter. -/
theorem numWakeUps_congr {m m' : SensorMap} (h : m.isWakeUp = m'.isWakeUp) (xs : List ε) :
    numWakeUps m xs = numWakeUps m' xs := by
  rw [numWakeUps, h, numWakeUps]

end SensorMap

open SensorMap

namespace PendingWrites

/-- The recount, started at any number. -/
theorem foldl_count (mSensors : SensorMap) (events : List ε) (start : ℕ) :
    let out := events.foldl
      (fun (x : ℕ × SensorMap) event =>
        let y := x.2.index (SensorEvent.toEvent event).sensorHandle
        (if y.1.flags &&& WAKE_UP != 0 then x.1 + 1 else x.1, y.2))
      (start, mSensors)
    out.1 = start + numWakeUps mSensors events ∧ SensorMap.info out.2 = mSensors.info := by
  induction events generalizing mSensors start with
  | nil => exact ⟨rfl, rfl⟩
  | cons e es ih =>
    have hinfo : SensorMap.info (mSensors.index (SensorEvent.toEvent e).sensorHandle).2
        = mSensors.info := funext fun k => SensorMap.info_index_snd _ _ k
    obtain ⟨hfst, hsnd⟩ := ih (mSensors.index (SensorEvent.toEvent e).sensorHandle).2
      (if (mSensors.index (SensorEvent.toEvent e).sensorHandle).1.flags &&& WAKE_UP != 0
        then start + 1 else start)
    refine ⟨?_, hsnd.trans hinfo⟩
    rw [List.foldl_cons]
    refine hfst.trans ?_
    rw [numWakeUps_congr (isWakeUp_congr hinfo), numWakeUps, numWakeUps, List.countP_cons,
      SensorMap.index_fst, SensorMap.isWakeUp]
    split_ifs <;> omega

/-- **The recount** of a prefix is the number of wake-up events in it. -/
theorem countNumWakeupEvents_fst (mSensors : SensorMap) (events : List ε) (n : ℕ) :
    (countNumWakeupEvents mSensors events n).1 = numWakeUps mSensors (events.take n) := by
  have h := (foldl_count mSensors (events.take n) 0).1
  rw [Nat.zero_add] at h
  exact h

/-- The recount leaves a table that reads the same. -/
theorem info_countNumWakeupEvents (mSensors : SensorMap) (events : List ε) (n : ℕ) :
    SensorMap.info (countNumWakeupEvents mSensors events n).2 = mSensors.info :=
  (foldl_count mSensors (events.take n) 0).2

/-- **Two recounts**, of a prefix and of the rest, the second in the table that the first leaves. -/
theorem countNumWakeupEvents_take_add_drop (mSensors : SensorMap) (events : List ε) (k : ℕ) :
    (countNumWakeupEvents mSensors events k).1
        + (countNumWakeupEvents (countNumWakeupEvents mSensors events k).2 (events.drop k)
            (events.length - k)).1
      = numWakeUps mSensors events := by
  have hwake : isWakeUp (countNumWakeupEvents mSensors events k).2 = mSensors.isWakeUp :=
    isWakeUp_congr (info_countNumWakeupEvents mSensors events k)
  have hrest : (events.drop k).take (events.length - k) = events.drop k :=
    List.take_of_length_le (List.length_drop ▸ Nat.le_refl _)
  rw [countNumWakeupEvents_fst, countNumWakeupEvents_fst, hrest, numWakeUps_congr hwake,
    numWakeUps_take_add_drop]

theorem info_numToGiveBack (mSensors : SensorMap) (events : List ε) (k q : ℕ) :
    SensorMap.info (numToGiveBack mSensors events k q).2 = mSensors.info := by
  unfold numToGiveBack
  split_ifs
  · exact info_countNumWakeupEvents mSensors events q
  · rfl
  · rfl

end PendingWrites

end Count

namespace PendingWrites

/-! ### The posting path -/

variable {p : PendingWrites ε} {numEvents availableToWrite : ℕ} {writeOk : Bool}

theorem numToWrite_le : p.numToWrite numEvents availableToWrite writeOk ≤ numEvents := by
  unfold numToWrite
  dsimp only
  split_ifs <;> omega

/-- While batches are pending nothing is written directly. -/
theorem numToWrite_of_pending (h : p.mPendingWriteEventsQueue ≠ []) :
    p.numToWrite numEvents availableToWrite writeOk = 0 := by
  rw [numToWrite, if_neg]
  simpa using h

theorem triesDirectWrite_of_pending (h : p.mPendingWriteEventsQueue ≠ []) :
    p.triesDirectWrite numEvents availableToWrite = false := by
  have hempty : p.mPendingWriteEventsQueue.isEmpty = false := by simpa using h
  rw [triesDirectWrite, hempty, Bool.false_and]

variable {kMax n k : ℕ} {events : List ε}

theorem pendingEvents_pushLeft :
    (p.pushLeft kMax events k n).pendingEvents
      = p.pendingEvents ++ if p.queuesLeft kMax events.length n then events.drop n else [] := by
  unfold pushLeft
  split_ifs
  · simp [pendingEvents]
  · rw [List.append_nil]

/-- Nothing is written directly to a full event queue. -/
@[simp] theorem numToWrite_full : p.numToWrite numEvents 0 writeOk = 0 := by
  rw [numToWrite, Nat.min_zero]
  split_ifs <;> rfl

/-- Nothing of an empty batch is written. -/
theorem numToWrite_zero : p.numToWrite 0 availableToWrite writeOk = 0 :=
  Nat.le_zero.mp numToWrite_le

theorem pushLeft_of_refused (h : p.queuesLeft kMax events.length n = false) :
    p.pushLeft kMax events k n = p := by
  rw [pushLeft, h]
  rfl

/-- Nothing of an empty batch is queued. -/
theorem pushLeft_nil : p.pushLeft kMax [] k 0 = p := by
  apply pushLeft_of_refused
  rw [queuesLeft]
  rfl

theorem queuesLeft_eq_false
    (h : kMax < (p.mSizePendingWriteEventsQueue + (numEvents - n)) % sizeModulus) :
    p.queuesLeft kMax numEvents n = false := by
  rw [queuesLeft, decide_eq_false (Nat.not_le.mpr h), Bool.and_false]

/-- Queueing leaves the batches already queued in place. -/
theorem isPrefix_pushLeft :
    p.mPendingWriteEventsQueue <+: (p.pushLeft kMax events k n).mPendingWriteEventsQueue := by
  unfold pushLeft
  split_ifs
  · exact List.prefix_append _ _
  · exact List.prefix_rfl

/-- What is queued is the end of the batch, with its number. -/
theorem mem_pushLeft {batch : List ε × ℕ}
    (h : batch ∈ (p.pushLeft kMax events k n).mPendingWriteEventsQueue) :
    batch ∈ p.mPendingWriteEventsQueue ∨ batch = (events.drop n, k) := by
  unfold pushLeft at h
  split_ifs at h
  · rcases List.mem_append.mp h with hold | hnew
    · exact Or.inl hold
    · exact Or.inr (List.mem_singleton.mp hnew)
  · exact Or.inl h

/-! ### The pending-writes thread -/

variable {front : List ε} {stored q : ℕ} {rest : List (List ε × ℕ)}

/-- Taking the chunk off drops it from the front of the pending events. -/
theorem pendingEvents_finishWrite (h : p.mPendingWriteEventsQueue = (front, stored) :: rest) :
    (p.finishWrite q (min front.length q)).pendingEvents
      = p.pendingEvents.drop (min front.length q) := by
  unfold finishWrite pendingEvents
  rw [h]
  simp only [List.flatMap_cons]
  split_ifs with hlong
  · have hle : q ≤ front.length := Nat.le_of_lt hlong
    rw [List.flatMap_cons, Nat.min_eq_right hle, List.drop_append_of_le_length hle]
  · rw [Nat.min_eq_left (Nat.not_lt.mp hlong), List.drop_left]

/-- What is left in the queue is the end of a batch, with the number of the whole. -/
theorem mem_finishWrite {batch : List ε × ℕ} {m : ℕ}
    (h : batch ∈ (p.finishWrite q m).mPendingWriteEventsQueue) :
    ∃ batch' ∈ p.mPendingWriteEventsQueue, batch.1 <:+ batch'.1 ∧ batch.2 = batch'.2 := by
  unfold finishWrite at h
  rcases hq : p.mPendingWriteEventsQueue with _ | ⟨⟨front, stored⟩, rest⟩
  · rw [hq] at h
    dsimp only at h
    rw [hq] at h
    exact nomatch h
  · rw [hq] at h
    dsimp only at h
    split_ifs at h
    · rcases List.mem_cons.mp h with rfl | hrest
      · exact ⟨(front, stored), List.mem_cons_self, List.drop_suffix q front, rfl⟩
      · exact ⟨batch, List.mem_cons_of_mem _ hrest, List.suffix_rfl, rfl⟩
    · exact ⟨batch, List.mem_cons_of_mem _ h, List.suffix_rfl, rfl⟩

/-- The chunk is the head of the pending events. -/
theorem take_pendingEvents (h : p.mPendingWriteEventsQueue = (front, stored) :: rest) :
    p.pendingEvents.take (min front.length q) = front.take q := by
  unfold pendingEvents
  rw [h, List.flatMap_cons, List.take_append_of_le_length (Nat.min_le_left _ _), Nat.min_comm,
    ← List.take_eq_take_min]

/-! ### Accounting -/

/-- The size field counts the pending events, and no batch is empty. -/
structure Accounted (p : PendingWrites ε) : Prop where
  size : p.mSizePendingWriteEventsQueue = p.pendingEvents.length
  bounded : p.mSizePendingWriteEventsQueue < sizeModulus
  nonempty : ∀ batch ∈ p.mPendingWriteEventsQueue, batch.1 ≠ []

theorem accounted_of_empty (hqueue : p.mPendingWriteEventsQueue = [])
    (hsize : p.mSizePendingWriteEventsQueue = 0) : Accounted p where
  size := by rw [hsize, pendingEvents, hqueue]; rfl
  bounded := by rw [hsize]; exact Nat.two_pow_pos 64
  nonempty := by rw [hqueue]; exact fun _ hbatch => nomatch hbatch

/-- Queueing keeps the account, as long as the events fit the address space. -/
theorem Accounted.pushLeft (h : Accounted p)
    (hroom : p.pendingEvents.length + events.length < sizeModulus) :
    Accounted (p.pushLeft kMax events k n) := by
  have hmod : (p.mSizePendingWriteEventsQueue + (events.length - n)) % sizeModulus
      = p.pendingEvents.length + (events.length - n) := by
    rw [h.size, Nat.mod_eq_of_lt (by omega)]
  unfold PendingWrites.pushLeft
  split_ifs with hq
  · have hlt : n < events.length := by
      simp only [queuesLeft, Bool.and_eq_true, decide_eq_true_eq] at hq
      exact hq.1
    constructor
    · dsimp only
      rw [hmod]
      simp [pendingEvents]
    · dsimp only
      omega
    · intro batch hbatch
      rcases List.mem_append.mp hbatch with hold | hnew
      · exact h.nonempty batch hold
      · rw [List.mem_singleton] at hnew
        subst hnew
        simpa using hlt
  · exact h

/-- Where a batch is queued, an event is pending. -/
theorem Accounted.length_pos (h : Accounted p) (hq : p.mPendingWriteEventsQueue ≠ []) :
    0 < p.pendingEvents.length := by
  obtain ⟨batch, hbatch⟩ := List.exists_mem_of_ne_nil _ hq
  obtain ⟨e, he⟩ := List.exists_mem_of_ne_nil _ (h.nonempty batch hbatch)
  exact List.length_pos_of_mem (List.mem_flatMap.mpr ⟨batch, hbatch, he⟩)

/-- Queueing keeps the maximum. -/
theorem size_pushLeft_le (h : p.mSizePendingWriteEventsQueue ≤ kMax) :
    (p.pushLeft kMax events k n).mSizePendingWriteEventsQueue ≤ kMax := by
  unfold pushLeft
  split_ifs with hq
  · simp only [queuesLeft, Bool.and_eq_true, decide_eq_true_eq] at hq
    exact hq.2
  · exact h

/-- The unsigned subtraction of `finishWrite` does not underflow. -/
theorem Accounted.numToWrite_le_size (h : Accounted p)
    (hq : p.mPendingWriteEventsQueue = (front, stored) :: rest) :
    min front.length q ≤ p.mSizePendingWriteEventsQueue := by
  rw [h.size, pendingEvents, hq, List.flatMap_cons, List.length_append]
  exact Nat.le_trans (Nat.min_le_left _ _) (Nat.le_add_right _ _)

/-- It subtracts the length of the chunk. -/
theorem Accounted.size_finishWrite (h : Accounted p)
    (hq : p.mPendingWriteEventsQueue = (front, stored) :: rest) :
    (p.finishWrite q (min front.length q)).mSizePendingWriteEventsQueue
      = p.mSizePendingWriteEventsQueue - min front.length q := by
  have hle := h.numToWrite_le_size (q := q) hq
  have hbound := h.bounded
  unfold PendingWrites.finishWrite
  rw [hq]
  dsimp only
  rw [Nat.sub_add_comm hle, Nat.add_mod_right, Nat.mod_eq_of_lt (by omega)]

theorem Accounted.finishWrite (h : Accounted p)
    (hq : p.mPendingWriteEventsQueue = (front, stored) :: rest) :
    Accounted (p.finishWrite q (min front.length q)) := by
  have hsize := h.size_finishWrite (q := q) hq
  constructor
  · rw [pendingEvents_finishWrite hq, List.length_drop, hsize, h.size]
  · rw [hsize]
    exact Nat.lt_of_le_of_lt (Nat.sub_le _ _) h.bounded
  · intro batch hbatch
    have hrest : ∀ batch ∈ rest, batch.1 ≠ [] := fun b hb =>
      h.nonempty b (hq ▸ List.mem_cons_of_mem _ hb)
    unfold PendingWrites.finishWrite at hbatch
    rw [hq] at hbatch
    dsimp only at hbatch
    split_ifs at hbatch with hlong
    · rcases List.mem_cons.mp hbatch with rfl | hb
      · simpa using hlong
      · exact hrest batch hb
    · exact hrest batch hbatch

end PendingWrites

end OnePlus9
