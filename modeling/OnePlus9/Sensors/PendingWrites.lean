import OnePlus9.Sensors.Types
import Mathlib.Algebra.Group.Nat.Defs

/-!
# The event queue and the pending-writes queue

Posted events go to the framework through a fast message queue, `mEventQueue`.  What does not fit
is kept in `mPendingWriteEventsQueue`, a queue of batches, each with the number of wake-up events
it was posted with, and written later by the pending-writes thread.  This file has the pieces of
`postEventsToMessageQueue` and of `handlePendingWrites` that touch these two queues; every
definition is a run of statements of one of the two functions, in order.

How much the message queue takes and whether a write succeeds are the environment's choices
(`availableToWrite`, `writeOk`).  `mSizePendingWriteEventsQueue` is a `size_t` and is computed
modulo `2 ^ 64`: `initializeCommon` zeroes it without the lock, so that it can fall out of step
with the queue and wrap around.
-/

namespace OnePlus9

/-- `mEventQueue`, as its writer sees it. -/
structure EventMessageQueue (ε : Type*) where
  /-- `getQuantumCount()`, the capacity of the queue. -/
  quantumCount : ℕ
  /-- Every event written so far, oldest first. -/
  written : List ε

/-- A successful `write` or `writeBlocking`. -/
def EventMessageQueue.write {ε : Type*} (events : List ε) (q : EventMessageQueue ε) :
    EventMessageQueue ε :=
  { q with written := q.written ++ events }

/-- One more than the largest `size_t`. -/
def sizeModulus : ℕ := 2 ^ 64

/-- The pending-writes fields of `HalProxy`. -/
structure PendingWrites (ε : Type*) where
  mPendingWriteEventsQueue : List (List ε × ℕ)
  mSizePendingWriteEventsQueue : ℕ
  mMostEventsObservedPendingWriteEventsQueue : ℕ

namespace PendingWrites

variable {ε : Type*}

/-- No pending events. -/
def empty : PendingWrites ε where
  mPendingWriteEventsQueue := []
  mSizePendingWriteEventsQueue := 0
  mMostEventsObservedPendingWriteEventsQueue := 0

/-- The queued batches, laid end to end. -/
def pendingEvents (p : PendingWrites ε) : List ε := p.mPendingWriteEventsQueue.flatMap Prod.fst

/-! ### `postEventsToMessageQueue` -/

/-- `numToWrite` after the direct write was tried: the number of events of the batch written
directly.  Nothing is written directly while batches are pending. -/
def numToWrite (p : PendingWrites ε) (numEvents availableToWrite : ℕ) (writeOk : Bool) : ℕ :=
  if p.mPendingWriteEventsQueue.isEmpty then
    let numToWrite := min numEvents availableToWrite
    if numToWrite > 0 then
      -- The event queue takes all of it or nothing.
      if writeOk then numToWrite else 0
    else 0
  else 0

/-- Whether `mEventQueue->write` is called at all. -/
def triesDirectWrite (p : PendingWrites ε) (numEvents availableToWrite : ℕ) : Bool :=
  p.mPendingWriteEventsQueue.isEmpty && decide (min numEvents availableToWrite > 0)

/-- Whether the events left over are queued: there are some, and they fit. -/
def queuesLeft (kMaxSizePendingWriteEventsQueue : ℕ) (p : PendingWrites ε)
    (numEvents numToWrite : ℕ) : Bool :=
  let numLeft := numEvents - numToWrite
  decide (numToWrite < numEvents) &&
    decide ((p.mSizePendingWriteEventsQueue + numLeft) % sizeModulus
      ≤ kMaxSizePendingWriteEventsQueue)

/-- Queue the events left over, with the number of wake-up events of the batch. -/
def pushLeft (kMaxSizePendingWriteEventsQueue : ℕ) (events : List ε)
    (numWakeupEvents numToWrite : ℕ) (p : PendingWrites ε) : PendingWrites ε :=
  if p.queuesLeft kMaxSizePendingWriteEventsQueue events.length numToWrite then
    let numLeft := events.length - numToWrite
    let eventsLeft := events.drop numToWrite
    let size := (p.mSizePendingWriteEventsQueue + numLeft) % sizeModulus
    { mPendingWriteEventsQueue := p.mPendingWriteEventsQueue ++ [(eventsLeft, numWakeupEvents)]
      mSizePendingWriteEventsQueue := size
      mMostEventsObservedPendingWriteEventsQueue :=
        max p.mMostEventsObservedPendingWriteEventsQueue size }
  else p

/-! ### `handlePendingWrites` -/

/-- After the blocking write, with the lock taken again: take the chunk off the queue.  The whole
front batch is popped unless it is longer than the event queue, which loses its head. -/
def finishWrite (eventQueueSize numToWrite : ℕ) (p : PendingWrites ε) : PendingWrites ε :=
  match p.mPendingWriteEventsQueue with
  | [] => p
  | (pendingWriteEvents, numWakeupEvents) :: rest =>
    { p with
      mSizePendingWriteEventsQueue :=
        (p.mSizePendingWriteEventsQueue + sizeModulus - numToWrite) % sizeModulus
      mPendingWriteEventsQueue :=
        -- `erase` keeps the number stored with the batch.
        if pendingWriteEvents.length > eventQueueSize then
          (pendingWriteEvents.drop eventQueueSize, numWakeupEvents) :: rest
        else rest }

/-- `countNumWakeupEvents`, with the sensor table it leaves behind. -/
def countNumWakeupEvents [SensorEvent ε] (mSensors : SensorMap) (events : List ε) (n : ℕ) :
    ℕ × SensorMap :=
  (events.take n).foldl
    (fun (numWakeupEvents, mSensors) event =>
      let (sensor, mSensors) := mSensors.index (SensorEvent.toEvent event).sensorHandle
      (if sensor.flags &&& WAKE_UP != 0 then numWakeupEvents + 1 else numWakeupEvents, mSensors))
    (0, mSensors)

/-- How many claims are given back after a failed blocking write of the front batch, with the
sensor table the recount leaves behind. -/
def numToGiveBack [SensorEvent ε] (mSensors : SensorMap) (pendingWriteEvents : List ε)
    (numWakeupEvents eventQueueSize : ℕ) : ℕ × SensorMap :=
  if numWakeupEvents > 0 then
    if pendingWriteEvents.length > eventQueueSize then
      countNumWakeupEvents mSensors pendingWriteEvents eventQueueSize
    -- The last chunk of a batch: whatever number is stored with it.
    else (numWakeupEvents, mSensors)
  else (0, mSensors)

end PendingWrites

end OnePlus9
