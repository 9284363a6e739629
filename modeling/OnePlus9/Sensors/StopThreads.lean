import OnePlus9.Library.ConditionVariable
import OnePlus9.Library.Machine

/-!
# Stopping the worker threads

`System` takes the wait of a worker loop for one step.  This file looks closer: `wait` tests its
predicate, blocks and is notified in separate steps, and `stopThreads` runs statement by statement.
The data are cut down to what the predicates read.

The two worker loops have one shape (`Worker.step`): while the threads run, wait until there is work
or the threads are to stop, and then work, for the most part without the mutex.  Other threads
change whether there is work while they have the mutex, and may notify then (`Worker.others`).
`stopThreads` has no mutex: it clears `mThreadsRun`, notifies both condition variables and joins.
-/

namespace OnePlus9

open ConditionVariable

/-- Where `handlePendingWrites` or `handleWakelocks` is. -/
inductive WorkerPc where
  /-- About to lock the mutex, at the beginning. -/
  | locking
  /-- At the test of the loop. -/
  | loopTest
  /-- In `wait`, or past it and at the test of `mThreadsRun`. -/
  | waiting (pc : WaitPc)
  /-- In `writeBlocking` or `readBlocking`, without the mutex. -/
  | working
  /-- About to lock the mutex again. -/
  | relocking
  /-- The thread has ended, or does not exist. -/
  | exited
  deriving DecidableEq, Repr

namespace WorkerPc

/-- A notification of the worker's condition variable. -/
def notify : WorkerPc → WorkerPc
  | waiting pc => waiting pc.notify
  | pc => pc

/-- Whether the worker has its mutex. -/
def holdsMutex : WorkerPc → Bool
  | loopTest => true
  | waiting pc => pc.holdsMutex
  | _ => false

end WorkerPc

/-- A worker thread. -/
structure Worker where
  pc : WorkerPc
  /-- `!mPendingWriteEventsQueue.empty()` or `mWakelockRefCount > 0`. -/
  hasWork : Bool
  deriving DecidableEq, Repr

namespace Worker

/-- The next step of a worker.  `unlocks` is whether it releases the mutex to work (the wakelock
thread does not where the wakelock has timed out), and `hasWork` whether there is work left after
it. -/
def step (mThreadsRun unlocks hasWork : Bool) (w : Worker) : Option Worker :=
  match w.pc with
  | .locking => some { w with pc := .loopTest }
  | .loopTest => some { w with pc := if mThreadsRun then .waiting .test else .exited }
  | .waiting .passed =>
    -- The second test of `mThreadsRun`: the predicate may have held for the work alone.
    if mThreadsRun then
      if unlocks then some { w with pc := .working }
      else some { pc := .loopTest, hasWork := hasWork }
    else some { w with pc := .loopTest }
  | .waiting pc =>
    (pc.step (w.hasWork || !mThreadsRun)).map fun pc => { w with pc := .waiting pc }
  | .working => some { w with pc := .relocking }
  | .relocking => some { pc := .loopTest, hasWork := hasWork }
  | .exited => none

/-- What another thread does with the worker's mutex.  A notification without a change is also how
`wait` wakes up for no reason. -/
def others (hasWork notify : Bool) (w : Worker) : Option Worker :=
  if w.pc.holdsMutex then none
  else
    some
      { pc := if notify then w.pc.notify else w.pc
        hasWork := hasWork }

end Worker

/-- Where `stopThreads` is. -/
inductive StopPc where
  /-- Not called. -/
  | idle
  /-- `mThreadsRun` is cleared; about to wake the event flags. -/
  | wakingFlags
  /-- At `mWakelockCV.notify_one()`. -/
  | notifyingWakelock
  /-- At `mEventQueueWriteCV.notify_one()`. -/
  | notifyingEventQueueWrite
  | joiningPendingWrites
  | joiningWakelock
  /-- Both threads are joined. -/
  | joined
  deriving DecidableEq, Repr

/-- The threads, as far as it matters for stopping them. -/
structure ThreadControl where
  mThreadsRun : Bool
  pendingWritesThread : Worker
  wakelockThread : Worker
  stopper : StopPc
  deriving DecidableEq, Repr

namespace ThreadControl

/-- Who takes the next step. -/
inductive Action where
  | handlePendingWrites (hasWork : Bool)
  | handleWakelocks (unlocks hasWork : Bool)
  /-- Another thread, with `mEventQueueWriteMutex`. -/
  | withEventQueueWriteMutex (hasWork notify : Bool)
  /-- Another thread, with `mWakelockMutex`. -/
  | withWakelockMutex (hasWork notify : Bool)
  | stopThreads
  | startThreads
  deriving Repr

/-- A freshly constructed proxy has no threads. -/
def start : ThreadControl where
  mThreadsRun := false
  pendingWritesThread := ⟨.exited, false⟩
  wakelockThread := ⟨.exited, false⟩
  stopper := .idle

/-- The next statement of `stopThreads`. -/
def stopThreads (s : ThreadControl) : Option ThreadControl :=
  match s.stopper with
  | .idle => some { s with mThreadsRun := false, stopper := .wakingFlags }
  | .wakingFlags => some { s with stopper := .notifyingWakelock }
  | .notifyingWakelock =>
    some
      { s with
        wakelockThread.pc := s.wakelockThread.pc.notify
        stopper := .notifyingEventQueueWrite }
  | .notifyingEventQueueWrite =>
    some
      { s with
        pendingWritesThread.pc := s.pendingWritesThread.pc.notify
        stopper := .joiningPendingWrites }
  -- A thread that does not exist is not joinable, and the statement does nothing.
  | .joiningPendingWrites =>
    if s.pendingWritesThread.pc = .exited then some { s with stopper := .joiningWakelock } else none
  | .joiningWakelock =>
    if s.wakelockThread.pc = .exited then some { s with stopper := .joined } else none
  | .joined => none

/-- `initializeCommon` sets `mThreadsRun` and starts both threads again. -/
def startThreads (s : ThreadControl) : Option ThreadControl :=
  if s.stopper = .joined then
    some
      { mThreadsRun := true
        pendingWritesThread := { s.pendingWritesThread with pc := .locking }
        wakelockThread := { s.wakelockThread with pc := .locking }
        stopper := .idle }
  else none

def step (s : ThreadControl) : Action → Option ThreadControl
  | .handlePendingWrites hasWork =>
    (s.pendingWritesThread.step s.mThreadsRun true hasWork).map fun w =>
      { s with pendingWritesThread := w }
  | .handleWakelocks unlocks hasWork =>
    (s.wakelockThread.step s.mThreadsRun unlocks hasWork).map fun w =>
      { s with wakelockThread := w }
  | .withEventQueueWriteMutex hasWork notify =>
    (s.pendingWritesThread.others hasWork notify).map fun w => { s with pendingWritesThread := w }
  | .withWakelockMutex hasWork notify =>
    (s.wakelockThread.others hasWork notify).map fun w => { s with wakelockThread := w }
  | .stopThreads => s.stopThreads
  | .startThreads => s.startThreads

/-- The interleavings. -/
def machine : Machine ThreadControl Action := ⟨step⟩

end ThreadControl

end OnePlus9
