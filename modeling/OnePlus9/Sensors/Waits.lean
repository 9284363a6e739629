import OnePlus9.Library.ConditionVariable
import OnePlus9.Sensors.System

/-!
# The waits of the worker threads

`System` takes the wait of a worker loop for a single step, which is there whenever the predicate
holds.  In the source the thread blocks on a condition variable and depends on being notified.
`Waits` is the same system with the waits taken apart, `System` with a `WaitPc` for each of the two
threads:

* a thread that waits takes the steps of `ConditionVariable.WaitPc.step`, and has its mutex in some
  of them, so that other threads have to wait for it;
* whoever queues a batch or makes the first claim notifies, under the mutex;
* `notify_one` may also come from nowhere.  That covers the notifications of `stopThreads` and
  wake-ups for no reason.
-/

namespace OnePlus9

open ConditionVariable

/-- The system, and where its two threads are while they wait. -/
structure Waits where
  system : System
  /-- Where `mEventQueueWriteCV.wait` is, while the pending-writes thread waits. -/
  writer : WaitPc
  /-- Where `mWakelockCV.wait` is, while the wakelock thread waits. -/
  wakelockThread : WaitPc

namespace Waits

/-- Who takes the next step. -/
inductive ThreadStep where
  /-- A step outside of the waits, or out of one. -/
  | system (a : Action)
  /-- A step of the pending-writes thread in its wait. -/
  | waitForWrites
  /-- A step of the wakelock thread in its wait. -/
  | waitForClaims
  | notifyEventQueueWriteCV
  | notifyWakelockCV

/-- Neither thread exists. -/
def start (subHalList : List SubHalWrapper) : Waits := ⟨.start subHalList, .test, .test⟩

/-! ### What a step needs -/

/-- Whether the pending-writes thread has `mEventQueueWriteMutex` in its wait. -/
def writerHasMutex (w : Waits) : Bool := w.system.writer = .waiting ∧ w.writer.holdsMutex

/-- Whether the wakelock thread has `mWakelockMutex` in its wait. -/
def wakelockThreadHasMutex (w : Waits) : Bool :=
  w.system.wakelockThread = .waiting ∧ w.wakelockThread.holdsMutex

/-- Whether a step of another thread takes `mEventQueueWriteMutex`. -/
def takesEventQueueWriteMutex : Action → Bool
  | .postEventsToMessageQueue .. => true
  | _ => false

/-- Whether a step of another thread takes `mWakelockMutex`, to count claims or to give some back.
While the threads do not run both return before they take it. -/
def takesWakelockMutex (s : System) : Action → Bool
  | .createScopedWakelock _ | .destroyScopedWakelock _ => s.proxy.mThreadsRun
  | .postEventsToMessageQueue k .. =>
    s.proxy.mThreadsRun && s.posts[k]?.any fun post => post.wakelock.isSome
  | .handlePendingWrites _ =>
    s.proxy.mThreadsRun && (match s.writer with | .failed .. => true | _ => false)
  | _ => false

/-- A thread leaves its wait only when that has returned, and a mutex is taken only when it is
free. -/
def allows (w : Waits) (a : Action) : Bool :=
  !(takesEventQueueWriteMutex a && w.writerHasMutex)
    && !(takesWakelockMutex w.system a && w.wakelockThreadHasMutex)
    && (match a with
      | .handlePendingWrites _ => w.system.writer ≠ .waiting || w.writer = .passed
      | .handleWakelocks .. => w.system.wakelockThread ≠ .waiting || w.wakelockThread = .passed
      | _ => true)

/-! ### What a step notifies -/

/-- `postEventsToMessageQueue` notifies `mEventQueueWriteCV` if it queues what is left of the
batch. -/
def notifiesWriter (c : Constants) (s : System) : Action → Bool
  | .postEventsToMessageQueue k availableToWrite writeOk _ =>
    s.posts[k]?.any fun post =>
      match post.pc with
      | .tested _ => false
      | .processed eventsOut _ =>
        s.proxy.pendingWrites.queuesLeft c.kMaxSizePendingWriteEventsQueue eventsOut.length
          (s.proxy.pendingWrites.numToWrite eventsOut.length availableToWrite writeOk)
  | _ => false

/-- `incrementRefCountAndMaybeAcquireWakelock` notifies `mWakelockCV` if nothing was counted. -/
def notifiesWakelockThread (s : System) : Action → Bool
  | .createScopedWakelock _ => s.proxy.mThreadsRun && s.proxy.wakelock.mWakelockRefCount = 0
  | .postEventsToMessageQueue k .. =>
    s.proxy.mThreadsRun && s.proxy.wakelock.mWakelockRefCount = 0
      && s.posts[k]?.any fun post => post.wakelock.isSome
  | _ => false

/-- Where the pending-writes thread is in its wait after a step that leads to `t`. -/
def writerAfter (c : Constants) (w : Waits) (t : System) : Action → WaitPc
  -- The thread comes back to its wait with the mutex.
  | .handlePendingWrites _ => .test
  -- A new thread begins by taking the mutex.
  | .initStage _ =>
    if w.system.writer ≠ .waiting ∧ t.writer = .waiting then .notified else w.writer
  | a => if notifiesWriter c w.system a then w.writer.notify else w.writer

/-- Where the wakelock thread is in its wait after a step that leads to `t`. -/
def wakelockThreadAfter (w : Waits) (t : System) : Action → WaitPc
  | .handleWakelocks .. => .test
  | .initStage _ =>
    if w.system.wakelockThread ≠ .waiting ∧ t.wakelockThread = .waiting then .notified
    else w.wakelockThread
  | a => if notifiesWakelockThread w.system a then w.wakelockThread.notify else w.wakelockThread

/-! ### All steps -/

/-- The predicate of the pending-writes thread. -/
def hasWrites (s : System) : Bool :=
  !s.proxy.pendingWrites.mPendingWriteEventsQueue.isEmpty || !s.proxy.mThreadsRun

/-- The predicate of the wakelock thread. -/
def hasClaims (s : System) : Bool :=
  decide (s.proxy.wakelock.mWakelockRefCount > 0) || !s.proxy.mThreadsRun

/-- One step of one thread. -/
def step (c : Constants) (w : Waits) : ThreadStep → Option Waits
  | .system a =>
    if w.allows a then
      (System.step c w.system a).map fun t =>
        { system := t
          writer := w.writerAfter c t a
          wakelockThread := w.wakelockThreadAfter t a }
    else none
  | .waitForWrites =>
    if w.system.writer = .waiting then
      (w.writer.step (hasWrites w.system)).map fun pc => { w with writer := pc }
    else none
  | .waitForClaims =>
    if w.system.wakelockThread = .waiting then
      (w.wakelockThread.step (hasClaims w.system)).map fun pc => { w with wakelockThread := pc }
    else none
  | .notifyEventQueueWriteCV => some { w with writer := w.writer.notify }
  | .notifyWakelockCV => some { w with wakelockThread := w.wakelockThread.notify }

/-- The interleavings. -/
def machine (c : Constants) : Machine Waits ThreadStep := ⟨step c⟩

end Waits

end OnePlus9
