import OnePlus9.Library.Machine
import OnePlus9.Sensors.HalProxy
import OnePlus9.Sensors.ProcessEvents

/-!
# The running system

The proxy runs with several threads: the sub-HALs' threads create and destroy `ScopedWakelock`s
and post batches, the pending-writes thread (`handlePendingWrites`) writes what was queued, the
wakelock thread (`handleWakelocks`) reads acknowledgements and times the wakelock out, and the
framework calls `initialize`, which stops and restarts the two threads.

`System` is the state of all of them and `machine c` their interleavings.  A step is what one
thread does while it holds a mutex, or between two such sections:

* `postEvents` is three steps: the test of `areThreadsRunning`, `processEvents`, and
  `postEventsToMessageQueue`;
* a turn of `handlePendingWrites` leaves the wait, picks a chunk, writes it without the lock, gives
  claims back if that failed, and takes the chunk off the queue;
* a turn of `handleWakelocks` times out or starts to read, and then takes an acknowledgement;
* `initializeCommon` goes stage by stage.

Actions carry what the environment decides: readings of the clock, room in the event queue, the
outcome of a write, the number acknowledged.  The `History` records what happened for the
statements about it; no step reads it to decide anything.
-/

namespace OnePlus9

/-- A posted event, with where it comes from. -/
structure PostedEvent where
  event : Event
  /-- How many events were posted before it. -/
  serial : ℕ
  /-- How many times the wakelock had timed out when it was posted. -/
  epoch : ℕ
  /-- How many initializations had begun when its `postEvents` began. -/
  session : ℕ
  deriving DecidableEq, Repr

instance : SensorEvent PostedEvent := ⟨PostedEvent.event⟩

/-! ### The threads -/

/-- Where a `postEvents` call is. -/
inductive PostPc where
  /-- `areThreadsRunning` answered `true`. -/
  | tested (events : List Event)
  /-- `processEvents` returned. -/
  | processed (eventsOut : List Event) (numWakeupEvents : ℕ)
  deriving Repr

/-- A `postEvents` call under way. -/
structure Post where
  mSubHalIndex : ℕ
  pc : PostPc
  /-- The wakelock the call owns, if it is locked. -/
  wakelock : Option ScopedWakelock
  /-- How many initializations had begun when the call began. -/
  session : ℕ
  deriving Repr

/-- Where `handlePendingWrites` is. -/
inductive WriterPc where
  /-- The thread does not exist, or is past its loop. -/
  | stopped
  /-- At the head of the loop, or in the wait. -/
  | waiting
  /-- Past the wait, with the mutex. -/
  | woken
  /-- In `writeBlocking`, without the mutex. -/
  | writing (numWakeupEvents eventQueueSize numToWrite : ℕ)
  /-- `writeBlocking` returned `false` and there are claims to give back. -/
  | failed (numWakeupEvents eventQueueSize numToWrite : ℕ)
  /-- About to lock the mutex and take the chunk off the queue. -/
  | relocking (eventQueueSize numToWrite : ℕ)
  deriving DecidableEq, Repr

/-- Where `handleWakelocks` is. -/
inductive WakelockPc where
  /-- The thread does not exist, or is past its loop. -/
  | stopped
  /-- At the head of the loop, or in the wait. -/
  | waiting
  /-- In `readBlocking`, without the mutex, with this timeout. -/
  | reading (timeLeft : ℤ)
  deriving DecidableEq, Repr

/-- Whether the thread is in `readBlocking`. -/
def WakelockPc.isReading : WakelockPc → Bool
  | reading _ => true
  | stopped | waiting => false

@[simp] theorem WakelockPc.isReading_waiting : isReading .waiting = false := rfl

/-! ### The state -/

/-- How an event is lost. -/
inductive Loss where
  /-- A chunk whose `writeBlocking` returned `false`. -/
  | chunk (events : List PostedEvent)
  /-- The rest of a batch, possibly empty, that was not queued behind `size` pending events. -/
  | refused (size : ℕ) (events : List PostedEvent)
  deriving Repr

def Loss.events : Loss → List PostedEvent
  | chunk events => events
  | refused _ events => events

/-- What happened. -/
structure History where
  /-- How many initializations have begun. -/
  session : ℕ
  /-- The session in which `mPendingWriteEventsQueue` was last replaced. -/
  pendingSession : ℕ
  /-- The session in which `mEventQueue` was last replaced. -/
  queueSession : ℕ
  /-- How many times the wakelock timed out. -/
  resets : ℕ
  /-- Wake-up events delivered and not acknowledged, posted before the last timeout. -/
  unackedLate : ℕ
  /-- Wake-up events delivered and not acknowledged, posted since the last timeout. -/
  unackedFresh : ℕ
  /-- How many events were ever posted. -/
  numPosted : ℕ
  /-- The events the queues held when an initialization last replaced one of them, and those posted
  since. -/
  posted : List PostedEvent
  /-- The losses since then. -/
  losses : List Loss

/-- The proxy, its threads, and what happened. -/
structure System where
  proxy : HalProxy PostedEvent
  writer : WriterPc
  wakelockThread : WakelockPc
  posts : List Post
  /-- The locked `ScopedWakelock`s that no `postEvents` call owns. -/
  scopedWakelocks : List ScopedWakelock
  /-- The last reading of `getTimeNow()`. -/
  clock : ℕ
  /-- The next stage of the `initializeCommon` call under way, if any. -/
  initializing : Option (HalProxy.InitStage × HalProxy.InitializeArgs)
  history : History

/-- What a thread may do next, with the environment's choices.  `dt` is how much the clock
advances. -/
inductive Action where
  | createScopedWakelock (dt : ℕ)
  | destroyScopedWakelock (k : ℕ)
  /-- `postEvents` of the sub-HAL at `subHalIndex`, up to `areThreadsRunning`. -/
  | testThreadsRunning (subHalIndex : ℕ) (events : List Event) (wakelock : Option ℕ)
  | processEvents (k : ℕ)
  | postEventsToMessageQueue (k availableToWrite : ℕ) (writeOk : Bool) (dt : ℕ)
  /-- The next step of `handlePendingWrites`. -/
  | handlePendingWrites (writeOk : Bool)
  /-- The next step of `handleWakelocks`; `late` of the events acknowledged were posted before the
  last timeout. -/
  | handleWakelocks (numWakeLocksProcessed : Option UInt32) (late dt dt' : ℕ)
  | perform (request : HalProxy.Request)
  /-- `initializeCommon` begins: `stopThreads` clears `mThreadsRun`. -/
  | initializeCommon (args : HalProxy.InitializeArgs)
  /-- The next stage of `initializeCommon`. -/
  | initStage (dt : ℕ)

namespace System

/-- The system of a freshly constructed proxy. -/
def start (subHalList : List SubHalWrapper) : System where
  proxy := .construct subHalList
  writer := .stopped
  wakelockThread := .stopped
  posts := []
  scopedWakelocks := []
  clock := 0
  initializing := none
  history := ⟨0, 0, 0, 0, 0, 0, 0, [], []⟩

/-! ### `ScopedWakelock` -/

/-- The constructor of a `ScopedWakelock` with `lock = true`. -/
def createScopedWakelock (dt : ℕ) (s : System) : System :=
  let now := s.clock + dt
  let (locked, wakelock) :=
    s.proxy.wakelock.incrementRefCountAndMaybeAcquireWakelock s.proxy.mThreadsRun 1 now
  { s with
    proxy.wakelock := wakelock
    clock := now
    -- It stays locked only if the claim was counted.
    scopedWakelocks :=
      if locked then s.scopedWakelocks ++ [⟨now, s.history.resets⟩] else s.scopedWakelocks }

/-- The destructor of a locked `ScopedWakelock`. -/
def destroyScopedWakelock (k : ℕ) (s : System) : Option System :=
  s.scopedWakelocks[k]?.map fun wakelock =>
    { s with
      proxy.wakelock :=
        s.proxy.wakelock.decrementRefCountAndMaybeReleaseWakelock s.proxy.mThreadsRun 1
          wakelock.mCreatedAtTimeNs
      scopedWakelocks := s.scopedWakelocks.eraseIdx k }

/-! ### `postEvents` -/

/-- The wakelock passed to a `postEvents` call (`none` for an unlocked one), and those left. -/
def takeWakelock (wakelock : Option ℕ) (s : System) :
    Option (Option ScopedWakelock × List ScopedWakelock) :=
  match wakelock with
  | none => some (none, s.scopedWakelocks)
  | some k =>
    s.scopedWakelocks[k]?.map fun wakelock => (some wakelock, s.scopedWakelocks.eraseIdx k)

/-- The guard of `postEvents`.  Where it returns at once, the wakelock is still to be destroyed. -/
def testThreadsRunning (subHalIndex : ℕ) (events : List Event) (wakelock : Option ℕ)
    (s : System) : Option System :=
  if subHalIndex < s.proxy.mSubHalList.length then
    (s.takeWakelock wakelock).map fun (wakelock, scopedWakelocks) =>
      -- The wakelock of a call that returns at once is destroyed by a step of its own.
      if events.isEmpty || !s.proxy.mThreadsRun then s
      else
        { s with
          posts := s.posts ++ [⟨subHalIndex, .tested events, wakelock, s.history.session⟩]
          scopedWakelocks := scopedWakelocks }
  else none

/-- `processEvents` of the `k`-th call. -/
def processEvents (k : ℕ) (s : System) : Option System :=
  s.posts[k]?.bind fun post =>
    match post.pc with
    | .processed .. => none
    | .tested events =>
      let out := HalProxyCallback.processEvents (Int32.ofNat post.mSubHalIndex) events
        s.proxy.mSensors
      some
        { s with
          proxy.mSensors := out.mSensors
          posts := s.posts.set k { post with pc := .processed out.eventsOut out.numWakeupEvents } }

/-- The posted events, with where they come from. -/
def stamp (post : Post) (events : List Event) (s : System) : List PostedEvent :=
  events.mapIdx fun i event =>
    ⟨event, s.history.numPosted + i, s.history.resets, post.session⟩

/-- The rest of a batch that is not queued, if any. -/
def refusedLeft (c : Constants) (events : List PostedEvent) (numToWrite : ℕ) (s : System) :
    List PostedEvent :=
  if s.proxy.pendingWrites.queuesLeft c.kMaxSizePendingWriteEventsQueue events.length numToWrite
  then []
  else events.drop numToWrite

/-- `postEventsToMessageQueue` of the `k`-th call, under `mEventQueueWriteMutex`.  Its wakelock is
left to be destroyed. -/
def postBatch (c : Constants) (k : ℕ) (post : Post) (events : List PostedEvent)
    (numWakeupEvents availableToWrite : ℕ) (writeOk : Bool) (now : ℕ) (s : System) : System :=
  let numToWrite := s.proxy.pendingWrites.numToWrite events.length availableToWrite writeOk
  { s with
    proxy := s.proxy.postEventsToMessageQueue c events numWakeupEvents post.wakelock.isSome
      availableToWrite writeOk now
    posts := s.posts.eraseIdx k
    scopedWakelocks := s.scopedWakelocks ++ post.wakelock.toList
    clock := now
    history :=
      { s.history with
        unackedFresh := s.history.unackedFresh
          + s.proxy.mSensors.numWakeUps (events.take numToWrite)
        numPosted := s.history.numPosted + events.length
        posted := s.history.posted ++ events
        losses := s.history.losses
          ++ [.refused s.proxy.pendingWrites.mSizePendingWriteEventsQueue
            (s.refusedLeft c events numToWrite)] } }

/-- The last step of `postEvents`.  The mutex must be free: the pending-writes thread has it
between the wait and the blocking write. -/
def postEventsToMessageQueue (c : Constants) (k availableToWrite : ℕ) (writeOk : Bool) (dt : ℕ)
    (s : System) : Option System :=
  s.posts[k]?.bind fun post =>
    match post.pc with
    | .tested _ => none
    | .processed eventsOut numWakeupEvents =>
      -- `mEventQueueWriteMutex` is taken.
      if s.writer = .woken then none
      else
        some (s.postBatch c k post (s.stamp post eventsOut) numWakeupEvents availableToWrite
          writeOk (s.clock + dt))

/-! ### `handlePendingWrites` -/

/-- The chunk being written, off the front batch. -/
def chunk (numToWrite : ℕ) (s : System) : List PostedEvent :=
  (s.proxy.pendingWrites.mPendingWriteEventsQueue.head?.elim [] Prod.fst).take numToWrite

/-- `writeBlocking` returns `true`. -/
def writeChunk (eventQueueSize numToWrite : ℕ) (s : System) : System :=
  let events := s.chunk numToWrite
  { s with
    proxy.eventQueue := s.proxy.eventQueue.write events
    writer := .relocking eventQueueSize numToWrite
    history :=
      { s.history with
        unackedLate := s.history.unackedLate
          + s.proxy.mSensors.numWakeUps (events.filter (·.epoch ≠ s.history.resets))
        unackedFresh := s.history.unackedFresh
          + s.proxy.mSensors.numWakeUps (events.filter (·.epoch = s.history.resets)) } }

/-- `writeBlocking` returns `false`. -/
def dropChunk (numWakeupEvents eventQueueSize numToWrite : ℕ) (s : System) : System :=
  { s with
    writer :=
      if numWakeupEvents > 0 then .failed numWakeupEvents eventQueueSize numToWrite
      else .relocking eventQueueSize numToWrite
    history :=
      { s.history with losses := s.history.losses ++ [.chunk (s.chunk numToWrite)] } }

/-- The claims of a dropped chunk are given back. -/
def giveBack (pendingWriteEvents : List PostedEvent)
    (numWakeupEvents eventQueueSize numToWrite : ℕ) (s : System) : System :=
  let (delta, mSensors) := PendingWrites.numToGiveBack s.proxy.mSensors pendingWriteEvents
    numWakeupEvents eventQueueSize
  { s with
    proxy.mSensors := mSensors
    proxy.wakelock :=
      s.proxy.wakelock.decrementRefCountAndMaybeReleaseWakelock s.proxy.mThreadsRun delta (-1)
    writer := .relocking eventQueueSize numToWrite }

/-- The next step of the pending-writes thread.  Reading the front of an empty queue is undefined
in the source and a step that does not exist here; it never comes to that. -/
def handlePendingWrites (writeOk : Bool) (s : System) : Option System :=
  let queue := s.proxy.pendingWrites.mPendingWriteEventsQueue
  match s.writer with
  | .stopped => none
  | .waiting =>
    -- The predicate of the wait; where the loop ends at once, it holds too.
    if !queue.isEmpty || !s.proxy.mThreadsRun then some { s with writer := .woken } else none
  | .woken =>
    if s.proxy.mThreadsRun then
      queue.head?.map fun (pendingWriteEvents, numWakeupEvents) =>
        let eventQueueSize := s.proxy.eventQueue.quantumCount
        { s with
          writer := .writing numWakeupEvents eventQueueSize
            (min pendingWriteEvents.length eventQueueSize) }
    else some { s with writer := .stopped }
  | .writing numWakeupEvents eventQueueSize numToWrite =>
    if writeOk then some (s.writeChunk eventQueueSize numToWrite)
    else some (s.dropChunk numWakeupEvents eventQueueSize numToWrite)
  | .failed numWakeupEvents eventQueueSize numToWrite =>
    -- `pendingWriteEvents` is a reference to the front, which posts leave in place.
    queue.head?.map fun (pendingWriteEvents, _) =>
      s.giveBack pendingWriteEvents numWakeupEvents eventQueueSize numToWrite
  | .relocking eventQueueSize numToWrite =>
    some
      { s with
        proxy.pendingWrites := s.proxy.pendingWrites.finishWrite eventQueueSize numToWrite
        writer := .waiting }

/-! ### `handleWakelocks` -/

/-- `resetSharedWakelock` on a timeout. -/
def timeOut (now : ℕ) (s : System) : System :=
  { s with
    proxy.wakelock := s.proxy.wakelock.resetSharedWakelock s.proxy.mThreadsRun now
    clock := now
    history :=
      { s.history with
        resets := s.history.resets + 1
        unackedLate := s.history.unackedLate + s.history.unackedFresh
        unackedFresh := 0 } }

/-- The loop of the wakelock thread ends. -/
def exitWakelocks (now : ℕ) (s : System) : System :=
  { s with
    proxy.wakelock := s.proxy.wakelock.resetSharedWakelock s.proxy.mThreadsRun now
    clock := now
    wakelockThread := .stopped }

/-- An acknowledgement is read, `late` of whose events were posted before the last timeout. -/
def acknowledge (numWakeLocksProcessed : UInt32) (late : ℕ) (s : System) : System :=
  { s with
    proxy.wakelock :=
      s.proxy.wakelock.decrementRefCountAndMaybeReleaseWakelock s.proxy.mThreadsRun
        numWakeLocksProcessed.toNat (-1)
    wakelockThread := .waiting
    history :=
      { s.history with
        unackedLate := s.history.unackedLate - late
        unackedFresh := s.history.unackedFresh - (numWakeLocksProcessed.toNat - late) } }

/-- The next step of the wakelock thread. -/
def handleWakelocks (c : Constants) (numWakeLocksProcessed : Option UInt32) (late dt dt' : ℕ)
    (s : System) : Option System :=
  match s.wakelockThread with
  | .stopped => none
  | .waiting =>
    -- The predicate of the wait is that one of the two conditions holds.
    if !s.proxy.mThreadsRun then some (s.exitWakelocks (s.clock + dt))
    else if s.proxy.wakelock.mWakelockRefCount > 0 then
      match s.proxy.wakelock.sharedWakelockDidTimeout c.kWakelockTimeoutNs ↑(s.clock + dt) with
      | none => some (s.timeOut (s.clock + dt + dt'))
      | some timeLeft =>
        some { s with clock := s.clock + dt, wakelockThread := .reading timeLeft }
    else none
  | .reading timeLeft =>
    match numWakeLocksProcessed with
    -- `readBlocking` times out, but not if the timeout is 0: that is none.
    | none => if timeLeft = 0 then none else some { s with wakelockThread := .waiting }
    | some numWakeLocksProcessed => some (s.acknowledge numWakeLocksProcessed late)

/-! ### `initializeCommon` -/

/-- `mThreadsRun.store(false)`, the first statement of `stopThreads`. -/
def initializeCommon (args : HalProxy.InitializeArgs) (s : System) : Option System :=
  if s.initializing.isSome then none
  else
    some
      { s with
        proxy.mThreadsRun := false
        initializing := some (.joinThreads, args)
        history := { s.history with session := s.history.session + 1 } }

/-- Which stages can be taken: `join` returns when the thread has. -/
def stageEnabled (stage : HalProxy.InitStage) (s : System) : Bool :=
  match stage with
  | .joinThreads => s.writer = .stopped ∧ s.wakelockThread = .stopped
  | _ => true

/-- What a stage records.  The history of the queues starts over where one is replaced. -/
def recordStage (stage : HalProxy.InitStage) (proxy : HalProxy PostedEvent) (h : History) :
    History :=
  match stage with
  | .clearPendingQueue =>
    { h with
      pendingSession := h.session
      posted := proxy.eventQueue.written ++ proxy.pendingWrites.pendingEvents
      losses := [] }
  | .setEventQueue =>
    { h with
      queueSession := h.session
      unackedLate := 0
      unackedFresh := 0
      posted := proxy.eventQueue.written ++ proxy.pendingWrites.pendingEvents
      losses := [] }
  | _ => h

/-- One stage of `initializeCommon`. -/
def afterStage (stage : HalProxy.InitStage) (args : HalProxy.InitializeArgs) (now : ℕ)
    (s : System) : System :=
  let proxy := s.proxy.initStage args now stage
  { s with
    proxy := proxy
    writer := if stage = .startThreads then .waiting else s.writer
    wakelockThread := if stage = .startThreads then .waiting else s.wakelockThread
    clock := now
    initializing := stage.next.map fun stage => (stage, args)
    history := recordStage stage proxy s.history }

/-- The next stage of `initializeCommon`. -/
def initStage (dt : ℕ) (s : System) : Option System :=
  s.initializing.bind fun (stage, args) =>
    if s.stageEnabled stage then some (s.afterStage stage args (s.clock + dt)) else none

/-! ### All threads -/

/-- One step of one thread. -/
def step (c : Constants) (s : System) : Action → Option System
  | .createScopedWakelock dt => some (s.createScopedWakelock dt)
  | .destroyScopedWakelock k => s.destroyScopedWakelock k
  | .testThreadsRunning subHalIndex events wakelock =>
    s.testThreadsRunning subHalIndex events wakelock
  | .processEvents k => s.processEvents k
  | .postEventsToMessageQueue k availableToWrite writeOk dt =>
    s.postEventsToMessageQueue c k availableToWrite writeOk dt
  | .handlePendingWrites writeOk => s.handlePendingWrites writeOk
  | .handleWakelocks numWakeLocksProcessed late dt dt' =>
    s.handleWakelocks c numWakeLocksProcessed late dt dt'
  | .perform request => some { s with proxy := s.proxy.perform request }
  | .initializeCommon args => s.initializeCommon args
  | .initStage dt => s.initStage dt

/-- The interleavings of the threads. -/
def machine (c : Constants) : Machine System Action := ⟨step c⟩

@[simp] theorem machine_step (c : Constants) (s : System) (a : Action) :
    (machine c).step s a = step c s a := rfl

end System

end OnePlus9
