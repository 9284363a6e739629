import OnePlus9.Library.ConditionVariable
import OnePlus9.Library.Machine
import OnePlus9.Sensors.SubHal

/-!
# The thread of a one-shot sensor (`Sensor.cpp`)

`Sensor` in `SubHal.lean` has what requests read and write of a sensor.  This file has the rest of a
`SysfsPollingOneShotSensor`: the thread that runs `SysfsPollingOneShotSensor::run`, the setters
`activate` and `setOperationMode` that clients call, and the destructor.

The thread waits in one of two places.  While the sensor is disabled or in `DATA_INJECTION` it waits
on `mWaitCV`; otherwise it releases `mRunMutex` and calls `poll` on a sysfs node and on the read end
of a pipe.  `interruptPoll` writes one byte to that pipe.  `activate` does so with the mutex,
`setOperationMode` after it has released it, and the destructor of the derived class before the
destructor of the base class sets `mStopThread`.

A step is what one thread does between two points at which others can get in.  Calls of `activate`
exclude each other, so one program counter is enough for them; of the `setOperationMode` calls that
have yet to write to the pipe only the number matters.  The thread is taken to run the `run` of the
derived class from the beginning, and `mStopThread` to be `false` until someone sets it.
-/

namespace OnePlus9

open ConditionVariable

/-- `POLLIN`. -/
def POLLIN : UInt16 := 0x1
/-- `POLLPRI`. -/
def POLLPRI : UInt16 := 0x2
/-- `POLLERR`. -/
def POLLERR : UInt16 := 0x8

/-- How many bytes a pipe holds before a write blocks. -/
structure PipeCapacity where
  bytes : ℕ
  bytes_pos : 0 < bytes

/-- What `poll` returned. -/
inductive PollResult where
  /-- A negative number. -/
  | failed
  /-- The `revents` of `mPolls[0]`, the pipe, and of `mPolls[1]`, the node. -/
  | ready (pipe node : UInt16)
  deriving DecidableEq, Repr

/-- Where `SysfsPollingOneShotSensor::run` is. -/
inductive RunPc where
  /-- About to lock `mRunMutex`, at the beginning. -/
  | locking
  /-- At the test of the loop. -/
  | loopTest
  /-- In `mWaitCV.wait`. -/
  | waiting (pc : WaitPc)
  /-- In `poll`, without the mutex. -/
  | polling
  /-- About to lock the mutex again. -/
  | relocking (result : PollResult)
  /-- About to look at the result. -/
  | polled (result : PollResult)
  /-- In `mCallback->postEvents`, with the mutex. -/
  | posting
  /-- The thread has ended. -/
  | exited
  deriving DecidableEq, Repr

namespace RunPc

/-- A notification of `mWaitCV`. -/
def notify : RunPc → RunPc
  | waiting pc => waiting pc.notify
  | pc => pc

/-- Whether the thread has `mRunMutex`. -/
def holdsMutex : RunPc → Bool
  | loopTest | polled _ | posting => true
  | waiting pc => pc.holdsMutex
  | locking | polling | relocking _ | exited => false

end RunPc

/-- Where the `activate` call that has `mRunMutex` is, if there is one. -/
inductive ActivatePc where
  | idle
  /-- `mIsEnabled` is changed; about to write to the pipe. -/
  | interruptingPoll
  /-- About to notify `mWaitCV` and to release the mutex. -/
  | notifying
  deriving DecidableEq, Repr

/-- Where the object is in its lifetime. -/
inductive LifePc where
  /-- In the constructor; the thread is running already. -/
  | constructing
  | alive
  /-- In `~SysfsPollingOneShotSensor`, at `interruptPoll`. -/
  | interruptingPoll
  /-- In `~Sensor`, about to lock `mRunMutex`. -/
  | lockingRunMutex
  /-- At `mRunThread.join()`. -/
  | joining
  | joined
  deriving DecidableEq, Repr

/-- What happened to a sensor. -/
structure SensorHistory where
  /-- How many `activate(true)` calls changed `mIsEnabled`. -/
  numArmings : ℕ
  /-- `mIsEnabled` and `mMode` when `run` last locked the mutex after a `poll`. -/
  relocked : Bool × OperationMode
  /-- The same, for every `postEvents` call of `run`. -/
  posts : List (Bool × OperationMode)
  deriving DecidableEq, Repr

/-- A one-shot sensor and its threads. -/
structure SysfsPollingOneShotSensor where
  mIsEnabled : Bool
  mMode : OperationMode
  mStopThread : Bool
  /-- Whether `mWaitPipeFd[1]` is a file descriptor. -/
  mWaitPipeFd : Bool
  /-- The number of bytes in the pipe. -/
  waitPipe : ℕ
  runPc : RunPc
  activatePc : ActivatePc
  /-- How many `setOperationMode` calls have yet to write to the pipe. -/
  setOperationModes : ℕ
  lifePc : LifePc
  history : SensorHistory
  deriving DecidableEq, Repr

namespace SysfsPollingOneShotSensor

/-- Who takes the next step. -/
inductive Action where
  /-- The constructor ends; whether `pipe` and `open` succeeded. -/
  | construct (pipeOpened nodeOpened : Bool)
  /-- `activate(enable)`, up to the change of `mIsEnabled`. -/
  | activate (enable : Bool)
  /-- The next step of the `activate` call under way. -/
  | notifyActivate
  /-- `setOperationMode(mode)`, up to its `interruptPoll`. -/
  | setOperationMode (mode : OperationMode)
  /-- `interruptPoll` of a `setOperationMode` call. -/
  | interruptPoll
  /-- The next step of `run`; `node` is what `poll` finds at the sysfs node (`none` where `poll`
  fails), and `triggered` what `readBool` reads from it. -/
  | run (node : Option UInt16) (triggered : Bool)
  /-- `mWaitCV.wait` wakes up for no reason. -/
  | wakeUp
  /-- The next step of the destructor. -/
  | destroy
  deriving Repr

/-- The constructor of `Sensor` has started the thread. -/
def start : SysfsPollingOneShotSensor where
  mIsEnabled := false
  mMode := .normal
  mStopThread := false
  mWaitPipeFd := false
  waitPipe := 0
  runPc := .locking
  activatePc := .idle
  setOperationModes := 0
  lifePc := .constructing
  history := ⟨0, (false, .normal), []⟩

/-- What the loop of `run` tests: it polls only for such a sensor. -/
def armed (s : SysfsPollingOneShotSensor) : Bool :=
  s.mIsEnabled && s.mMode == .normal

/-- No thread has `mRunMutex`. -/
def mRunMutexFree (s : SysfsPollingOneShotSensor) : Bool :=
  !s.runPc.holdsMutex && s.activatePc == .idle

/-! ### The setters -/

/-- `interruptPoll`.  The write blocks while the pipe is full. -/
def interruptPoll (capacity : PipeCapacity) (s : SysfsPollingOneShotSensor) :
    Option SysfsPollingOneShotSensor :=
  if !s.mWaitPipeFd then some s
  else if s.waitPipe < capacity.bytes then some { s with waitPipe := s.waitPipe + 1 }
  else none

/-- `activate(enable)`.  Where nothing changes the call is over. -/
def activate (enable : Bool) (s : SysfsPollingOneShotSensor) : Option SysfsPollingOneShotSensor :=
  if s.lifePc = .alive ∧ s.mRunMutexFree then
    some <|
      if s.mIsEnabled ≠ enable then
        { s with
          mIsEnabled := enable
          activatePc := .interruptingPoll
          history.numArmings := s.history.numArmings + enable.toNat }
      else s
  else none

def notifyActivate (capacity : PipeCapacity) (s : SysfsPollingOneShotSensor) :
    Option SysfsPollingOneShotSensor :=
  match s.activatePc with
  | .idle => none
  | .interruptingPoll => (s.interruptPoll capacity).map fun s => { s with activatePc := .notifying }
  | .notifying => some { s with runPc := s.runPc.notify, activatePc := .idle }

/-- `Sensor::setOperationMode`, with the mutex from the first to the last statement. -/
def setOperationMode (mode : OperationMode) (s : SysfsPollingOneShotSensor) :
    Option SysfsPollingOneShotSensor :=
  if s.lifePc = .alive ∧ s.mRunMutexFree then
    let s := if s.mMode ≠ mode then { s with mMode := mode, runPc := s.runPc.notify } else s
    -- `interruptPoll` follows in any case, without the mutex.
    some { s with setOperationModes := s.setOperationModes + 1 }
  else none

def interruptAfterMode (capacity : PipeCapacity) (s : SysfsPollingOneShotSensor) :
    Option SysfsPollingOneShotSensor :=
  if s.setOperationModes = 0 then none
  else
    (s.interruptPoll capacity).map fun s =>
      { s with setOperationModes := s.setOperationModes - 1 }

/-! ### `run` -/

/-- The branches of the loop body after `poll`, with the mutex. -/
def handlePoll (result : PollResult) (triggered : Bool) (s : SysfsPollingOneShotSensor) :
    SysfsPollingOneShotSensor :=
  match result with
  | .failed => { s with mStopThread := true, runPc := .loopTest }
  | .ready pipe node =>
    if node = POLLERR ||| POLLPRI ∧ triggered then
      -- `activate(false, false, false)` touches neither the pipe nor the condition variable.
      { s with
        mIsEnabled := false
        runPc := .posting
        history.posts := s.history.posts ++ [s.history.relocked] }
    else if pipe = POLLIN then { s with waitPipe := s.waitPipe - 1, runPc := .loopTest }
    else { s with runPc := .loopTest }

/-- The next step of `run`. -/
def run (node : Option UInt16) (triggered : Bool) (s : SysfsPollingOneShotSensor) :
    Option SysfsPollingOneShotSensor :=
  match s.runPc with
  | .locking => if s.activatePc = .idle then some { s with runPc := .loopTest } else none
  | .loopTest =>
    if s.mStopThread then some { s with runPc := .exited }
    else if !s.mIsEnabled || s.mMode == .dataInjection then
      some { s with runPc := .waiting .test }
    else some { s with runPc := .polling }
  | .waiting .passed => some { s with runPc := .loopTest }
  | .waiting pc =>
    -- Only a notified thread has to lock the mutex first.
    if pc = .notified ∧ s.activatePc ≠ .idle then none
    else (pc.step (s.armed || s.mStopThread)).map fun pc => { s with runPc := .waiting pc }
  | .polling =>
    match node with
    | none => some { s with runPc := .relocking .failed }
    | some node =>
      -- `poll` has no timeout: it returns when there is something to report.
      if s.waitPipe = 0 ∧ node = 0 then none
      else
        some { s with runPc := .relocking (.ready (if s.waitPipe = 0 then 0 else POLLIN) node) }
  | .relocking result =>
    if s.activatePc = .idle then
      some
        { s with
          runPc := .polled result
          history.relocked := (s.mIsEnabled, s.mMode) }
    else none
  | .polled result => some (s.handlePoll result triggered)
  | .posting => some { s with runPc := .loopTest }
  | .exited => none

/-! ### The lifetime -/

/-- The rest of the constructor of `SysfsPollingOneShotSensor`. -/
def construct (pipeOpened nodeOpened : Bool) (s : SysfsPollingOneShotSensor) :
    Option SysfsPollingOneShotSensor :=
  if s.lifePc = .constructing then
    some
      { s with
        mStopThread := s.mStopThread || !(pipeOpened && nodeOpened)
        mWaitPipeFd := pipeOpened
        lifePc := .alive }
  else none

/-- The next step of the destructor.  A sensor is destroyed when no call on it is under way. -/
def destroy (capacity : PipeCapacity) (s : SysfsPollingOneShotSensor) :
    Option SysfsPollingOneShotSensor :=
  match s.lifePc with
  | .constructing => none
  | .alive =>
    if s.activatePc = .idle ∧ s.setOperationModes = 0 then
      some { s with lifePc := .interruptingPoll }
    else none
  | .interruptingPoll =>
    (s.interruptPoll capacity).map fun s => { s with lifePc := .lockingRunMutex }
  | .lockingRunMutex =>
    if s.mRunMutexFree then
      some
        { s with
          mStopThread := true
          mIsEnabled := false
          runPc := s.runPc.notify
          lifePc := .joining }
    else none
  | .joining => if s.runPc = .exited then some { s with lifePc := .joined } else none
  | .joined => none

def step (capacity : PipeCapacity) (s : SysfsPollingOneShotSensor) :
    Action → Option SysfsPollingOneShotSensor
  | .construct pipeOpened nodeOpened => s.construct pipeOpened nodeOpened
  | .activate enable => s.activate enable
  | .notifyActivate => s.notifyActivate capacity
  | .setOperationMode mode => s.setOperationMode mode
  | .interruptPoll => s.interruptAfterMode capacity
  | .run node triggered => s.run node triggered
  | .wakeUp => some { s with runPc := s.runPc.notify }
  | .destroy => s.destroy capacity

/-- The interleavings of the clients, the thread and the destructor. -/
def machine (capacity : PipeCapacity) : Machine SysfsPollingOneShotSensor Action := ⟨step capacity⟩

end SysfsPollingOneShotSensor

end OnePlus9
