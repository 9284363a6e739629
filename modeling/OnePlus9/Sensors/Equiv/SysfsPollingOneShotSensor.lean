import OnePlus9.Sensors.SysfsPollingOneShotSensor

/-!
# What a step of a one-shot sensor can be

`Transition capacity s a t` lists the ways in which one step leads from `s` to `t`, and `step_cases`
is the inversion lemma.  To requests the sensor is a `Sensor` of `SubHal.lean`: the setters change
it as the functions of `Sensor` do (`view_activate`, `view_setOperationMode`).
-/

namespace OnePlus9

open ConditionVariable

namespace RunPc

/-- The thread does not depend on a notification to come. -/
def Awake (pc : RunPc) : Prop := pc ≠ waiting .willBlock ∧ pc ≠ waiting .blocked

instance (pc : RunPc) : Decidable pc.Awake := inferInstanceAs (Decidable (_ ∧ _))

theorem awake_waiting {pc : WaitPc} : (waiting pc).Awake ↔ pc.Awake := by
  simp [Awake, WaitPc.Awake]

theorem awake_notify_iff {pc : RunPc} : pc.notify.Awake ↔ pc ≠ waiting .willBlock := by
  cases pc with
  | waiting pc =>
    show (waiting pc.notify).Awake ↔ _
    rw [awake_waiting, WaitPc.awake_notify_iff, ne_eq, ne_eq, waiting.injEq]
  | locking | loopTest | polling | posting | exited => decide
  | relocking result | polled result => simp [notify, Awake]

@[simp] theorem holdsMutex_notify (pc : RunPc) : pc.notify.holdsMutex = pc.holdsMutex := by
  cases pc with
  | waiting pc => cases pc <;> rfl
  | _ => rfl

/-- The thread is between the test of the loop and what follows `poll`. -/
def inPoll : RunPc → Bool
  | polling | relocking _ | polled _ => true
  | locking | loopTest | waiting _ | posting | exited => false

@[simp] theorem inPoll_notify (pc : RunPc) : pc.notify.inPoll = pc.inPoll := by
  cases pc <;> rfl

/-- A notification matters only to a thread in `mWaitCV.wait`. -/
theorem notify_eq_iff {pc pc' : RunPc} (h : ∀ w, pc' ≠ waiting w) : pc.notify = pc' ↔ pc = pc' := by
  cases pc with
  | waiting w =>
    constructor
    · intro heq
      exact absurd heq.symm (h _)
    · intro heq
      exact absurd heq.symm (h _)
  | _ => exact Iff.rfl

@[simp] theorem notify_eq_polling {pc : RunPc} : pc.notify = polling ↔ pc = polling :=
  notify_eq_iff fun _ h => nomatch h

@[simp] theorem notify_eq_relocking {pc : RunPc} {result : PollResult} :
    pc.notify = relocking result ↔ pc = relocking result :=
  notify_eq_iff fun _ h => nomatch h

@[simp] theorem notify_eq_polled {pc : RunPc} {result : PollResult} :
    pc.notify = polled result ↔ pc = polled result :=
  notify_eq_iff fun _ h => nomatch h

@[simp] theorem notify_eq_posting {pc : RunPc} : pc.notify = posting ↔ pc = posting :=
  notify_eq_iff fun _ h => nomatch h

@[simp] theorem notify_eq_exited {pc : RunPc} : pc.notify = exited ↔ pc = exited :=
  notify_eq_iff fun _ h => nomatch h

attribute [grind =] holdsMutex inPoll holdsMutex_notify inPoll_notify awake_notify_iff awake_waiting
  notify_eq_polling notify_eq_relocking notify_eq_polled notify_eq_posting notify_eq_exited

end RunPc

namespace SysfsPollingOneShotSensor

/-- `interruptPoll` was called and did not block. -/
def interrupted (s : SysfsPollingOneShotSensor) : SysfsPollingOneShotSensor :=
  { s with waitPipe := s.waitPipe + s.mWaitPipeFd.toNat }

/-- One step, by the branch taken. -/
inductive Transition (capacity : PipeCapacity) (s : SysfsPollingOneShotSensor) :
    Action → SysfsPollingOneShotSensor → Prop
  | construct (pipeOpened nodeOpened : Bool) (hlife : s.lifePc = .constructing) :
    Transition capacity s (.construct pipeOpened nodeOpened)
      { s with
        mStopThread := s.mStopThread || !(pipeOpened && nodeOpened)
        mWaitPipeFd := pipeOpened
        lifePc := .alive }
  /-- `activate` finds nothing to change. -/
  | activateSame (enable : Bool) (hlife : s.lifePc = .alive) (hsame : s.mIsEnabled = enable) :
    Transition capacity s (.activate enable) s
  | activate (enable : Bool) (hlife : s.lifePc = .alive) (hfree : s.mRunMutexFree = true)
      (hne : s.mIsEnabled ≠ enable) :
    Transition capacity s (.activate enable)
      { s with
        mIsEnabled := enable
        activatePc := .interruptingPoll
        history.numArmings := s.history.numArmings + enable.toNat }
  | interruptActivate (hpc : s.activatePc = .interruptingPoll) :
    Transition capacity s .notifyActivate { s.interrupted with activatePc := .notifying }
  | notifyActivate (hpc : s.activatePc = .notifying) :
    Transition capacity s .notifyActivate { s with runPc := s.runPc.notify, activatePc := .idle }
  /-- `setOperationMode` finds nothing to change. -/
  | sameOperationMode (mode : OperationMode) (hlife : s.lifePc = .alive) (hsame : s.mMode = mode) :
    Transition capacity s (.setOperationMode mode)
      { s with setOperationModes := s.setOperationModes + 1 }
  | setOperationMode (mode : OperationMode) (hlife : s.lifePc = .alive)
      (hfree : s.mRunMutexFree = true) (hne : s.mMode ≠ mode) :
    Transition capacity s (.setOperationMode mode)
      { s with
        mMode := mode
        runPc := s.runPc.notify
        setOperationModes := s.setOperationModes + 1 }
  | interruptPoll (hpos : 0 < s.setOperationModes) :
    Transition capacity s .interruptPoll
      { s.interrupted with setOperationModes := s.setOperationModes - 1 }
  /-- `run` locks the mutex at the beginning. -/
  | lock (node : Option UInt16) (triggered : Bool) (hpc : s.runPc = .locking)
      (hfree : s.activatePc = .idle) :
    Transition capacity s (.run node triggered) { s with runPc := .loopTest }
  /-- The loop of `run` ends. -/
  | exit (node : Option UInt16) (triggered : Bool) (hpc : s.runPc = .loopTest)
      (hstop : s.mStopThread = true) :
    Transition capacity s (.run node triggered) { s with runPc := .exited }
  | wait (node : Option UInt16) (triggered : Bool) (hpc : s.runPc = .loopTest)
      (hstop : s.mStopThread = false) (harmed : s.armed = false) :
    Transition capacity s (.run node triggered) { s with runPc := .waiting .test }
  | poll (node : Option UInt16) (triggered : Bool) (hpc : s.runPc = .loopTest)
      (hstop : s.mStopThread = false) (harmed : s.armed = true) :
    Transition capacity s (.run node triggered) { s with runPc := .polling }
  /-- `mWaitCV.wait` returns. -/
  | leaveWait (node : Option UInt16) (triggered : Bool) (hpc : s.runPc = .waiting .passed) :
    Transition capacity s (.run node triggered) { s with runPc := .loopTest }
  /-- A step of `mWaitCV.wait`. -/
  | stepWait (node : Option UInt16) (triggered : Bool) (pc pc' : WaitPc)
      (hpc : s.runPc = .waiting pc) (hfree : pc = .notified → s.activatePc = .idle)
      (hstep : pc.step (s.armed || s.mStopThread) = some pc') :
    Transition capacity s (.run node triggered) { s with runPc := .waiting pc' }
  | pollFails (triggered : Bool) (hpc : s.runPc = .polling) :
    Transition capacity s (.run none triggered) { s with runPc := .relocking .failed }
  | pollReturns (node : UInt16) (triggered : Bool) (hpc : s.runPc = .polling)
      (hready : s.waitPipe ≠ 0 ∨ node ≠ 0) :
    Transition capacity s (.run (some node) triggered)
      { s with runPc := .relocking (.ready (if s.waitPipe = 0 then 0 else POLLIN) node) }
  | relock (node : Option UInt16) (triggered : Bool) (result : PollResult)
      (hpc : s.runPc = .relocking result) (hfree : s.activatePc = .idle) :
    Transition capacity s (.run node triggered)
      { s with
        runPc := .polled result
        history.relocked := (s.mIsEnabled, s.mMode) }
  /-- `poll` failed, and the thread is to stop. -/
  | giveUp (node : Option UInt16) (triggered : Bool) (hpc : s.runPc = .polled .failed) :
    Transition capacity s (.run node triggered)
      { s with mStopThread := true, runPc := .loopTest }
  /-- The node has triggered. -/
  | trigger (node : Option UInt16) (pipe : UInt16)
      (hpc : s.runPc = .polled (.ready pipe (POLLERR ||| POLLPRI))) :
    Transition capacity s (.run node true)
      { s with
        mIsEnabled := false
        runPc := .posting
        history.posts := s.history.posts ++ [s.history.relocked] }
  /-- A byte is read from the pipe. -/
  | readPipe (node : Option UInt16) (triggered : Bool) (revents : UInt16)
      (hpc : s.runPc = .polled (.ready POLLIN revents))
      (htrigger : ¬(revents = POLLERR ||| POLLPRI ∧ triggered = true)) :
    Transition capacity s (.run node triggered)
      { s with waitPipe := s.waitPipe - 1, runPc := .loopTest }
  /-- Neither branch is taken. -/
  | ignore (node : Option UInt16) (triggered : Bool) (pipe revents : UInt16)
      (hpc : s.runPc = .polled (.ready pipe revents))
      (htrigger : ¬(revents = POLLERR ||| POLLPRI ∧ triggered = true)) (hpipe : pipe ≠ POLLIN) :
    Transition capacity s (.run node triggered) { s with runPc := .loopTest }
  /-- `postEvents` returns. -/
  | posted (node : Option UInt16) (triggered : Bool) (hpc : s.runPc = .posting) :
    Transition capacity s (.run node triggered) { s with runPc := .loopTest }
  | wakeUp : Transition capacity s .wakeUp { s with runPc := s.runPc.notify }
  /-- The destructor begins. -/
  | beginDestroy (hlife : s.lifePc = .alive) (hidle : s.activatePc = .idle)
      (hnone : s.setOperationModes = 0) :
    Transition capacity s .destroy { s with lifePc := .interruptingPoll }
  | interruptDestroy (hlife : s.lifePc = .interruptingPoll) :
    Transition capacity s .destroy { s.interrupted with lifePc := .lockingRunMutex }
  | stop (hlife : s.lifePc = .lockingRunMutex) (hfree : s.mRunMutexFree = true) :
    Transition capacity s .destroy
      { s with
        mStopThread := true
        mIsEnabled := false
        runPc := s.runPc.notify
        lifePc := .joining }
  | join (hlife : s.lifePc = .joining) (hpc : s.runPc = .exited) :
    Transition capacity s .destroy { s with lifePc := .joined }

variable {capacity : PipeCapacity} {s t : SysfsPollingOneShotSensor} {a : Action}

/-! ### The pieces of a step -/

theorem interruptPoll_eq (h : s.interruptPoll capacity = some t) : t = s.interrupted := by
  unfold interruptPoll at h
  split_ifs at h with hclosed
  · have hsame : s.waitPipe + s.mWaitPipeFd.toNat = s.waitPipe := by
      rw [Bool.not_eq_true'] at hclosed
      rw [hclosed]
      rfl
    rw [interrupted, hsame]
    exact (Option.some.inj h).symm
  · have hopen : s.mWaitPipeFd.toNat = 1 := by
      rw [Bool.not_eq_true', Bool.not_eq_false] at hclosed
      rw [hclosed]
      rfl
    rw [interrupted, hopen]
    exact (Option.some.inj h).symm

theorem mRunMutexFree_iff :
    s.mRunMutexFree = true ↔ s.runPc.holdsMutex = false ∧ s.activatePc = .idle := by
  simp [mRunMutexFree]

/-- What the loop tests is the negation of `armed`. -/
theorem disarmed_eq : (!s.mIsEnabled || s.mMode == .dataInjection) = !s.armed := by
  unfold armed
  cases s.mIsEnabled <;> cases s.mMode <;> rfl

theorem armed_iff : s.armed = true ↔ s.mIsEnabled = true ∧ s.mMode = .normal := by
  simp [armed]

theorem handlePoll_cases (node : Option UInt16) {triggered : Bool} {result : PollResult}
    (hpc : s.runPc = .polled result) :
    Transition capacity s (.run node triggered) (s.handlePoll result triggered) := by
  unfold handlePoll
  cases result with
  | failed => exact .giveUp node triggered hpc
  | ready pipe revents =>
    dsimp only
    split_ifs with htrigger hpipe
    · obtain ⟨rfl, rfl⟩ := htrigger
      exact .trigger node pipe hpc
    · subst hpipe
      exact .readPipe node triggered revents hpc htrigger
    · exact .ignore node triggered pipe revents hpc htrigger hpipe

theorem run_cases {node : Option UInt16} {triggered : Bool} (h : s.run node triggered = some t) :
    Transition capacity s (.run node triggered) t := by
  unfold run at h
  cases hpc : s.runPc with
  | locking =>
    simp only [hpc] at h
    split_ifs at h with hfree
    exact Option.some.inj h ▸ .lock node triggered hpc hfree
  | loopTest =>
    simp only [hpc, disarmed_eq] at h
    split_ifs at h with hstop harmed
    · exact Option.some.inj h ▸ .exit node triggered hpc hstop
    · have hrun : s.mStopThread = false := by simpa using hstop
      exact Option.some.inj h ▸ .wait node triggered hpc hrun (by simpa using harmed)
    · have hrun : s.mStopThread = false := by simpa using hstop
      exact Option.some.inj h ▸ .poll node triggered hpc hrun (by simpa using harmed)
  | waiting pc =>
    cases pc with
    | passed =>
      simp only [hpc] at h
      exact Option.some.inj h ▸ .leaveWait node triggered hpc
    | test | willBlock | blocked | notified =>
      simp only [hpc] at h
      obtain ⟨hfree, hmap⟩ := Option.ite_none_left_eq_some.mp h
      obtain ⟨pc', hstep, rfl⟩ := Option.map_eq_some_iff.mp hmap
      refine .stepWait node triggered _ pc' hpc (fun hnotified => ?_) hstep
      by_contra hne
      exact hfree (by simpa [hnotified] using hne)
  | polling =>
    simp only [hpc] at h
    cases node with
    | none => exact Option.some.inj h ▸ .pollFails triggered hpc
    | some node =>
      obtain ⟨hready, hreturn⟩ := Option.ite_none_left_eq_some.mp h
      exact Option.some.inj hreturn ▸ .pollReturns node triggered hpc (not_and_or.mp hready)
  | relocking result =>
    simp only [hpc] at h
    split_ifs at h with hfree
    exact Option.some.inj h ▸ .relock node triggered result hpc hfree
  | polled result =>
    simp only [hpc] at h
    exact Option.some.inj h ▸ handlePoll_cases node hpc
  | posting =>
    simp only [hpc] at h
    exact Option.some.inj h ▸ .posted node triggered hpc
  | exited =>
    simp only [hpc] at h
    exact nomatch h

theorem setOperationMode_cases {mode : OperationMode}
    (h : s.setOperationMode mode = some t) : Transition capacity s (.setOperationMode mode) t := by
  unfold setOperationMode at h
  split_ifs at h with hclient hne
  · exact Option.some.inj h ▸ .setOperationMode mode hclient.1 hclient.2 hne
  · exact Option.some.inj h ▸ .sameOperationMode mode hclient.1 (not_not.mp hne)

theorem activate_cases {enable : Bool} (h : s.activate enable = some t) :
    Transition capacity s (.activate enable) t := by
  unfold activate at h
  split_ifs at h with hclient hne
  · exact Option.some.inj h ▸ .activate enable hclient.1 hclient.2 hne
  · exact Option.some.inj h ▸ .activateSame enable hclient.1 (not_not.mp hne)

theorem notifyActivate_cases (h : s.notifyActivate capacity = some t) :
    Transition capacity s .notifyActivate t := by
  unfold notifyActivate at h
  cases hpc : s.activatePc with
  | idle =>
    rw [hpc] at h
    exact nomatch h
  | interruptingPoll =>
    rw [hpc] at h
    obtain ⟨u, hu, rfl⟩ := Option.map_eq_some_iff.mp h
    obtain rfl := interruptPoll_eq hu
    exact .interruptActivate hpc
  | notifying =>
    rw [hpc] at h
    exact Option.some.inj h ▸ .notifyActivate hpc

theorem destroy_cases (h : s.destroy capacity = some t) : Transition capacity s .destroy t := by
  unfold destroy at h
  cases hlife : s.lifePc with
  | constructing | joined =>
    rw [hlife] at h
    exact nomatch h
  | alive =>
    simp only [hlife] at h
    split_ifs at h with hidle
    exact Option.some.inj h ▸ .beginDestroy hlife hidle.1 hidle.2
  | interruptingPoll =>
    simp only [hlife] at h
    obtain ⟨u, hu, rfl⟩ := Option.map_eq_some_iff.mp h
    obtain rfl := interruptPoll_eq hu
    exact .interruptDestroy hlife
  | lockingRunMutex =>
    simp only [hlife] at h
    split_ifs at h with hfree
    exact Option.some.inj h ▸ .stop hlife hfree
  | joining =>
    simp only [hlife] at h
    split_ifs at h with hpc
    exact Option.some.inj h ▸ .join hlife hpc

attribute [grind =] interrupted mRunMutexFree_iff armed_iff

/-! ### All steps -/

/-- **The inversion lemma.** -/
theorem step_cases (h : step capacity s a = some t) : Transition capacity s a t := by
  cases a with
  | construct pipeOpened nodeOpened =>
    rw [step, construct] at h
    split_ifs at h with hlife
    exact Option.some.inj h ▸ .construct pipeOpened nodeOpened hlife
  | activate enable => exact activate_cases h
  | notifyActivate => exact notifyActivate_cases h
  | setOperationMode mode => exact setOperationMode_cases h
  | interruptPoll =>
    rw [step, interruptAfterMode] at h
    split_ifs at h with hnone
    obtain ⟨u, hu, rfl⟩ := Option.map_eq_some_iff.mp h
    obtain rfl := interruptPoll_eq hu
    exact .interruptPoll (Nat.pos_of_ne_zero hnone)
  | run node triggered => exact run_cases h
  | wakeUp => exact Option.some.inj h ▸ .wakeUp
  | destroy => exact destroy_cases h

/-! ### What requests see -/

/-- What requests read and write of the sensor. -/
def view (mSensorInfo : SensorInfo) (s : SysfsPollingOneShotSensor) : Sensor :=
  ⟨mSensorInfo, s.mIsEnabled, s.mMode⟩

variable {info : SensorInfo}

/-- **`activate`** is `Sensor.activate`. -/
theorem view_activate {enable : Bool} (h : step capacity s (.activate enable) = some t) :
    t.view info = (s.view info).activate enable := by
  cases step_cases h with
  | activateSame enable hlife hsame =>
    rw [Sensor.activate, if_neg]
    exact not_not_intro hsame
  | activate enable hlife hfree hne =>
    have hview : (s.view info).mIsEnabled ≠ enable := hne
    rw [Sensor.activate, if_pos hview]
    rfl

/-- **`setOperationMode`** is `Sensor.setOperationMode`. -/
theorem view_setOperationMode {mode : OperationMode}
    (h : step capacity s (.setOperationMode mode) = some t) :
    t.view info = (s.view info).setOperationMode mode := by
  cases step_cases h with
  | sameOperationMode mode hlife hsame =>
    rw [Sensor.setOperationMode, if_neg]
    · rfl
    · exact not_not_intro hsame
  | setOperationMode mode hlife hfree hne =>
    have hview : (s.view info).mMode ≠ mode := hne
    rw [Sensor.setOperationMode, if_pos hview]
    rfl

end SysfsPollingOneShotSensor

end OnePlus9
