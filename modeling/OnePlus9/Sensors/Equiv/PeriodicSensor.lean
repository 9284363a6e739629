import OnePlus9.Sensors.PeriodicSensor

/-!
# What a step of a sampled sensor can be

`Transition s a t` lists the ways in which one step leads from `s` to `t`, and `step_cases` is the
inversion lemma.  `Sound s` says where the thread can be, given the rest of the state
(`sound_of_visits`): while it has the mutex on the way to a sample, the sensor stays armed, and once
the destructor has set `mStopThread` the thread neither samples nor sleeps.
-/

namespace OnePlus9

open ConditionVariable

namespace SamplePc

/-- The thread is on the way to a sample. -/
def inSample : SamplePc → Bool
  | comparing _ | sampling _ | posting .. => true
  | _ => false

/-- The thread neither samples nor depends on a notification to come. -/
def leaving : SamplePc → Bool
  | locking | relocking | loopTest | exited => true
  | waiting pc => pc.Awake
  | comparing _ | sampling _ | posting .. | willSleep _ | sleeping _ => false

/-- How many steps of its own the thread has left once it is to stop. -/
def remaining : SamplePc → ℕ
  | waiting pc => pc.remaining + 2
  | locking | relocking => 2
  | loopTest => 1
  | comparing _ | sampling _ | posting .. | willSleep _ | sleeping _ | exited => 0

@[simp] theorem inSample_notify (pc : SamplePc) : pc.notify.inSample = pc.inSample := by
  cases pc <;> rfl

theorem holdsMutex_of_inSample {pc : SamplePc} (h : pc.inSample = true) : pc.holdsMutex = true := by
  cases pc with
  | comparing | sampling | posting => rfl
  | _ => exact absurd h Bool.false_ne_true

/-- A notification finds a thread without the mutex leaving its wait, or has no effect. -/
theorem leaving_notify {pc : SamplePc} (h : pc.holdsMutex = false ∨ pc.leaving = true) :
    pc.notify.leaving = true := by
  cases pc with
  | waiting pc => cases pc <;> simp_all [holdsMutex, WaitPc.holdsMutex, notify, WaitPc.notify,
      leaving, WaitPc.Awake]
  | _ => simp_all [holdsMutex, notify, leaving]

theorem remaining_notify {pc : SamplePc} (h : pc.leaving = true) :
    pc.notify.remaining = pc.remaining := by
  cases pc with
  | waiting pc => cases pc <;> simp_all [notify, WaitPc.notify, leaving, WaitPc.Awake]
  | sleeping next => exact absurd h Bool.false_ne_true
  | _ => rfl

end SamplePc

namespace PeriodicSensor

/-- One step, by the branch taken. -/
inductive Transition (s : PeriodicSensor) : Action → PeriodicSensor → Prop
  /-- `activate` finds nothing to change. -/
  | activateSame (enable : Bool) : Transition s (.activate enable) s
  | activate (enable : Bool) (hlife : s.lifePc = .alive) (hfree : s.runPc.holdsMutex = false)
      (hne : s.mIsEnabled ≠ enable) :
    Transition s (.activate enable) { s with mIsEnabled := enable, runPc := s.runPc.notify }
  /-- `setOperationMode` finds nothing to change. -/
  | sameOperationMode (mode : OperationMode) : Transition s (.setOperationMode mode) s
  | setOperationMode (mode : OperationMode) (hlife : s.lifePc = .alive)
      (hfree : s.runPc.holdsMutex = false) (hne : s.mMode ≠ mode) :
    Transition s (.setOperationMode mode) { s with mMode := mode, runPc := s.runPc.notify }
  | batch (samplingPeriodNs : Int32) (hlife : s.lifePc = .alive) :
    Transition s (.batch samplingPeriodNs)
      { s with
        batching := (s.batching.sensorBatch samplingPeriodNs).1
        batches := s.batches + (s.batching.sensorBatch samplingPeriodNs).2.toNat }
  | notifyBatch (hpos : 0 < s.batches) :
    Transition s .notifyBatch { s with batches := s.batches - 1, runPc := s.runPc.notify }
  | flush (hlife : s.lifePc = .alive) :
    Transition s .flush { s with flushes := s.flushes + s.mIsEnabled.toNat }
  | postFlush (hpos : 0 < s.flushes) :
    Transition s .postFlush { s.postEvents s.flushEvents none with flushes := s.flushes - 1 }
  /-- `run` locks the mutex, at the beginning or after `wait_for`. -/
  | lock (now : ℤ) (hpc : s.runPc = .locking ∨ s.runPc = .relocking) :
    Transition s (.run now) { s with runPc := .loopTest }
  /-- The loop of `run` ends. -/
  | exit (now : ℤ) (hpc : s.runPc = .loopTest) (hstop : s.mStopThread = true) :
    Transition s (.run now) { s with runPc := .exited }
  | wait (now : ℤ) (hpc : s.runPc = .loopTest) (hstop : s.mStopThread = false)
      (harmed : s.armed = false) :
    Transition s (.run now) { s with runPc := .waiting .test }
  | readClock (now : ℤ) (hpc : s.runPc = .loopTest) (hstop : s.mStopThread = false)
      (harmed : s.armed = true) :
    Transition s (.run now) { s with runPc := .comparing now }
  /-- `mWaitCV.wait` returns. -/
  | leaveWait (now : ℤ) (hpc : s.runPc = .waiting .passed) :
    Transition s (.run now) { s with runPc := .loopTest }
  /-- A step of `mWaitCV.wait`. -/
  | stepWait (now : ℤ) (pc pc' : WaitPc) (hpc : s.runPc = .waiting pc)
      (hstep : pc.step (s.armed || s.mStopThread) = some pc') :
    Transition s (.run now) { s with runPc := .waiting pc' }
  /-- A sample is due. -/
  | sampleDue (now' now : ℤ) (hpc : s.runPc = .comparing now)
      (hdue : s.mLastSampleTimeNs + s.samplingPeriod ≤ now) :
    Transition s (.run now')
      { s with
        mLastSampleTimeNs := now
        runPc := .sampling ⟨now, s.mLastSampleTimeNs, s.samplingPeriod⟩ }
  | notDue (now' now : ℤ) (hpc : s.runPc = .comparing now)
      (hdue : now < s.mLastSampleTimeNs + s.samplingPeriod) :
    Transition s (.run now')
      { s with runPc := .willSleep (s.mLastSampleTimeNs + s.samplingPeriod) }
  | readPeriod (now' : ℤ) (sample : Sample) (hpc : s.runPc = .sampling sample) :
    Transition s (.run now')
      { s with runPc := .posting sample (s.mLastSampleTimeNs + s.samplingPeriod) }
  | post (now' : ℤ) (sample : Sample) (next : ℤ) (hpc : s.runPc = .posting sample next) :
    Transition s (.run now')
      { s.postEvents s.readEvents (some sample) with runPc := .willSleep next }
  | sleep (now' next : ℤ) (hpc : s.runPc = .willSleep next) :
    Transition s (.run now') { s with runPc := .sleeping next }
  | timeOut (next : ℤ) (hpc : s.runPc = .sleeping next) :
    Transition s .timeOut { s with runPc := .relocking }
  | wakeUp : Transition s .wakeUp { s with runPc := s.runPc.notify }
  | stop (hlife : s.lifePc = .alive) (hbatches : s.batches = 0) (hflushes : s.flushes = 0)
      (hfree : s.runPc.holdsMutex = false) :
    Transition s .destroy
      { s with
        mStopThread := true
        mIsEnabled := false
        runPc := s.runPc.notify
        lifePc := .joining }
  | join (hlife : s.lifePc = .joining) (hpc : s.runPc = .exited) :
    Transition s .destroy { s with lifePc := .joined }

variable {s t : PeriodicSensor} {a : Action}

/-- What the loop tests is the negation of `armed`. -/
theorem disarmed_eq : (!s.mIsEnabled || s.mMode == .dataInjection) = !s.armed := by
  unfold armed
  cases s.mIsEnabled <;> cases s.mMode <;> rfl

theorem armed_iff : s.armed = true ↔ s.mIsEnabled = true ∧ s.mMode = .normal := by
  simp [armed]

theorem run_cases {now : ℤ} (h : s.run now = some t) : Transition s (.run now) t := by
  unfold run at h
  cases hpc : s.runPc with
  | locking =>
    rw [hpc] at h
    exact Option.some.inj h ▸ .lock now (.inl hpc)
  | relocking =>
    rw [hpc] at h
    exact Option.some.inj h ▸ .lock now (.inr hpc)
  | loopTest =>
    simp only [hpc, disarmed_eq] at h
    split_ifs at h with hstop harmed
    · exact Option.some.inj h ▸ .exit now hpc hstop
    · exact Option.some.inj h ▸ .wait now hpc (by simpa using hstop) (by simpa using harmed)
    · exact Option.some.inj h ▸ .readClock now hpc (by simpa using hstop) (by simpa using harmed)
  | waiting pc =>
    cases pc with
    | passed =>
      simp only [hpc] at h
      exact Option.some.inj h ▸ .leaveWait now hpc
    | test | willBlock | blocked | notified =>
      simp only [hpc] at h
      obtain ⟨pc', hstep, rfl⟩ := Option.map_eq_some_iff.mp h
      exact .stepWait now _ pc' hpc hstep
  | comparing now' =>
    simp only [hpc] at h
    split_ifs at h with hdue
    · exact Option.some.inj h ▸ .sampleDue now now' hpc hdue
    · exact Option.some.inj h ▸ .notDue now now' hpc (Int.not_le.mp hdue)
  | sampling sample =>
    simp only [hpc] at h
    exact Option.some.inj h ▸ .readPeriod now sample hpc
  | posting sample next =>
    simp only [hpc] at h
    exact Option.some.inj h ▸ .post now sample next hpc
  | willSleep next =>
    simp only [hpc] at h
    exact Option.some.inj h ▸ .sleep now next hpc
  | sleeping next | exited => simp [hpc] at h

/-- **The inversion lemma.** -/
theorem step_cases (h : step s a = some t) : Transition s a t := by
  cases a with
  | activate enable =>
    rw [step, PeriodicSensor.activate] at h
    split_ifs at h with hclient hne
    · exact Option.some.inj h ▸ .activate enable hclient.1 (by simpa using hclient.2) hne
    · exact Option.some.inj h ▸ .activateSame enable
  | setOperationMode mode =>
    rw [step, PeriodicSensor.setOperationMode] at h
    split_ifs at h with hclient hne
    · exact Option.some.inj h ▸ .setOperationMode mode hclient.1 (by simpa using hclient.2) hne
    · exact Option.some.inj h ▸ .sameOperationMode mode
  | batch samplingPeriodNs =>
    rw [step, PeriodicSensor.batch] at h
    split_ifs at h with hlife
    exact Option.some.inj h ▸ .batch samplingPeriodNs hlife
  | notifyBatch =>
    rw [step, PeriodicSensor.notifyBatch] at h
    split_ifs at h with hnone
    exact Option.some.inj h ▸ .notifyBatch (Nat.pos_of_ne_zero hnone)
  | flush =>
    rw [step, PeriodicSensor.flush] at h
    split_ifs at h with hlife
    exact Option.some.inj h ▸ .flush hlife
  | postFlush =>
    rw [step, PeriodicSensor.postFlush] at h
    split_ifs at h with hnone
    exact Option.some.inj h ▸ .postFlush (Nat.pos_of_ne_zero hnone)
  | run now => exact run_cases h
  | timeOut =>
    rw [step, PeriodicSensor.timeOut] at h
    cases hpc : s.runPc with
    | sleeping next =>
      rw [hpc] at h
      exact Option.some.inj h ▸ .timeOut next hpc
    | _ => simp [hpc] at h
  | wakeUp => exact Option.some.inj h ▸ .wakeUp
  | destroy =>
    rw [step, PeriodicSensor.destroy] at h
    cases hlife : s.lifePc with
    | alive =>
      simp only [hlife] at h
      split_ifs at h with hfree
      exact Option.some.inj h ▸ .stop hlife hfree.1 hfree.2.1 (by simpa using hfree.2.2)
    | joining =>
      simp only [hlife] at h
      split_ifs at h with hpc
      exact Option.some.inj h ▸ .join hlife hpc
    | joined => simp [hlife] at h

/-! ### Where the thread can be -/

/-- Where the thread can be. -/
structure Sound (s : PeriodicSensor) : Prop where
  /-- Nobody disarms or stops a sensor that is about to be sampled. -/
  inSample : s.runPc.inSample = true → s.armed = true
  alive : s.lifePc = .alive → s.mStopThread = false
  stopped : s.lifePc ≠ .alive → s.mStopThread = true ∧ s.runPc.leaving = true

theorem sound_start (info : SensorInfo) (minDelay maxDelay : Int32) :
    Sound (start info minDelay maxDelay) where
  inSample := fun h => absurd h Bool.false_ne_true
  alive := fun _ => rfl
  stopped := fun h => absurd rfl h

/-- Whoever has the mutex finds the thread without it. -/
theorem not_inSample (hfree : s.runPc.holdsMutex = false) : s.runPc.inSample = false := by
  cases hsample : s.runPc.inSample with
  | false => rfl
  | true =>
    rw [SamplePc.holdsMutex_of_inSample hsample] at hfree
    exact absurd hfree.symm Bool.false_ne_true

/-- A step of the thread alone. -/
theorem Sound.of_run (h : Sound s) {pc : SamplePc} {last : ℤ} {posts : List SensorPost}
    (hsample : pc.inSample = true → s.armed = true)
    (hstopped : s.lifePc ≠ .alive → pc.leaving = true) :
    Sound { s with runPc := pc, mLastSampleTimeNs := last, posts := posts } where
  inSample := hsample
  alive := h.alive
  stopped := fun hlife => ⟨(h.stopped hlife).1, hstopped hlife⟩

/-- A notification. -/
theorem Sound.notify (h : Sound s) : Sound { s with runPc := s.runPc.notify } where
  inSample := fun hsample => h.inSample (by simpa using hsample)
  alive := h.alive
  stopped := fun hlife =>
    ⟨(h.stopped hlife).1, SamplePc.leaving_notify (.inr (h.stopped hlife).2)⟩

theorem Sound.step (h : Sound s) (hstep : PeriodicSensor.step s a = some t) : Sound t := by
  have hnotInSample : ∀ {pc : SamplePc}, s.runPc = pc → pc.leaving = false →
      s.lifePc ≠ .alive → False := by
    intro pc hpc hleaving hlife
    rw [← hpc, (h.stopped hlife).2] at hleaving
    exact absurd hleaving.symm Bool.false_ne_true
  cases step_cases hstep with
  | activateSame | sameOperationMode => exact h
  | activate enable hlife hfree hne =>
    refine ⟨fun hsample => ?_, h.alive, fun hdead => absurd hlife hdead⟩
    rw [SamplePc.inSample_notify, not_inSample hfree] at hsample
    exact absurd hsample Bool.false_ne_true
  | setOperationMode mode hlife hfree hne =>
    refine ⟨fun hsample => ?_, h.alive, fun hdead => absurd hlife hdead⟩
    rw [SamplePc.inSample_notify, not_inSample hfree] at hsample
    exact absurd hsample Bool.false_ne_true
  | batch | flush | postFlush => exact ⟨h.inSample, h.alive, h.stopped⟩
  | notifyBatch hpos => exact ⟨h.notify.inSample, h.alive, h.notify.stopped⟩
  | wakeUp => exact h.notify
  | lock | leaveWait | wait => exact h.of_run (fun hs => absurd hs Bool.false_ne_true) fun _ => rfl
  | exit => exact h.of_run (fun hs => absurd hs Bool.false_ne_true) fun _ => rfl
  | readClock now hpc hstop harmed =>
    refine h.of_run (fun _ => harmed) fun hlife => ?_
    rw [(h.stopped hlife).1] at hstop
    exact absurd hstop.symm Bool.false_ne_true
  | stepWait now pc pc' hpc hpc' =>
    refine h.of_run (fun hs => absurd hs Bool.false_ne_true) fun hlife => ?_
    obtain ⟨hstop, hleaving⟩ := h.stopped hlife
    rw [hstop, Bool.or_true] at hpc'
    rw [hpc] at hleaving
    have hawake : pc.Awake := by simpa [SamplePc.leaving] using hleaving
    simpa [SamplePc.leaving] using (hawake.step hpc').1
  | sampleDue now' now hpc hdue =>
    exact h.of_run (fun _ => h.inSample (by rw [hpc]; rfl)) fun hlife =>
      (hnotInSample hpc rfl hlife).elim
  | notDue now' now hpc hdue =>
    exact h.of_run (fun hs => absurd hs Bool.false_ne_true) fun hlife =>
      (hnotInSample hpc rfl hlife).elim
  | readPeriod now' sample hpc =>
    exact h.of_run (fun _ => h.inSample (by rw [hpc]; rfl)) fun hlife =>
      (hnotInSample hpc rfl hlife).elim
  | post now' sample next hpc =>
    exact h.of_run (fun hs => absurd hs Bool.false_ne_true) fun hlife =>
      (hnotInSample hpc rfl hlife).elim
  | sleep now' next hpc =>
    exact h.of_run (fun hs => absurd hs Bool.false_ne_true) fun hlife =>
      (hnotInSample hpc rfl hlife).elim
  | timeOut next hpc => exact h.of_run (fun hs => absurd hs Bool.false_ne_true) fun _ => rfl
  | stop hlife hbatches hflushes hfree =>
    refine ⟨fun hsample => ?_, fun halive => ?_, fun _ => ⟨rfl, ?_⟩⟩
    · rw [SamplePc.inSample_notify, not_inSample hfree] at hsample
      exact absurd hsample Bool.false_ne_true
    · have hne : SensorLifePc.joining ≠ .alive := by decide
      exact absurd halive hne
    · exact SamplePc.leaving_notify (.inl hfree)
  | join hlife hpc =>
    have hdead : s.lifePc ≠ .alive := by
      rw [hlife]
      decide
    have hne : SensorLifePc.joined ≠ .alive := by decide
    exact ⟨h.inSample, fun halive => absurd halive hne, fun _ => h.stopped hdead⟩

theorem sound_of_visits {as : List Action} (h : Sound s) (hv : machine.Visits s as t) : Sound t :=
  Machine.invariant_of_step (fun _ _ _ h hstep => h.step hstep) h hv

end PeriodicSensor

end OnePlus9
