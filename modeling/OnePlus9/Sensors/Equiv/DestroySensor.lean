import OnePlus9.Sensors.Equiv.SensorThread

/-!
# Does the destruction of a sensor end?

`~SysfsPollingOneShotSensor` writes a byte to the pipe, and only then `~Sensor` sets `mStopThread`
and joins the thread.  In between the thread can read the byte, find that it is not to stop, and
enter `poll` again (`exists_hung`): nobody is left to write another byte.  The other place where the
thread waits is no problem: `~Sensor` notifies `mWaitCV` with the mutex (`Sound.stopped`).

Whether this can happen is decided when the destructor begins.  A destruction cannot hang if the
sensor is not armed then, or its thread is to stop or about to (`Safe`); in every other case some
interleaving hangs (`exists_hung_of_willPoll`).  So in all that can follow a run the destructor
never hangs if and only if it was begun for idle sensors only (`never_hung_iff`).
-/

namespace OnePlus9

open ConditionVariable

/-- The destructor has begun. -/
def LifePc.dying : LifePc → Bool
  | interruptingPoll | lockingRunMutex | joining | joined => true
  | constructing | alive => false

namespace SysfsPollingOneShotSensor

/-- The destructor is at the join and the thread blocked for good. -/
def Hung (s : SysfsPollingOneShotSensor) : Prop :=
  s.lifePc = .joining ∧ (s.runPc = .polling ∧ s.waitPipe = 0 ∨ ¬s.runPc.Awake)

instance (s : SysfsPollingOneShotSensor) : Decidable s.Hung := inferInstanceAs (Decidable (_ ∧ _))

/-- The thread enters `poll` again unless somebody stops it. -/
def WillPoll (s : SysfsPollingOneShotSensor) : Prop :=
  s.armed = true ∧ s.mStopThread = false
    ∧ s.runPc ≠ .relocking .failed ∧ s.runPc ≠ .polled .failed

instance (s : SysfsPollingOneShotSensor) : Decidable s.WillPoll :=
  inferInstanceAs (Decidable (_ ∧ _))

/-- The destructor is begun for an idle sensor only: disabled, in `DATA_INJECTION`, or with a thread
that is to stop or found that `poll` failed. -/
def DestroysIdle (s : SysfsPollingOneShotSensor) (a : Action) : Prop :=
  a = .destroy → s.lifePc = .alive → ¬s.WillPoll

/-- While the sensor is destroyed, its thread does not enter `poll` again, and where it is still in
`poll` there is something to read from the pipe. -/
def Safe (s : SysfsPollingOneShotSensor) : Prop :=
  s.lifePc.dying = true → ¬s.WillPoll ∧ (s.runPc = .polling → 0 < s.waitPipe)

/-- What an idle destruction keeps. -/
structure Orderly (s : SysfsPollingOneShotSensor) : Prop where
  sound : Sound s
  roused : Roused s
  safe : Safe s

theorem orderly_start : Orderly start where
  sound := sound_start
  roused := fun _ hpc => nomatch hpc
  safe := fun h => nomatch h

variable {capacity : PipeCapacity} {s t u : SysfsPollingOneShotSensor} {a : Action}
  {as : List Action}

/-! ### Idle sensors -/

attribute [local grind =] LifePc.dying LifePc.stopped

/-- The destruction of an idle sensor begins. -/
theorem Orderly.safe_begin (h : Orderly s) (hlife : s.lifePc = .alive)
    (hidle : s.activatePc = .idle) (hnone : s.setOperationModes = 0) (hc : ¬s.WillPoll) :
    Safe { s with lifePc := .interruptingPoll } := by
  intro _
  refine ⟨hc, fun hpc => ?_⟩
  have hpolling : s.runPc = .polling := hpc
  have hstopped : s.lifePc.stopped = false := by rw [hlife]; rfl
  rcases h.roused hstopped hpolling with harmed | hpipe | hcall | hcalls
  · -- An armed sensor whose thread polls is not idle.
    have hrun := (h.sound.mWaitPipeFd_of_polling hstopped hpolling).1
    exact absurd ⟨harmed, hrun, by rw [hpolling]; decide, by rw [hpolling]; decide⟩ hc
  · exact hpipe
  · rw [hidle] at hcall
    exact nomatch hcall
  · omega

theorem Orderly.safe_step (h : Orderly s) (hc : DestroysIdle s a)
    (hstep : step capacity s a = some t) : Safe t := by
  have hsafe := h.safe
  have hcalls := h.sound.noCalls
  unfold Safe WillPoll at hsafe ⊢
  cases step_cases hstep with
  | beginDestroy hlife hidle hnone =>
    exact h.safe_begin hlife hidle hnone (hc rfl hlife)
  -- A thread that is not to enter `poll` does not.
  | poll node triggered hpc hstop harmed =>
    intro hdying
    have hnot := (hsafe hdying).1
    exact absurd ⟨harmed, hstop, by rw [hpc]; decide, by rw [hpc]; decide⟩ hnot
  -- The thread disarms the sensor, or is to stop.
  | trigger | giveUp | stop | pollFails => grind [armed]
  | _ => grind [armed]

theorem Orderly.step (h : Orderly s) (hc : DestroysIdle s a)
    (hstep : SysfsPollingOneShotSensor.step capacity s a = some t) : Orderly t where
  sound := h.sound.step hstep
  roused := h.roused.step h.sound hstep
  safe := h.safe_step hc hstep

/-- **The destruction of an idle sensor does not hang.** -/
theorem Orderly.not_hung (h : Orderly s) : ¬s.Hung := by
  rintro ⟨hlife, ⟨hpc, hpipe⟩ | hasleep⟩
  · have hdying : s.lifePc.dying = true := by rw [hlife]; rfl
    have hpos := (h.safe hdying).2 hpc
    omega
  · have hstopped : s.lifePc.stopped = true := by rw [hlife]; rfl
    exact hasleep (h.sound.stopped hstopped).2

/-! ### Sensors that are not idle -/

theorem reaches_of_step (h : step capacity s a = some t) : (machine capacity).Reaches s t :=
  Machine.Reaches.of_step h

variable (capacity)

/-- The thread reads one byte and enters `poll` again. -/
theorem reaches_readPipe (n : ℕ) (harmed : s.armed = true) (hrun : s.mStopThread = false)
    (hidle : s.activatePc = .idle) :
    ∃ history, (machine capacity).Reaches { s with runPc := .polling, waitPipe := n + 1 }
      { s with runPc := .polling, waitPipe := n, history := history } := by
  obtain ⟨henabled, hmode⟩ := armed_iff.mp harmed
  refine ⟨{ s.history with relocked := (s.mIsEnabled, s.mMode) }, ?_⟩
  -- `poll` returns, and the node did not trigger; then the byte is read and the loop goes on.
  refine ⟨[.run (some 0) false, .run none false, .run none false, .run none false], ?_⟩
  simp [Machine.run, machine, SysfsPollingOneShotSensor.step, run, handlePoll, hidle, hrun,
    henabled, hmode]

/-- It reads all of them. -/
theorem reaches_emptyPipe (n : ℕ) (harmed : s.armed = true) (hrun : s.mStopThread = false)
    (hidle : s.activatePc = .idle) :
    ∃ history, (machine capacity).Reaches { s with runPc := .polling, waitPipe := n }
      { s with runPc := .polling, waitPipe := 0, history := history } := by
  induction n generalizing s with
  | zero => exact ⟨s.history, .refl _⟩
  | succ n ih =>
    obtain ⟨history, hread⟩ := reaches_readPipe capacity n harmed hrun hidle
    obtain ⟨history', hrest⟩ := ih (s := { s with history := history }) harmed hrun hidle
    exact ⟨history', hread.trans hrest⟩

/-- The thread finds that the node did not trigger. -/
theorem reaches_loopTest_of_polled {pipe node : UInt16}
    (hpc : s.runPc = .polled (.ready pipe node)) :
    ∃ n, (machine capacity).Reaches s { s with runPc := .loopTest, waitPipe := n } := by
  by_cases hpipe : pipe = POLLIN
  · refine ⟨s.waitPipe - 1, reaches_of_step (a := .run none false) ?_⟩
    simp [SysfsPollingOneShotSensor.step, run, hpc, handlePoll, hpipe]
  · refine ⟨s.waitPipe, reaches_of_step (a := .run none false) ?_⟩
    simp [SysfsPollingOneShotSensor.step, run, hpc, handlePoll, hpipe]

/-- A thread that waits for an armed sensor, and was notified, leaves the wait. -/
theorem reaches_loopTest_of_waiting {pc : WaitPc} (hpc : s.runPc = .waiting pc)
    (hawake : pc.Awake) (harmed : s.armed = true) (hidle : s.activatePc = .idle) :
    (machine capacity).Reaches s { s with runPc := .loopTest } := by
  have hleave : (machine capacity).Reaches { s with runPc := .waiting .passed }
      { s with runPc := .loopTest } := reaches_of_step (a := .run none false) rfl
  have htest : (machine capacity).Reaches { s with runPc := .waiting .test }
      { s with runPc := .waiting .passed } := by
    obtain ⟨henabled, hmode⟩ := armed_iff.mp harmed
    refine reaches_of_step (a := .run none false) ?_
    simp [SysfsPollingOneShotSensor.step, run, WaitPc.step, armed, henabled, hmode]
  have hsame : s = { s with runPc := .waiting pc } := by rw [← hpc]
  rw [hsame]
  cases pc with
  | test => exact htest.trans hleave
  | willBlock => exact absurd rfl hawake.1
  | blocked => exact absurd rfl hawake.2
  | notified =>
    have hrelock : (machine capacity).Reaches { s with runPc := .waiting .notified }
        { s with runPc := .waiting .test } := by
      refine reaches_of_step (a := .run none false) ?_
      simp [SysfsPollingOneShotSensor.step, run, WaitPc.step, hidle]
    exact hrelock.trans (htest.trans hleave)
  | passed => exact hleave

/-- Wherever the thread is, except in `poll`, it gets to the test of the loop. -/
theorem reaches_loopTest (h : Sound s) (hpoll : s.WillPoll) (hidle : s.activatePc = .idle)
    (hpolling : s.runPc ≠ .polling) :
    ∃ n history, (machine capacity).Reaches s
      { s with runPc := .loopTest, waitPipe := n, history := history } := by
  obtain ⟨harmed, hrun, hrelock, hpolled⟩ := hpoll
  cases hpc : s.runPc with
  | locking =>
    refine ⟨s.waitPipe, s.history, reaches_of_step (a := .run none false) ?_⟩
    simp [SysfsPollingOneShotSensor.step, run, hpc, hidle]
  | loopTest =>
    refine ⟨s.waitPipe, s.history, ?_⟩
    rw [← hpc]
    exact .refl s
  | waiting pc =>
    -- Whoever armed the sensor has notified the thread.
    have hawake : s.runPc.Awake := by
      by_contra hasleep
      exact h.asleep hasleep harmed hidle
    rw [hpc] at hawake
    exact ⟨s.waitPipe, s.history,
      reaches_loopTest_of_waiting capacity hpc (RunPc.awake_waiting.mp hawake) harmed hidle⟩
  | polling => exact absurd hpc hpolling
  | relocking result =>
    cases result with
    | failed => exact absurd hpc hrelock
    | ready pipe node =>
      have hlock : SysfsPollingOneShotSensor.step capacity s (.run none false)
          = some { s with
            runPc := .polled (.ready pipe node)
            history.relocked := (s.mIsEnabled, s.mMode) } := by
        simp [SysfsPollingOneShotSensor.step, run, hpc, hidle]
      obtain ⟨n, hloop⟩ := reaches_loopTest_of_polled capacity (s := { s with
        runPc := .polled (.ready pipe node)
        history.relocked := (s.mIsEnabled, s.mMode) }) rfl
      exact ⟨n, _, (reaches_of_step hlock).trans hloop⟩
  | polled result =>
    cases result with
    | failed => exact absurd hpc hpolled
    | ready pipe node =>
      obtain ⟨n, hloop⟩ := reaches_loopTest_of_polled capacity hpc
      exact ⟨n, s.history, hloop⟩
  | posting =>
    have hdisabled := h.disabled hpc
    rw [(armed_iff.mp harmed).1] at hdisabled
    contradiction
  | exited =>
    have hstop := h.exited hpc
    rw [hrun] at hstop
    contradiction

/-- Wherever the thread is, it gets to `poll`. -/
theorem reaches_polling (h : Sound s) (hpoll : s.WillPoll) (hidle : s.activatePc = .idle) :
    ∃ n history, (machine capacity).Reaches s
      { s with runPc := .polling, waitPipe := n, history := history } := by
  by_cases hpc : s.runPc = .polling
  · refine ⟨s.waitPipe, s.history, ?_⟩
    rw [← hpc]
    exact .refl s
  · obtain ⟨n, history, hloop⟩ := reaches_loopTest capacity h hpoll hidle hpc
    obtain ⟨henabled, hmode⟩ := armed_iff.mp hpoll.1
    refine ⟨n, history, hloop.trans (reaches_of_step (a := .run none false) ?_)⟩
    simp [SysfsPollingOneShotSensor.step, run, hpoll.2.1, henabled, hmode]

/-- **The destruction hangs** if the thread reads the byte of the destructor before `~Sensor` sets
`mStopThread`. -/
theorem exists_hung_of_polling (harmed : s.armed = true) (hrun : s.mStopThread = false)
    (hidle : s.activatePc = .idle) (hopen : s.mWaitPipeFd = true)
    (hlife : s.lifePc = .interruptingPoll) :
    ∃ t, (machine capacity).Reaches { s with runPc := .polling, waitPipe := 0 } t ∧ t.Hung := by
  obtain ⟨henabled, hmode⟩ := armed_iff.mp harmed
  have hwrite : SysfsPollingOneShotSensor.step capacity { s with runPc := .polling, waitPipe := 0 }
      .destroy = some { s with
        runPc := .polling
        waitPipe := 0 + 1
        lifePc := .lockingRunMutex } := by
    simp [SysfsPollingOneShotSensor.step, destroy, interruptPoll, hlife, hopen, capacity.bytes_pos]
  obtain ⟨history, hread⟩ := reaches_readPipe capacity
    (s := { s with lifePc := .lockingRunMutex }) 0 harmed hrun hidle
  have hstop : SysfsPollingOneShotSensor.step capacity { s with
        runPc := .polling
        waitPipe := 0
        lifePc := .lockingRunMutex
        history := history } .destroy
      = some { s with
        mStopThread := true
        mIsEnabled := false
        runPc := .polling
        waitPipe := 0
        lifePc := .joining
        history := history } := by
    simp [SysfsPollingOneShotSensor.step, destroy, mRunMutexFree, RunPc.holdsMutex, RunPc.notify,
      hidle]
  refine ⟨_, (reaches_of_step hwrite).trans (hread.trans (reaches_of_step hstop)),
    rfl, Or.inl ⟨rfl, rfl⟩⟩

/-- **A destruction of a sensor that is not idle can hang.** -/
theorem exists_hung_of_willPoll (h : Sound s) (hlife : s.lifePc = .interruptingPoll)
    (hpoll : s.WillPoll) : ∃ t, (machine capacity).Reaches s t ∧ t.Hung := by
  have harmed := hpoll.1
  have hrun := hpoll.2.1
  have hidle : s.activatePc = .idle := (h.noCalls (by rw [hlife]; decide)).1
  have hopen : s.mWaitPipeFd = true := h.pipe (by rw [hlife]; decide) hrun
  obtain ⟨n, history, hpolling⟩ := reaches_polling capacity h hpoll hidle
  obtain ⟨history', hempty⟩ := reaches_emptyPipe capacity
    (s := { s with history := history }) n harmed hrun hidle
  obtain ⟨t, hhang, ht⟩ := exists_hung_of_polling capacity
    (s := { s with history := history' }) harmed hrun hidle hopen hlife
  exact ⟨t, hpolling.trans (hempty.trans hhang), ht⟩

/-! ### Runs -/

variable {capacity}

theorem Orderly.reaches (h : Orderly s) (hdying : s.lifePc.dying = true)
    (hreaches : (machine capacity).Reaches s t) : Orderly t := by
  obtain ⟨as, hrun⟩ := hreaches
  have hinv : Orderly t ∧ t.lifePc.dying = true := by
    refine Machine.invariant_of_step (I := fun s => Orderly s ∧ s.lifePc.dying = true) ?_
      ⟨h, hdying⟩ ((machine capacity).visits_of_run hrun)
    intro s a t ⟨hs, hdying⟩ hstep
    have hc : DestroysIdle s a := by
      intro _ hlife
      rw [hlife] at hdying
      exact nomatch hdying
    refine ⟨hs.step hc hstep, ?_⟩
    cases step_cases hstep <;> grind
  exact hinv.1

/-- **Destroying a sensor never hangs**, in all that can follow a run, if and only if the run begins
the destruction of idle sensors only. -/
theorem never_hung_iff (capacity : PipeCapacity) (as : List Action) :
    (∀ t, (machine capacity).Visits start as t →
        ∀ u, t.lifePc.dying = true → (machine capacity).Reaches t u → ¬u.Hung)
      ↔ (machine capacity).Meets DestroysIdle start as := by
  refine Machine.always_iff_meets (d := fun _ _ => True) (I := Orderly)
    (P := fun t => ∀ u, t.lifePc.dying = true → (machine capacity).Reaches t u → ¬u.Hung)
    ?_ ?_ ?_ orderly_start (Machine.meets_of_forall fun _ _ => trivial)
  · intro s h u hdying hreaches
    exact (h.reaches hdying hreaches).not_hung
  · intro s a t h _ hc hstep
    exact h.step hc hstep
  · intro s a t h _ hc hstep hnever
    unfold DestroysIdle at hc
    push Not at hc
    obtain ⟨rfl, hlife, hpoll⟩ := hc
    change SysfsPollingOneShotSensor.step capacity s .destroy = some t at hstep
    have hsound := h.sound.step hstep
    cases step_cases hstep with
    | beginDestroy =>
      obtain ⟨u, hreaches, hhung⟩ := exists_hung_of_willPoll capacity hsound rfl hpoll
      exact hnever u rfl hreaches hhung
    | interruptDestroy hother | stop hother | join hother =>
      rw [hlife] at hother
      exact nomatch hother

/-- The destructor writes its byte, the thread reads it and enters `poll` again, and `~Sensor` goes
on to the join. -/
def destroyingEnabled : List Action :=
  polling ++ [.destroy, .destroy, .run (some 0) false, .run none false, .run none false,
    .run none false, .destroy]

/-- The thread is in `poll`, and the destructor at the join. -/
theorem exists_hung :
    ¬∀ t, (machine samplePipe).Visits start destroyingEnabled t → ¬t.Hung := by
  intro hall
  obtain ⟨t, hvisits, ht⟩ := (machine samplePipe).exists_visits start destroyingEnabled
    (fun t => decide t.Hung) true (by decide)
  exact hall t hvisits (of_decide_eq_true ht)

end SysfsPollingOneShotSensor

end OnePlus9
