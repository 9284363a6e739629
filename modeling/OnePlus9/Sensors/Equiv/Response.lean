import OnePlus9.Sensors.Equiv.SensorThread

/-!
# An armed sensor fires

The thread of an armed one-shot sensor may be anywhere: in its wait, on its way to `poll`, or busy
with bytes that older calls have left in the pipe.  `stepsToPost` counts the steps it has left until
it posts once the node has triggered, and the calls of clients that leave the sensor armed never
raise that number (`Ready.step`).  So every run in which the thread takes more steps has a post, and
outside of the calls the thread is never stuck (`fires`).
-/

namespace OnePlus9

open ConditionVariable

namespace SysfsPollingOneShotSensor

variable {capacity : PipeCapacity} {s t : SysfsPollingOneShotSensor} {a : Action}
  {as : List Action} {n : ℕ}

/-! ### What is left to do -/

/-- How many steps the thread has left in its wait, while the predicate holds. -/
def stepsInWait : WaitPc → ℕ
  | .passed => 0
  | .test => 1
  | .notified => 2
  | .blocked => 3
  | .willBlock => 4

/-- How many steps the thread has left until it posts. -/
def stepsToPost : RunPc → ℕ
  | .posting | .exited | .relocking .failed | .polled .failed => 0
  | .polled (.ready _ node) => if node = POLLERR ||| POLLPRI then 1 else 5
  | .relocking (.ready _ node) => if node = POLLERR ||| POLLPRI then 2 else 6
  | .polling => 3
  | .loopTest => 4
  | .locking => 5
  | .waiting pc => stepsInWait pc + 5

theorem stepsToPost_le (pc : RunPc) : stepsToPost pc ≤ 9 := by
  cases pc with
  | waiting pc => cases pc <;> decide
  | relocking result =>
    cases result with
    | failed => decide
    | ready pipe node =>
      show (if node = POLLERR ||| POLLPRI then 2 else 6) ≤ 9
      split_ifs <;> decide
  | polled result =>
    cases result with
    | failed => decide
    | ready pipe node =>
      show (if node = POLLERR ||| POLLPRI then 1 else 5) ≤ 9
      split_ifs <;> decide
  | _ => decide

/-- A notification leaves no more to do. -/
theorem stepsToPost_notify_le (pc : RunPc) : stepsToPost pc.notify ≤ stepsToPost pc := by
  cases pc with
  | waiting pc => cases pc <;> decide
  | _ => exact Nat.le_refl _

/-- The steps of a wait whose predicate holds. -/
theorem stepsInWait_step {pc pc' : WaitPc} (hstep : pc.step true = some pc') :
    stepsInWait pc' + 1 ≤ stepsInWait pc := by
  cases pc with
  | blocked | passed => exact nomatch hstep
  | _ =>
    obtain rfl := Option.some.inj hstep
    decide

/-! ### What may happen meanwhile -/

/-- The node has triggered, whenever the thread looks, and nobody disarms the sensor. -/
def KeepsArmed : Action → Prop
  | .run node triggered => node = some (POLLERR ||| POLLPRI) ∧ triggered = true
  | .activate enable => enable = true
  | .setOperationMode mode => mode = .normal
  | .destroy => False
  | _ => True

instance : DecidablePred KeepsArmed := fun a => by
  cases a <;> unfold KeepsArmed <;> infer_instance

/-- A step of the thread. -/
def isRun : Action → Bool
  | .run .. => true
  | _ => false

/-- The thread is on its way to its `n + 1`st post. -/
structure Ready (n : ℕ) (s : SysfsPollingOneShotSensor) : Prop where
  sound : Sound s
  lifePc : s.lifePc = .alive
  armed : s.armed = true
  mStopThread : s.mStopThread = false
  /-- `poll` has not failed. -/
  relocking : s.runPc ≠ .relocking .failed
  polled : s.runPc ≠ .polled .failed
  posts : s.history.posts.length = n

/-- The thread posts for the `n + 1`st time, and the sensor is disabled. -/
structure Fires (n : ℕ) (s : SysfsPollingOneShotSensor) : Prop where
  runPc : s.runPc = .posting
  mIsEnabled : s.mIsEnabled = false
  posts : s.history.posts.length = n + 1

/-- A step that leaves the sensor as it is, and the thread no further from its post. -/
theorem Ready.of_same {k : ℕ} (h : Ready n s) (hsound : Sound t) (hlife : t.lifePc = s.lifePc)
    (harmed : t.armed = s.armed) (hstop : t.mStopThread = s.mStopThread)
    (hrelocking : t.runPc ≠ .relocking .failed) (hpolled : t.runPc ≠ .polled .failed)
    (hposts : t.history.posts = s.history.posts)
    (hle : stepsToPost t.runPc + k ≤ stepsToPost s.runPc) :
    Fires n t ∨ Ready n t ∧ stepsToPost t.runPc + k ≤ stepsToPost s.runPc :=
  .inr ⟨⟨hsound, hlife.trans h.lifePc, harmed.trans h.armed, hstop.trans h.mStopThread, hrelocking,
    hpolled, (congrArg List.length hposts).trans h.posts⟩, hle⟩

/-- After a notification the thread is where it was, outside of its wait. -/
theorem Ready.of_notify (h : Ready n s) (hsound : Sound t) (hlife : t.lifePc = s.lifePc)
    (harmed : t.armed = s.armed) (hstop : t.mStopThread = s.mStopThread)
    (hpc : t.runPc = s.runPc.notify) (hposts : t.history.posts = s.history.posts) :
    Fires n t ∨ Ready n t ∧ stepsToPost t.runPc + 0 ≤ stepsToPost s.runPc := by
  refine h.of_same hsound hlife harmed hstop ?_ ?_ hposts ?_
  · rw [hpc]
    exact fun heq => h.relocking (RunPc.notify_eq_relocking.mp heq)
  · rw [hpc]
    exact fun heq => h.polled (RunPc.notify_eq_polled.mp heq)
  · rw [hpc]
    exact stepsToPost_notify_le s.runPc

/-- **Every step** that keeps the sensor armed brings the thread to its post or leaves it no further
away, and a step of its own leaves it closer. -/
theorem Ready.step (h : Ready n s) (hkeeps : KeepsArmed a)
    (hstep : SysfsPollingOneShotSensor.step capacity s a = some t) :
    Fires n t ∨ Ready n t ∧ stepsToPost t.runPc + (if isRun a then 1 else 0)
      ≤ stepsToPost s.runPc := by
  have hsound := h.sound.step hstep
  have harmed := armed_iff.mp h.armed
  cases step_cases hstep with
  | construct pipeOpened nodeOpened hlife => exact absurd (h.lifePc.symm.trans hlife) (by decide)
  | activateSame enable =>
    exact .inr ⟨h, Nat.le_refl _⟩
  | activate enable hlife hfree hne =>
    have henable : enable = true := hkeeps
    exact absurd (harmed.1.trans henable.symm) hne
  | setOperationMode mode hlife hfree hne =>
    have hmode : mode = .normal := hkeeps
    exact absurd (harmed.2.trans hmode.symm) hne
  | notifyActivate hpc => exact h.of_notify hsound rfl rfl rfl rfl rfl
  | wakeUp => exact h.of_notify hsound rfl rfl rfl rfl rfl
  | interruptActivate | sameOperationMode | interruptPoll =>
    exact h.of_same hsound rfl rfl rfl h.relocking h.polled rfl (Nat.le_refl _)
  | lock node triggered hpc hfree =>
    refine h.of_same hsound rfl rfl rfl RunPc.noConfusion RunPc.noConfusion rfl ?_
    rw [hpc]
    exact Nat.le_refl 5
  | exit node triggered hpc hstop => exact absurd (h.mStopThread.symm.trans hstop) (by decide)
  | wait node triggered hpc hstop hdisarmed =>
    exact absurd (h.armed.symm.trans hdisarmed) (by decide)
  | poll node triggered hpc =>
    refine h.of_same hsound rfl rfl rfl RunPc.noConfusion RunPc.noConfusion rfl ?_
    rw [hpc]
    exact Nat.le_refl 4
  | leaveWait node triggered hpc =>
    refine h.of_same hsound rfl rfl rfl RunPc.noConfusion RunPc.noConfusion rfl ?_
    rw [hpc]
    exact Nat.le_refl 5
  | stepWait node triggered pc pc' hpc hfree hwait =>
    rw [h.armed, Bool.true_or] at hwait
    refine h.of_same hsound rfl rfl rfl RunPc.noConfusion RunPc.noConfusion rfl ?_
    rw [hpc]
    have hlt := stepsInWait_step hwait
    show stepsInWait pc' + 5 + 1 ≤ stepsInWait pc + 5
    omega
  | pollFails triggered hpc =>
    have hnode : none = some (POLLERR ||| POLLPRI) := hkeeps.1
    exact absurd hnode (Option.some_ne_none _).symm
  | pollReturns node triggered hpc hready =>
    obtain rfl : node = POLLERR ||| POLLPRI := Option.some.inj hkeeps.1
    refine h.of_same hsound rfl rfl rfl (fun heq => ?_) RunPc.noConfusion rfl ?_
    · cases heq
    · rw [hpc]
      exact Nat.le_refl 3
  | relock node triggered result hpc hfree =>
    cases result with
    | failed => exact absurd hpc h.relocking
    | ready pipe revents =>
      refine h.of_same hsound rfl rfl rfl RunPc.noConfusion (fun heq => ?_) rfl ?_
      · cases heq
      · rw [hpc]
        show (if revents = POLLERR ||| POLLPRI then 1 else 5) + 1
          ≤ if revents = POLLERR ||| POLLPRI then 2 else 6
        split_ifs <;> decide
  | giveUp node triggered hpc => exact absurd hpc h.polled
  | trigger node pipe hpc =>
    refine .inl ⟨rfl, rfl, ?_⟩
    show (s.history.posts ++ [s.history.relocked]).length = n + 1
    rw [List.length_append, h.posts]
    rfl
  | readPipe node triggered revents hpc htrigger =>
    refine h.of_same hsound rfl rfl rfl RunPc.noConfusion RunPc.noConfusion rfl ?_
    have hother : ¬revents = POLLERR ||| POLLPRI := fun heq => htrigger ⟨heq, hkeeps.2⟩
    rw [hpc, stepsToPost, if_neg hother]
    exact Nat.le_refl 5
  | ignore node triggered pipe revents hpc htrigger hpipe =>
    refine h.of_same hsound rfl rfl rfl RunPc.noConfusion RunPc.noConfusion rfl ?_
    have hother : ¬revents = POLLERR ||| POLLPRI := fun heq => htrigger ⟨heq, hkeeps.2⟩
    rw [hpc, stepsToPost, if_neg hother]
    exact Nat.le_refl 5
  | posted node triggered hpc =>
    have hdisabled := h.sound.disabled hpc
    exact absurd (harmed.1.symm.trans hdisabled) (by decide)
  | beginDestroy | interruptDestroy | stop | join => exact absurd hkeeps not_false

/-- While no `activate` call is under way, the thread can take its next step. -/
theorem Ready.exists_step (h : Ready n s) (hidle : s.activatePc = .idle) :
    ∃ t, SysfsPollingOneShotSensor.step capacity s (.run (some (POLLERR ||| POLLPRI)) true)
      = some t := by
  have hawake : s.runPc.Awake := by
    by_contra hasleep
    exact h.sound.asleep hasleep h.armed hidle
  show ∃ t, run (some (POLLERR ||| POLLPRI)) true s = some t
  unfold run
  cases hpc : s.runPc with
  | waiting pc =>
    rw [hpc] at hawake
    by_cases hpassed : pc = .passed
    · subst hpassed
      exact ⟨_, rfl⟩
    · obtain ⟨pc', hpc'⟩ := (RunPc.awake_waiting.mp hawake).exists_step hpassed
      refine ⟨{ s with runPc := .waiting pc' }, ?_⟩
      cases pc with
      | passed => exact absurd rfl hpassed
      | _ =>
        dsimp only
        rw [h.armed, Bool.true_or, hpc', if_neg fun hbusy => hbusy.2 hidle]
        rfl
  | exited =>
    have hstopped := h.sound.exited hpc
    exact absurd (h.mStopThread.symm.trans hstopped) (by decide)
  | polling =>
    refine ⟨_, if_neg fun hnothing => ?_⟩
    exact absurd hnothing.2 (by decide)
  | locking | relocking result => exact ⟨_, if_pos hidle⟩
  | loopTest =>
    dsimp only
    split_ifs <;> exact ⟨_, rfl⟩
  | polled result | posting => exact ⟨_, rfl⟩

/-- **An armed sensor fires.**  In every state of every run in which the sensor is armed and `poll`
has not failed, with the node triggered: the thread is not stuck unless an `activate` call is under
way, and any run that leaves the sensor armed has a post among its thread's next ten steps. -/
theorem fires (hv : (machine capacity).Visits start as s) (hlife : s.lifePc = .alive)
    (harmed : s.armed = true) (hstop : s.mStopThread = false)
    (hrelocking : s.runPc ≠ .relocking .failed) (hpolled : s.runPc ≠ .polled .failed) :
    (s.activatePc = .idle → ∃ t, SysfsPollingOneShotSensor.step capacity s
        (.run (some (POLLERR ||| POLLPRI)) true) = some t)
      ∧ ∀ bs t, (∀ b ∈ bs, KeepsArmed b) → (machine capacity).run s bs = some t →
        9 < bs.countP isRun → ∃ u, (machine capacity).Visits s bs u
          ∧ Fires s.history.posts.length u := by
  have hready : Ready s.history.posts.length s :=
    ⟨sound_of_visits hv, hlife, harmed, hstop, hrelocking, hpolled, rfl⟩
  refine ⟨hready.exists_step, fun bs t hkeeps hrun hcount => ?_⟩
  exact Machine.exists_visits_of_countP (c := fun _ a => KeepsArmed a) isRun
    (fun s => stepsToPost s.runPc) (fun _ _ _ h hkeeps hstep => h.step hkeeps hstep) hready
    (Machine.meets_of_forall hkeeps) hrun (Nat.lt_of_le_of_lt (stepsToPost_le s.runPc) hcount)

/-- The thread looks at a node that has triggered. -/
def runTriggered : Action := .run (some (POLLERR ||| POLLPRI)) true

/-- Ten steps of the thread; the sensor is enabled again after it has fired. -/
def tenSteps : List Action :=
  List.replicate 7 runTriggered ++ [.activate true, .notifyActivate, .notifyActivate]
    ++ List.replicate 3 runTriggered

/-- A sensor in `poll` fires on the way. -/
theorem fires_pollingSensor :
    ∃ u, (machine samplePipe).Visits pollingSensor tenSteps u ∧ Fires 0 u := by
  obtain ⟨t, hrun, -⟩ := Option.map_eq_some_iff.mp
    (show ((machine samplePipe).run pollingSensor tenSteps).map (fun t => t.runPc)
      = some .loopTest by decide)
  obtain ⟨-, hfires⟩ := fires visits_pollingSensor rfl rfl rfl (by decide) (by decide)
  exact hfires tenSteps t (by decide) hrun (by decide)

end SysfsPollingOneShotSensor

end OnePlus9
