import OnePlus9.Sensors.Equiv.SensorThread

/-!
# Does a one-shot sensor fire only while it is armed?

`run` tests that the sensor is enabled and in `NORMAL` mode, releases the mutex, polls, takes the
mutex again and posts; it does not test again.  A client that disables the sensor in between comes
too late (`exists_disarmed_post`).

`Undisturbed s a` says that the step does not disarm the sensor while its thread may post without
another test (`RunPc.mayPost`): it is in `poll`, or `poll` has reported the node.  In a run of such
steps every post finds the sensor armed (`armedPosts_of_undisturbed`).  No weaker condition on a
step will do: after a step that is not `Undisturbed`, the node may trigger and the thread post for a
disarmed sensor (`Undisturbed.of_armedPosts`).
-/

namespace OnePlus9

/-- `poll` has reported the node. -/
def PollResult.reportsNode : PollResult → Bool
  | .failed => false
  | .ready _ node => node == POLLERR ||| POLLPRI

/-- The thread posts, without another test, if the node triggers. -/
def RunPc.mayPost : RunPc → Bool
  | polling => true
  | relocking result | polled result => result.reportsNode
  | locking | loopTest | waiting _ | posting | exited => false

@[simp] theorem RunPc.mayPost_notify (pc : RunPc) : pc.notify.mayPost = pc.mayPost := by
  cases pc <;> rfl

attribute [grind =] RunPc.mayPost RunPc.mayPost_notify

namespace SysfsPollingOneShotSensor

variable {capacity : PipeCapacity} {s t : SysfsPollingOneShotSensor} {a : Action}
  {as : List Action}

/-- Whenever `run` posted, the sensor was enabled and in `NORMAL` mode when it locked the mutex. -/
def ArmedPosts (s : SysfsPollingOneShotSensor) : Prop :=
  ∀ post ∈ s.history.posts, post = (true, .normal)

/-- The step disables the sensor or switches it to `DATA_INJECTION`, by request or in `~Sensor`. -/
def disarms (s : SysfsPollingOneShotSensor) : Action → Bool
  | .activate false | .setOperationMode .dataInjection => true
  | .destroy => s.lifePc == .lockingRunMutex
  | _ => false

/-- Nobody disarms the sensor while its thread may post without another test. -/
def Undisturbed (s : SysfsPollingOneShotSensor) (a : Action) : Prop :=
  s.runPc.mayPost = true → s.disarms a = false

instance (s : SysfsPollingOneShotSensor) (a : Action) : Decidable (Undisturbed s a) :=
  inferInstanceAs (Decidable (_ → _))

/-- With the mutex, the thread finds the sensor as it was when it locked the mutex. -/
def Relocked (s : SysfsPollingOneShotSensor) : Prop :=
  ∀ result, s.runPc = .polled result → s.history.relocked = (s.mIsEnabled, s.mMode)

/-! ### One step -/

theorem Relocked.step (h : Relocked s) (hstep : step capacity s a = some t) : Relocked t := by
  intro result hpc
  cases step_cases hstep with
  | relock => rfl
  -- Nobody else changes the sensor while the thread has the mutex.
  | activate enable _ hfree _ | setOperationMode mode _ hfree _ | stop _ hfree =>
    have hpolled : s.runPc = .polled result := by grind
    have hlocked : s.runPc.holdsMutex = true := by rw [hpolled]; rfl
    rw [(mRunMutexFree_iff.mp hfree).1] at hlocked
    exact nomatch hlocked
  | notifyActivate | wakeUp => exact h result (RunPc.notify_eq_polled.mp hpc)
  | construct | activateSame | interruptActivate | sameOperationMode | interruptPoll | beginDestroy
  | interruptDestroy | join => exact h result hpc
  | lock | exit | wait | poll | leaveWait | stepWait | pollFails | pollReturns | giveUp | trigger
  | readPipe | ignore | posted => exact nomatch hpc

/-- If nobody disturbs it, a thread that may post finds the sensor armed. -/
theorem armed_step (h : s.runPc.mayPost = true → s.armed = true) (hc : Undisturbed s a)
    (hstep : step capacity s a = some t) : t.runPc.mayPost = true → t.armed = true := by
  intro hpost
  cases step_cases hstep with
  | activate enable hlife hfree hne =>
    obtain ⟨-, hmode⟩ := armed_iff.mp (h hpost)
    cases enable with
    | true => exact armed_iff.mpr ⟨rfl, hmode⟩
    | false => exact nomatch hc hpost
  | setOperationMode mode hlife hfree hne =>
    have hbefore : s.runPc.mayPost = true := (RunPc.mayPost_notify _).symm.trans hpost
    obtain ⟨henabled, -⟩ := armed_iff.mp (h hbefore)
    cases mode with
    | normal => exact armed_iff.mpr ⟨henabled, rfl⟩
    | dataInjection => exact nomatch hc hbefore
  | stop hlife hfree =>
    have hbefore : s.runPc.mayPost = true := (RunPc.mayPost_notify _).symm.trans hpost
    have hkept := hc hbefore
    rw [disarms, hlife] at hkept
    exact nomatch hkept
  | _ => grind [armed]

/-- **One step** keeps the posts armed, if the thread posts for an armed sensor only. -/
theorem ArmedPosts.step (h : ArmedPosts s) (hrelocked : Relocked s)
    (harmed : s.runPc.mayPost = true → s.armed = true) (hstep : step capacity s a = some t) :
    ArmedPosts t := by
  cases step_cases hstep with
  | trigger node pipe hpc =>
    intro post hmem
    rcases List.mem_append.mp hmem with hold | hnew
    · exact h post hold
    · obtain ⟨henabled, hmode⟩ := armed_iff.mp (harmed (by rw [hpc]; rfl))
      rw [List.mem_singleton.mp hnew, hrelocked _ hpc, henabled, hmode]
  | _ => exact h

/-! ### Runs -/

/-- **If nobody disarms the sensor while its thread may post**, it fires only while it is armed. -/
theorem armedPosts_of_undisturbed (hc : (machine capacity).Meets Undisturbed start as)
    (hv : (machine capacity).Visits start as s) : ArmedPosts s := by
  have hinv : ArmedPosts s ∧ Relocked s ∧ (s.runPc.mayPost = true → s.armed = true) := by
    refine Machine.invariant (c := Undisturbed)
      (I := fun s => ArmedPosts s ∧ Relocked s ∧ (s.runPc.mayPost = true → s.armed = true))
      ?_ ?_ hc hv
    · rintro s a t ⟨hposts, hrelocked, harmed⟩ hc hstep
      exact ⟨hposts.step hrelocked harmed hstep, hrelocked.step hstep, armed_step harmed hc hstep⟩
    · exact ⟨(fun _ hmem => nomatch hmem), (fun _ hpc => nomatch hpc), (fun h => nomatch h)⟩
  exact hinv.1

/-- A sensor that is enabled, polled and triggers, with nobody else about, has posted armed. -/
theorem armedPosts_of_undisturbed_triggering :
    postingSensor.history.posts = [(true, .normal)] ∧ ArmedPosts postingSensor :=
  ⟨rfl, armedPosts_of_undisturbed (by decide) visits_postingSensor⟩

/-- While the thread is in `poll`, a client disables the sensor; the node triggers before the call
writes to the pipe. -/
def disablingTooLate : List Action :=
  polling ++
    [.activate false, .run (some (POLLERR ||| POLLPRI)) false, .notifyActivate, .notifyActivate,
      .run none false, .run none true]

/-- The sensor was disabled when `run` locked the mutex, and `run` posted. -/
theorem exists_disarmed_post :
    ¬∀ s, (machine samplePipe).Visits start disablingTooLate s → ArmedPosts s := by
  intro hall
  obtain ⟨s, hvisits, hposts⟩ := (machine samplePipe).exists_visits start disablingTooLate
    (fun s => s.history.posts) [(false, .normal)] (by decide)
  have hpost := hall s hvisits (false, .normal) (hposts ▸ List.mem_singleton_self _)
  exact absurd hpost (by decide)

/-! ### Every disturbance can lead to a post -/

/-- The thread of a disarmed sensor, with the node reported, locks the mutex and posts. -/
theorem exists_disarmed_post_of_relocking {pipe : UInt16}
    (hpc : s.runPc = .relocking (.ready pipe (POLLERR ||| POLLPRI))) (hidle : s.activatePc = .idle)
    (harmed : s.armed = false) : ∃ u, (machine capacity).Reaches s u ∧ ¬ArmedPosts u := by
  obtain ⟨u, hrun, hposts⟩ : ∃ u,
      (machine capacity).run s [.run none false, .run none true] = some u
        ∧ (s.mIsEnabled, s.mMode) ∈ u.history.posts := by
    simp [machine, Machine.run, step, SysfsPollingOneShotSensor.run, hpc, hidle, handlePoll]
  refine ⟨u, ⟨_, hrun⟩, fun hall => Bool.false_ne_true (harmed.symm.trans ?_)⟩
  exact armed_iff.mpr (Prod.mk.inj (hall _ hposts))

/-- A disarmed sensor whose thread may post without another test, and can have the mutex. -/
theorem exists_disarmed_post_of_mayPost (hpost : s.runPc.mayPost = true)
    (hfree : s.mRunMutexFree = true) (harmed : s.armed = false) :
    ∃ u, (machine capacity).Reaches s u ∧ ¬ArmedPosts u := by
  obtain ⟨hmutex, hidle⟩ := mRunMutexFree_iff.mp hfree
  cases hpc : s.runPc with
  | polling =>
    -- `poll` returns with the node.
    have hnode : POLLERR ||| POLLPRI ≠ 0 := by decide
    obtain ⟨v, pipe, hpoll, hpc', hsame⟩ : ∃ v pipe,
        (machine capacity).step s (.run (some (POLLERR ||| POLLPRI)) false) = some v
          ∧ v.runPc = .relocking (.ready pipe (POLLERR ||| POLLPRI))
          ∧ v = { s with runPc := v.runPc } := by
      simp [machine, step, SysfsPollingOneShotSensor.run, hpc, hnode]
    have hidle' : v.activatePc = .idle := by rw [hsame]; exact hidle
    have harmed' : v.armed = false := by rw [hsame]; exact harmed
    obtain ⟨u, hreaches, hu⟩ := exists_disarmed_post_of_relocking hpc' hidle' harmed'
    exact ⟨u, (Machine.Reaches.of_step hpoll).trans hreaches, hu⟩
  | relocking result =>
    rw [hpc] at hpost
    cases result with
    | failed => exact absurd hpost Bool.false_ne_true
    | ready pipe node =>
      obtain rfl : node = POLLERR ||| POLLPRI := beq_iff_eq.mp hpost
      exact exists_disarmed_post_of_relocking hpc hidle harmed
  | polled result =>
    rw [hpc] at hmutex
    exact absurd hmutex.symm Bool.false_ne_true
  | locking | loopTest | waiting pc | posting | exited =>
    rw [hpc] at hpost
    exact absurd hpost Bool.false_ne_true

/-- The rest of an `activate` call that finds room in the pipe. -/
theorem exists_reaches_notified (hpc : s.activatePc = .interruptingPoll)
    (hroom : s.mWaitPipeFd = true → s.waitPipe < capacity.bytes) :
    ∃ u, (machine capacity).Reaches s u ∧ u.activatePc = .idle ∧ u.runPc = s.runPc.notify
      ∧ u.armed = s.armed := by
  obtain ⟨v, hv⟩ : ∃ v, s.interruptPoll capacity = some v := by
    unfold interruptPoll
    cases hopen : s.mWaitPipeFd with
    | false => exact ⟨s, rfl⟩
    | true => exact ⟨_, by rw [if_neg (by decide), if_pos (hroom hopen)]⟩
  obtain rfl := interruptPoll_eq hv
  have hwrite : (machine capacity).step s .notifyActivate
      = some { s.interrupted with activatePc := .notifying } := by
    simp [machine, step, notifyActivate, hpc, hv]
  have hnotify : (machine capacity).step { s.interrupted with activatePc := .notifying }
      .notifyActivate
        = some { s.interrupted with activatePc := .idle, runPc := s.runPc.notify } := rfl
  exact ⟨_, (Machine.Reaches.of_step hwrite).trans (.of_step hnotify), rfl, rfl, rfl⟩

/-- Only a call that gets the mutex disarms the sensor. -/
theorem mRunMutexFree_of_disarms (hstep : step capacity s a = some t)
    (hdisarms : s.disarms a = true) : s.mRunMutexFree = true := by
  cases a with
  | activate enable =>
    obtain ⟨hclient, -⟩ := Option.ite_none_right_eq_some.mp hstep
    exact hclient.2
  | setOperationMode mode =>
    obtain ⟨hclient, -⟩ := Option.ite_none_right_eq_some.mp hstep
    exact hclient.2
  | destroy =>
    have hlife : s.lifePc = .lockingRunMutex := beq_iff_eq.mp hdisarms
    rw [step, destroy, hlife] at hstep
    exact (Option.ite_none_right_eq_some.mp hstep).1
  | construct | notifyActivate | interruptPoll | run | wakeUp =>
    exact absurd hdisarms Bool.false_ne_true

/-- What a disarming step leaves behind: the thread is where it was, and the mutex is free once an
`activate` call has written to the pipe. -/
theorem disarmed_of_disarms (hstep : step capacity s a = some t) (hdisarms : s.disarms a = true) :
    t.armed = false ∧ t.runPc.mayPost = s.runPc.mayPost ∧ t.runPc.holdsMutex = false
      ∧ (t.activatePc = .idle ∨ t.activatePc = .interruptingPoll
          ∧ t.mWaitPipeFd = s.mWaitPipeFd ∧ t.waitPipe = s.waitPipe) := by
  obtain ⟨hmutex, hidle⟩ := mRunMutexFree_iff.mp (mRunMutexFree_of_disarms hstep hdisarms)
  cases step_cases hstep with
  | activate enable =>
    cases enable with
    | true => exact nomatch hdisarms
    | false => exact ⟨rfl, rfl, hmutex, Or.inr ⟨rfl, rfl, rfl⟩⟩
  | activateSame enable _ hsame =>
    cases enable with
    | true => exact nomatch hdisarms
    | false => exact ⟨by rw [armed, hsame]; rfl, rfl, hmutex, Or.inl hidle⟩
  | sameOperationMode mode _ hsame =>
    cases mode with
    | normal => exact nomatch hdisarms
    | dataInjection => exact ⟨by simp [armed, hsame], rfl, hmutex, Or.inl hidle⟩
  | setOperationMode mode =>
    cases mode with
    | normal => exact nomatch hdisarms
    | dataInjection =>
      exact ⟨by simp [armed], RunPc.mayPost_notify _, (RunPc.holdsMutex_notify _).trans hmutex,
        Or.inl hidle⟩
  | stop =>
    exact ⟨rfl, RunPc.mayPost_notify _, (RunPc.holdsMutex_notify _).trans hmutex, Or.inl hidle⟩
  | beginDestroy hlife | interruptDestroy hlife | join hlife =>
    rw [disarms, hlife] at hdisarms
    exact nomatch hdisarms
  | _ => exact nomatch hdisarms

/-- **Every disturbance can lead to a post** for a disarmed sensor, where the write to the pipe does
not block: a step after which no run posts for a disarmed sensor is `Undisturbed`. -/
theorem Undisturbed.of_armedPosts (hstep : step capacity s a = some t)
    (hroom : s.mWaitPipeFd = true → s.waitPipe < capacity.bytes)
    (hall : ∀ u, (machine capacity).Reaches t u → ArmedPosts u) : Undisturbed s a := by
  intro hpost
  by_contra hne
  obtain ⟨harmed, hpost', hmutex, hcall⟩ :=
    disarmed_of_disarms hstep ((Bool.not_eq_false _).mp hne)
  rw [hpost] at hpost'
  rcases hcall with hidle | ⟨hpc, hopen, hbytes⟩
  · have hfree : t.mRunMutexFree = true := mRunMutexFree_iff.mpr ⟨hmutex, hidle⟩
    obtain ⟨u, hreaches, hu⟩ := exists_disarmed_post_of_mayPost hpost' hfree harmed
    exact hu (hall u hreaches)
  · rw [← hopen, ← hbytes] at hroom
    obtain ⟨v, hwritten, hidle, hrunPc, harmed'⟩ := exists_reaches_notified hpc hroom
    have hpostv : v.runPc.mayPost = true := by rw [hrunPc, RunPc.mayPost_notify, hpost']
    have hmutexv : v.runPc.holdsMutex = false := by rw [hrunPc, RunPc.holdsMutex_notify, hmutex]
    have hfree : v.mRunMutexFree = true := mRunMutexFree_iff.mpr ⟨hmutexv, hidle⟩
    obtain ⟨u, hreaches, hu⟩ :=
      exists_disarmed_post_of_mayPost hpostv hfree (harmed'.trans harmed)
    exact hu (hall u (hwritten.trans hreaches))

end SysfsPollingOneShotSensor

end OnePlus9
