import OnePlus9.Sensors.Equiv.SysfsPollingOneShotSensor
import Mathlib.Data.Bool.Basic

/-!
# The invariants of the sensor thread

`Sound s` says where the thread of a one-shot sensor can be, given the rest of the state: one thread
has `mRunMutex`, no call is under way before and after the lifetime of the object, and the thread
polls only while it is not to stop.  Every state a run visits is sound (`sound_of_visits`).

Two results rest on it.

* `armed_of_polling`: the thread never sits in `poll`, with nothing in the pipe and nobody about to
  write there, for a sensor that is disabled or in `DATA_INJECTION`.  The setters that changed the
  sensor meanwhile either still have to write to the pipe or have done so (`Roused`), and the thread
  reads from the pipe only outside `poll`.
* `posts_le_numArmings`: there are at most as many posts as `activate(true)` calls that changed
  `mIsEnabled`.  A sensor that is enabled or in `poll` has an arming that was not used up yet.
-/

namespace OnePlus9

open ConditionVariable

/-- `~Sensor` has set `mStopThread`. -/
def LifePc.stopped : LifePc → Bool
  | joining | joined => true
  | constructing | alive | interruptingPoll | lockingRunMutex => false

namespace SysfsPollingOneShotSensor

/-- Where the thread can be. -/
structure Sound (s : SysfsPollingOneShotSensor) : Prop where
  mutex : s.runPc.holdsMutex = true → s.activatePc = .idle
  constructing : s.lifePc = .constructing →
    s.mIsEnabled = false ∧ s.mStopThread = false ∧ s.runPc.inPoll = false
  /-- No setter runs before or after the object's lifetime. -/
  noCalls : s.lifePc ≠ .alive → s.activatePc = .idle ∧ s.setOperationModes = 0
  pipe : s.lifePc ≠ .constructing → s.mStopThread = false → s.mWaitPipeFd = true
  outOfPoll : s.mStopThread = true → s.lifePc.stopped = false → s.runPc.inPoll = false
  disabled : s.runPc = .posting → s.mIsEnabled = false
  exited : s.runPc = .exited → s.mStopThread = true
  /-- Whoever arms the sensor notifies the thread before it releases the mutex. -/
  asleep : ¬s.runPc.Awake → s.armed = true → s.activatePc ≠ .idle
  stopped : s.lifePc.stopped = true → s.mStopThread = true ∧ s.runPc.Awake

theorem sound_start : Sound start := by
  constructor <;> decide

variable {capacity : PipeCapacity} {s t : SysfsPollingOneShotSensor} {a : Action}
  {as : List Action}

/-! ### One step -/

attribute [local grind =] LifePc.stopped WaitPc.holdsMutex armed
attribute [local grind →] WaitPc.holdsMutex_of_step WaitPc.awake_of_step

/-- A setter gets the mutex only from a thread that has not got it. -/
theorem Sound.mutex_step (h : Sound s) (hstep : step capacity s a = some t) :
    t.runPc.holdsMutex = true → t.activatePc = .idle := by
  have hmutex := h.mutex
  cases step_cases hstep <;> grind

theorem Sound.constructing_step (h : Sound s) (hstep : step capacity s a = some t) :
    t.lifePc = .constructing →
      t.mIsEnabled = false ∧ t.mStopThread = false ∧ t.runPc.inPoll = false := by
  have hcons := h.constructing
  cases step_cases hstep <;> grind

theorem Sound.noCalls_step (h : Sound s) (hstep : step capacity s a = some t) :
    t.lifePc ≠ .alive → t.activatePc = .idle ∧ t.setOperationModes = 0 := by
  have hcalls := h.noCalls
  cases step_cases hstep <;> grind

theorem Sound.pipe_step (h : Sound s) (hstep : step capacity s a = some t) :
    t.lifePc ≠ .constructing → t.mStopThread = false → t.mWaitPipeFd = true := by
  have hpipe := h.pipe
  cases step_cases hstep <;> grind

/-- The thread enters `poll` only after it has seen that it is not to stop. -/
theorem Sound.outOfPoll_step (h : Sound s) (hstep : step capacity s a = some t) :
    t.mStopThread = true → t.lifePc.stopped = false → t.runPc.inPoll = false := by
  have hpoll := h.outOfPoll
  have hcons := h.constructing
  cases step_cases hstep <;> grind

/-- The thread posts with the mutex released, after it has disabled the sensor. -/
theorem Sound.disabled_step (h : Sound s) (hstep : step capacity s a = some t) :
    t.runPc = .posting → t.mIsEnabled = false := by
  have hdisabled := h.disabled
  have hmutex := h.mutex
  cases step_cases hstep <;> grind

theorem Sound.exited_step (h : Sound s) (hstep : step capacity s a = some t) :
    t.runPc = .exited → t.mStopThread = true := by
  have hexited := h.exited
  have hcons := h.constructing
  cases step_cases hstep <;> grind

theorem Sound.asleep_step (h : Sound s) (hstep : step capacity s a = some t) :
    ¬t.runPc.Awake → t.armed = true → t.activatePc ≠ .idle := by
  have hasleep := h.asleep
  have hmutex := h.mutex
  have hcons := h.constructing
  cases step_cases hstep <;> grind [RunPc.Awake]

/-- Once `mStopThread` is set the thread is awake, and goes on to its end. -/
theorem Sound.stopped_step (h : Sound s) (hstep : step capacity s a = some t) :
    t.lifePc.stopped = true → t.mStopThread = true ∧ t.runPc.Awake := by
  have hstopped := h.stopped
  have hmutex := h.mutex
  cases step_cases hstep <;> grind [RunPc.Awake]

theorem Sound.step (h : Sound s) (hstep : step capacity s a = some t) : Sound t :=
  ⟨h.mutex_step hstep, h.constructing_step hstep, h.noCalls_step hstep, h.pipe_step hstep,
    h.outOfPoll_step hstep, h.disabled_step hstep, h.exited_step hstep, h.asleep_step hstep,
    h.stopped_step hstep⟩

theorem sound_of_visits (hv : (machine capacity).Visits start as s) : Sound s :=
  Machine.invariant_of_step (fun _ _ _ h => h.step) sound_start hv

/-- The thread polls only while it is not to stop, and then the pipe is there. -/
theorem Sound.mWaitPipeFd_of_polling (h : Sound s) (hlife : s.lifePc.stopped = false)
    (hpc : s.runPc = .polling) : s.mStopThread = false ∧ s.mWaitPipeFd = true := by
  have hinPoll : s.runPc.inPoll = true := by rw [hpc]; rfl
  have hstop : s.mStopThread = false := by
    by_contra hne
    have hout := h.outOfPoll (by simpa using hne) hlife
    rw [hinPoll] at hout
    exact nomatch hout
  refine ⟨hstop, h.pipe (fun hcons => ?_) hstop⟩
  have hout := (h.constructing hcons).2.2
  rw [hinPoll] at hout
  exact nomatch hout

/-! ### Getting the thread out of `poll` -/

/-- A thread in `poll` for a sensor that is not armed has something to read from the pipe, now or
when a setter goes on. -/
def Roused (s : SysfsPollingOneShotSensor) : Prop :=
  s.lifePc.stopped = false → s.runPc = .polling → s.armed = true ∨ 0 < s.waitPipe
    ∨ s.activatePc = .interruptingPoll ∨ 0 < s.setOperationModes

theorem Roused.step (h : Roused s) (hsound : Sound s) (hstep : step capacity s a = some t) :
    Roused t := by
  intro hlife hpc
  cases step_cases hstep with
  -- A setter that changes the sensor has yet to write to the pipe.
  | activate enable _ _ _ => exact Or.inr (Or.inr (Or.inl rfl))
  | sameOperationMode mode _ _ => exact Or.inr (Or.inr (Or.inr (Nat.succ_pos _)))
  | setOperationMode mode _ _ _ => exact Or.inr (Or.inr (Or.inr (Nat.succ_pos _)))
  -- The write is a byte in the pipe.
  | interruptActivate _ | interruptPoll _ | interruptDestroy _ =>
    refine Or.inr (Or.inl ?_)
    have hpolling : s.runPc = .polling := hpc
    have hopen := (hsound.mWaitPipeFd_of_polling (by grind) hpolling).2
    simp [interrupted, hopen]
  -- The thread enters `poll` for an armed sensor.
  | poll node triggered _ _ harmed => exact Or.inl harmed
  | notifyActivate hactivate =>
    rcases h hlife (RunPc.notify_eq_polling.mp hpc) with harmed | hpipe | hcall | hmode
    · exact Or.inl harmed
    · exact Or.inr (Or.inl hpipe)
    · rw [hactivate] at hcall
      exact nomatch hcall
    · exact Or.inr (Or.inr (Or.inr hmode))
  | wakeUp => exact h hlife (RunPc.notify_eq_polling.mp hpc)
  | activateSame | construct | beginDestroy | join => exact h (by grind) hpc
  | stop hstop _ => exact nomatch hlife
  | lock | exit | wait | leaveWait | stepWait | pollFails | pollReturns | relock | giveUp | trigger
  | readPipe | ignore | posted => exact nomatch hpc

theorem roused_of_visits (hv : (machine capacity).Visits start as s) : Roused s := by
  have hinv : Sound s ∧ Roused s := by
    refine Machine.invariant_of_step (I := fun s => Sound s ∧ Roused s) ?_ ?_ hv
    · intro s a t h hstep
      exact ⟨h.1.step hstep, h.2.step h.1 hstep⟩
    · exact ⟨sound_start, fun _ hpc => nomatch hpc⟩
  exact hinv.2

/-- **A state change gets the thread out of `poll`.**  While the sensor lives, the thread does not
sit in `poll` with an empty pipe, and nobody about to write there, for a sensor that was disabled or
switched to `DATA_INJECTION`. -/
theorem armed_of_polling (hv : (machine capacity).Visits start as s) (hlife : s.lifePc = .alive)
    (hpc : s.runPc = .polling) (hpipe : s.waitPipe = 0)
    (hactivate : s.activatePc ≠ .interruptingPoll) (hmode : s.setOperationModes = 0) :
    s.mIsEnabled = true ∧ s.mMode = .normal := by
  have hstopped : s.lifePc.stopped = false := by rw [hlife]; rfl
  rcases roused_of_visits hv hstopped hpc with harmed | hbyte | hcall | hcalls
  · exact armed_iff.mp harmed
  · omega
  · exact absurd hcall hactivate
  · omega

/-- A pipe of the usual size. -/
def samplePipe : PipeCapacity := ⟨65536, by decide⟩

/-- The sensor is enabled, and its thread enters `poll`, reads the byte that `activate` wrote, and
enters `poll` again. -/
def polling : List Action :=
  [.construct true true, .activate true, .notifyActivate, .notifyActivate, .run none false,
    .run none false, .run (some 0) false, .run none false, .run none false, .run none false]

/-- That sensor. -/
def pollingSensor : SysfsPollingOneShotSensor where
  mIsEnabled := true
  mMode := .normal
  mStopThread := false
  mWaitPipeFd := true
  waitPipe := 0
  runPc := .polling
  activatePc := .idle
  setOperationModes := 0
  lifePc := .alive
  history := ⟨1, (true, .normal), []⟩

theorem visits_pollingSensor : (machine samplePipe).Visits start polling pollingSensor :=
  Machine.visits_of_run _ (by decide)

theorem armed_of_polling_pollingSensor :
    pollingSensor.mIsEnabled = true ∧ pollingSensor.mMode = .normal :=
  armed_of_polling visits_pollingSensor rfl rfl rfl (by decide) rfl

/-! ### Posts and armings -/

/-- The sensor has an arming that no post has used up yet. -/
def loaded (s : SysfsPollingOneShotSensor) : Bool := s.mIsEnabled || s.runPc.inPoll

/-- Every post has used up an arming. -/
def Supplied (s : SysfsPollingOneShotSensor) : Prop :=
  s.history.posts.length + s.loaded.toNat ≤ s.history.numArmings

/-- A step that neither arms nor posts, and after which the sensor is not loaded unless it was. -/
theorem Supplied.of_loaded (h : Supplied s) (hposts : t.history.posts = s.history.posts)
    (harmings : t.history.numArmings = s.history.numArmings)
    (hloaded : t.loaded = true → s.loaded = true) : Supplied t := by
  have hle : t.loaded.toNat ≤ s.loaded.toNat := Bool.toNat_le_toNat hloaded
  unfold Supplied at h ⊢
  rw [hposts, harmings]
  omega

theorem Supplied.step (h : Supplied s) (hstep : step capacity s a = some t) : Supplied t := by
  cases step_cases hstep with
  | activate enable _ _ hne =>
    -- Enabling loads the sensor and counts as an arming.
    have hle := Bool.toNat_le s.loaded
    cases enable with
    | true =>
      have hloaded : loaded { s with mIsEnabled := true } = true := rfl
      unfold Supplied at h ⊢
      show _ + (loaded { s with mIsEnabled := true }).toNat ≤ s.history.numArmings + 1
      rw [hloaded, Bool.toNat_true]
      show s.history.posts.length + 1 ≤ _
      omega
    | false =>
      refine h.of_loaded rfl rfl fun hloaded => ?_
      unfold loaded at hloaded ⊢
      rw [Bool.or_eq_true] at hloaded ⊢
      exact hloaded.imp_left fun hfalse => nomatch hfalse
  | trigger node pipe hpc =>
    -- The sensor was loaded as long as its thread was in `poll`, and is not loaded now.
    have hloaded : s.loaded = true := by
      rw [loaded, hpc]
      exact Bool.or_true _
    unfold Supplied at h ⊢
    rw [hloaded, Bool.toNat_true] at h
    show (s.history.posts ++ [s.history.relocked]).length + 0 ≤ s.history.numArmings
    rw [List.length_append, List.length_singleton]
    exact h
  | poll node triggered hpc _ harmed =>
    refine h.of_loaded rfl rfl fun _ => ?_
    rw [loaded, (armed_iff.mp harmed).1]
    rfl
  | _ =>
    refine h.of_loaded rfl rfl ?_
    unfold loaded
    grind

/-- The sensor is disabled when `postEvents` is called and still when it returns. -/
theorem disabled_of_posted (h : Sound s) (hstep : step capacity s a = some t)
    (hpost : t.history.posts ≠ s.history.posts ∨ s.runPc = .posting ∧ t.runPc ≠ .posting) :
    t.mIsEnabled = false := by
  have hdisabled := h.disabled
  cases step_cases hstep with
  | trigger => rfl
  | posted node triggered hpc => exact hdisabled hpc
  | stop => rfl
  | _ => grind

/-- **At most one event per arming**: in every state a run visits there are at most as many posts
as `activate(true)` calls that enabled the sensor, and the step that posts an event leaves the
sensor disabled, as does the one in which `postEvents` returns. -/
theorem posts_le_numArmings (hv : (machine capacity).Visits start as s) :
    s.history.posts.length ≤ s.history.numArmings ∧
      ∀ a t, step capacity s a = some t →
        t.history.posts ≠ s.history.posts ∨ s.runPc = .posting ∧ t.runPc ≠ .posting →
        t.mIsEnabled = false := by
  have hstart : Supplied start := Nat.le_refl 0
  have hsupplied : Supplied s := Machine.invariant_of_step (fun _ _ _ h => h.step) hstart hv
  constructor
  · exact Nat.le_trans (Nat.le_add_right _ _) hsupplied
  · intro a t hstep hpost
    exact disabled_of_posted (sound_of_visits hv) hstep hpost

/-- The node of that sensor triggers. -/
def triggering : List Action :=
  polling ++ [.run (some (POLLERR ||| POLLPRI)) false, .run none false, .run none true]

/-- The sensor, in `postEvents`. -/
def postingSensor : SysfsPollingOneShotSensor :=
  { pollingSensor with
    mIsEnabled := false
    runPc := .posting
    history := ⟨1, (true, .normal), [(true, .normal)]⟩ }

theorem visits_postingSensor : (machine samplePipe).Visits start triggering postingSensor :=
  Machine.visits_of_run _ (by decide)

theorem posts_le_numArmings_postingSensor :
    postingSensor.history.posts.length ≤ 1 ∧
      ∀ a t, SysfsPollingOneShotSensor.step samplePipe postingSensor a = some t →
        t.history.posts ≠ [(true, .normal)] ∨ postingSensor.runPc = .posting ∧ t.runPc ≠ .posting →
        t.mIsEnabled = false :=
  posts_le_numArmings visits_postingSensor

end SysfsPollingOneShotSensor

end OnePlus9
