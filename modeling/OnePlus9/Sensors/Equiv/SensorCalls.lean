import OnePlus9.Sensors.Equiv.SensorThread

/-!
# What a sensor's thread does to what requests see

The sub-HAL of this repository is modelled with `Sensor`, on which a request is one function call.
The sensor in the source is a `SysfsPollingOneShotSensor` with a thread of its own, and a request
takes several steps and meets that thread.  `view_of_run` relates the two over whole runs.  What
requests see of the threaded sensor is a `Sensor` on which the same calls were made, and in between
an `activate(false)` each time it fired or was stopped.  So the thread never changes the mode, and
it never enables the sensor.
-/

namespace OnePlus9

/-- A call on a sensor. -/
inductive SensorCall where
  | activate (enable : Bool)
  | setOperationMode (mode : OperationMode)
  deriving DecidableEq

namespace Sensor

def call (s : Sensor) : SensorCall → Sensor
  | .activate enable => s.activate enable
  | .setOperationMode mode => s.setOperationMode mode

/-- `r` is like `s`, but may have been disabled. -/
structure MayBeDisabled (r s : Sensor) : Prop where
  mSensorInfo : r.mSensorInfo = s.mSensorInfo
  mMode : r.mMode = s.mMode
  mIsEnabled : r.mIsEnabled = true → s.mIsEnabled = true

variable {r s : Sensor}

theorem MayBeDisabled.refl (s : Sensor) : MayBeDisabled s s := ⟨rfl, rfl, id⟩

theorem activate_eq (enable : Bool) (s : Sensor) :
    s.activate enable = { s with mIsEnabled := enable } := by
  unfold activate
  split_ifs with hne
  · rfl
  · rw [← not_not.mp hne]

theorem setOperationMode_eq (mode : OperationMode) (s : Sensor) :
    s.setOperationMode mode = { s with mMode := mode } := by
  unfold setOperationMode
  split_ifs with hne
  · rfl
  · rw [← not_not.mp hne]

/-- The same call leaves them alike. -/
theorem MayBeDisabled.call (h : MayBeDisabled r s) (c : SensorCall) :
    MayBeDisabled (r.call c) (s.call c) := by
  cases c with
  | activate enable =>
    show MayBeDisabled (r.activate enable) (s.activate enable)
    rw [activate_eq, activate_eq]
    exact ⟨h.mSensorInfo, h.mMode, id⟩
  | setOperationMode mode =>
    show MayBeDisabled (r.setOperationMode mode) (s.setOperationMode mode)
    rw [setOperationMode_eq, setOperationMode_eq]
    exact ⟨h.mSensorInfo, rfl, h.mIsEnabled⟩

theorem MayBeDisabled.disable (h : MayBeDisabled r s) : MayBeDisabled (r.activate false) s := by
  rw [activate_eq]
  exact ⟨h.mSensorInfo, h.mMode, fun henabled => absurd henabled Bool.false_ne_true⟩

end Sensor

namespace SysfsPollingOneShotSensor

variable {capacity : PipeCapacity} {s t : SysfsPollingOneShotSensor} {a : Action}
  {as : List Action} {info : SensorInfo}

/-- The calls that clients make. -/
def requests : Action → List SensorCall
  | .activate enable => [.activate enable]
  | .setOperationMode mode => [.setOperationMode mode]
  | _ => []

/-- The call that the sensor makes on itself when it fires or `~Sensor` stops it. -/
def ownCall (s : SysfsPollingOneShotSensor) : Action → List SensorCall
  | .run _ triggered =>
    match s.runPc with
    | .polled (.ready _ node) =>
      if node = POLLERR ||| POLLPRI ∧ triggered then [.activate false] else []
    | _ => []
  | .destroy => if s.lifePc = .lockingRunMutex then [.activate false] else []
  | _ => []

/-- What a step calls. -/
def callsOf (s : SysfsPollingOneShotSensor) (a : Action) : List SensorCall :=
  requests a ++ ownCall s a

/-- Only firing disables the sensor in a step of its thread. -/
theorem callsOf_run {node : Option UInt16} {triggered : Bool}
    (hpc : ∀ pipe, s.runPc = .polled (.ready pipe (POLLERR ||| POLLPRI)) → triggered = false) :
    callsOf s (.run node triggered) = [] := by
  show ownCall s (.run node triggered) = []
  unfold ownCall
  dsimp only
  split
  · next pipe revents heq =>
    refine if_neg fun ⟨hrevents, htriggered⟩ => ?_
    rw [hrevents] at heq
    rw [hpc pipe heq] at htriggered
    exact Bool.false_ne_true htriggered
  · rfl

/-- **One step**, as calls on what requests see. -/
theorem view_callsOf (h : step capacity s a = some t) :
    t.view info = (callsOf s a).foldl Sensor.call (s.view info) := by
  have hdisable : ((s.view info).activate false) = ⟨info, false, s.mMode⟩ :=
    (s.view info).activate_eq false
  cases a with
  | activate enable => exact view_activate h
  | setOperationMode mode => exact view_setOperationMode h
  | run node triggered =>
    cases step_cases h with
    | trigger node pipe hpc =>
      have hcalls : callsOf s (.run node true) = [.activate false] := by
        unfold callsOf ownCall
        rw [hpc]
        rfl
      rw [hcalls]
      exact hdisable.symm
    | readPipe node triggered revents hpc htrigger =>
      have hcalls : callsOf s (.run node triggered) = [] := by
        unfold callsOf ownCall
        rw [hpc]
        exact if_neg htrigger
      rw [hcalls]
      rfl
    | ignore node triggered pipe revents hpc htrigger hpipe =>
      have hcalls : callsOf s (.run node triggered) = [] := by
        unfold callsOf ownCall
        rw [hpc]
        exact if_neg htrigger
      rw [hcalls]
      rfl
    | lock node triggered hpc | exit node triggered hpc | wait node triggered hpc
    | poll node triggered hpc | leaveWait node triggered hpc | stepWait node triggered pc pc' hpc
    | pollFails triggered hpc | pollReturns node triggered hpc
    | relock node triggered result hpc | giveUp node triggered hpc | posted node triggered hpc =>
      rw [callsOf_run fun pipe hpolled => by rw [hpc] at hpolled; cases hpolled]
      rfl
  | destroy =>
    cases step_cases h with
    | stop hlife hfree =>
      have hcalls : callsOf s .destroy = [.activate false] := if_pos hlife
      rw [hcalls]
      exact hdisable.symm
    | beginDestroy hlife | interruptDestroy hlife | join hlife =>
      have hcalls : callsOf s .destroy = [] := if_neg (by rw [hlife]; decide)
      rw [hcalls]
      rfl
  | construct pipeOpened nodeOpened =>
    cases step_cases h
    rfl
  | notifyActivate =>
    cases step_cases h
    all_goals rfl
  | interruptPoll =>
    cases step_cases h
    rfl
  | wakeUp =>
    cases step_cases h
    rfl

/-- The sensor calls nothing on itself but `activate(false)`. -/
theorem mayBeDisabled_ownCall {r y : Sensor} (h : r.MayBeDisabled y)
    (s : SysfsPollingOneShotSensor) (a : Action) :
    ((ownCall s a).foldl Sensor.call r).MayBeDisabled y := by
  unfold ownCall
  split
  · split
    · split_ifs
      · exact h.disable
      · exact h
    · exact h
  · split_ifs
    · exact h.disable
    · exact h
  · exact h

theorem mayBeDisabled_foldl {r y : Sensor} (h : r.MayBeDisabled y) (calls : List SensorCall) :
    (calls.foldl Sensor.call r).MayBeDisabled (calls.foldl Sensor.call y) := by
  induction calls generalizing r y with
  | nil => exact h
  | cons c calls ih => exact ih (h.call c)

theorem mayBeDisabled_step {y : Sensor} (hstep : step capacity s a = some t)
    (h : (s.view info).MayBeDisabled y) :
    (t.view info).MayBeDisabled ((requests a).foldl Sensor.call y) := by
  rw [view_callsOf hstep, callsOf, List.foldl_append]
  exact mayBeDisabled_ownCall (mayBeDisabled_foldl h _) s a

/-- **The threaded sensor refines `Sensor`.**  In every run, what requests see of the sensor is what
the calls of its clients and its own make of it, and what the calls of its clients alone make of it,
but for being disabled. -/
theorem view_of_run (hrun : (machine capacity).run s as = some t) :
    t.view info = ((machine capacity).log callsOf s as).foldl Sensor.call (s.view info)
      ∧ (t.view info).MayBeDisabled
        (((machine capacity).log (fun _ => requests) s as).foldl Sensor.call (s.view info)) := by
  constructor
  · refine Machine.of_log
      (R := fun s calls t => t.view info = calls.foldl Sensor.call (s.view info))
      (fun _ => rfl) (fun s a t calls u hstep h => ?_) hrun
    rw [List.foldl_append, ← view_callsOf hstep]
    exact h
  · refine Machine.of_log
      (R := fun s calls t => ∀ y, (s.view info).MayBeDisabled y →
        (t.view info).MayBeDisabled (calls.foldl Sensor.call y))
      (fun _ _ h => h) (fun s a t calls u hstep h y hy => ?_) hrun _ (.refl _)
    rw [List.foldl_append]
    exact h _ (mayBeDisabled_step hstep hy)

/-- A sensor that has fired: its client has enabled it, and it has disabled itself. -/
theorem view_of_run_triggering :
    ∃ t, (machine samplePipe).run start triggering = some t
      ∧ (t.view (Sensor.doubleTapSensor 1).mSensorInfo).mIsEnabled = false
      ∧ (t.view (Sensor.doubleTapSensor 1).mSensorInfo).MayBeDisabled
        { Sensor.doubleTapSensor 1 with mIsEnabled := true } := by
  have hrun : (machine samplePipe).run start triggering = some postingSensor := by decide
  obtain ⟨hexact, hrefines⟩ := view_of_run hrun
  refine ⟨postingSensor, hrun, ?_, hrefines⟩
  rw [hexact]
  decide

end SysfsPollingOneShotSensor

end OnePlus9
