import OnePlus9.Sensors.Equiv.Routing

/-!
# What a sub-HAL is asked to do

Whatever the threads do, the sub-HAL at an index evolves by its own operations alone: it answers the
calls addressed to it, in the order in which they were made, and its mode is switched
(`Receives`).  The calls addressed to it are the framework's requests with its index in the handle,
and in every initialization one deactivation for each sensor known by then (`callsTo`).

* `delivers_of_run`: over every run, nothing else is done to a sub-HAL and nothing is lost.
* `calls_of_run`: so the calls a sub-HAL has received are exactly those.
-/

namespace OnePlus9

/-! ### A sub-HAL by itself -/

/-- `w` becomes `w'` by answering `calls`, with its mode switched in between. -/
inductive SubHalWrapper.Receives : SubHalWrapper → List SubHalCall → SubHalWrapper → Prop
  | done (w : SubHalWrapper) : Receives w [] w
  | call {w w' : SubHalWrapper} (c : SubHalCall) {calls : List SubHalCall} :
    Receives (w.call c).2 calls w' → Receives w (c :: calls) w'
  | setOperationMode {w w' : SubHalWrapper} (mode : OperationMode) {calls : List SubHalCall} :
    Receives (w.setOperationMode mode).2 calls w' → Receives w calls w'
  | initializeSubHal {w w' : SubHalWrapper} {calls : List SubHalCall} :
    Receives w.initializeSubHal.2 calls w' → Receives w calls w'

namespace SubHalWrapper

variable {w w' w'' : SubHalWrapper} {calls calls' : List SubHalCall}

theorem Receives.trans (h : Receives w calls w') (h' : Receives w' calls' w'') :
    Receives w (calls ++ calls') w'' := by
  induction h with
  | done w => exact h'
  | call c _ ih => exact .call c (ih h')
  | setOperationMode mode _ ih => exact .setOperationMode mode (ih h')
  | initializeSubHal _ ih => exact .initializeSubHal (ih h')

/-- The wrapper records what is received. -/
theorem Receives.calls_eq (h : Receives w calls w') : w'.calls = w.calls ++ calls := by
  induction h with
  | done w => exact (List.append_nil _).symm
  | call c _ ih =>
    rw [ih, SubHalWrapper.call, List.append_assoc]
    rfl
  | setOperationMode mode _ ih => exact ih
  | initializeSubHal _ ih => exact ih

end SubHalWrapper

/-! ### A list of sub-HALs -/

namespace HalProxy

variable {ε : Type*} {p q r : HalProxy ε} {i : ℕ} {calls calls' : List SubHalCall}

/-- From `p` to `q` the sub-HAL at index `i` has received `calls`. -/
def Delivers (i : ℕ) (p : HalProxy ε) (calls : List SubHalCall) (q : HalProxy ε) : Prop :=
  ∀ w, p.mSubHalList[i]? = some w → ∃ w', q.mSubHalList[i]? = some w' ∧ w.Receives calls w'

theorem Delivers.trans (h : Delivers i p calls q) (h' : Delivers i q calls' r) :
    Delivers i p (calls ++ calls') r := by
  intro w hw
  obtain ⟨w', hw', hfirst⟩ := h w hw
  obtain ⟨w'', hw'', hsecond⟩ := h' w' hw'
  exact ⟨w'', hw'', hfirst.trans hsecond⟩

/-- A step that leaves the list alone. -/
theorem delivers_of_eq (h : q.mSubHalList = p.mSubHalList) : Delivers i p [] q := by
  intro w hw
  exact ⟨w, h ▸ hw, .done w⟩

/-- The call that a handle addresses to the sub-HAL at index `i`, if any. -/
def addressed (i : ℕ) (sensorHandle : Int32) (request : Int32 → SubHalCall) : List SubHalCall :=
  if extractSubHalIndex sensorHandle = i then [request (clearSubHalIndex sensorHandle)] else []

theorem delivers_route (k : Int32) (request : Int32 → SubHalCall) (p : HalProxy ε) :
    Delivers i p (addressed i k request) (afterRoute (p.route k request) p) := by
  intro w hw
  by_cases hi : extractSubHalIndex k = i
  · subst hi
    obtain ⟨hlt, rfl⟩ := List.getElem?_eq_some_iff.mp hw
    have hget : p.getSubHalForSensorHandle k = some p.mSubHalList[extractSubHalIndex k] := hw
    rw [addressed, if_pos rfl, route, isSubHalIndexValid, decide_eq_true hlt, hget]
    refine ⟨_, List.getElem?_set_self hlt, .call _ (.done _)⟩
  · rw [addressed, if_neg hi]
    refine ⟨w, ?_, .done w⟩
    unfold route
    split_ifs
    · exact hw
    · cases hget : p.getSubHalForSensorHandle k with
      | none => exact hw
      | some subHal => exact (List.getElem?_set_ne hi).trans hw

/-- One deactivation for every known sensor of the sub-HAL. -/
def deactivations (i : ℕ) (p : HalProxy ε) : List SubHalCall :=
  (p.mSensors.keys ++ p.mDynamicSensors.keys).flatMap fun sensorHandle =>
    addressed i sensorHandle fun sensorHandle => .activate sensorHandle false

theorem delivers_disableAllSensors (p : HalProxy ε) :
    Delivers i p (deactivations i p) p.disableAllSensors := by
  unfold deactivations disableAllSensors
  generalize p.mSensors.keys ++ p.mDynamicSensors.keys = handles
  induction handles generalizing p with
  | nil => exact delivers_of_eq rfl
  | cons k handles ih =>
    rw [List.flatMap_cons, List.foldl_cons]
    exact (delivers_route k _ p).trans (ih _)

/-! ### The operation mode -/

theorem receives_switchModes (mode : OperationMode) {subHals : List SubHalWrapper}
    {w : SubHalWrapper} (hw : subHals[i]? = some w) :
    ∃ w', (switchModes mode subHals).2.2[i]? = some w' ∧ w.Receives [] w' := by
  induction subHals generalizing i with
  | nil => simp at hw
  | cons subHal subHals ih =>
    rw [switchModes]
    dsimp only
    cases i with
    | zero =>
      obtain rfl : subHal = w := by simpa using hw
      have hswitched : subHal.Receives [] (subHal.setOperationMode mode).2 :=
        .setOperationMode mode (.done _)
      split_ifs
      · exact ⟨_, rfl, hswitched⟩
      · exact ⟨_, rfl, hswitched⟩
    | succ i =>
      have hrest : subHals[i]? = some w := by simpa using hw
      split_ifs
      · exact ⟨w, hrest, .done w⟩
      · exact ih hrest

theorem receives_restoreModes (mode : OperationMode) (n : ℕ) {subHals : List SubHalWrapper}
    {w : SubHalWrapper} (hw : subHals[i]? = some w) :
    ∃ w', (restoreModes mode n subHals)[i]? = some w' ∧ w.Receives [] w' := by
  have hlt : i < subHals.length := (List.getElem?_eq_some_iff.mp hw).1
  by_cases hi : i < n
  · refine ⟨(w.setOperationMode mode).2, ?_, .setOperationMode mode (.done _)⟩
    rw [restoreModes, List.getElem?_append_left (by simp; omega), List.getElem?_map,
      List.getElem?_take_of_lt hi, hw]
    rfl
  · refine ⟨w, ?_, .done w⟩
    have hlength : (((subHals.take n).map fun subHal => (subHal.setOperationMode mode).2)).length
        = n := by
      rw [List.length_map, List.length_take]
      omega
    rw [restoreModes, List.getElem?_append_right (by omega), hlength, List.getElem?_drop,
      Nat.add_sub_cancel' (Nat.not_lt.mp hi), hw]

theorem delivers_setOperationMode (mode : OperationMode) (p : HalProxy ε) :
    Delivers i p [] (p.setOperationMode mode).2 := by
  intro w hw
  obtain ⟨w', hw', hswitched⟩ := receives_switchModes mode hw
  unfold setOperationMode
  dsimp only
  split_ifs
  · obtain ⟨w'', hw'', hrestored⟩ := receives_restoreModes p.mCurrentOperationMode
      (switchModes mode p.mSubHalList).2.1 hw'
    exact ⟨w'', hw'', hswitched.trans hrestored⟩
  · exact ⟨w', hw', hswitched⟩

/-! ### Requests and initializations -/

/-- The calls that a request addresses to the sub-HAL at index `i`. -/
def Request.callsTo (i : ℕ) (p : HalProxy ε) : Request → List SubHalCall
  | .activate sensorHandle enabled =>
    addressed i sensorHandle fun sensorHandle => .activate sensorHandle enabled
  | .batch sensorHandle samplingPeriodNs maxReportLatencyNs =>
    addressed i sensorHandle fun sensorHandle =>
      .batch sensorHandle samplingPeriodNs maxReportLatencyNs
  | .flush sensorHandle => addressed i sensorHandle .flush
  | .injectSensorData event =>
    if p.passesModeGate event then
      addressed i event.sensorHandle fun sensorHandle =>
        .injectSensorData { event with sensorHandle := sensorHandle }
    else []
  | _ => []

theorem delivers_perform (request : Request) (p : HalProxy ε) :
    Delivers i p (request.callsTo i p) (p.perform request) := by
  cases request with
  | setOperationMode mode => exact delivers_setOperationMode mode p
  | activate k enabled => exact delivers_route k _ p
  | batch k samplingPeriodNs maxReportLatencyNs => exact delivers_route k _ p
  | flush k => exact delivers_route k _ p
  | injectSensorData event =>
    rw [perform, injectSensorData, Request.callsTo]
    cases p.passesModeGate event with
    | false => exact delivers_of_eq rfl
    | true =>
      exact delivers_route event.sensorHandle
        (fun sensorHandle => .injectSensorData { event with sensorHandle := sensorHandle }) p
  | onDynamicSensorsConnected sensors j =>
    obtain ⟨m, heq⟩ := onDynamicSensorsConnected_snd sensors j p
    rw [perform, heq]
    exact delivers_of_eq rfl
  | onDynamicSensorsDisconnected handles j =>
    obtain ⟨m, heq⟩ := onDynamicSensorsDisconnected_snd handles j p
    rw [perform, heq]
    exact delivers_of_eq rfl

/-- The calls that a stage of an initialization makes to it. -/
def InitStage.callsTo (i : ℕ) (p : HalProxy ε) : InitStage → List SubHalCall
  | .disableAllSensors => deactivations i p
  | _ => []

theorem delivers_initStage (args : InitializeArgs) (now : ℤ) (stage : InitStage)
    (p : HalProxy ε) : Delivers i p (stage.callsTo i p) (p.initStage args now stage) := by
  cases stage with
  | disableAllSensors => exact delivers_disableAllSensors p
  | initializeSubHals =>
    intro w hw
    refine ⟨w.initializeSubHal.2, ?_, .initializeSubHal (.done _)⟩
    rw [initStage, List.getElem?_map, hw]
    rfl
  | _ => exact delivers_of_eq rfl

end HalProxy

/-! ### The running system -/

namespace System

variable {c : Constants} {s t : System} {a : Action} {as : List Action} {i : ℕ}

/-- The calls that a step addresses to the sub-HAL at index `i`. -/
def callsTo (i : ℕ) (s : System) : Action → List SubHalCall
  | .perform request => request.callsTo i s.proxy
  | .initStage _ => s.initializing.elim [] fun (stage, _) => stage.callsTo i s.proxy
  | _ => []

/-- A step does to a sub-HAL what it addresses to it. -/
theorem delivers_step (hstep : step c s a = some t) :
    HalProxy.Delivers i s.proxy (s.callsTo i a) t.proxy := by
  cases step_cases hstep with
  | perform request => exact HalProxy.delivers_perform request s.proxy
  | initStage dt stage args hstage henabled =>
    rw [callsTo, hstage]
    exact HalProxy.delivers_initStage args _ stage s.proxy
  | _ => exact HalProxy.delivers_of_eq rfl

/-- **Over every run** a sub-HAL evolves by the calls addressed to it. -/
theorem delivers_of_run (hrun : (machine c).run s as = some t) :
    HalProxy.Delivers i s.proxy ((machine c).log (callsTo i) s as) t.proxy :=
  Machine.of_log (R := fun s calls t => HalProxy.Delivers i s.proxy calls t.proxy)
    (fun _ => HalProxy.delivers_of_eq rfl) (fun _ _ _ _ _ hstep h => (delivers_step hstep).trans h)
    hrun

/-- **The call log.**  Whatever the threads do, the calls that a sub-HAL receives over a run are
those addressed to it, in the order in which they were made. -/
theorem calls_of_run (hrun : (machine c).run s as = some t)
    (hi : i < s.proxy.mSubHalList.length) :
    t.proxy.calls[i]? = s.proxy.calls[i]?.map (· ++ (machine c).log (callsTo i) s as) := by
  obtain ⟨w', hw', hreceives⟩ :=
    delivers_of_run (i := i) hrun _ (List.getElem?_eq_getElem hi)
  rw [HalProxy.calls, HalProxy.calls, List.getElem?_map, List.getElem?_map, hw',
    List.getElem?_eq_getElem hi, Option.map_some, hreceives.calls_eq]
  rfl

/-- An initialization deactivates three sensors; then the second one is enabled. -/
theorem calls_of_run_activate :
    ∃ t, (machine sampleConstants).run (start [pickUpSubHal])
        (initialization sampleArgs ++ [.perform (.activate 2 true)]) = some t
      ∧ t.proxy.calls[0]?
        = some [.activate 1 false, .activate 2 false, .activate 3 false, .activate 2 true] := by
  obtain ⟨t, hrun⟩ := Option.isSome_iff_exists.mp
    (show ((machine sampleConstants).run (start [pickUpSubHal])
      (initialization sampleArgs ++ [.perform (.activate 2 true)])).isSome = true from rfl)
  refine ⟨t, hrun, ?_⟩
  rw [calls_of_run hrun (by decide)]
  decide

end System

end OnePlus9
