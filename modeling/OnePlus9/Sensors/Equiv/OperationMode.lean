import OnePlus9.Library.Machine
import OnePlus9.Sensors.Equiv.HalProxy

/-!
# The operation mode of the sub-HALs

The framework calls the proxy from one thread, so its calls follow one another.  Between them every
sub-HAL is in the mode the proxy has recorded and is known to accept it (`Aligned`): a switch that
some sub-HAL rejects is undone in those already switched, and since these accept the old mode, each
is in the end as it was (`restoreModes_switchModes`).

`aligned_of_visits` is the invariant over every sequence of calls, `setOperationMode_of_ne_ok` says
that a failed switch changes nothing, and `operationMode` puts the two together.
-/

namespace OnePlus9

/-! ### One sub-HAL -/

/-- The modes that a sub-HAL's sensors keep. -/
def SensorsSubHal.sensorModes (h : SensorsSubHal) : List OperationMode :=
  h.mSensors.toList.map fun sensor => sensor.2.mMode

theorem SensorsSubHal.sensorModes_setOperationMode (h : SensorsSubHal) (mode : OperationMode) :
    (h.setOperationMode mode).2.sensorModes = h.sensorModes.map fun _ => mode := by
  have hone : ∀ sensor : Sensor, (sensor.setOperationMode mode).mMode = mode := by
    intro sensor
    unfold Sensor.setOperationMode
    split_ifs with hne
    · rfl
    · exact not_not.mp hne
  unfold setOperationMode sensorModes
  rw [Std.TreeMap.toList_map, List.map_map, List.map_map]
  exact List.map_congr_left fun sensor _ => hone sensor.2

/-- Replacing a sensor by one in the same mode. -/
theorem SensorsSubHal.sensorModes_insert (h : SensorsSubHal) {k : Int32} {sensor sensor' : Sensor}
    (hget : h.mSensors[k]? = some sensor) (hmode : sensor'.mMode = sensor.mMode) :
    sensorModes { h with mSensors := h.mSensors.insert k sensor' } ⊆ h.sensorModes := by
  intro m hm
  obtain ⟨⟨k', found⟩, hmem, rfl⟩ := List.mem_map.mp hm
  rw [Std.TreeMap.mem_toList_iff_getElem?_eq_some, Std.TreeMap.getElem?_insert] at hmem
  split_ifs at hmem with heq
  · obtain rfl := Option.some.inj hmem
    exact List.mem_map.mpr ⟨(k, sensor), Std.TreeMap.mem_toList_iff_getElem?_eq_some.mpr hget,
      hmode.symm⟩
  · exact List.mem_map.mpr ⟨(k', found), Std.TreeMap.mem_toList_iff_getElem?_eq_some.mpr hmem, rfl⟩

theorem Sensor.mMode_activate (enable : Bool) (s : Sensor) :
    (s.activate enable).mMode = s.mMode := by
  unfold Sensor.activate
  split_ifs <;> rfl

/-- A request for one sensor switches no mode. -/
theorem SensorsSubHal.modes_call (h : SensorsSubHal) (c : SubHalCall) :
    (h.call c).2.mCurrentOperationMode = h.mCurrentOperationMode
      ∧ (h.call c).2.sensorModes ⊆ h.sensorModes := by
  cases c with
  | activate k enabled =>
    rw [SensorsSubHal.call]
    cases hget : h.mSensors[k]? with
    | none => exact ⟨rfl, List.Subset.refl _⟩
    | some sensor => exact ⟨rfl, h.sensorModes_insert hget (sensor.mMode_activate enabled)⟩
  | batch k samplingPeriodNs maxReportLatencyNs =>
    rw [SensorsSubHal.call]
    cases h.mSensors[k]? <;> exact ⟨rfl, List.Subset.refl _⟩
  | flush k =>
    rw [SensorsSubHal.call]
    cases h.mSensors[k]? <;> exact ⟨rfl, List.Subset.refl _⟩
  | injectSensorData event =>
    rw [SensorsSubHal.call]
    cases h.mSensors[event.sensorHandle]? <;> exact ⟨rfl, List.Subset.refl _⟩

namespace SubHalWrapper

variable {w : SubHalWrapper} {mode mode' : OperationMode}

/-- All modes a sub-HAL keeps: its own, and those of its sensors. -/
def modes (w : SubHalWrapper) : List OperationMode :=
  match w.subHal with
  | .sensorsSubHal h => h.mCurrentOperationMode :: h.sensorModes
  | .vendor h => [h.mode]

/-- The sub-HAL, with all its sensors, is in a mode. -/
def InMode (mode : OperationMode) (w : SubHalWrapper) : Prop := ∀ m ∈ w.modes, m = mode

instance : Decidable (w.InMode mode) := inferInstanceAs (Decidable (∀ m ∈ w.modes, m = mode))

/-- The sub-HAL accepts a mode. -/
def Accepts (mode : OperationMode) (w : SubHalWrapper) : Prop := (w.setOperationMode mode).1 = .ok

/-! The sub-HAL of the vendor, whose answer decides. -/

theorem setOperationMode_vendor_ok {h : VendorSubHal} (hok : h.setOperationModeResult mode = .ok)
    (calls : List SubHalCall) :
    setOperationMode mode ⟨.vendor h, calls⟩ = (.ok, ⟨.vendor { h with mode := mode }, calls⟩) := by
  have hvendor : SubHal.setOperationMode mode (.vendor h)
      = (.ok, .vendor { h with mode := mode }) := if_pos hok
  rw [setOperationMode, hvendor]

theorem setOperationMode_vendor_rejected {h : VendorSubHal}
    (hne : h.setOperationModeResult mode ≠ .ok) (calls : List SubHalCall) :
    setOperationMode mode ⟨.vendor h, calls⟩
      = (h.setOperationModeResult mode, ⟨.vendor h, calls⟩) := by
  have hvendor : SubHal.setOperationMode mode (.vendor h)
      = (h.setOperationModeResult mode, .vendor h) := if_neg hne
  rw [setOperationMode, hvendor]

theorem accepts_vendor {h : VendorSubHal} {calls : List SubHalCall} :
    Accepts mode ⟨.vendor h, calls⟩ ↔ h.setOperationModeResult mode = .ok := by
  unfold Accepts
  by_cases hok : h.setOperationModeResult mode = .ok
  · rw [setOperationMode_vendor_ok hok]
    exact iff_of_true rfl hok
  · rw [setOperationMode_vendor_rejected hok]

/-! Every sub-HAL. -/

theorem accepts_normal (w : SubHalWrapper) : w.Accepts .normal := by
  obtain ⟨h | h, calls⟩ := w
  · rfl
  · exact accepts_vendor.mpr h.normal_accepted

/-- Which modes a sub-HAL accepts is fixed. -/
theorem accepts_setOperationMode :
    (w.setOperationMode mode').2.Accepts mode ↔ w.Accepts mode := by
  obtain ⟨h | h, calls⟩ := w
  · exact Iff.rfl
  · by_cases hok : h.setOperationModeResult mode' = .ok
    · rw [setOperationMode_vendor_ok hok, accepts_vendor, accepts_vendor]
    · rw [setOperationMode_vendor_rejected hok]

/-- A rejected mode changes nothing. -/
theorem setOperationMode_of_not_accepts (h : ¬w.Accepts mode) :
    (w.setOperationMode mode).2 = w := by
  obtain ⟨h' | h', calls⟩ := w
  · exact absurd rfl h
  · rw [setOperationMode_vendor_rejected (mt accepts_vendor.mpr h)]

/-- An accepted mode is taken by the sub-HAL and by all its sensors. -/
theorem modes_setOperationMode (h : w.Accepts mode) :
    (w.setOperationMode mode).2.modes = w.modes.map fun _ => mode := by
  obtain ⟨h' | h', calls⟩ := w
  · exact congrArg (mode :: ·) (h'.sensorModes_setOperationMode mode)
  · rw [setOperationMode_vendor_ok (accepts_vendor.mp h)]
    rfl

theorem inMode_setOperationMode (h : w.Accepts mode) :
    (w.setOperationMode mode).2.InMode mode := by
  intro m hm
  rw [modes_setOperationMode h] at hm
  obtain ⟨_, -, rfl⟩ := List.mem_map.mp hm
  rfl

/-- Switching to another mode and back. -/
theorem modes_switch_back (hold : w.InMode mode) (haccepts : w.Accepts mode) :
    ((w.setOperationMode mode').2.setOperationMode mode).2.modes = w.modes := by
  have hsame : (w.modes.map fun _ => mode) = w.modes := by
    rw [List.map_congr_left fun m hm => (hold m hm).symm, List.map_id']
  rw [modes_setOperationMode (accepts_setOperationMode.mpr haccepts)]
  by_cases hnew : w.Accepts mode'
  · rw [modes_setOperationMode hnew, List.map_map]
    exact hsame
  · rw [setOperationMode_of_not_accepts hnew, hsame]

/-- Its own initialization puts a sub-HAL in `NORMAL`. -/
theorem inMode_initializeSubHal (w : SubHalWrapper) : w.initializeSubHal.2.InMode .normal := by
  obtain ⟨h | h, calls⟩ := w
  · exact inMode_setOperationMode (w := ⟨.sensorsSubHal h, calls⟩) rfl
  · exact fun m hm => List.mem_singleton.mp hm

theorem InMode.call (hold : w.InMode mode) (c : SubHalCall) : (w.call c).2.InMode mode := by
  obtain ⟨h | h, calls⟩ := w
  · obtain ⟨hcurrent, hsensors⟩ := h.modes_call c
    intro m hm
    rcases List.mem_cons.mp hm with rfl | hsensor
    · exact hcurrent.trans (hold _ List.mem_cons_self)
    · exact hold m (List.mem_cons_of_mem _ (hsensors hsensor))
  · exact hold

theorem accepts_call {c : SubHalCall} : (w.call c).2.Accepts mode ↔ w.Accepts mode := by
  obtain ⟨h | h, calls⟩ := w
  · exact Iff.rfl
  · exact accepts_vendor.trans accepts_vendor.symm

end SubHalWrapper

/-! ### All sub-HALs -/

namespace HalProxy

variable {ε : Type*} {p q : HalProxy ε} {mode old : OperationMode} {subHals : List SubHalWrapper}

/-- A switch that succeeds puts every sub-HAL in the new mode. -/
theorem inMode_switchModes (hok : (switchModes mode subHals).1 = .ok) :
    ∀ w ∈ (switchModes mode subHals).2.2, w.InMode mode ∧ w.Accepts mode := by
  induction subHals with
  | nil => exact fun w hw => nomatch hw
  | cons subHal subHals ih =>
    unfold switchModes at hok ⊢
    dsimp only at hok ⊢
    by_cases haccepts : subHal.Accepts mode
    · have hone : (subHal.setOperationMode mode).1 = .ok := haccepts
      simp only [hone, ne_eq, not_true_eq_false, if_false] at hok ⊢
      intro w hw
      rcases List.mem_cons.mp hw with rfl | hrest
      · exact ⟨SubHalWrapper.inMode_setOperationMode haccepts,
          SubHalWrapper.accepts_setOperationMode.mpr haccepts⟩
      · exact ih hok w hrest
    · have hone : (subHal.setOperationMode mode).1 ≠ .ok := haccepts
      simp only [ne_eq, hone, not_false_eq_true, if_true] at hok

/-- **A switch that fails is undone.** -/
theorem restoreModes_switchModes (hfail : (switchModes mode subHals).1 ≠ .ok)
    (hold : ∀ w ∈ subHals, w.InMode old ∧ w.Accepts old) :
    let restored := restoreModes old (switchModes mode subHals).2.1 (switchModes mode subHals).2.2
    restored.map SubHalWrapper.modes = subHals.map SubHalWrapper.modes
      ∧ ∀ w ∈ restored, w.InMode old ∧ w.Accepts old := by
  induction subHals with
  | nil => exact absurd rfl hfail
  | cons subHal subHals ih =>
    obtain ⟨hmode, holdAccepts⟩ := hold subHal List.mem_cons_self
    have hrest : ∀ w ∈ subHals, w.InMode old ∧ w.Accepts old :=
      fun w hw => hold w (List.mem_cons_of_mem _ hw)
    unfold switchModes at hfail ⊢
    dsimp only at hfail ⊢
    by_cases haccepts : subHal.Accepts mode
    · -- This one was switched, and is switched back.
      have hone : (subHal.setOperationMode mode).1 = .ok := haccepts
      simp only [hone, ne_eq, not_true_eq_false, if_false] at hfail ⊢
      obtain ⟨hmodes, hrestored⟩ := ih hfail hrest
      refine ⟨congrArg₂ List.cons (SubHalWrapper.modes_switch_back hmode holdAccepts) hmodes, ?_⟩
      intro w hw
      rcases List.mem_cons.mp hw with rfl | hw
      · have hback : (subHal.setOperationMode mode).2.Accepts old :=
          SubHalWrapper.accepts_setOperationMode.mpr holdAccepts
        exact ⟨SubHalWrapper.inMode_setOperationMode hback,
          SubHalWrapper.accepts_setOperationMode.mpr hback⟩
      · exact hrestored w hw
    · -- This one rejected the mode, and the rest was not asked.
      have hone : (subHal.setOperationMode mode).1 ≠ .ok := haccepts
      simp only [ne_eq, hone, not_false_eq_true, if_true,
        SubHalWrapper.setOperationMode_of_not_accepts haccepts]
      exact ⟨rfl, hold⟩

/-! ### All calls -/

/-- Every sub-HAL, with all its sensors, is in the current mode and accepts it. -/
def Aligned (p : HalProxy ε) : Prop :=
  ∀ w ∈ p.mSubHalList, w.InMode p.mCurrentOperationMode ∧ w.Accepts p.mCurrentOperationMode

/-- The modes that all sub-HALs keep. -/
def modes (p : HalProxy ε) : List (List OperationMode) := p.mSubHalList.map SubHalWrapper.modes

theorem Aligned.setOperationMode (h : Aligned p) (mode : OperationMode) :
    Aligned (p.setOperationMode mode).2 := by
  unfold HalProxy.setOperationMode
  dsimp only
  split_ifs with hfail
  · exact (restoreModes_switchModes hfail h).2
  · exact inMode_switchModes (not_not.mp hfail)

/-- **A failed switch** changes no mode. -/
theorem setOperationMode_of_ne_ok (h : Aligned p) (hne : (p.setOperationMode mode).1 ≠ .ok) :
    (p.setOperationMode mode).2.mCurrentOperationMode = p.mCurrentOperationMode
      ∧ (p.setOperationMode mode).2.modes = p.modes := by
  have hresult : (p.setOperationMode mode).1 = (switchModes mode p.mSubHalList).1 := by
    unfold HalProxy.setOperationMode
    dsimp only
    split_ifs <;> rfl
  rw [hresult] at hne
  unfold HalProxy.setOperationMode
  dsimp only
  rw [if_pos hne]
  exact ⟨rfl, (restoreModes_switchModes hne h).1⟩

/-- A change of the sub-HALs that keeps modes and answers. -/
theorem Aligned.of_subHals (h : Aligned p)
    (hcurrent : q.mCurrentOperationMode = p.mCurrentOperationMode)
    (hsubHals : ∀ w ∈ q.mSubHalList, w ∈ p.mSubHalList
      ∨ ∃ w' ∈ p.mSubHalList, ∃ c, w = (w'.call c).2) : Aligned q := by
  intro w hw
  rw [hcurrent]
  rcases hsubHals w hw with hold | ⟨w', hw', c, rfl⟩
  · exact h w hold
  · exact ⟨(h w' hw').1.call c, SubHalWrapper.accepts_call.mpr (h w' hw').2⟩

theorem Aligned.afterRoute (h : Aligned p) (k : Int32) (request : Int32 → SubHalCall) :
    Aligned (afterRoute (p.route k request) p) := by
  unfold route
  split_ifs
  · exact h
  · cases hget : p.getSubHalForSensorHandle k with
    | none => exact h
    | some subHal =>
      refine h.of_subHals rfl fun w hw => ?_
      rcases List.mem_or_eq_of_mem_set hw with hold | rfl
      · exact Or.inl hold
      · exact Or.inr ⟨subHal, List.mem_of_getElem? hget, _, rfl⟩

theorem Aligned.perform (h : Aligned p) (request : Request) : Aligned (p.perform request) := by
  cases request with
  | setOperationMode mode => exact h.setOperationMode mode
  | activate k enabled => exact h.afterRoute k _
  | batch k samplingPeriodNs maxReportLatencyNs => exact h.afterRoute k _
  | flush k => exact h.afterRoute k _
  | injectSensorData event =>
    unfold HalProxy.perform injectSensorData
    dsimp only
    split_ifs
    · exact h
    · exact h.afterRoute event.sensorHandle _
  | onDynamicSensorsConnected sensors i =>
    obtain ⟨m, heq⟩ := onDynamicSensorsConnected_snd sensors i p
    rw [HalProxy.perform, heq]
    exact h
  | onDynamicSensorsDisconnected handles i =>
    obtain ⟨m, heq⟩ := onDynamicSensorsDisconnected_snd handles i p
    rw [HalProxy.perform, heq]
    exact h

/-- An initialization puts every sub-HAL in `NORMAL`, whatever was before. -/
theorem aligned_initializeCommon (args : InitializeArgs) (now : ℤ) (p : HalProxy ε) :
    Aligned (p.initializeCommon args now) := by
  intro w hw
  obtain ⟨subHal, -, rfl⟩ := List.mem_map.mp hw
  exact ⟨subHal.inMode_initializeSubHal, SubHalWrapper.accepts_normal _⟩

/-! ### Sequences of calls -/

/-- A call of the framework that runs by itself. -/
inductive FrameworkCall where
  | perform (request : Request)
  | initializeCommon (args : InitializeArgs) (now : ℤ)

/-- The framework's calls, one after the other. -/
def framework (ε : Type*) : Machine (HalProxy ε) FrameworkCall where
  step p
    | .perform request => some (p.perform request)
    | .initializeCommon args now => some (p.initializeCommon args now)

theorem Aligned.step (h : Aligned p) {call : FrameworkCall}
    (hstep : (framework ε).step p call = some q) : Aligned q := by
  cases call with
  | perform request =>
    obtain rfl := Option.some.inj hstep
    exact h.perform request
  | initializeCommon args now =>
    obtain rfl := Option.some.inj hstep
    exact aligned_initializeCommon args now p

/-- **Every sequence of calls** leaves every sub-HAL in the current mode. -/
theorem aligned_of_visits {calls : List FrameworkCall} (h : Aligned p)
    (hv : (framework ε).Visits p calls q) : Aligned q :=
  Machine.invariant_of_step (fun _ _ _ hp hstep => hp.step hstep) h hv

/-- The sensors of this repository's sub-HAL are in the mode that the gate looks at. -/
theorem Aligned.mMode (h : Aligned p) {subHal : SensorsSubHal} {calls : List SubHalCall}
    (hmem : ⟨.sensorsSubHal subHal, calls⟩ ∈ p.mSubHalList) {k : Int32} {sensor : Sensor}
    (hget : subHal.mSensors[k]? = some sensor) : sensor.mMode = p.mCurrentOperationMode := by
  refine (h _ hmem).1 sensor.mMode (List.mem_cons_of_mem _ ?_)
  exact List.mem_map.mpr ⟨(k, sensor), Std.TreeMap.mem_toList_iff_getElem?_eq_some.mpr hget, rfl⟩

/-- **The operation mode.**  If the sub-HALs start in `NORMAL`, then after every call of every
sequence all of them are in the current mode, with all sensors of this repository's sub-HAL, and a
switch that fails changes no mode. -/
theorem operationMode (subHalList : List SubHalWrapper)
    (hnormal : ∀ w ∈ subHalList, w.InMode .normal) (calls : List FrameworkCall)
    (hv : (framework ε).Visits (construct subHalList) calls p) :
    (∀ w ∈ p.mSubHalList, w.InMode p.mCurrentOperationMode)
      ∧ (∀ subHal calls, ⟨.sensorsSubHal subHal, calls⟩ ∈ p.mSubHalList →
        ∀ (k : Int32) (sensor : Sensor), subHal.mSensors[k]? = some sensor →
          sensor.mMode = p.mCurrentOperationMode)
      ∧ ∀ mode, (p.setOperationMode mode).1 ≠ .ok →
        (p.setOperationMode mode).2.mCurrentOperationMode = p.mCurrentOperationMode
          ∧ (p.setOperationMode mode).2.modes = p.modes := by
  have hstart : Aligned (construct subHalList : HalProxy ε) :=
    fun w hw => ⟨hnormal w hw, w.accepts_normal⟩
  have haligned := aligned_of_visits hstart hv
  refine ⟨fun w hw => (haligned w hw).1, ?_, ?_⟩
  · exact fun subHal calls hmem k sensor hget => haligned.mMode hmem hget
  · exact fun mode hne => setOperationMode_of_ne_ok haligned hne

/-- This repository's sub-HAL, and a vendor's that rejects data injection. -/
def reluctantSubHals : List SubHalWrapper :=
  [⟨.sensorsSubHal .construct, []⟩,
    ⟨.vendor
      { sensors := []
        setOperationModeResult := fun mode => if mode = .normal then .ok else .badValue
        normal_accepted := rfl
        initializeResult := .ok
        respond := fun _ => .ok
        mode := .normal }, []⟩]

/-- The sub-HAL that was switched first is switched back. -/
theorem operationMode_reluctantSubHals :
    ((construct reluctantSubHals : HalProxy Event).setOperationMode .dataInjection).1 = .badValue
      ∧ ((construct reluctantSubHals : HalProxy Event).setOperationMode .dataInjection).2.modes
        = [[.normal, .normal, .normal], [.normal]] :=
  ⟨by decide, ((operationMode reluctantSubHals (by decide) [] (.here _ _)).2.2 .dataInjection
    (by decide)).2⟩

end HalProxy

end OnePlus9
