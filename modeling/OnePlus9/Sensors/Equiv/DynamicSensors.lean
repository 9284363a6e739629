import OnePlus9.Sensors.DynamicSensors
import OnePlus9.Sensors.Equiv.SensorList
import OnePlus9.Sensors.Equiv.Session

/-!
# Does the framework know the dynamic sensors?

`mDynamicSensors` is the source of a `Mirror` that the callback keeps from the notifications.  A
notification is sent after the mutex was released, so two calls about the same sensor can notify in
the other order (`exists_disagreement`), and a call can overlap the two statements of an
initialization, so that its sensor is cleared but told to the new callback, or kept but told to the
old one.

`Undisputed s a` says that a step does not begin such an overlap.  However the calls under way are
completed, the framework ends up knowing exactly the connected sensors, in every state of a run, if
and only if every step of the run is undisputed (`agrees_iff`).  While `initializeCommon` is between
its two statements the table is already empty and the callback still the old one; this counts as a
call under way.
-/

namespace OnePlus9.DynamicSensors

open HalProxy Mirror

/-- The framework knows exactly the connected sensors. -/
def Agrees (s : DynamicSensors) : Prop := s.told = s.connected

/-- Whether an action only completes calls that are under way. -/
def completes : Action → Bool
  | .notify _ | .setCallback => true
  | .connect _ _ | .disconnect _ _ | .clear _ => false

/-- Completing the calls under way in `s`, in some order, leads to `t`. -/
def Settles (s t : DynamicSensors) : Prop :=
  (machine.restrict completes).Reaches s t ∧ t.pending = [] ∧ t.initializing = none

/-- The notice of an `onDynamicSensorsConnected` call. -/
def connectNotice (dynamicSensorsAdded : List SensorInfo) (subHalIndex : Int32)
    (s : DynamicSensors) : Notice Int32 :=
  ⟨(s.proxy.onDynamicSensorsConnected dynamicSensorsAdded subHalIndex).1.map
    SensorInfo.sensorHandle, true⟩

/-- The notice of an `onDynamicSensorsDisconnected` call. -/
def disconnectNotice (dynamicSensorHandlesRemoved : List Int32) (subHalIndex : Int32)
    (s : DynamicSensors) : Notice Int32 :=
  ⟨(s.proxy.onDynamicSensorsDisconnected dynamicSensorHandlesRemoved subHalIndex).1, false⟩

/-- A call about a sensor begins when no call that says the opposite about it is about to notify,
and a call that connects a sensor does not begin between the two statements of an initialization;
these begin when no such call is about to notify. -/
def Undisputed (s : DynamicSensors) : Action → Prop
  | .connect added i =>
    (∀ n ∈ s.pending, (s.connectNotice added i).Agrees n)
      ∧ (s.initializing ≠ none → (s.connectNotice added i).keys = [])
  | .disconnect removed i => ∀ n ∈ s.pending, (s.disconnectNotice removed i).Agrees n
  | .clear _ => ∀ n ∈ s.pending, n.present = true → n.keys = []
  | .notify _ | .setCallback => True

/-! ### What a step can be -/

/-- One step, by the branch taken. -/
inductive Transition (s : DynamicSensors) : Action → DynamicSensors → Prop
  | connect (added : List SensorInfo) (i : Int32) :
    Transition s (.connect added i)
      { s with
        proxy := (s.proxy.onDynamicSensorsConnected added i).2
        pending := s.pending ++ [s.connectNotice added i] }
  | disconnect (removed : List Int32) (i : Int32) :
    Transition s (.disconnect removed i)
      { s with
        proxy := (s.proxy.onDynamicSensorsDisconnected removed i).2
        pending := s.pending ++ [s.disconnectNotice removed i] }
  | notify (k : ℕ) (n : Notice Int32) (hk : s.pending[k]? = some n) :
    Transition s (.notify k) { s with pending := s.pending.eraseIdx k, told := n.apply s.told }
  | clear (args : InitializeArgs) (hidle : s.initializing = none) :
    Transition s (.clear args)
      { s with
        proxy := s.proxy.initStage args 0 .clearDynamicSensors
        initializing := some args }
  | setCallback (args : InitializeArgs) (hargs : s.initializing = some args) :
    Transition s .setCallback
      { s with
        proxy := s.proxy.initStage args 0 .setDynamicSensorsCallback
        told := fun _ => false
        initializing := none }

variable {s t : DynamicSensors} {a : Action}

/-- **The inversion lemma.** -/
theorem step_cases (h : step s a = some t) : Transition s a t := by
  cases a with
  | connect added i =>
    rw [step, DynamicSensors.connect] at h
    split_ifs at h with hcallback
    exact Option.some.inj h ▸ .connect added i
  | disconnect removed i =>
    rw [step, DynamicSensors.disconnect] at h
    split_ifs at h with hcallback
    exact Option.some.inj h ▸ .disconnect removed i
  | notify k =>
    obtain ⟨n, hk, rfl⟩ := Option.map_eq_some_iff.mp h
    exact .notify k n hk
  | clear args =>
    rw [step, DynamicSensors.clear] at h
    cases hidle : s.initializing with
    | some args' =>
      rw [hidle] at h
      exact nomatch h
    | none =>
      rw [hidle] at h
      exact Option.some.inj h ▸ .clear args hidle
  | setCallback =>
    obtain ⟨args, hargs, rfl⟩ := Option.map_eq_some_iff.mp h
    exact .setCallback args hargs

/-! ### The updates of the table -/

theorem connected_connect (added : List SensorInfo) (i : Int32) (s : DynamicSensors) :
    (fun h => (s.proxy.onDynamicSensorsConnected added i).2.mDynamicSensors.contains h)
      = (s.connectNotice added i).apply s.connected := by
  funext h
  rw [Bool.eq_iff_iff, contains_onDynamicSensorsConnected]
  by_cases hmem : h ∈ (s.connectNotice added i).keys
  · rw [Notice.apply_of_mem hmem]
    exact iff_of_true (Or.inr hmem) rfl
  · rw [Notice.apply_of_not_mem hmem]
    exact or_iff_left hmem

theorem connected_disconnect (removed : List Int32) (i : Int32) (s : DynamicSensors) :
    (fun h => (s.proxy.onDynamicSensorsDisconnected removed i).2.mDynamicSensors.contains h)
      = (s.disconnectNotice removed i).apply s.connected := by
  funext h
  rw [Bool.eq_iff_iff, contains_onDynamicSensorsDisconnected]
  by_cases hmem : h ∈ (s.disconnectNotice removed i).keys
  · rw [Notice.apply_of_mem hmem]
    exact iff_of_false (fun hand => hand.2 hmem) Bool.false_ne_true
  · rw [Notice.apply_of_not_mem hmem]
    exact and_iff_left hmem

/-- What is not connected cannot be disconnected. -/
theorem keys_disconnectNotice_eq_nil (removed : List Int32) (i : Int32)
    (h : ∀ k, s.connected k = false) : (s.disconnectNotice removed i).keys = [] := by
  apply List.eq_nil_iff_forall_not_mem.mpr
  intro k hk
  have hknown : s.connected k = true := contains_of_mem_onDynamicSensorsDisconnected hk
  rw [h k] at hknown
  exact nomatch hknown

/-! ### Undisputed steps -/

/-- The mirror that counts: that of the callback to come while an initialization is between its two
statements. -/
def mirror (s : DynamicSensors) : Int32 → Bool :=
  if s.initializing.isSome then fun _ => false else s.told

theorem mirror_of_none {s : DynamicSensors} (h : s.initializing = none) : s.mirror = s.told := by
  rw [mirror, h]
  rfl

theorem mirror_of_some {s : DynamicSensors} {args : InitializeArgs}
    (h : s.initializing = some args) : s.mirror = fun _ => false := by
  rw [mirror, h]
  rfl

/-- The pending notifications and the mirror agree with the table, which is empty between the two
statements of an initialization. -/
structure Synced (s : DynamicSensors) : Prop where
  inStep : InStep s.connected s.mirror s.pending
  cleared : ∀ args, s.initializing = some args → ∀ k, s.connected k = false

theorem synced_start (subHalList : List SubHalWrapper) : Synced (start subHalList) where
  inStep := ⟨(fun _ hn => nomatch hn), fun k _ => by
    have hempty : (start subHalList).connected k = false := Std.TreeMap.contains_emptyc
    rw [hempty]
    rfl⟩
  cleared := fun _ h => nomatch h

/-- **One step** that is undisputed keeps the framework in step. -/
theorem Synced.step (h : Synced s) (hc : Undisputed s a) (hstep : step s a = some t) :
    Synced t := by
  cases step_cases hstep with
  | connect added i =>
    have hinStep := h.inStep.update hc.1
    rw [← connected_connect] at hinStep
    refine ⟨hinStep, fun args hargs k => ?_⟩
    have hempty : (s.connectNotice added i).keys = [] :=
      hc.2 (fun hnone => nomatch hargs.symm.trans hnone)
    have hconnected := congrFun (connected_connect added i s) k
    rw [Notice.apply_of_not_mem (by rw [hempty]; exact List.not_mem_nil),
      h.cleared args hargs k] at hconnected
    exact hconnected
  | disconnect removed i =>
    have hinStep := h.inStep.update hc
    rw [← connected_disconnect] at hinStep
    refine ⟨hinStep, fun args hargs k => ?_⟩
    have hempty := keys_disconnectNotice_eq_nil removed i (h.cleared args hargs)
    have hconnected := congrFun (connected_disconnect removed i s) k
    rw [Notice.apply_of_not_mem (by rw [hempty]; exact List.not_mem_nil),
      h.cleared args hargs k] at hconnected
    exact hconnected
  | notify k n hk =>
    refine ⟨?_, h.cleared⟩
    cases hinit : s.initializing with
    | none =>
      have hinStep := h.inStep.deliver hk
      rw [mirror_of_none hinit] at hinStep
      rw [mirror_of_none rfl]
      exact hinStep
    | some args =>
      -- The old callback is told, which does not matter any more.
      have hsame : s.connected = fun _ => false := funext (h.cleared args hinit)
      rw [mirror_of_some rfl]
      show InStep s.connected (fun _ => false) (s.pending.eraseIdx k)
      rw [← hsame]
      exact inStep_self fun m hm => h.inStep.agrees m (List.mem_of_mem_eraseIdx hm)
  | clear args hidle =>
    have hempty : connected { s with
        proxy := s.proxy.initStage args 0 .clearDynamicSensors
        initializing := some args } = fun _ => false := funext fun _ => Std.TreeMap.contains_emptyc
    refine ⟨?_, fun _ _ => congrFun hempty⟩
    rw [hempty, mirror_of_some rfl]
    apply inStep_self
    intro n hn k hk
    by_contra hpresent
    rw [hc n hn (by simpa using hpresent)] at hk
    exact nomatch hk
  | setCallback args hargs =>
    refine ⟨?_, fun _ hnone => nomatch hnone⟩
    have hinStep := h.inStep
    rw [mirror_of_some hargs] at hinStep
    exact hinStep

/-- Completing calls is undisputed. -/
theorem undisputed_of_completes (h : completes a = true) : Undisputed s a := by
  cases a with
  | notify k | setCallback => trivial
  | connect added i | disconnect removed i | clear args => exact nomatch h

/-- **A framework in step** knows the connected sensors once the calls under way are completed. -/
theorem Synced.agrees (h : Synced s) (hsettles : Settles s t) : Agrees t := by
  obtain ⟨⟨as, hrun⟩, hpending, hinit⟩ := hsettles
  have hsynced : Synced t := by
    refine Machine.invariant_of_step (fun s a t hs hstep => ?_) h
      ((machine.restrict completes).visits_of_run hrun)
    obtain ⟨hcompletes, hstep⟩ := Machine.restrict_step_eq_some.mp hstep
    exact hs.step (undisputed_of_completes hcompletes) hstep
  have hinStep := hsynced.inStep
  rw [hpending, mirror_of_none hinit] at hinStep
  exact hinStep.nil

/-! ### Disputed steps -/

/-- What the library's deliveries do, the pending calls can do. -/
theorem reaches_of_deliveries {told : Int32 → Bool} {pending : List (Notice Int32)}
    (h : deliveries.Reaches (s.told, s.pending) (told, pending)) :
    (machine.restrict completes).Reaches s { s with told := told, pending := pending } := by
  have hnotify : ∀ (x : (Int32 → Bool) × List (Notice Int32)) i y t,
      t = { s with told := x.1, pending := x.2 } → deliveries.step x i = some y →
      ∃ t', (machine.restrict completes).Reaches t t' ∧
        t' = { s with told := y.1, pending := y.2 } := by
    rintro ⟨told, pending⟩ i y _ rfl hstep
    obtain ⟨n, hn, rfl⟩ := Option.map_eq_some_iff.mp hstep
    refine ⟨_, .of_step (a := .notify i) ?_, rfl⟩
    exact Machine.restrict_step_eq_some.mpr ⟨rfl, Option.map_eq_some_iff.mpr ⟨n, hn, rfl⟩⟩
  obtain ⟨t, hreaches, rfl⟩ := h.simulate hnotify rfl
  exact hreaches

/-- An initialization replaces the callback. -/
theorem reaches_setCallback {args : InitializeArgs} (hinit : s.initializing = some args) :
    (machine.restrict completes).Reaches s { s with
      proxy := s.proxy.initStage args 0 .setDynamicSensorsCallback
      told := fun _ => false
      initializing := none } := by
  refine .of_step (Machine.restrict_step_eq_some.mpr
    (⟨rfl, ?_⟩ : completes .setCallback = true ∧ _))
  exact Option.map_eq_some_iff.mpr ⟨args, hinit, rfl⟩

/-- A pending notification that says the opposite of the table can be the last one. -/
theorem exists_disagrees_of_pending {n : Notice Int32} (hn : n ∈ s.pending) {k : Int32}
    (hk : k ∈ n.keys) (hne : n.present ≠ s.connected k) : ∃ t, Settles s t ∧ ¬Agrees t := by
  have hidle : ∀ s : DynamicSensors, s.initializing = none → n ∈ s.pending →
      n.present ≠ s.connected k → ∃ t, Settles s t ∧ ¬Agrees t := by
    intro s hinit hn hne
    obtain ⟨told, hreaches, htold⟩ := exists_mirror_of_mem hn s.told
    refine ⟨_, ⟨reaches_of_deliveries hreaches, rfl, hinit⟩, fun hagrees => hne ?_⟩
    rw [← htold k hk]
    exact congrFun hagrees k
  cases hinit : s.initializing with
  | none => exact hidle s hinit hn hne
  | some args =>
    -- First the callback is replaced, so that the new one gets the notification.
    obtain ⟨t, ⟨hreaches, hdone⟩, ht⟩ := hidle { s with
      proxy := s.proxy.initStage args 0 .setDynamicSensorsCallback
      told := fun _ => false
      initializing := none } rfl hn hne
    exact ⟨t, ⟨(reaches_setCallback hinit).trans hreaches, hdone⟩, ht⟩

/-- A sensor that is connected between the two statements of an initialization can be told to the
old callback only. -/
theorem exists_disagrees_of_initializing {args : InitializeArgs}
    (hinit : s.initializing = some args) {k : Int32} (hk : s.connected k = true) :
    ∃ t, Settles s t ∧ ¬Agrees t := by
  obtain ⟨told, hreaches⟩ := exists_mirror s.pending s.told
  have hset := reaches_setCallback (s := { s with told := told, pending := [] }) hinit
  refine ⟨_, ⟨(reaches_of_deliveries hreaches).trans hset, rfl, rfl⟩, fun hagrees => ?_⟩
  have hfalse : false = s.connected k := congrFun hagrees k
  rw [hk] at hfalse
  exact nomatch hfalse

/-- Two notices that do not agree, and a sensor that both are about. -/
theorem exists_of_not_agrees {m : Notice Int32} (h : ¬∀ n ∈ s.pending, m.Agrees n) :
    ∃ n ∈ s.pending, ∃ k ∈ m.keys, k ∈ n.keys ∧ n.present ≠ m.present := by
  unfold Notice.Agrees at h
  push Not at h
  obtain ⟨n, hn, k, hk, hkn, hne⟩ := h
  exact ⟨n, hn, k, hk, hkn, hne.symm⟩

/-- **A disputed step** can lead to a framework that knows something else. -/
theorem exists_disagrees (hc : ¬Undisputed s a) (hstep : step s a = some t) :
    ∃ u, Settles t u ∧ ¬Agrees u := by
  cases step_cases hstep with
  | connect added i =>
    have hnow : ∀ k ∈ (s.connectNotice added i).keys,
        (s.proxy.onDynamicSensorsConnected added i).2.mDynamicSensors.contains k = true := by
      intro k hk
      exact (congrFun (connected_connect added i s) k).trans (Notice.apply_of_mem hk)
    rcases not_and_or.mp hc with hdisputed | hinit
    · obtain ⟨n, hn, k, hk, hkn, hne⟩ := exists_of_not_agrees hdisputed
      refine exists_disagrees_of_pending (List.mem_append_left _ hn) hkn fun heq => hne ?_
      exact heq.trans (hnow k hk)
    · push Not at hinit
      obtain ⟨hinit, hkeys⟩ := hinit
      obtain ⟨args, hargs⟩ := Option.ne_none_iff_exists'.mp hinit
      obtain ⟨k, hk⟩ := List.exists_mem_of_ne_nil _ hkeys
      exact exists_disagrees_of_initializing hargs (hnow k hk)
  | disconnect removed i =>
    obtain ⟨n, hn, k, hk, hkn, hne⟩ := exists_of_not_agrees hc
    have hnow : (s.proxy.onDynamicSensorsDisconnected removed i).2.mDynamicSensors.contains k
        = false :=
      (congrFun (connected_disconnect removed i s) k).trans (Notice.apply_of_mem hk)
    refine exists_disagrees_of_pending (List.mem_append_left _ hn) hkn fun heq => hne ?_
    exact heq.trans hnow
  | clear args hidle =>
    unfold Undisputed at hc
    push Not at hc
    obtain ⟨n, hn, hpresent, hkeys⟩ := hc
    obtain ⟨k, hk⟩ := List.exists_mem_of_ne_nil _ hkeys
    refine exists_disagrees_of_pending hn hk fun heq => ?_
    have hcleared : connected { s with
        proxy := s.proxy.initStage args 0 .clearDynamicSensors
        initializing := some args } k = false := Std.TreeMap.contains_emptyc
    rw [hpresent, hcleared] at heq
    exact nomatch heq
  | notify k | setCallback => exact absurd trivial hc

/-! ### Runs -/

/-- **The framework knows exactly the connected sensors**, in every state of a run once the calls
under way are completed in any order, if and only if every step of the run is undisputed. -/
theorem agrees_iff (subHalList : List SubHalWrapper) (as : List Action) :
    (∀ s, machine.Visits (start subHalList) as s → ∀ t, Settles s t → Agrees t)
      ↔ machine.Meets Undisputed (start subHalList) as := by
  refine Machine.always_iff_meets (d := fun _ _ => True) (I := Synced)
    (P := fun s => ∀ t, Settles s t → Agrees t) ?_ ?_ ?_ (synced_start subHalList)
    (Machine.meets_of_forall fun _ _ => trivial)
  · exact fun s h t hsettles => h.agrees hsettles
  · exact fun s a t h _ hc hstep => h.step hc hstep
  · intro s a t _ _ hc hstep hall
    obtain ⟨u, hsettles, hne⟩ := exists_disagrees hc hstep
    exact hne (hall u hsettles)

/-- A dynamic sensor. -/
def headTracker : SensorInfo := ⟨7, .other 37, "android.sensor.head_tracker", 0⟩

/-- The sensor is connected and disconnected, and the notifications overtake each other. -/
def overtaking : List Action :=
  [.clear System.sampleArgs, .setCallback, .connect [headTracker] 0, .disconnect [7] 0, .notify 1,
    .notify 0]

/-- In the end nothing is under way, the framework was told that the sensor is connected, and it is
not. -/
theorem exists_disagreement :
    ¬∀ s, machine.Visits (start []) overtaking s →
      s.pending = [] → s.initializing = none → Agrees s := by
  intro hall
  obtain ⟨s, hvisits, hs⟩ := machine.exists_visits (start []) overtaking
    (fun s => (s.pending, s.initializing.isNone, s.told 7, s.connected 7)) ([], true, true, false)
    (by decide)
  obtain ⟨hpending, hinit, htold, hconnected⟩ := by simpa only [Prod.mk.injEq] using hs
  have hagrees := hall s hvisits hpending (Option.isNone_iff_eq_none.mp hinit)
  rw [Agrees] at hagrees
  rw [hagrees, hconnected] at htold
  exact nomatch htold

end OnePlus9.DynamicSensors
