import OnePlus9.Sensors.Equiv.Session
import OnePlus9.Sensors.Equiv.Threads
import OnePlus9.Sensors.Equiv.Wakelock

/-!
# What an initialization resets

`ResetFields` are the fields of the proxy that an initialization should bring back to where a
freshly constructed proxy has them.  Most of them are (`Cleared`).  The wakelock is not: when
`resetSharedWakelock` is called, `mThreadsRun` is already cleared, and giving back claims does
nothing.  So `mWakelockRefCount` and the OS wakelock come through an initialization unchanged
(`claims_afterStage`).

`reset_iff` says that an initialization during which the sub-HALs are quiet is certain to reset all
fields if and only if no claim is counted and the OS wakelock is not held when it begins.
`exists_survivor` is a claim that survives.
-/

namespace OnePlus9

variable {ε : Type*}

/-! ### The fields -/

/-- The fields an initialization should reset. -/
structure ResetFields (ε : Type*) where
  mPendingWriteEventsQueue : List (List ε × ℕ)
  mSizePendingWriteEventsQueue : ℕ
  mDynamicSensors : SensorMap
  mCurrentOperationMode : OperationMode
  mWakelockRefCount : ℕ
  held : Bool

/-- Nothing pending, nothing connected, `NORMAL`, no claim, no OS wakelock. -/
def ResetFields.initial : ResetFields ε := ⟨[], 0, ∅, .normal, 0, false⟩

def HalProxy.resetFields (p : HalProxy ε) : ResetFields ε where
  mPendingWriteEventsQueue := p.pendingWrites.mPendingWriteEventsQueue
  mSizePendingWriteEventsQueue := p.pendingWrites.mSizePendingWriteEventsQueue
  mDynamicSensors := p.mDynamicSensors
  mCurrentOperationMode := p.mCurrentOperationMode
  mWakelockRefCount := p.wakelock.mWakelockRefCount
  held := p.wakelock.held

/-! ### The wakelock -/

namespace SharedWakelock

variable {run : Bool} {delta : ℕ} {start now : ℤ} {w : SharedWakelock}

/-- No claim is counted and the OS wakelock is not held. -/
structure Unclaimed (w : SharedWakelock) : Prop where
  count : w.mWakelockRefCount = 0
  held : w.held = false

/-- With no claim counted, giving back does nothing. -/
theorem Unclaimed.decrement (h : Unclaimed w) :
    decrementRefCountAndMaybeReleaseWakelock run delta start w = w := by
  cases run with
  | false => rfl
  | true => rw [decrement_running, if_pos (Or.inl h.count)]

theorem Unclaimed.reset (h : Unclaimed w) : Unclaimed (resetSharedWakelock run now w) := by
  rw [resetSharedWakelock, h.decrement]
  exact ⟨h.count, h.held⟩

end SharedWakelock

namespace System

variable {c : Constants} {s t u : System} {a : Action} {args : HalProxy.InitializeArgs}

/-! ### Quiet initializations -/

/-- Everything but sub-HALs that take wakelocks, post or connect, and other calls of the
framework. -/
def quiet : Action → Bool
  | .initStage _ | .handlePendingWrites _ | .handleWakelocks .. | .destroyScopedWakelock _ => true
  | _ => false

/-- A quiet run of an `initializeCommon` call, up to its return. -/
def Initializes (c : Constants) (s : System) (args : HalProxy.InitializeArgs) (t : System) : Prop :=
  ∃ as dt, (∀ a ∈ as, quiet a = true)
    ∧ (machine c).run s (.initializeCommon args :: (as ++ [.initStage dt])) = some t
    ∧ t.initializing = none

/-- Quiet steps leave an unclaimed wakelock unclaimed. -/
theorem unclaimed_step (h : s.proxy.wakelock.Unclaimed) (ha : quiet a = true)
    (hstep : step c s a = some t) : t.proxy.wakelock.Unclaimed := by
  cases step_cases hstep with
  | destroyScopedWakelock k wakelock hk =>
    dsimp only
    rw [h.decrement]
    exact h
  | giveBack ok stored q n front stored' rest hpc hq =>
    unfold giveBack
    dsimp only
    rw [h.decrement]
    exact h
  | exitWakelocks n late dt dt' hpc hrun => exact h.reset
  | timeOut n late dt dt' hpc hrun hcount htime => exact h.reset
  | acknowledge n late dt dt' timeLeft hpc =>
    unfold System.acknowledge
    dsimp only
    rw [h.decrement]
    exact h
  | initStage dt stage args hstage henabled =>
    cases stage with
    | resetSharedWakelock => exact h.reset
    | disableAllSensors =>
      show SharedWakelock.Unclaimed (s.proxy.disableAllSensors).wakelock
      rw [(HalProxy.sameQueues_disableAllSensors s.proxy).wakelock]
      exact h
    | _ => exact h
  | createScopedWakelock | goOn | processEvents | postEvents | perform | initializeCommon =>
    exact nomatch ha
  | _ => exact h

/-! ### The other fields -/

/-- The fields that the stages taken so far have reset, the wakelock apart. -/
structure Cleared (s : System) : Prop where
  queue : Past .clearPendingQueue s → s.proxy.pendingWrites.mPendingWriteEventsQueue = []
  size : Past .clearPendingSize s → s.proxy.pendingWrites.mSizePendingWriteEventsQueue = 0
  dynamicSensors : Past .clearDynamicSensors s → s.proxy.mDynamicSensors = ∅
  mode : Past .setOperationMode s → s.proxy.mCurrentOperationMode = .normal

/-- A step that leaves the stage and the fields alone. -/
theorem Cleared.of_same (h : Cleared s) (hstage : t.initializing = s.initializing)
    (hpending : t.proxy.pendingWrites = s.proxy.pendingWrites)
    (hdynamic : t.proxy.mDynamicSensors = s.proxy.mDynamicSensors)
    (hmode : t.proxy.mCurrentOperationMode = s.proxy.mCurrentOperationMode) : Cleared t := by
  have hpast : ∀ {stage}, Past stage t → Past stage s := fun hpast next args hnext =>
    hpast next args (hstage.trans hnext)
  constructor
  · rw [hpending]
    exact fun hp => h.queue (hpast hp)
  · rw [hpending]
    exact fun hp => h.size (hpast hp)
  · rw [hdynamic]
    exact fun hp => h.dynamicSensors (hpast hp)
  · rw [hmode]
    exact fun hp => h.mode (hpast hp)

/-- A stage leaves the fields alone that it does not reset. -/
theorem resetFields_initStage (p : HalProxy ε) (args : HalProxy.InitializeArgs) (now : ℤ)
    (stage : HalProxy.InitStage) :
    (stage ≠ .clearPendingQueue →
        (p.initStage args now stage).pendingWrites.mPendingWriteEventsQueue
          = p.pendingWrites.mPendingWriteEventsQueue)
      ∧ (stage ≠ .clearPendingSize →
        (p.initStage args now stage).pendingWrites.mSizePendingWriteEventsQueue
          = p.pendingWrites.mSizePendingWriteEventsQueue)
      ∧ (stage ≠ .clearDynamicSensors →
        (p.initStage args now stage).mDynamicSensors = p.mDynamicSensors)
      ∧ (stage ≠ .setOperationMode →
        (p.initStage args now stage).mCurrentOperationMode = p.mCurrentOperationMode) := by
  cases stage with
  | disableAllSensors =>
    obtain ⟨subHals, heq⟩ := p.disableAllSensors_eq
    rw [HalProxy.initStage, heq]
    exact ⟨fun _ => rfl, fun _ => rfl, fun _ => rfl, fun _ => rfl⟩
  | clearPendingQueue => exact ⟨fun h => absurd rfl h, fun _ => rfl, fun _ => rfl, fun _ => rfl⟩
  | clearPendingSize => exact ⟨fun _ => rfl, fun h => absurd rfl h, fun _ => rfl, fun _ => rfl⟩
  | clearDynamicSensors => exact ⟨fun _ => rfl, fun _ => rfl, fun h => absurd rfl h, fun _ => rfl⟩
  | setOperationMode => exact ⟨fun _ => rfl, fun _ => rfl, fun _ => rfl, fun h => absurd rfl h⟩
  | _ => exact ⟨fun _ => rfl, fun _ => rfl, fun _ => rfl, fun _ => rfl⟩

theorem Cleared.afterStage (h : Cleared s) {stage : HalProxy.InitStage} (now : ℕ)
    (hstage : s.initializing = some (stage, args)) : Cleared (s.afterStage stage args now) := by
  obtain ⟨hqueue, hsize, hdynamic, hmode⟩ := resetFields_initStage s.proxy args now stage
  constructor
  · exact Past.field (fun p => p.pendingWrites.mPendingWriteEventsQueue) [] hstage rfl hqueue
      h.queue
  · exact Past.field (fun p => p.pendingWrites.mSizePendingWriteEventsQueue) 0 hstage rfl hsize
      h.size
  · exact Past.field (fun p => p.mDynamicSensors) ∅ hstage rfl hdynamic h.dynamicSensors
  · exact Past.field (fun p => p.mCurrentOperationMode) .normal hstage rfl hmode h.mode

/-- Quiet steps keep what is reset. -/
theorem Cleared.step (h : Cleared s) (ha : quiet a = true) (hstep : System.step c s a = some t) :
    Cleared t := by
  cases step_cases hstep with
  | finishWrite ok q n hpc =>
    -- Nothing is taken off a queue that was replaced.
    have hkept : Past .clearPendingQueue s →
        s.proxy.pendingWrites.finishWrite q n = s.proxy.pendingWrites := by
      intro hpast
      rw [PendingWrites.finishWrite, h.queue hpast]
    refine ⟨fun hpast => ?_, fun hpast => ?_, h.dynamicSensors, h.mode⟩
    · show (s.proxy.pendingWrites.finishWrite q n).mPendingWriteEventsQueue = []
      rw [hkept hpast]
      exact h.queue hpast
    · show (s.proxy.pendingWrites.finishWrite q n).mSizePendingWriteEventsQueue = 0
      rw [hkept (Past.clearPendingQueue hpast)]
      exact h.size hpast
  | initStage dt stage args hstage henabled => exact h.afterStage _ hstage
  | createScopedWakelock | goOn | processEvents | postEvents | perform | initializeCommon =>
    exact nomatch ha
  | _ => exact h.of_same rfl rfl rfl rfl

/-- **A quiet initialization** resets the fields, if the wakelock is unclaimed before. -/
theorem Initializes.resetFields (h : Initializes c s args t) (hs : s.proxy.wakelock.Unclaimed) :
    t.proxy.resetFields = .initial := by
  obtain ⟨as, dt, hquiet, hrun, hreturned⟩ := h
  obtain ⟨u, hbegin, hrun⟩ := Option.bind_eq_some_iff.mp hrun
  change System.step c s (.initializeCommon args) = some u at hbegin
  have hquiet' : ∀ a ∈ as ++ [.initStage dt], quiet a = true := by
    intro a ha
    rcases List.mem_append.mp ha with ha | ha
    · exact hquiet a ha
    · rw [List.mem_singleton.mp ha]
      rfl
  have hstart : u.proxy.wakelock.Unclaimed ∧ Cleared u := by
    cases step_cases hbegin with
    | initializeCommon args hidle =>
      have hnone : ∀ {stage}, ¬Past stage { s with
          proxy.mThreadsRun := false
          initializing := some (.joinThreads, args)
          history := { s.history with session := s.history.session + 1 } } :=
        fun hpast => absurd (hpast _ _ rfl) (Nat.not_lt_zero _)
      exact ⟨hs, fun hp => absurd hp hnone, fun hp => absurd hp hnone,
        fun hp => absurd hp hnone, fun hp => absurd hp hnone⟩
  have hend : t.proxy.wakelock.Unclaimed ∧ Cleared t :=
    Machine.invariant (I := fun s : System => s.proxy.wakelock.Unclaimed ∧ Cleared s)
      (fun s a t hs ha hstep => ⟨unclaimed_step hs.1 ha hstep, hs.2.step ha hstep⟩) hstart
      (Machine.meets_of_forall (c := fun a => quiet a = true) hquiet')
      (Machine.visits_of_run _ hrun)
  have hpast : ∀ {stage}, Past stage t := fun next args hnext => nomatch hreturned.symm.trans hnext
  obtain ⟨hunclaimed, hcleared⟩ := hend
  rw [HalProxy.resetFields, hcleared.queue hpast, hcleared.size hpast,
    hcleared.dynamicSensors hpast, hcleared.mode hpast, hunclaimed.count, hunclaimed.held]
  rfl

/-! ### Draining the worker threads -/

/-- A quiet run that keeps the claims, the stage and `mThreadsRun`. -/
structure Drains (c : Constants) (s t : System) : Prop where
  run : ∃ as, (∀ a ∈ as, quiet a = true) ∧ (machine c).run s as = some t
  mThreadsRun : t.proxy.mThreadsRun = s.proxy.mThreadsRun
  initializing : t.initializing = s.initializing
  count : t.proxy.wakelock.mWakelockRefCount = s.proxy.wakelock.mWakelockRefCount
  held : t.proxy.wakelock.held = s.proxy.wakelock.held

theorem Drains.refl (c : Constants) (s : System) : Drains c s s :=
  ⟨⟨[], (fun _ ha => nomatch ha), rfl⟩, rfl, rfl, rfl, rfl⟩

theorem Drains.trans (h : Drains c s t) (h' : Drains c t u) : Drains c s u where
  run := by
    obtain ⟨as, hquiet, hrun⟩ := h.run
    obtain ⟨bs, hquiet', hrun'⟩ := h'.run
    refine ⟨as ++ bs, fun a ha => ?_, ?_⟩
    · exact (List.mem_append.mp ha).elim (hquiet a) (hquiet' a)
    · rw [Machine.run_append, hrun]
      exact hrun'
  mThreadsRun := h'.mThreadsRun.trans h.mThreadsRun
  initializing := h'.initializing.trans h.initializing
  count := h'.count.trans h.count
  held := h'.held.trans h.held

theorem Drains.of_step (ha : quiet a = true) (hstep : step c s a = some t)
    (hrun : t.proxy.mThreadsRun = s.proxy.mThreadsRun)
    (hstage : t.initializing = s.initializing)
    (hcount : t.proxy.wakelock.mWakelockRefCount = s.proxy.wakelock.mWakelockRefCount)
    (hheld : t.proxy.wakelock.held = s.proxy.wakelock.held) : Drains c s t where
  run := by
    refine ⟨[a], fun b hb => List.mem_singleton.mp hb ▸ ha, ?_⟩
    rw [Machine.run_cons, machine_step, hstep]
    rfl
  mThreadsRun := hrun
  initializing := hstage
  count := hcount
  held := hheld

/-- The pending-writes thread ends, and the wakelock thread stands still. -/
def WriterStops (c : Constants) (s : System) : Prop :=
  ∃ t, Drains c s t ∧ t.writer = .stopped ∧ t.wakelockThread = s.wakelockThread

/-- One more step before. -/
theorem WriterStops.of_step (h : WriterStops c t) {ok : Bool}
    (hstep : step c s (.handlePendingWrites ok) = some t)
    (hproxy : t.proxy.mThreadsRun = s.proxy.mThreadsRun ∧ t.proxy.wakelock = s.proxy.wakelock)
    (hstage : t.initializing = s.initializing) (hthread : t.wakelockThread = s.wakelockThread) :
    WriterStops c s := by
  obtain ⟨u, hdrains, hstopped, hsame⟩ := h
  have hone : Drains c s t :=
    .of_step rfl hstep hproxy.1 hstage (by rw [hproxy.2]) (by rw [hproxy.2])
  exact ⟨u, hone.trans hdrains, hstopped, hsame.trans hthread⟩

theorem writerStops_of_woken (hrun : s.proxy.mThreadsRun = false) (hpc : s.writer = .woken) :
    WriterStops c s := by
  have hstep : step c s (.handlePendingWrites true) = some { s with writer := .stopped } := by
    simp [step, handlePendingWrites, hpc, hrun]
  refine WriterStops.of_step ⟨_, .refl c _, ?_, rfl⟩ hstep ⟨rfl, rfl⟩ rfl rfl
  rfl

theorem writerStops_of_waiting (hrun : s.proxy.mThreadsRun = false) (hpc : s.writer = .waiting) :
    WriterStops c s := by
  have hstep : step c s (.handlePendingWrites true) = some { s with writer := .woken } := by
    simp [step, handlePendingWrites, hpc, hrun]
  refine WriterStops.of_step (writerStops_of_woken ?_ rfl) hstep ⟨rfl, rfl⟩ rfl rfl
  exact hrun

theorem writerStops_of_relocking (hrun : s.proxy.mThreadsRun = false) {q n : ℕ}
    (hpc : s.writer = .relocking q n) : WriterStops c s := by
  have hstep : step c s (.handlePendingWrites true)
      = some { s with
          proxy.pendingWrites := s.proxy.pendingWrites.finishWrite q n
          writer := .waiting } := by
    rw [step, handlePendingWrites, hpc]
  refine WriterStops.of_step (writerStops_of_waiting ?_ rfl) hstep ⟨rfl, rfl⟩ rfl rfl
  exact hrun

/-- **The pending-writes thread ends** once `mThreadsRun` is cleared, wherever it is. -/
theorem writerStops (h : Coherent s) (hrun : s.proxy.mThreadsRun = false) : WriterStops c s := by
  cases hpc : s.writer with
  | stopped => exact ⟨s, .refl c s, hpc, rfl⟩
  | waiting => exact writerStops_of_waiting hrun hpc
  | woken => exact writerStops_of_woken hrun hpc
  | relocking q n => exact writerStops_of_relocking hrun hpc
  | writing stored q n =>
    have hstep : step c s (.handlePendingWrites true) = some (s.writeChunk q n) := by
      rw [step, handlePendingWrites, hpc]
      rfl
    refine WriterStops.of_step (writerStops_of_relocking ?_ rfl) hstep ⟨rfl, rfl⟩ rfl rfl
    exact hrun
  | failed stored q n =>
    obtain ⟨front, stored', rest, hq, -⟩ := h.inHand hpc
    have hstep : step c s (.handlePendingWrites true) = some (s.giveBack front stored q n) := by
      rw [step, handlePendingWrites, hpc, hq]
      rfl
    have hwakelock : (s.giveBack front stored q n).proxy.wakelock = s.proxy.wakelock := by
      unfold giveBack
      dsimp only
      rw [hrun, SharedWakelock.decrement_stopped]
    refine WriterStops.of_step (writerStops_of_relocking ?_ rfl) hstep ⟨rfl, hwakelock⟩ rfl rfl
    exact hrun

/-- **The wakelock thread ends**, too. -/
theorem wakelockThreadStops (hrun : s.proxy.mThreadsRun = false) :
    ∃ t, Drains c s t ∧ t.writer = s.writer ∧ t.wakelockThread = .stopped := by
  have hexit : ∀ u : System, u.proxy.mThreadsRun = false → u.wakelockThread = .waiting →
      Drains c u (u.exitWakelocks u.clock) := by
    intro u hrun hpc
    refine .of_step (a := .handleWakelocks none 0 0 0) rfl ?_ rfl rfl ?_ ?_
    · simp [step, handleWakelocks, hpc, hrun]
    · show (SharedWakelock.resetSharedWakelock _ _ _).mWakelockRefCount = _
      rw [hrun, SharedWakelock.reset_stopped]
    · show (SharedWakelock.resetSharedWakelock _ _ _).held = _
      rw [hrun, SharedWakelock.reset_stopped]
  cases hpc : s.wakelockThread with
  | stopped => exact ⟨s, .refl c s, rfl, hpc⟩
  | waiting => exact ⟨_, hexit s hrun hpc, rfl, rfl⟩
  | reading timeLeft =>
    -- The thread reads the 0 that `stopThreads` has written.
    have hstep : step c s (.handleWakelocks (some 0) 0 0 0) = some (s.acknowledge 0 0) := by
      rw [step, handleWakelocks, hpc]
    have hwakelock : (s.acknowledge 0 0).proxy.wakelock = s.proxy.wakelock := by
      unfold acknowledge
      dsimp only
      rw [hrun, SharedWakelock.decrement_stopped]
    have hone : Drains c s (s.acknowledge 0 0) :=
      .of_step rfl hstep rfl rfl (congrArg SharedWakelock.mWakelockRefCount hwakelock)
        (congrArg SharedWakelock.held hwakelock)
    exact ⟨_, hone.trans (hexit _ hrun rfl), rfl, rfl⟩

/-- **Both threads end.** -/
theorem threadsStop (h : Coherent s) (hrun : s.proxy.mThreadsRun = false) :
    ∃ t, Drains c s t ∧ t.writer = .stopped ∧ t.wakelockThread = .stopped := by
  obtain ⟨t, hdrains, hwriter, -⟩ := writerStops (c := c) h hrun
  obtain ⟨u, hdrains', hsame, hthread⟩ :=
    wakelockThreadStops (c := c) (hdrains.mThreadsRun.trans hrun)
  exact ⟨u, hdrains.trans hdrains', hsame.trans hwriter, hthread⟩

/-! ### The claims survive -/

/-- No stage touches the claims: `mThreadsRun` is not set at the reset. -/
theorem claims_afterStage (h : Coherent s) {stage : HalProxy.InitStage} (now : ℕ)
    (hstage : s.initializing = some (stage, args)) :
    (s.afterStage stage args now).proxy.wakelock.mWakelockRefCount
        = s.proxy.wakelock.mWakelockRefCount
      ∧ (s.afterStage stage args now).proxy.wakelock.held = s.proxy.wakelock.held := by
  cases stage with
  | resetSharedWakelock =>
    have hrun : s.proxy.mThreadsRun = false := h.cleared _ _ hstage rfl
    show (SharedWakelock.resetSharedWakelock _ _ _).mWakelockRefCount = _
      ∧ (SharedWakelock.resetSharedWakelock _ _ _).held = _
    rw [hrun, SharedWakelock.reset_stopped]
    exact ⟨rfl, rfl⟩
  | disableAllSensors =>
    have hwakelock := (HalProxy.sameQueues_disableAllSensors s.proxy).wakelock
    exact ⟨congrArg _ hwakelock, congrArg _ hwakelock⟩
  | _ => exact ⟨rfl, rfl⟩

/-- The stages alone. -/
theorem claims_of_stages (h : Coherent s) {as : List Action}
    (has : ∀ a ∈ as, ∃ dt, a = .initStage dt) (hrun : (machine c).run s as = some t) :
    t.proxy.wakelock.mWakelockRefCount = s.proxy.wakelock.mWakelockRefCount
      ∧ t.proxy.wakelock.held = s.proxy.wakelock.held := by
  have hinv := Machine.invariant (M := machine c)
    (c := fun _ a => ∃ dt, a = Action.initStage dt)
    (I := fun u => Coherent u
      ∧ u.proxy.wakelock.mWakelockRefCount = s.proxy.wakelock.mWakelockRefCount
      ∧ u.proxy.wakelock.held = s.proxy.wakelock.held)
    ?_ ⟨h, rfl, rfl⟩ (Machine.meets_of_forall has) (Machine.visits_of_run _ hrun)
  · exact hinv.2
  · rintro u a v ⟨hcoh, hcount, hheld⟩ ⟨dt, rfl⟩ hstep
    change step c u (.initStage dt) = some v at hstep
    refine ⟨hcoh.step hstep, ?_⟩
    cases step_cases hstep with
    | initStage dt stage args hstage henabled =>
      obtain ⟨hcount', hheld'⟩ := claims_afterStage hcoh (u.clock + dt) hstage
      exact ⟨hcount'.trans hcount, hheld'.trans hheld⟩

/-- What an initialization that nothing interrupts leaves behind. -/
structure Restarted (args : HalProxy.InitializeArgs) (s t : System) : Prop where
  initializing : t.initializing = none
  mThreadsRun : t.proxy.mThreadsRun = true
  writer : t.writer = .waiting
  queue : t.proxy.pendingWrites.mPendingWriteEventsQueue = []
  mEventQueueFlag : t.proxy.mEventQueueFlag = args.eventFlagCreated
  posts : t.posts = s.posts

/-- With both threads joined, the stages can be taken one after the other. -/
theorem run_stages (hwriter : s.writer = .stopped) (hthread : s.wakelockThread = .stopped)
    (hstage : s.initializing = some (.joinThreads, args)) :
    ∃ t, (machine c).run s (List.replicate 13 (.initStage 0)) = some t ∧ Restarted args s t := by
  obtain ⟨proxy, writer, wakelockThread, posts, scopedWakelocks, clock, initializing, history⟩ := s
  subst hwriter hthread hstage
  exact ⟨_, rfl, rfl, rfl, rfl, rfl, rfl, rfl⟩

/-- **The claims can survive** every initialization. -/
theorem exists_initializes (h : Coherent s) (hidle : s.initializing = none)
    (args : HalProxy.InitializeArgs) :
    ∃ t, Initializes c s args t
      ∧ t.proxy.wakelock.mWakelockRefCount = s.proxy.wakelock.mWakelockRefCount
      ∧ t.proxy.wakelock.held = s.proxy.wakelock.held := by
  -- `stopThreads` clears `mThreadsRun`, both threads end, and the stages follow.
  set begun : System := { s with
    proxy.mThreadsRun := false
    initializing := some (.joinThreads, args)
    history := { s.history with session := s.history.session + 1 } } with hbegun
  have hbegin : step c s (.initializeCommon args) = some begun := by
    simp [step, initializeCommon, hidle, hbegun]
  have hcoh : Coherent begun := h.step hbegin
  obtain ⟨joined, hdrains, hwriter, hthread⟩ := threadsStop (c := c) hcoh rfl
  obtain ⟨as, hquiet, hrun⟩ := hdrains.run
  have hcoh' : Coherent joined := Machine.invariant_of_step (M := machine c)
    (fun _ _ _ hs hstep => hs.step hstep) hcoh (Machine.visits_of_run _ hrun)
  obtain ⟨t, hstages, hrestarted⟩ := run_stages (c := c) hwriter hthread hdrains.initializing
  obtain ⟨hcount, hheld⟩ := claims_of_stages hcoh'
    (fun a ha => ⟨0, List.eq_of_mem_replicate ha⟩) hstages
  refine ⟨t, ⟨as ++ List.replicate 12 (.initStage 0), 0, fun a ha => ?_, ?_,
    hrestarted.initializing⟩, hcount.trans hdrains.count, hheld.trans hdrains.held⟩
  · rcases List.mem_append.mp ha with hdrain | hinit
    · exact hquiet a hdrain
    · rw [List.eq_of_mem_replicate hinit]
      rfl
  · have hthirteen : List.replicate 12 (Action.initStage 0) ++ [.initStage 0]
        = List.replicate 13 (.initStage 0) := rfl
    rw [Machine.run_cons, machine_step, hbegin, Option.bind_some, List.append_assoc, hthirteen,
      Machine.run_append, hrun]
    exact hstages

/-- **When an initialization is a full reset.**  In every state of every run in which none is under
way: whatever a quiet initialization does, it resets all fields, as it does for a freshly
constructed proxy, if and only if no claim is counted and the OS wakelock is not held. -/
theorem reset_iff (c : Constants) (subHalList : List SubHalWrapper) {as : List Action}
    (hv : (machine c).Visits (start subHalList) as s) (hidle : s.initializing = none)
    (args : HalProxy.InitializeArgs) :
    (∀ t, Initializes c s args t → t.proxy.resetFields = .initial
        ∧ ∀ u, Initializes c (start subHalList) args u →
          t.proxy.resetFields = u.proxy.resetFields)
      ↔ s.proxy.wakelock.mWakelockRefCount = 0 ∧ s.proxy.wakelock.held = false := by
  constructor
  · intro hall
    obtain ⟨t, ht, hcount, hheld⟩ := exists_initializes (coherent_of_visits hv) hidle args
    have hreset := (hall t ht).1
    rw [← hcount, ← hheld]
    exact ⟨congrArg ResetFields.mWakelockRefCount hreset, congrArg ResetFields.held hreset⟩
  · rintro ⟨hcount, hheld⟩ t ht
    have hreset := ht.resetFields ⟨hcount, hheld⟩
    exact ⟨hreset, fun u hu => hreset.trans (hu.resetFields ⟨rfl, rfl⟩).symm⟩

/-- In the first session a dynamic sensor is connected, the mode is switched, and an event is left
pending. -/
def busySession : List Action :=
  initialization sampleArgs ++
    [.perform (.onDynamicSensorsConnected [⟨7, .other 1, "", 0⟩] 0),
      .perform (.setOperationMode .dataInjection), .testThreadsRunning 0 [quietEvent] none,
      .processEvents 0, .postEventsToMessageQueue 0 0 true 0]

theorem reset_iff_busySession :
    ∃ s, (machine sampleConstants).Visits (start [pickUpSubHal]) busySession s
      ∧ s.proxy.pendingWrites.mPendingWriteEventsQueue.length = 1
      ∧ s.proxy.mDynamicSensors.size = 1 ∧ s.proxy.mCurrentOperationMode = .dataInjection
      ∧ ∀ t, Initializes sampleConstants s sampleArgs t → t.proxy.resetFields = .initial := by
  obtain ⟨s, hvisits, hs⟩ := (machine sampleConstants).exists_visits (start [pickUpSubHal])
    busySession (fun s => (s.proxy.pendingWrites.mPendingWriteEventsQueue.length,
      s.proxy.mDynamicSensors.size, s.proxy.mCurrentOperationMode, s.initializing.isNone,
      s.proxy.wakelock.mWakelockRefCount, s.proxy.wakelock.held))
    (1, 1, .dataInjection, true, 0, false) (by decide)
  simp only [Prod.mk.injEq, Option.isNone_iff_eq_none] at hs
  obtain ⟨hqueue, hdynamic, hmode, hidle, hcount, hheld⟩ := hs
  refine ⟨s, hvisits, hqueue, hdynamic, hmode, fun t ht => ?_⟩
  exact ((reset_iff sampleConstants [pickUpSubHal] hvisits hidle sampleArgs).mpr
    ⟨hcount, hheld⟩ t ht).1

/-- In the first session a sub-HAL takes a wakelock. -/
def wakelockTaken : List Action := initialization sampleArgs ++ [.createScopedWakelock 1]

/-- Its claim survives the next initialization. -/
theorem exists_survivor :
    ¬∀ s t, (machine sampleConstants).Visits (start [pickUpSubHal]) wakelockTaken s →
      s.initializing = none → Initializes sampleConstants s sampleArgs t →
      t.proxy.resetFields = .initial := by
  intro hall
  obtain ⟨s, hvisits, hs⟩ := (machine sampleConstants).exists_visits (start [pickUpSubHal])
    wakelockTaken (fun s => (s.initializing.isNone, s.proxy.wakelock.mWakelockRefCount)) (true, 1)
    (by decide)
  simp only [Prod.mk.injEq, Option.isNone_iff_eq_none] at hs
  obtain ⟨hidle, hcount⟩ := hs
  obtain ⟨t, ht, hsurvives, -⟩ := exists_initializes (coherent_of_visits hvisits) hidle sampleArgs
  have hreset : t.proxy.wakelock.mWakelockRefCount = 0 :=
    congrArg ResetFields.mWakelockRefCount (hall s t hvisits hidle ht)
  omega

end System

end OnePlus9
