import OnePlus9.Sensors.Equiv.ClaimTimes
import OnePlus9.Sensors.Equiv.Session
import OnePlus9.Sensors.Equiv.Stages
import OnePlus9.Sensors.Waits

/-!
# No wake-up for work is lost

`Waits` refines `System`: without the steps inside the waits, its runs are runs of `System`
(`refines`).  The other direction needs that a thread with work to do is not asleep.  A notification
that falls between the test of the predicate and the blocking would be lost, but a batch is queued
and a claim is counted under the mutex that the thread has there (`Alert.step`).

So whenever `System` lets a waiting thread go on because there is work, the steps of that thread
alone bring it there (`responsive_of_run`).
-/

namespace OnePlus9

open ConditionVariable

namespace Waits

variable {c : Constants} {w w' : Waits} {t : System} {a : Action} {steps : List ThreadStep}

/-! ### Refinement -/

/-- The step of `System` that a step is, if any. -/
def ThreadStep.erase : ThreadStep → Option Action
  | .system a => some a
  | _ => none

/-- Outside of the waits, a step is one of `System`. -/
theorem step_system (hstep : step c w (.system a) = some w') :
    w.allows a = true ∧ ∃ t, System.step c w.system a = some t
      ∧ w' = ⟨t, w.writerAfter c t a, w.wakelockThreadAfter t a⟩ := by
  rw [step] at hstep
  split_ifs at hstep with hallows
  obtain ⟨t, ht, rfl⟩ := Option.map_eq_some_iff.mp hstep
  exact ⟨hallows, t, ht, rfl⟩

theorem step_waitForWrites (hstep : step c w .waitForWrites = some w') :
    w.system.writer = .waiting
      ∧ ∃ pc, w.writer.step (hasWrites w.system) = some pc ∧ w' = { w with writer := pc } := by
  rw [step] at hstep
  split_ifs at hstep with hwaiting
  obtain ⟨pc, hpc, rfl⟩ := Option.map_eq_some_iff.mp hstep
  exact ⟨hwaiting, pc, hpc, rfl⟩

theorem step_waitForClaims (hstep : step c w .waitForClaims = some w') :
    w.system.wakelockThread = .waiting
      ∧ ∃ pc, w.wakelockThread.step (hasClaims w.system) = some pc
        ∧ w' = { w with wakelockThread := pc } := by
  rw [step] at hstep
  split_ifs at hstep with hwaiting
  obtain ⟨pc, hpc, rfl⟩ := Option.map_eq_some_iff.mp hstep
  exact ⟨hwaiting, pc, hpc, rfl⟩

/-- **`Waits` refines `System`.** -/
theorem refines (c : Constants) :
    (machine c).Refines (System.machine c) Waits.system ThreadStep.erase := by
  intro w b w' hstep
  cases b with
  | system a =>
    obtain ⟨-, t, ht, rfl⟩ := step_system hstep
    exact ht
  | waitForWrites =>
    obtain ⟨-, pc, -, rfl⟩ := step_waitForWrites (c := c) hstep
    rfl
  | waitForClaims =>
    obtain ⟨-, pc, -, rfl⟩ := step_waitForClaims (c := c) hstep
    rfl
  | notifyEventQueueWriteCV | notifyWakelockCV =>
    obtain rfl := Option.some.inj hstep
    rfl

/-! ### Awake while there is work -/

/-- A thread that waits while there is work does not depend on a notification to come. -/
structure Alert (w : Waits) : Prop where
  writer : w.system.writer = .waiting →
    w.system.proxy.pendingWrites.mPendingWriteEventsQueue ≠ [] → w.writer.Awake
  wakelockThread : w.system.wakelockThread = .waiting →
    0 < w.system.proxy.wakelock.mWakelockRefCount → w.wakelockThread.Awake

theorem awake_test : WaitPc.test.Awake := by decide

theorem awake_notified : WaitPc.notified.Awake := by decide

theorem alert_start (subHalList : List SubHalWrapper) : Alert (start subHalList) where
  writer := fun _ _ => awake_test
  wakelockThread := fun _ _ => awake_test

/-! #### The pending-writes thread -/

/-- A step that leaves the pending-writes thread in its wait has just brought it there, or finds it
there and notifies it or not. -/
theorem writerAfter_cases (hstep : System.step c w.system a = some t)
    (hwait : t.writer = .waiting) :
    (w.writerAfter c t a).Awake
      ∨ w.system.writer = .waiting
        ∧ w.writerAfter c t a
          = if notifiesWriter c w.system a then w.writer.notify else w.writer := by
  cases System.step_cases hstep with
  | wake | exitWriter | select | writeChunk | dropChunk | giveBack | finishWrite =>
    exact .inl awake_test
  | initStage dt stage args hstage henabled =>
    rw [writerAfter]
    by_cases hwaiting : w.system.writer = .waiting
    · rw [if_neg fun h => h.1 hwaiting]
      exact .inr ⟨hwaiting, rfl⟩
    · rw [if_pos ⟨hwaiting, hwait⟩]
      exact .inl awake_notified
  | _ => exact .inr ⟨hwait, rfl⟩

/-- Who makes the queue of pending writes non-empty notifies, and has the mutex. -/
theorem notifiesWriter_of_queue (hstep : System.step c w.system a = some t)
    (hbefore : w.system.proxy.pendingWrites.mPendingWriteEventsQueue = [])
    (hafter : t.proxy.pendingWrites.mPendingWriteEventsQueue ≠ []) :
    notifiesWriter c w.system a = true ∧ takesEventQueueWriteMutex a = true := by
  cases System.step_cases hstep with
  | postEvents k avail ok dt post events n hk hpc hfree =>
    refine ⟨?_, rfl⟩
    have hnotifies : notifiesWriter c w.system (.postEventsToMessageQueue k avail ok dt)
        = w.system.proxy.pendingWrites.queuesLeft c.kMaxSizePendingWriteEventsQueue events.length
          (w.system.proxy.pendingWrites.numToWrite events.length avail ok) := by
      rw [notifiesWriter, hk, Option.any_some, hpc]
    have hlength : (w.system.stamp post events).length = events.length := List.length_mapIdx
    rw [hnotifies]
    -- What is not queued leaves the queue as it was.
    by_contra hkept
    refine hafter ?_
    show (PendingWrites.pushLeft _ _ _ _ _).mPendingWriteEventsQueue = []
    rw [PendingWrites.pushLeft, hlength, if_neg hkept, hbefore]
  | perform request =>
    have hsame := (HalProxy.sameQueues_perform w.system.proxy request).pendingWrites
    refine absurd ?_ hafter
    show (w.system.proxy.perform request).pendingWrites.mPendingWriteEventsQueue = []
    rw [hsame, hbefore]
  | finishWrite ok q n hpc =>
    refine absurd ?_ hafter
    show (w.system.proxy.pendingWrites.finishWrite q n).mPendingWriteEventsQueue = []
    rw [PendingWrites.finishWrite, hbefore]
    exact hbefore
  | initStage dt stage args hstage henabled =>
    refine absurd ?_ hafter
    show (w.system.proxy.initStage args _ stage).pendingWrites.mPendingWriteEventsQueue = []
    by_cases hclear : stage = .clearPendingQueue
    · subst hclear
      rfl
    · rw [System.queue_initStage _ _ _ hclear, hbefore]
  | _ => exact absurd hbefore hafter

theorem Alert.writer_step (h : Alert w) (hallows : w.allows a = true)
    (hstep : System.step c w.system a = some t) (hwait : t.writer = .waiting)
    (hqueue : t.proxy.pendingWrites.mPendingWriteEventsQueue ≠ []) :
    (w.writerAfter c t a).Awake := by
  rcases writerAfter_cases hstep hwait with hawake | ⟨hwaiting, hafter⟩
  · exact hawake
  · rw [hafter]
    apply WaitPc.awake_of_notifies
    by_cases hempty : w.system.proxy.pendingWrites.mPendingWriteEventsQueue = []
    · obtain ⟨hnotifies, htakes⟩ := notifiesWriter_of_queue hstep hempty hqueue
      refine Or.inr ⟨hnotifies, ?_⟩
      by_contra hmutex
      simp [allows, htakes, writerHasMutex, hwaiting, hmutex] at hallows
    · exact Or.inl (h.writer hwaiting hempty)

/-! #### The wakelock thread -/

theorem wakelockThreadAfter_cases (hstep : System.step c w.system a = some t)
    (hwait : t.wakelockThread = .waiting) :
    (w.wakelockThreadAfter t a).Awake
      ∨ w.system.wakelockThread = .waiting
        ∧ w.wakelockThreadAfter t a
          = if notifiesWakelockThread w.system a then w.wakelockThread.notify
            else w.wakelockThread := by
  cases System.step_cases hstep with
  | exitWakelocks | timeOut | startRead | readNothing | acknowledge => exact .inl awake_test
  | initStage dt stage args hstage henabled =>
    rw [wakelockThreadAfter]
    by_cases hwaiting : w.system.wakelockThread = .waiting
    · rw [if_neg fun h => h.1 hwaiting]
      exact .inr ⟨hwaiting, rfl⟩
    · rw [if_pos ⟨hwaiting, hwait⟩]
      exact .inl awake_notified
  | _ => exact .inr ⟨hwait, rfl⟩

/-- The first claim notifies, with the mutex. -/
theorem notifiesWakelockThread_of_count (hstep : System.step c w.system a = some t)
    (hbefore : w.system.proxy.wakelock.mWakelockRefCount = 0)
    (hafter : 0 < t.proxy.wakelock.mWakelockRefCount) :
    notifiesWakelockThread w.system a = true ∧ takesWakelockMutex w.system a = true := by
  rcases System.claimTimes_step hstep with ⟨now, hclaims, -, -⟩ | ⟨-, -, hcount⟩
  · cases a with
    | createScopedWakelock dt =>
      rw [System.claimTimes] at hclaims
      split_ifs at hclaims with hrun
      exact ⟨by rw [notifiesWakelockThread, hrun, hbefore]; rfl, hrun⟩
    | postEventsToMessageQueue k avail ok dt =>
      rw [System.claimTimes] at hclaims
      cases hk : w.system.posts[k]? with
      | none =>
        rw [hk] at hclaims
        exact absurd hclaims (List.cons_ne_nil _ _).symm
      | some post =>
        rw [hk] at hclaims
        dsimp only at hclaims
        split_ifs at hclaims with hclaim
        constructor
        · rw [notifiesWakelockThread, hk, Option.any_some, hclaim.1, hclaim.2, hbefore]
          rfl
        · rw [takesWakelockMutex, hk, Option.any_some, hclaim.1, hclaim.2]
          rfl
    | _ => exact absurd hclaims (List.cons_ne_nil _ _).symm
  · omega

theorem Alert.wakelockThread_step (h : Alert w) (hallows : w.allows a = true)
    (hstep : System.step c w.system a = some t) (hwait : t.wakelockThread = .waiting)
    (hcount : 0 < t.proxy.wakelock.mWakelockRefCount) :
    (w.wakelockThreadAfter t a).Awake := by
  rcases wakelockThreadAfter_cases hstep hwait with hawake | ⟨hwaiting, hafter⟩
  · exact hawake
  · rw [hafter]
    apply WaitPc.awake_of_notifies
    by_cases hzero : w.system.proxy.wakelock.mWakelockRefCount = 0
    · obtain ⟨hnotifies, htakes⟩ := notifiesWakelockThread_of_count hstep hzero hcount
      refine Or.inr ⟨hnotifies, ?_⟩
      by_contra hmutex
      simp [allows, htakes, wakelockThreadHasMutex, hwaiting, hmutex] at hallows
    · exact Or.inl (h.wakelockThread hwaiting (Nat.pos_of_ne_zero hzero))

/-! #### All steps -/

theorem hasWrites_of_queue {s : System}
    (h : s.proxy.pendingWrites.mPendingWriteEventsQueue ≠ []) : hasWrites s = true := by
  rw [hasWrites, List.isEmpty_eq_false_iff.mpr h]
  rfl

theorem hasClaims_of_count {s : System} (h : 0 < s.proxy.wakelock.mWakelockRefCount) :
    hasClaims s = true := by
  rw [hasClaims, decide_eq_true h]
  rfl

/-- **Every step** leaves the threads with work awake. -/
theorem Alert.step {b : ThreadStep} (h : Alert w) (hstep : Waits.step c w b = some w') :
    Alert w' := by
  cases b with
  | system a =>
    obtain ⟨hallows, t, ht, rfl⟩ := step_system hstep
    exact ⟨h.writer_step hallows ht, h.wakelockThread_step hallows ht⟩
  | waitForWrites =>
    obtain ⟨-, pc, hpc, rfl⟩ := step_waitForWrites hstep
    refine ⟨fun hwait hqueue => ?_, h.wakelockThread⟩
    rw [hasWrites_of_queue hqueue] at hpc
    exact ((h.writer hwait hqueue).step hpc).1
  | waitForClaims =>
    obtain ⟨-, pc, hpc, rfl⟩ := step_waitForClaims hstep
    refine ⟨h.writer, fun hwait hcount => ?_⟩
    rw [hasClaims_of_count hcount] at hpc
    exact ((h.wakelockThread hwait hcount).step hpc).1
  | notifyEventQueueWriteCV =>
    obtain rfl := Option.some.inj hstep
    exact ⟨fun hwait hqueue => (h.writer hwait hqueue).notify, h.wakelockThread⟩
  | notifyWakelockCV =>
    obtain rfl := Option.some.inj hstep
    exact ⟨h.writer, fun hwait hcount => (h.wakelockThread hwait hcount).notify⟩

/-! ### Getting to work -/

/-- A step of the pending-writes thread. -/
def ofWriter : ThreadStep → Bool
  | .system (.handlePendingWrites _) | .waitForWrites => true
  | _ => false

/-- A step of the wakelock thread. -/
def ofWakelockThread : ThreadStep → Bool
  | .system (.handleWakelocks ..) | .waitForClaims => true
  | _ => false

/-- A waiting thread with work to do gets by its own steps to every step that it can take in
`System`. -/
structure Responsive (c : Constants) (w : Waits) : Prop where
  writer : w.system.writer = .waiting →
    w.system.proxy.pendingWrites.mPendingWriteEventsQueue ≠ [] →
    ∀ writeOk t, System.step c w.system (.handlePendingWrites writeOk) = some t →
      ∃ w', ((machine c).restrict ofWriter).Reaches w w' ∧ w'.system = t
  wakelockThread : w.system.wakelockThread = .waiting →
    0 < w.system.proxy.wakelock.mWakelockRefCount →
    ∀ n late dt dt' t, System.step c w.system (.handleWakelocks n late dt dt') = some t →
      ∃ w', ((machine c).restrict ofWakelockThread).Reaches w w' ∧ w'.system = t

/-- An awake pending-writes thread gets through its wait. -/
theorem reaches_writer_passed (hwait : w.system.writer = .waiting)
    (hqueue : w.system.proxy.pendingWrites.mPendingWriteEventsQueue ≠ [])
    (hawake : w.writer.Awake) :
    ((machine c).restrict ofWriter).Reaches w { w with writer := .passed } := by
  apply hawake.reaches_passed (M := (machine c).restrict ofWriter)
    (f := fun pc => { w with writer := pc }) (a := .waitForWrites)
  intro pc pc' hpc
  refine Machine.restrict_step_eq_some.mpr ⟨rfl, ?_⟩
  show Waits.step c { w with writer := pc } .waitForWrites = _
  rw [Waits.step, if_pos hwait, hasWrites_of_queue hqueue, hpc, Option.map_some]

/-- An awake wakelock thread gets through its wait. -/
theorem reaches_wakelockThread_passed (hwait : w.system.wakelockThread = .waiting)
    (hcount : 0 < w.system.proxy.wakelock.mWakelockRefCount) (hawake : w.wakelockThread.Awake) :
    ((machine c).restrict ofWakelockThread).Reaches w { w with wakelockThread := .passed } := by
  apply hawake.reaches_passed (M := (machine c).restrict ofWakelockThread)
    (f := fun pc => { w with wakelockThread := pc }) (a := .waitForClaims)
  intro pc pc' hpc
  refine Machine.restrict_step_eq_some.mpr ⟨rfl, ?_⟩
  show Waits.step c { w with wakelockThread := pc } .waitForClaims = _
  rw [Waits.step, if_pos hwait, hasClaims_of_count hcount, hpc, Option.map_some]

/-- Past its wait, a thread takes its step of `System`. -/
theorem step_of_allows (hallows : w.allows a = true)
    (hstep : System.step c w.system a = some t) :
    ∃ w', (machine c).step w (.system a) = some w' ∧ w'.system = t := by
  refine ⟨⟨t, w.writerAfter c t a, w.wakelockThreadAfter t a⟩, ?_, rfl⟩
  show Waits.step c w (.system a) = _
  rw [Waits.step, if_pos hallows, hstep, Option.map_some]

theorem Alert.responsive (h : Alert w) : Responsive c w where
  writer := fun hwait hqueue writeOk t hstep => by
    have hallows : allows { w with writer := .passed } (.handlePendingWrites writeOk) = true := by
      simp [allows, takesEventQueueWriteMutex, takesWakelockMutex, hwait]
    obtain ⟨w', hw', hsystem⟩ := step_of_allows hallows hstep
    exact ⟨w', (reaches_writer_passed hwait hqueue (h.writer hwait hqueue)).trans
      (.of_step (Machine.restrict_step_eq_some.mpr ⟨rfl, hw'⟩)), hsystem⟩
  wakelockThread := fun hwait hcount n late dt dt' t hstep => by
    have hallows : allows { w with wakelockThread := .passed } (.handleWakelocks n late dt dt')
        = true := by
      simp [allows, takesEventQueueWriteMutex, takesWakelockMutex]
    obtain ⟨w', hw', hsystem⟩ := step_of_allows hallows hstep
    exact ⟨w', (reaches_wakelockThread_passed hwait hcount (h.wakelockThread hwait hcount)).trans
      (.of_step (Machine.restrict_step_eq_some.mpr ⟨rfl, hw'⟩)), hsystem⟩

/-- **No wake-up for work is lost.**  Every run with the waits taken apart is a run of `System`, and
in every state a waiting thread with work to do gets by its own steps to every step that `System`
has for it. -/
theorem responsive_of_run {subHalList : List SubHalWrapper}
    (hrun : (machine c).run (start subHalList) steps = some w) :
    (System.machine c).run (System.start subHalList) (steps.filterMap ThreadStep.erase)
        = some w.system
      ∧ Responsive c w :=
  ⟨(refines c).run hrun,
    (Machine.invariant_of_step (fun _ _ _ h hstep => h.step hstep) (alert_start subHalList)
      ((machine c).visits_of_run hrun)).responsive⟩

/-- The pending-writes thread goes to sleep, and then a batch is posted that has to wait. -/
def postToSleeper : List ThreadStep :=
  (System.initialization System.sampleArgs).map .system
    ++ [.waitForWrites, .waitForWrites, .waitForWrites,
      .system (.testThreadsRunning 0 [⟨3, .other 1, ⟨0, 0, []⟩⟩] none), .system (.processEvents 0),
      .system (.postEventsToMessageQueue 0 0 true 0)]

/-- The thread wakes up. -/
theorem responsive_of_run_postToSleeper :
    ∃ w w',
      (machine System.sampleConstants).run (start [System.pickUpSubHal]) postToSleeper = some w
      ∧ ((machine System.sampleConstants).restrict ofWriter).Reaches w w'
      ∧ w'.system.writer = .woken := by
  obtain ⟨w, hrun, hw⟩ := Option.map_eq_some_iff.mp
    (show ((machine System.sampleConstants).run (start [System.pickUpSubHal]) postToSleeper).map
      (fun w => (w.system.writer,
        w.system.proxy.pendingWrites.mPendingWriteEventsQueue.isEmpty)) = some (.waiting, false)
      by decide)
  obtain ⟨hwait, hpending⟩ := Prod.mk.inj hw
  have hqueue := List.isEmpty_eq_false_iff.mp hpending
  have hstep : System.step System.sampleConstants w.system (.handlePendingWrites true)
      = some { w.system with writer := .woken } := by
    rw [System.step, System.handlePendingWrites.eq_def, hwait]
    dsimp only
    rw [hpending]
    rfl
  obtain ⟨-, hresponsive⟩ := responsive_of_run hrun
  obtain ⟨w', hreaches, hsystem⟩ := hresponsive.writer hwait hqueue true _ hstep
  exact ⟨w, w', hrun, hreaches, congrArg System.writer hsystem⟩

end Waits

end OnePlus9
