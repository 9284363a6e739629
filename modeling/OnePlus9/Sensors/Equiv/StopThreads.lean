import OnePlus9.Sensors.StopThreads

/-!
# Stopping can strand a worker

`stopThreads` notifies without the mutex.  A worker that has found its predicate false, with
`mThreadsRun` still set, and has not blocked yet misses the notification, blocks, and is joined for
ever (`exists_stranded`).

`not_stranded` says that nothing else goes wrong: if no `notify_one` of `stopThreads` falls into
that gap (`notifiesInTime`), no worker is ever stranded.  Indeed every step a worker takes then
brings it closer to its end (`remaining_step`), and `stopThreads` can always return
(`Alert.exists_joined`).  Conversely, a notification in the gap can always strand a worker
(`exists_stranded_of_gap`).  With the mutex, a notification never falls there
(`notifiesInTime_of_not_holdsMutex`).
-/

namespace OnePlus9

open ConditionVariable

/-! ### One worker -/

namespace WorkerPc

/-- The worker does not depend on a notification to come. -/
def Awake (pc : WorkerPc) : Prop := pc ≠ waiting .willBlock ∧ pc ≠ waiting .blocked

instance (pc : WorkerPc) : Decidable pc.Awake := inferInstanceAs (Decidable (_ ∧ _))

theorem awake_waiting {pc : WaitPc} : (waiting pc).Awake ↔ pc.Awake := by
  simp [Awake, WaitPc.Awake]

theorem awake_notify_iff {pc : WorkerPc} : pc.notify.Awake ↔ pc ≠ waiting .willBlock := by
  cases pc with
  | waiting pc =>
    show (waiting pc.notify).Awake ↔ _
    rw [awake_waiting, WaitPc.awake_notify_iff, ne_eq, ne_eq, waiting.injEq]
  | _ => decide

/-- How many steps a worker that is to stop has left. -/
def remaining : WorkerPc → ℕ
  | exited => 0
  | loopTest => 1
  | locking | relocking => 2
  | waiting pc => pc.remaining + 2
  | working => 3

end WorkerPc

namespace Worker

variable {w w' : Worker} {unlocks hasWork notify work : Bool} {pc : WaitPc}

/-- In `wait`, a worker that is to stop finds its predicate true. -/
theorem step_waiting (hpc : pc ≠ .passed) :
    step false unlocks hasWork ⟨.waiting pc, work⟩ =
      (pc.step true).map fun pc => ⟨.waiting pc, work⟩ := by
  rw [← Bool.or_true work]
  cases pc with
  | passed => exact absurd rfl hpc
  | _ => rfl

/-- **A worker that is to stop** stays awake and comes closer to its end with every step. -/
theorem remaining_step (h : w.pc.Awake) (hstep : w.step false unlocks hasWork = some w') :
    w'.pc.Awake ∧ w'.pc.remaining < w.pc.remaining := by
  obtain ⟨pc, work⟩ := w
  cases pc with
  | waiting pc =>
    by_cases hpc : pc = .passed
    · subst hpc
      obtain rfl := Option.some.inj hstep
      dsimp only
      decide
    · rw [step_waiting hpc] at hstep
      obtain ⟨pc', hpc', rfl⟩ := Option.map_eq_some_iff.mp hstep
      obtain ⟨hawake, hlt⟩ := (WorkerPc.awake_waiting.mp h).step hpc'
      exact ⟨WorkerPc.awake_waiting.mpr hawake, Nat.add_lt_add_right hlt 2⟩
  | exited => exact nomatch hstep
  | _ =>
    obtain rfl := Option.some.inj hstep
    dsimp only
    decide

/-- It can take a step until it has ended. -/
theorem exists_step (h : w.pc.Awake) (hexited : w.pc ≠ .exited) :
    ∃ w', w.step false true false = some w' := by
  obtain ⟨pc, work⟩ := w
  cases pc with
  | waiting pc =>
    by_cases hpc : pc = .passed
    · subst hpc
      exact ⟨_, rfl⟩
    · obtain ⟨pc', hpc'⟩ := (WorkerPc.awake_waiting.mp h).exists_step hpc
      rw [step_waiting hpc, hpc']
      exact ⟨_, rfl⟩
  | exited => exact absurd rfl hexited
  | _ => exact ⟨_, rfl⟩

/-- Other threads do not put a worker to sleep. -/
theorem awake_others (h : w.pc.Awake) (hothers : w.others hasWork notify = some w') :
    w'.pc.Awake := by
  unfold others at hothers
  split_ifs at hothers
  all_goals obtain rfl := Option.some.inj hothers
  · exact WorkerPc.awake_notify_iff.mpr h.1
  · exact h

/-- A worker that is to stop, on its own. -/
def stopping : Machine Worker Unit := ⟨fun w _ => w.step false true false⟩

/-- It can run to its end if it is awake. -/
theorem exists_exit (h : w.pc.Awake) :
    ∃ w', stopping.Reaches w w' ∧ w'.pc = .exited := by
  obtain ⟨w', hreaches, -, hexited⟩ := Machine.exists_reaches_of_measure (M := stopping)
    (I := fun w => w.pc.Awake) (G := fun w => w.pc = .exited) (fun w => w.pc.remaining)
    (fun w h hrunning => by
      obtain ⟨w', hstep⟩ := exists_step h hrunning
      exact ⟨(), w', hstep, remaining_step h hstep⟩) h
  exact ⟨w', hreaches, hexited⟩

end Worker

/-! ### All threads -/

namespace ThreadControl

variable {s t : ThreadControl} {a : Action} {as : List Action}

/-- `stopThreads` has issued both notifications and is joining a thread that is blocked in its
wait. -/
def Stranded (s : ThreadControl) : Prop :=
  s.mThreadsRun = false
    ∧ ((s.stopper = .joiningPendingWrites ∧ s.pendingWritesThread.pc = .waiting .blocked)
      ∨ (s.stopper = .joiningWakelock ∧ s.wakelockThread.pc = .waiting .blocked))

instance : Decidable (Stranded s) := inferInstanceAs (Decidable (_ ∧ _))

/-- A notification of `stopThreads` does not find its worker between the test of the predicate and
the blocking. -/
def notifiesInTime (s : ThreadControl) : Action → Bool
  | .stopThreads =>
    match s.stopper with
    | .notifyingWakelock => decide (s.wakelockThread.pc ≠ .waiting .willBlock)
    | .notifyingEventQueueWrite => decide (s.pendingWritesThread.pc ≠ .waiting .willBlock)
    | _ => true
  | _ => true

end ThreadControl

/-- Whether `mWakelockCV` was notified. -/
def StopPc.notifiedWakelock : StopPc → Bool
  | notifyingEventQueueWrite | joiningPendingWrites | joiningWakelock | joined => true
  | _ => false

/-- Whether `mEventQueueWriteCV` was notified. -/
def StopPc.notifiedPendingWrites : StopPc → Bool
  | joiningPendingWrites | joiningWakelock | joined => true
  | _ => false

theorem StopPc.ne_idle_of_notified {pc : StopPc}
    (h : pc.notifiedWakelock = true ∨ pc.notifiedPendingWrites = true) : pc ≠ .idle := by
  rintro rfl
  exact h.elim (fun h => nomatch h) (fun h => nomatch h)

namespace ThreadControl

variable {s t : ThreadControl} {a : Action} {as : List Action}

/-- `mThreadsRun` is cleared while `stopThreads` is under way. -/
def Cleared (s : ThreadControl) : Prop := s.stopper ≠ .idle → s.mThreadsRun = false

theorem Cleared.step (h : Cleared s) (hstep : ThreadControl.step s a = some t) : Cleared t := by
  cases a with
  | stopThreads =>
    change s.stopThreads = some t at hstep
    unfold ThreadControl.stopThreads at hstep
    cases hpc : s.stopper with
    | idle =>
      simp only [hpc] at hstep
      obtain rfl := Option.some.inj hstep
      exact fun _ => rfl
    | joiningPendingWrites | joiningWakelock =>
      simp only [hpc] at hstep
      split_ifs at hstep
      obtain rfl := Option.some.inj hstep
      exact fun _ => h (by rw [hpc]; decide)
    | joined =>
      simp only [hpc] at hstep
      exact nomatch hstep
    | _ =>
      simp only [hpc] at hstep
      obtain rfl := Option.some.inj hstep
      exact fun _ => h (by rw [hpc]; decide)
  | startThreads =>
    unfold ThreadControl.step startThreads at hstep
    split_ifs at hstep
    obtain rfl := Option.some.inj hstep
    exact fun hidle => absurd rfl hidle
  | _ =>
    obtain ⟨w, hw, rfl⟩ := Option.map_eq_some_iff.mp hstep
    exact h

/-- Once notified, a worker that is to stop is awake. -/
structure Alert (s : ThreadControl) : Prop where
  cleared : Cleared s
  wakelock : s.stopper.notifiedWakelock = true → s.wakelockThread.pc.Awake
  pendingWrites : s.stopper.notifiedPendingWrites = true → s.pendingWritesThread.pc.Awake

theorem alert_start : Alert start :=
  ⟨fun _ => rfl, (fun h => nomatch h), (fun h => nomatch h)⟩

theorem Alert.notStranded (h : Alert s) : ¬Stranded s := by
  rintro ⟨-, ⟨hstopper, hpc⟩ | ⟨hstopper, hpc⟩⟩
  · exact (h.pendingWrites (by rw [hstopper]; rfl)).2 hpc
  · exact (h.wakelock (by rw [hstopper]; rfl)).2 hpc

/-- A step of the pending-writes thread, or of another thread with its mutex. -/
theorem Alert.of_pendingWrites (h : Alert s) {w : Worker}
    (hw : s.mThreadsRun = false → s.pendingWritesThread.pc.Awake → w.pc.Awake) :
    Alert { s with pendingWritesThread := w } where
  cleared := h.cleared
  wakelock := h.wakelock
  pendingWrites := fun hnotified =>
    hw (h.cleared (StopPc.ne_idle_of_notified (Or.inr hnotified))) (h.pendingWrites hnotified)

/-- A step of the wakelock thread, or of another thread with its mutex. -/
theorem Alert.of_wakelock (h : Alert s) {w : Worker}
    (hw : s.mThreadsRun = false → s.wakelockThread.pc.Awake → w.pc.Awake) :
    Alert { s with wakelockThread := w } where
  cleared := h.cleared
  wakelock := fun hnotified =>
    hw (h.cleared (StopPc.ne_idle_of_notified (Or.inl hnotified))) (h.wakelock hnotified)
  pendingWrites := h.pendingWrites

/-- The next statement of `stopThreads`. -/
theorem Alert.stopThreads (h : Alert s) (hc : notifiesInTime s .stopThreads = true)
    (hstep : s.stopThreads = some t) : Alert t := by
  have hcleared : Cleared t := h.cleared.step (a := .stopThreads) hstep
  unfold ThreadControl.stopThreads at hstep
  unfold notifiesInTime at hc
  cases hpc : s.stopper with
  | idle | wakingFlags =>
    simp only [hpc] at hstep
    obtain rfl := Option.some.inj hstep
    exact ⟨hcleared, (fun h => nomatch h), (fun h => nomatch h)⟩
  | notifyingWakelock =>
    simp only [hpc, decide_eq_true_eq] at hstep hc
    obtain rfl := Option.some.inj hstep
    exact ⟨hcleared, fun _ => WorkerPc.awake_notify_iff.mpr hc, (fun h => nomatch h)⟩
  | notifyingEventQueueWrite =>
    simp only [hpc, decide_eq_true_eq] at hstep hc
    obtain rfl := Option.some.inj hstep
    exact ⟨hcleared, fun _ => h.wakelock (by rw [hpc]; rfl),
      fun _ => WorkerPc.awake_notify_iff.mpr hc⟩
  | joiningPendingWrites | joiningWakelock =>
    simp only [hpc] at hstep
    split_ifs at hstep
    obtain rfl := Option.some.inj hstep
    exact ⟨hcleared, fun _ => h.wakelock (by rw [hpc]; rfl),
      fun _ => h.pendingWrites (by rw [hpc]; rfl)⟩
  | joined =>
    simp only [hpc] at hstep
    exact nomatch hstep

theorem Alert.step (h : Alert s) (hc : notifiesInTime s a = true)
    (hstep : ThreadControl.step s a = some t) : Alert t := by
  cases a with
  | handlePendingWrites hasWork =>
    obtain ⟨w, hw, rfl⟩ := Option.map_eq_some_iff.mp hstep
    exact h.of_pendingWrites fun hrun hawake => (Worker.remaining_step hawake (hrun ▸ hw)).1
  | handleWakelocks unlocks hasWork =>
    obtain ⟨w, hw, rfl⟩ := Option.map_eq_some_iff.mp hstep
    exact h.of_wakelock fun hrun hawake => (Worker.remaining_step hawake (hrun ▸ hw)).1
  | withEventQueueWriteMutex hasWork notify =>
    obtain ⟨w, hw, rfl⟩ := Option.map_eq_some_iff.mp hstep
    exact h.of_pendingWrites fun _ hawake => Worker.awake_others hawake hw
  | withWakelockMutex hasWork notify =>
    obtain ⟨w, hw, rfl⟩ := Option.map_eq_some_iff.mp hstep
    exact h.of_wakelock fun _ hawake => Worker.awake_others hawake hw
  | stopThreads => exact h.stopThreads hc hstep
  | startThreads =>
    unfold ThreadControl.step startThreads at hstep
    split_ifs at hstep
    obtain rfl := Option.some.inj hstep
    exact ⟨fun hidle => absurd rfl hidle, (fun h => nomatch h), (fun h => nomatch h)⟩

/-- **No worker is stranded** in any state of any run in which the notifications of `stopThreads`
come in time. -/
theorem not_stranded (hc : machine.Meets (fun s a => notifiesInTime s a = true) start as)
    (hv : machine.Visits start as t) : ¬Stranded t :=
  (Machine.invariant (fun _ _ _ hs hc hstep => hs.step hc hstep) alert_start hc hv).notStranded

/-! ### The joins return -/

theorem reaches_of_step (hstep : step s a = some t) : machine.Reaches s t := .of_step (a := a) hstep

/-- **An awake worker that is to stop** can run to its end, whatever surrounds it. -/
theorem exists_exit (put : Worker → ThreadControl)
    (hput : ∀ w w', w.step false true false = some w' → step (put w) a = some (put w'))
    {w : Worker} (h : w.pc.Awake) :
    ∃ w', machine.Reaches (put w) (put w') ∧ w'.pc = .exited := by
  obtain ⟨w', hreaches, hexited⟩ := Worker.exists_exit h
  -- Every step of the worker on its own is a step of the whole.
  obtain ⟨_, hwhole, rfl⟩ := hreaches.simulate (N := machine) (R := fun w s => s = put w)
    (fun w _ w' s hs hstep => ⟨put w', hs ▸ reaches_of_step (hput w w' hstep), rfl⟩) rfl
  exact ⟨w', hwhole, hexited⟩

/-- The pending-writes thread runs to its end. -/
theorem exists_exit_pendingWrites (hrun : s.mThreadsRun = false)
    (h : s.pendingWritesThread.pc.Awake) :
    ∃ w, machine.Reaches s { s with pendingWritesThread := w } ∧ w.pc = .exited := by
  apply exists_exit (a := .handlePendingWrites false) (fun w => { s with pendingWritesThread := w })
  · intro w w' hstep
    simp [step, hrun, hstep]
  · exact h

/-- The wakelock thread runs to its end. -/
theorem exists_exit_wakelock (hrun : s.mThreadsRun = false) (h : s.wakelockThread.pc.Awake) :
    ∃ w, machine.Reaches s { s with wakelockThread := w } ∧ w.pc = .exited := by
  apply exists_exit (a := .handleWakelocks true false) (fun w => { s with wakelockThread := w })
  · intro w w' hstep
    simp [step, hrun, hstep]
  · exact h

/-- The first join returns once the pending-writes thread is awake. -/
theorem exists_joined_pendingWrites (hrun : s.mThreadsRun = false)
    (h : s.pendingWritesThread.pc.Awake) (hstopper : s.stopper = .joiningPendingWrites) :
    ∃ w, machine.Reaches s { s with pendingWritesThread := w, stopper := .joiningWakelock } := by
  obtain ⟨w, hreaches, hw⟩ := exists_exit_pendingWrites hrun h
  have hjoin : step { s with pendingWritesThread := w } .stopThreads
      = some { s with pendingWritesThread := w, stopper := .joiningWakelock } := by
    simp [step, stopThreads, hstopper, hw]
  exact ⟨w, hreaches.trans (reaches_of_step hjoin)⟩

/-- **Once the notifications came in time**, `stopThreads` can return. -/
theorem Alert.exists_joined (h : Alert s) (hstopper : s.stopper = .joiningPendingWrites) :
    ∃ t, machine.Reaches s t ∧ t.stopper = .joined := by
  have hrun : s.mThreadsRun = false := h.cleared (by rw [hstopper]; decide)
  have hpending : s.pendingWritesThread.pc.Awake := h.pendingWrites (by rw [hstopper]; rfl)
  have hwakelock : s.wakelockThread.pc.Awake := h.wakelock (by rw [hstopper]; rfl)
  obtain ⟨w, hfirst⟩ := exists_joined_pendingWrites hrun hpending hstopper
  set joining : ThreadControl := { s with pendingWritesThread := w, stopper := .joiningWakelock }
  obtain ⟨v, hsecond, hv⟩ := exists_exit_wakelock (s := joining) hrun hwakelock
  have hjoin : ThreadControl.step { joining with wakelockThread := v } .stopThreads
      = some { joining with wakelockThread := v, stopper := .joined } := by
    simp [joining, ThreadControl.step, ThreadControl.stopThreads, hv]
  exact ⟨_, hfirst.trans (hsecond.trans (reaches_of_step hjoin)), rfl⟩

/-! ### A notification in the gap -/

/-- A pending-writes thread in the gap, past its notification, blocks and is joined. -/
theorem exists_stranded_of_willBlock (hrun : s.mThreadsRun = false)
    (hstopper : s.stopper = .joiningPendingWrites)
    (hpc : s.pendingWritesThread.pc = .waiting .willBlock) :
    ∃ t, machine.Reaches s t ∧ Stranded t := by
  have hblock : step s (.handlePendingWrites false)
      = some { s with pendingWritesThread.pc := .waiting .blocked } := by
    simp [step, Worker.step, hpc, WaitPc.step]
  exact ⟨_, reaches_of_step hblock, hrun, Or.inl ⟨hstopper, rfl⟩⟩

/-- A wakelock thread in the gap misses its notification and blocks, and `stopThreads` goes on. -/
theorem reaches_of_wakelock_gap (hstopper : s.stopper = .notifyingWakelock)
    (hpc : s.wakelockThread.pc = .waiting .willBlock) :
    machine.Reaches s { s with
      pendingWritesThread.pc := s.pendingWritesThread.pc.notify
      wakelockThread.pc := .waiting .blocked
      stopper := .joiningPendingWrites } := by
  have hmiss : step s .stopThreads = some { s with stopper := .notifyingEventQueueWrite } := by
    have hsame : ({ s.wakelockThread with pc := s.wakelockThread.pc.notify } : Worker)
        = s.wakelockThread := by
      rw [hpc]
      exact congrArg (Worker.mk · s.wakelockThread.hasWork) hpc.symm
    simp [step, stopThreads, hstopper, hsame]
  have hblock : step { s with stopper := .notifyingEventQueueWrite } (.handleWakelocks true false)
      = some { s with
          wakelockThread.pc := .waiting .blocked
          stopper := .notifyingEventQueueWrite } := by
    simp [step, Worker.step, hpc, WaitPc.step]
  have hnotify : step { s with
        wakelockThread.pc := .waiting .blocked
        stopper := .notifyingEventQueueWrite } .stopThreads
      = some { s with
          pendingWritesThread.pc := s.pendingWritesThread.pc.notify
          wakelockThread.pc := .waiting .blocked
          stopper := .joiningPendingWrites } := by
    simp [step, stopThreads]
  exact (reaches_of_step hmiss).trans ((reaches_of_step hblock).trans (reaches_of_step hnotify))

/-- **A notification in the gap** can strand a worker. -/
theorem exists_stranded_of_gap (hv : machine.Visits start as s)
    (hgap : notifiesInTime s .stopThreads = false) : ∃ t, machine.Reaches s t ∧ Stranded t := by
  have hcleared : Cleared s :=
    Machine.invariant_of_step (fun _ _ _ hs hstep => hs.step hstep) (fun _ => rfl) hv
  have hrun : s.mThreadsRun = false := by
    refine hcleared ?_
    intro hidle
    simp [notifiesInTime, hidle] at hgap
  unfold notifiesInTime at hgap
  cases hstopper : s.stopper with
  | notifyingEventQueueWrite =>
    have hpc : s.pendingWritesThread.pc = .waiting .willBlock := by simpa [hstopper] using hgap
    -- The notification finds nobody.
    have hnotify : step s .stopThreads
        = some { s with
            pendingWritesThread.pc := s.pendingWritesThread.pc.notify
            stopper := .joiningPendingWrites } := by
      simp [step, stopThreads, hstopper]
    obtain ⟨t, hreaches, ht⟩ := exists_stranded_of_willBlock (s := { s with
      pendingWritesThread.pc := s.pendingWritesThread.pc.notify
      stopper := .joiningPendingWrites }) hrun rfl (by rw [hpc]; rfl)
    exact ⟨t, (reaches_of_step hnotify).trans hreaches, ht⟩
  | notifyingWakelock =>
    have hpc : s.wakelockThread.pc = .waiting .willBlock := by simpa [hstopper] using hgap
    have hreaches := reaches_of_wakelock_gap hstopper hpc
    by_cases hpending : s.pendingWritesThread.pc = .waiting .willBlock
    · -- The pending-writes thread is in the gap, too.
      obtain ⟨t, hreaches', ht⟩ := exists_stranded_of_willBlock (s := { s with
        pendingWritesThread.pc := s.pendingWritesThread.pc.notify
        wakelockThread.pc := .waiting .blocked
        stopper := .joiningPendingWrites }) hrun rfl (by rw [hpending]; rfl)
      exact ⟨t, hreaches.trans hreaches', ht⟩
    · -- It is awake and ends, and the wakelock thread is joined.
      have hawake : s.pendingWritesThread.pc.notify.Awake := WorkerPc.awake_notify_iff.mpr hpending
      obtain ⟨w, hreaches'⟩ := exists_joined_pendingWrites (s := { s with
        pendingWritesThread.pc := s.pendingWritesThread.pc.notify
        wakelockThread.pc := .waiting .blocked
        stopper := .joiningPendingWrites }) hrun hawake rfl
      exact ⟨_, hreaches.trans hreaches', hrun, Or.inr ⟨rfl, rfl⟩⟩
  | _ => simp [hstopper] at hgap

/-- Had `stopThreads` the mutex of the condition variable, its notification would come in time. -/
theorem notifiesInTime_of_not_holdsMutex (hwakelock : s.wakelockThread.pc.holdsMutex = false)
    (hpendingWrites : s.pendingWritesThread.pc.holdsMutex = false) :
    notifiesInTime s a = true := by
  have hgap : ∀ {pc : WorkerPc}, pc.holdsMutex = false → pc ≠ .waiting .willBlock := by
    rintro pc hpc rfl
    exact nomatch hpc
  cases a with
  | stopThreads =>
    unfold notifiesInTime
    cases s.stopper with
    | notifyingWakelock => exact decide_eq_true (hgap hwakelock)
    | notifyingEventQueueWrite => exact decide_eq_true (hgap hpendingWrites)
    | _ => rfl
  | _ => rfl

/-! ### Runs -/

/-- The first initialization. -/
def startUp : List Action := List.replicate 6 .stopThreads ++ [.startThreads]

/-- Both workers block, are notified and end. -/
def stopInTime : List Action :=
  startUp ++ List.replicate 4 (.handlePendingWrites false) ++
    List.replicate 4 (.handleWakelocks true false) ++ List.replicate 4 .stopThreads ++
    List.replicate 4 (.handlePendingWrites false) ++ [.stopThreads] ++
    List.replicate 4 (.handleWakelocks true false)

theorem not_stranded_stopInTime :
    ∃ t, machine.Visits start stopInTime t
      ∧ (t.stopper, t.wakelockThread.pc) = (.joiningWakelock, .exited) ∧ ¬Stranded t := by
  obtain ⟨t, hvisits, ht⟩ := machine.exists_visits start stopInTime
    (fun t => (t.stopper, t.wakelockThread.pc)) (.joiningWakelock, .exited) (by decide)
  exact ⟨t, hvisits, ht, not_stranded (by decide) hvisits⟩

/-- The pending-writes thread finds nothing to do.  Before it blocks, `stopThreads` goes on to the
joins. -/
def stopInGap : List Action :=
  startUp ++ List.replicate 3 (.handlePendingWrites false) ++ List.replicate 4 .stopThreads ++
    [.handlePendingWrites false]

/-- In the end the thread is blocked, and it is joined. -/
theorem exists_stranded : ¬∀ t, machine.Visits start stopInGap t → ¬Stranded t := by
  intro hall
  obtain ⟨t, hvisits, ht⟩ := machine.exists_visits start stopInGap
    (fun t => decide (Stranded t)) true (by decide)
  exact hall t hvisits (of_decide_eq_true ht)

end ThreadControl

end OnePlus9
