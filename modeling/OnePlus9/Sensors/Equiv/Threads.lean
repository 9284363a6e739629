import OnePlus9.Sensors.Equiv.PendingWrites
import OnePlus9.Sensors.Equiv.Stages
import OnePlus9.Sensors.Equiv.System

/-!
# Where the threads can be

`Coherent s` relates the program counters of the threads to the state of the proxy: while the
pending-writes thread has a chunk in hand it is the head of the front batch, and between the join
and the restart of an `initializeCommon` call neither of the two threads exists.  Every state a
run visits is coherent (`coherent_of_visits`).
-/

namespace OnePlus9

/-- Stages with the threads joined and not restarted. -/
def HalProxy.InitStage.threadsJoined : HalProxy.InitStage → Bool
  | .joinThreads | .initializeSubHals | .setOperationMode => false
  | _ => true

/-- Stages with `mThreadsRun` cleared and not set again. -/
def HalProxy.InitStage.threadsCleared : HalProxy.InitStage → Bool
  | .startThreads | .initializeSubHals | .setOperationMode => false
  | _ => true

/-- The chunk the pending-writes thread has in hand is the head of the front batch. -/
def WriterPc.Fits {ε : Type*} (queue : List (List ε × ℕ)) : WriterPc → Prop
  | .writing _ q n | .failed _ q n | .relocking q n =>
    ∃ front stored rest, queue = (front, stored) :: rest ∧ n = min front.length q
  | _ => True

/-- New batches do not disturb the chunk. -/
theorem WriterPc.Fits.of_prefix {ε : Type*} {queue queue' : List (List ε × ℕ)} {pc : WriterPc}
    (h : pc.Fits queue) (hpre : queue <+: queue') : pc.Fits queue' := by
  obtain ⟨more, rfl⟩ := hpre
  cases pc with
  | writing stored q n | failed stored q n | relocking q n =>
    obtain ⟨front, stored', rest, hq, hn⟩ := h
    exact ⟨front, stored', rest ++ more, by rw [hq, List.cons_append], hn⟩
  | _ => trivial

namespace System

/-- The threads are where the proxy's state says. -/
structure Coherent (s : System) : Prop where
  fits : s.writer.Fits s.proxy.pendingWrites.mPendingWriteEventsQueue
  joined : ∀ stage args, s.initializing = some (stage, args) → stage.threadsJoined = true →
    s.writer = .stopped ∧ s.wakelockThread = .stopped
  cleared : ∀ stage args, s.initializing = some (stage, args) → stage.threadsCleared = true →
    s.proxy.mThreadsRun = false

theorem coherent_start (subHalList : List SubHalWrapper) : Coherent (start subHalList) where
  fits := trivial
  joined := fun _ _ h => nomatch h
  cleared := fun _ _ h => nomatch h

variable {c : Constants} {s t : System} {a : Action}

/-- A pending-writes thread in the wait has nothing in hand. -/
theorem coherent_of_waiting (hidle : s.initializing = none) (hpc : s.writer = .waiting) :
    Coherent s where
  fits := by
    rw [hpc]
    trivial
  joined := fun _ _ hstage => nomatch hidle.symm.trans hstage
  cleared := fun _ _ hstage => nomatch hidle.symm.trans hstage

theorem Coherent.afterStage (h : Coherent s) {stage : HalProxy.InitStage}
    {args : HalProxy.InitializeArgs} (now : ℕ) (hstage : s.initializing = some (stage, args))
    (henabled : s.stageEnabled stage = true) : Coherent (s.afterStage stage args now) := by
  have hjoined : stage.threadsJoined = true → s.writer = .stopped ∧ s.wakelockThread = .stopped :=
    h.joined stage args hstage
  have hcleared : stage.threadsCleared = true → s.proxy.mThreadsRun = false :=
    h.cleared stage args hstage
  constructor
  · show WriterPc.Fits _ (if stage = .startThreads then .waiting else s.writer)
    by_cases hstart : stage = .startThreads
    · rw [if_pos hstart]
      trivial
    · rw [if_neg hstart]
      by_cases hclear : stage = .clearPendingQueue
      · rw [(hjoined (by rw [hclear]; rfl)).1]
        trivial
      · show WriterPc.Fits (s.proxy.initStage args now stage).pendingWrites.mPendingWriteEventsQueue
          s.writer
        rw [queue_initStage _ _ _ hclear]
        exact h.fits
  · intro stage' args' hnext hstage'
    -- The join waits for both threads; later stages start neither.
    by_cases hjoin : stage = .joinThreads
    · subst hjoin
      cases hnext
      exact of_decide_eq_true henabled
    · cases stage <;> cases hnext <;>
        first | exact hjoined rfl | exact absurd rfl hjoin | exact nomatch hstage'
  · intro stage' args' hnext hstage'
    show (s.proxy.initStage args now stage).mThreadsRun = false
    by_cases hset : stage = .setThreadsRun
    · subst hset
      cases hnext
      exact nomatch hstage'
    · rw [mThreadsRun_initStage _ _ _ hset]
      refine hcleared ?_
      cases stage <;> cases hnext <;> first | rfl | exact nomatch hstage'

/-! ### All steps -/

/-- The chunk in hand is the head of the front batch, by where the thread is. -/
theorem Coherent.inHand (h : Coherent s) {pc : WriterPc} (hpc : s.writer = pc) :
    pc.Fits s.proxy.pendingWrites.mPendingWriteEventsQueue := hpc ▸ h.fits

/-- While the threads are joined, the pending-writes thread does not exist. -/
theorem Coherent.not_joined (h : Coherent s) (hpc : s.writer ≠ .stopped) {stage args}
    (hstage : s.initializing = some (stage, args)) : stage.threadsJoined ≠ true :=
  fun hjoined => hpc (h.joined stage args hstage hjoined).1

/-- A step of the pending-writes thread that leaves the stage and `mThreadsRun` alone. -/
theorem Coherent.of_writer (h : Coherent s) (hpc : s.writer ≠ .stopped)
    (hfits : t.writer.Fits t.proxy.pendingWrites.mPendingWriteEventsQueue)
    (hstage : t.initializing = s.initializing)
    (hrun : t.proxy.mThreadsRun = s.proxy.mThreadsRun) : Coherent t where
  fits := hfits
  joined := fun _ _ heq hjoined => absurd hjoined (h.not_joined hpc (hstage ▸ heq))
  cleared := fun stage args heq hcleared => hrun ▸ h.cleared stage args (hstage ▸ heq) hcleared

/-- A step of the wakelock thread. -/
theorem Coherent.of_wakelockThread (h : Coherent s) (hpc : s.wakelockThread ≠ .stopped)
    (hwriter : t.writer = s.writer) (hpending : t.proxy.pendingWrites = s.proxy.pendingWrites)
    (hstage : t.initializing = s.initializing)
    (hrun : t.proxy.mThreadsRun = s.proxy.mThreadsRun) : Coherent t where
  fits := by
    rw [hwriter, hpending]
    exact h.fits
  joined := fun stage args heq hjoined => absurd (h.joined stage args (hstage ▸ heq) hjoined).2 hpc
  cleared := fun stage args heq hcleared => hrun ▸ h.cleared stage args (hstage ▸ heq) hcleared

/-- **Coherence** is kept by every step of every thread. -/
theorem Coherent.step (h : Coherent s) (hstep : step c s a = some t) : Coherent t := by
  cases step_cases hstep with
  | postEvents k avail ok dt post events n hk hpc hfree =>
    exact ⟨h.fits.of_prefix PendingWrites.isPrefix_pushLeft, h.joined, h.cleared⟩
  | wake ok hpc hready => exact h.of_writer (by rw [hpc]; decide) trivial rfl rfl
  | exitWriter ok hpc hrun =>
    exact ⟨trivial, fun stage args heq hjoined => ⟨rfl, (h.joined stage args heq hjoined).2⟩,
      h.cleared⟩
  | select ok front stored rest hpc hrun hq =>
    exact h.of_writer (by rw [hpc]; decide) ⟨front, stored, rest, hq, rfl⟩ rfl rfl
  | writeChunk stored q n hpc =>
    have hfits := h.inHand hpc
    exact h.of_writer (by rw [hpc]; exact WriterPc.noConfusion) hfits rfl rfl
  | dropChunk stored q n hpc =>
    -- Whether or not there are claims to give back, the chunk is still on the queue.
    have hfits := h.inHand hpc
    refine h.of_writer (by rw [hpc]; exact WriterPc.noConfusion) ?_ rfl rfl
    show WriterPc.Fits _ (if stored > 0 then .failed stored q n else .relocking q n)
    split_ifs
    · exact hfits
    · exact hfits
  | giveBack ok stored q n front stored' rest hpc hq =>
    have hfits := h.inHand hpc
    exact h.of_writer (by rw [hpc]; exact WriterPc.noConfusion) hfits rfl rfl
  | finishWrite ok q n hpc =>
    exact h.of_writer (by rw [hpc]; exact WriterPc.noConfusion) trivial rfl rfl
  | exitWakelocks n late dt dt' hpc hrun =>
    exact ⟨h.fits, fun stage args heq hjoined => ⟨(h.joined stage args heq hjoined).1, rfl⟩,
      h.cleared⟩
  | timeOut n late dt dt' hpc hrun hcount htime =>
    exact h.of_wakelockThread (by rw [hpc]; exact WakelockPc.noConfusion) rfl rfl rfl rfl
  | startRead n late dt dt' hpc hrun hcount htime =>
    exact h.of_wakelockThread (by rw [hpc]; exact WakelockPc.noConfusion) rfl rfl rfl rfl
  | readNothing late dt dt' timeLeft hpc =>
    exact h.of_wakelockThread (by rw [hpc]; exact WakelockPc.noConfusion) rfl rfl rfl rfl
  | acknowledge n late dt dt' timeLeft hpc =>
    exact h.of_wakelockThread (by rw [hpc]; exact WakelockPc.noConfusion) rfl rfl rfl rfl
  | perform request =>
    have hsame := HalProxy.sameQueues_perform s.proxy request
    refine ⟨?_, h.joined, fun stage args heq hcleared => ?_⟩
    · show s.writer.Fits (s.proxy.perform request).pendingWrites.mPendingWriteEventsQueue
      rw [hsame.pendingWrites]
      exact h.fits
    · exact hsame.mThreadsRun.trans (h.cleared stage args heq hcleared)
  | initializeCommon args hidle =>
    refine ⟨h.fits, fun stage args' heq hjoined => ?_, fun _ _ _ _ => rfl⟩
    obtain ⟨rfl, -⟩ := Prod.mk.inj (Option.some.inj heq)
    exact nomatch hjoined
  | initStage dt stage args hstage henabled => exact h.afterStage _ hstage henabled
  | _ => exact ⟨h.fits, h.joined, h.cleared⟩

/-- Every state a run of the proxy visits is coherent. -/
theorem coherent_of_visits {subHalList : List SubHalWrapper} {as : List Action}
    (h : (machine c).Visits (start subHalList) as s) : Coherent s :=
  Machine.invariant_of_step (fun _ _ _ hs hstep => hs.step hstep) (coherent_start subHalList) h

end System

end OnePlus9
