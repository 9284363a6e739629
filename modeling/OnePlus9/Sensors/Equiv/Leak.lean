import OnePlus9.Sensors.Equiv.WakelockCount

/-!
# When wakelock claims leak

A post counts all its wake-up events at once.  Those in a rest that does not fit the pending queue
are counted too, and nobody ever gives their claims back (`refusedWakeUps`).

* `count_eq_zero`: as long as no refused rest has wake-up events, the count is zero in every
  state in which everything has been delivered or dropped, acknowledged and destroyed
  (`Quiescent`).
* `exists_leak`: otherwise it need not be.
-/

namespace OnePlus9.System

variable {c : Constants} {s t : System} {a : Action} {as : List Action}

/-! ### Stored numbers -/

/-- The number stored with a batch covers the wake-up events left in it. -/
structure StoredEnough (s : System) : Prop where
  batches : ∀ batch ∈ s.proxy.pendingWrites.mPendingWriteEventsQueue, s.wakeUps batch.1 ≤ batch.2
  inHand : ∀ stored q n, s.writer = .writing stored q n → s.wakeUps s.front ≤ stored

/-- A step that leaves the queue and the pending-writes thread alone. -/
theorem StoredEnough.of_eq (h : StoredEnough s) (hstep : step c s a = some t)
    (hqueue : t.proxy.pendingWrites.mPendingWriteEventsQueue
      = s.proxy.pendingWrites.mPendingWriteEventsQueue)
    (hwriter : ∀ stored q n, t.writer = .writing stored q n → s.writer = .writing stored q n) :
    StoredEnough t where
  batches := fun batch hbatch => by
    rw [wakeUps_step hstep]
    exact h.batches batch (hqueue ▸ hbatch)
  inHand := fun stored q n hpc => by
    have hfront : t.front = s.front := by rw [front, hqueue, front]
    rw [wakeUps_step hstep, hfront]
    exact h.inHand stored q n (hwriter stored q n hpc)

/-- A post queues its rest with the number of wake-up events of the whole batch. -/
theorem StoredEnough.postBatch (h : StoredEnough s) (hcoh : Coherent s) (hcounted : Counted s)
    {k avail : ℕ} {ok : Bool} {dt : ℕ} {post : Post} {events : List Event} {n : ℕ}
    (hk : s.posts[k]? = some post) (hpc : post.pc = .processed events n) :
    StoredEnough (s.postBatch c k post (s.stamp post events) n avail ok (s.clock + dt)) := by
  have hn : n = s.wakeUps (s.stamp post events) := (hcounted.wakeUps_stamp hk hpc).symm
  generalize s.stamp post events = stamped at hn ⊢
  constructor
  · intro batch hbatch
    show s.wakeUps batch.1 ≤ batch.2
    rcases PendingWrites.mem_pushLeft hbatch with hold | rfl
    · exact h.batches batch hold
    · -- The stored number is that of the whole batch, of which this is a rest.
      have hsplit := wakeUps_take_add_drop s stamped
        (s.proxy.pendingWrites.numToWrite stamped.length avail ok)
      dsimp only
      omega
  · intro stored q m hwriting
    -- The batch in hand stays at the front.
    have hpc' : s.writer = .writing stored q m := hwriting
    obtain ⟨front, stored', rest, hq, -⟩ := hcoh.inHand hpc'
    rw [front_postBatch (hq ▸ List.cons_ne_nil _ _)]
    exact h.inHand stored q m hwriting

theorem StoredEnough.finishWrite (h : StoredEnough s) (q n : ℕ) :
    StoredEnough { s with
      proxy.pendingWrites := s.proxy.pendingWrites.finishWrite q n
      writer := .waiting } := by
  refine ⟨fun batch hbatch => ?_, fun _ _ _ hpc => nomatch hpc⟩
  show s.wakeUps batch.1 ≤ batch.2
  obtain ⟨batch', hbatch', ⟨before, hbefore⟩, hn⟩ := PendingWrites.mem_finishWrite hbatch
  have hold := h.batches batch' hbatch'
  rw [← hbefore, wakeUps_append, ← hn] at hold
  omega

theorem StoredEnough.step (h : StoredEnough s) (ho : Orderly s) (hd : Disciplined c s a)
    (hstep : System.step c s a = some t) : StoredEnough t := by
  have hkept := h.of_eq hstep
  cases step_cases hstep with
  | postEvents k avail ok dt post events n hk hpc hfree =>
    exact h.postBatch ho.coherent ho.counted hk hpc
  | select ok front stored rest hpc hrun hq =>
    refine ⟨h.batches, fun stored' q n hwriting => ?_⟩
    obtain ⟨rfl, -, -⟩ := WriterPc.writing.inj hwriting
    have hfront : s.wakeUps s.front ≤ stored := by
      rw [front_of_queue hq]
      exact h.batches (front, stored) (hq ▸ List.mem_cons_self)
    exact hfront
  | dropChunk stored q n hpc =>
    refine hkept rfl fun stored' q' n' hwriting => ?_
    unfold dropChunk at hwriting
    dsimp only at hwriting
    split_ifs at hwriting
  | finishWrite ok q n hpc => exact h.finishWrite q n
  | perform request =>
    refine hkept ?_ fun _ _ _ hpc => hpc
    exact congrArg PendingWrites.mPendingWriteEventsQueue
      (HalProxy.sameQueues_perform s.proxy request).pendingWrites
  | wake | exitWriter | writeChunk | giveBack => exact hkept rfl fun _ _ _ hpc => nomatch hpc
  | initializeCommon args hidle => exact nomatch hd.uninterrupted
  | initStage dt stage args hstage henabled =>
    exact nomatch ho.inSession.initializing.symm.trans hstage
  | _ => exact hkept rfl fun _ _ _ hpc => hpc

/-- For a dropped chunk at least its wake-up events are given back. -/
theorem droppedWakeUps_le (h : StoredEnough s) (hcoh : Coherent s) :
    s.droppedWakeUps a ≤ s.droppedClaims a := by
  unfold droppedClaims droppedWakeUps
  split
  case h_2 => exact Nat.le_refl _
  cases hpc : s.writer with
  | writing stored q n =>
    have hstored := h.inHand stored q n hpc
    have hsplit := wakeUps_take_add_drop s s.front q
    dsimp only
    rw [givenBack_eq, chunk_eq_take_front hcoh hpc]
    split_ifs <;> omega
  | _ => exact Nat.le_refl _

/-! ### Nothing leaks -/

/-- What is counted is owed. -/
theorem bounded_step (h : Orderly s) (hstored : StoredEnough s)
    (hbound : s.proxy.wakelock.mWakelockRefCount ≤ s.owed + s.debt) (hd : Disciplined c s a)
    (hc : refusedWakeUps c s a = 0) (hstep : step c s a = some t) :
    t.proxy.wakelock.mWakelockRefCount ≤ t.owed + t.debt := by
  obtain ⟨added, given, hcount, howed⟩ := h.ledger_step hd hstep
  have hdropped := droppedWakeUps_le (a := a) hstored h.coherent
  omega

/-- Nothing is pending, being written, unacknowledged or locked. -/
structure Quiescent (s : System) : Prop where
  queue : s.proxy.pendingWrites.mPendingWriteEventsQueue = []
  noWrite : doneWith s.writer = 0
  acknowledged : s.unacked = 0
  destroyed : s.liveWakelocks = []

/-- **No claim leaks.**  In every quiescent state of every session without timeouts in which no
refused rest has a wake-up event, the count is zero. -/
theorem count_eq_zero (hs : FreshSession s) (hd : (machine c).Meets (Disciplined c) s as)
    (hc : (machine c).Meets (fun s a => refusedWakeUps c s a = 0) s as)
    (hv : (machine c).Visits s as t) (hquiet : Quiescent t) :
    t.proxy.wakelock.mWakelockRefCount = 0 := by
  have hstart : StoredEnough s := by
    constructor
    · rw [hs.queue]
      exact fun _ hbatch => nomatch hbatch
    · rw [hs.writer]
      exact fun _ _ _ hpc => nomatch hpc
  have hinv := Machine.invariant
    (I := fun s => Orderly s ∧ StoredEnough s
      ∧ s.proxy.wakelock.mWakelockRefCount ≤ s.owed + s.debt)
    (fun s a t hs hc hstep => ⟨hs.1.step hc.1 hstep, hs.2.1.step hs.1 hc.1 hstep,
      bounded_step hs.1 hs.2.1 hs.2.2 hc.1 hc.2 hstep⟩)
    ⟨hs.orderly, hstart, by rw [hs.count]; exact Nat.zero_le _⟩ (hd.and hc) hv
  -- In a quiescent state nothing is owed, so the bound is zero.
  have howed : t.owed = 0 := by
    rw [owed, transit_of_empty hquiet.queue, hquiet.acknowledged, hquiet.destroyed]
    rfl
  have hdebt : t.debt = 0 := by
    unfold debt
    cases hpc : t.writer with
    | failed stored q n =>
      obtain ⟨_, _, _, hq, -⟩ := hinv.1.coherent.inHand hpc
      exact absurd (hq.symm.trans hquiet.queue) (List.cons_ne_nil _ _)
    | _ => rfl
  have hbound := hinv.2.2
  omega

/-- One wake-up event is written directly, its wakelock destroyed, and it is acknowledged. -/
def writeAndAcknowledge : List Action :=
  [.createScopedWakelock 1, .testThreadsRunning 0 [wakeUpEvent] (some 0), .processEvents 0,
    .postEventsToMessageQueue 0 2 true 0, .destroyScopedWakelock 0,
    .handleWakelocks none 0 0 0, .handleWakelocks (some 1) 0 0 0]

theorem count_eq_zero_writeAndAcknowledge :
    ∃ t, (machine sampleConstants).Visits sampleSession writeAndAcknowledge t
      ∧ t.proxy.eventQueue.written.length = 1 ∧ t.proxy.wakelock.mWakelockRefCount = 0 := by
  obtain ⟨t, hvisits, ht⟩ := (machine sampleConstants).exists_visits sampleSession
    writeAndAcknowledge (fun t => (t.proxy.eventQueue.written.length,
      t.proxy.pendingWrites.mPendingWriteEventsQueue.length, doneWith t.writer, t.unacked,
      t.liveWakelocks.length)) (1, 0, 0, 0, 0) (by decide)
  simp only [Prod.mk.injEq, List.length_eq_zero_iff] at ht
  obtain ⟨hwritten, hqueue, hdone, hunacked, hlive⟩ := ht
  exact ⟨t, hvisits, hwritten, count_eq_zero freshSession_sampleSession (by decide) (by decide)
    hvisits ⟨hqueue, hdone, hunacked, hlive⟩⟩

/-! ### A leak -/

/-- A wakelock is taken and a batch posted while the event queue is full. -/
def postWhileFull (batch : List Event) : List Action :=
  [.createScopedWakelock 0, .testThreadsRunning 0 batch (some 0), .processEvents 0,
    .postEventsToMessageQueue 0 0 true 0, .destroyScopedWakelock 0]

/-- A session whose first post has got to `pc`. -/
def firstPost (s : System) (pc : PostPc) (mSensors : SensorMap) : System :=
  { s with
    proxy.mSensors := mSensors
    proxy.wakelock := (s.proxy.wakelock.incrementRefCountAndMaybeAcquireWakelock true 1 s.clock).2
    posts := [⟨0, pc, some ⟨s.clock, s.history.resets⟩, s.history.session⟩] }

theorem step_firstPost (hs : FreshSession s) (hsub : 0 < s.proxy.mSubHalList.length)
    {batch : List Event} (hne : batch.isEmpty = false) :
    step c (s.createScopedWakelock 0) (.testThreadsRunning 0 batch (some 0))
      = some (s.firstPost (.tested batch) s.proxy.mSensors) := by
  have hscoped := hs.scopedWakelocks
  have hposts := hs.posts
  simp [step, createScopedWakelock, testThreadsRunning, takeWakelock, hs.mThreadsRun, hscoped,
    hposts, hsub, hne, firstPost]

/-- The post of the processed batch. -/
def refusedPost (c : Constants) (s : System) (out : HalProxyCallback.ProcessedEvents) : System :=
  let post : Post := ⟨0, .processed out.eventsOut out.numWakeupEvents,
    some ⟨s.clock, s.history.resets⟩, s.history.session⟩
  let s := s.firstPost post.pc out.mSensors
  s.postBatch c 0 post (s.stamp post out.eventsOut) out.numWakeupEvents 0 true s.clock

/-- The session after the batch was refused and its wakelock destroyed. -/
def afterRefusal (c : Constants) (s : System) (out : HalProxyCallback.ProcessedEvents) : System :=
  { refusedPost c s out with
    proxy.wakelock :=
      (refusedPost c s out).proxy.wakelock.decrementRefCountAndMaybeReleaseWakelock true 1 s.clock
    scopedWakelocks := [] }

theorem step_refusedPost (hs : FreshSession s) (out : HalProxyCallback.ProcessedEvents) :
    step c (s.firstPost (.processed out.eventsOut out.numWakeupEvents) out.mSensors)
      (.postEventsToMessageQueue 0 0 true 0) = some (refusedPost c s out) := by
  show (if s.writer = .woken then none else some (refusedPost c s out)) = some (refusedPost c s out)
  rw [hs.writer]
  rfl

theorem step_afterRefusal (hs : FreshSession s) (out : HalProxyCallback.ProcessedEvents) :
    step c (refusedPost c s out) (.destroyScopedWakelock 0) = some (afterRefusal c s out) := by
  have hscoped : (refusedPost c s out).scopedWakelocks = [⟨s.clock, s.history.resets⟩] := by
    show s.scopedWakelocks ++ _ = _
    rw [hs.scopedWakelocks]
    rfl
  have hrun : (refusedPost c s out).proxy.mThreadsRun = true := hs.mThreadsRun
  rw [step, destroyScopedWakelock, hscoped, hrun]
  rfl

theorem pendingWrites_refusedPost {out : HalProxyCallback.ProcessedEvents}
    (hfull : c.kMaxSizePendingWriteEventsQueue
      < (s.proxy.pendingWrites.mSizePendingWriteEventsQueue + out.eventsOut.length)
        % sizeModulus) :
    (refusedPost c s out).proxy.pendingWrites = s.proxy.pendingWrites := by
  show s.proxy.pendingWrites.pushLeft _ (stamp _ out.eventsOut _) _
    (s.proxy.pendingWrites.numToWrite _ 0 true) = _
  refine PendingWrites.pushLeft_of_refused (PendingWrites.queuesLeft_eq_false ?_)
  rw [PendingWrites.numToWrite_full, Nat.sub_zero, stamp, List.length_mapIdx]
  exact hfull

theorem wakelock_refusedPost (hs : FreshSession s) (out : HalProxyCallback.ProcessedEvents) :
    (refusedPost c s out).proxy.wakelock
      = ((s.proxy.wakelock.incrementRefCountAndMaybeAcquireWakelock true 1
          s.clock).2.incrementRefCountAndMaybeAcquireWakelock true out.numWakeupEvents
            s.clock).2 := by
  show (SharedWakelock.incrementRefCountAndMaybeAcquireWakelock s.proxy.mThreadsRun _ _ _).2 = _
  rw [hs.mThreadsRun]
  rfl

/-- **A leak.**  A whole batch that does not fit is refused with its claims counted. -/
theorem leak_of_refused (hs : FreshSession s) (hsub : 0 < s.proxy.mSubHalList.length)
    (batch : List Event) (hne : batch.isEmpty = false) {out : HalProxyCallback.ProcessedEvents}
    (hout : HalProxyCallback.processEvents (Int32.ofNat 0) batch s.proxy.mSensors = out)
    (hnum : 0 < out.numWakeupEvents)
    (hfull : c.kMaxSizePendingWriteEventsQueue
      < (s.proxy.pendingWrites.mSizePendingWriteEventsQueue + out.eventsOut.length)
        % sizeModulus) :
    (machine c).Meets (Disciplined c) s (postWhileFull batch)
      ∧ (machine c).Visits s (postWhileFull batch) (s.afterRefusal c out)
      ∧ Quiescent (s.afterRefusal c out)
      ∧ (s.afterRefusal c out).proxy.wakelock.mWakelockRefCount = out.numWakeupEvents := by
  have htest := step_firstPost (c := c) hs hsub hne
  have hprocess : step c (s.firstPost (.tested batch) s.proxy.mSensors) (.processEvents 0)
      = some (s.firstPost (.processed out.eventsOut out.numWakeupEvents) out.mSensors) := by
    subst hout
    rfl
  have hpost := step_refusedPost (c := c) hs out
  have hdestroy := step_afterRefusal (c := c) hs out
  refine ⟨?_, ?_, ?_, ?_⟩
  · refine Machine.meets_cons_of_step _ rfl ⟨rfl, rfl, rfl, rfl⟩ ?_
    refine Machine.meets_cons_of_step _ htest ⟨rfl, rfl, rfl, rfl⟩ ?_
    refine Machine.meets_cons_of_step _ hprocess ⟨rfl, rfl, rfl, rfl⟩ ?_
    refine Machine.meets_cons_of_step _ hpost ⟨rfl, rfl, ?_, rfl⟩ ?_
    · show (true == decide (0 < out.numWakeupEvents)) = true
      rw [decide_eq_true hnum]
      rfl
    · exact Machine.meets_cons_of_step _ hdestroy ⟨rfl, rfl, rfl, rfl⟩ trivial
  · exact .later rfl (.later htest (.later hprocess (.later hpost (.later hdestroy (.here _ _)))))
  · have hpending := pendingWrites_refusedPost hfull
    refine ⟨?_, ?_, ?_, ?_⟩
    · show (refusedPost c s out).proxy.pendingWrites.mPendingWriteEventsQueue = []
      rw [hpending, hs.queue]
    · show doneWith s.writer = 0
      rw [hs.writer]
      rfl
    · show s.history.unackedLate + (s.history.unackedFresh + SensorMap.numWakeUps _
        (List.take (s.proxy.pendingWrites.numToWrite _ 0 true) _)) = 0
      rw [PendingWrites.numToWrite_full, hs.unackedLate, hs.unackedFresh]
      rfl
    · rfl
  · have hfresh : ¬SharedWakelock.Stale s.clock (refusedPost c s out).proxy.wakelock := by
      refine fun hstale => absurd hstale.2 (Int.not_lt.mpr ?_)
      rw [wakelock_refusedPost hs]
      exact hs.resetTime
    show SharedWakelock.mWakelockRefCount (SharedWakelock.decrementRefCountAndMaybeReleaseWakelock
      true 1 s.clock _) = _
    rw [SharedWakelock.count_decrement_fresh hfresh, wakelock_refusedPost hs,
      SharedWakelock.count_increment, SharedWakelock.count_increment, hs.count]
    omega

/-- More wake-up events than the pending queue can hold. -/
def overflow : List Event := List.replicate 100001 wakeUpEvent

/-- In the end all is quiet, but claims are counted. -/
theorem exists_leak :
    ¬∀ t, FreshSession sampleSession →
      (machine sampleConstants).Meets (Disciplined sampleConstants) sampleSession
        (postWhileFull overflow) →
      (machine sampleConstants).Visits sampleSession (postWhileFull overflow) t → Quiescent t →
      t.proxy.wakelock.mWakelockRefCount = 0 := by
  intro hall
  have hkeeps : HalProxyCallback.keeps sampleSession.proxy.mSensors
      (HalProxyCallback.tagEvent (Int32.ofNat 0) wakeUpEvent) = true := by decide
  have hnum := HalProxyCallback.numWakeupEvents_replicate _ _ (n := 100001) hkeeps (by decide)
  have hlength := congrArg List.length
    (HalProxyCallback.eventsOut_replicate _ _ (n := 100001) hkeeps)
  rw [List.length_replicate] at hlength
  have hsize : sampleSession.proxy.pendingWrites.mSizePendingWriteEventsQueue = 0 := by decide
  obtain ⟨hmeets, hvisits, hquiet, hcount⟩ := leak_of_refused (c := sampleConstants)
    freshSession_sampleSession (by decide) overflow rfl rfl
    (by rw [overflow, hnum]; decide) (by rw [overflow, hlength, hsize]; decide)
  have hzero := hall _ freshSession_sampleSession hmeets hvisits hquiet
  rw [hcount, overflow, hnum] at hzero
  exact absurd hzero (by decide)

end OnePlus9.System
