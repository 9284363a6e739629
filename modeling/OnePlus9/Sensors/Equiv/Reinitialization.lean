import OnePlus9.Sensors.Equiv.Session
import OnePlus9.Sensors.Equiv.Stages
import OnePlus9.Sensors.Equiv.Threads

/-!
# Events that cross an initialization

`postEvents` tests `areThreadsRunning` first and posts later, and `initializeCommon` replaces the
queues without taking the mutex under which events are posted.  So a `postEvents` call that began
before `stopThreads` can still post into the queues of the next session (`crosses`).

`noneCrossed_iff` says that this is the only way: no queue ever holds an event of an earlier session
if and only if no step of the run is such a post.  `exists_crossing` shows one.
-/

namespace OnePlus9.System

variable {c : Constants} {s t : System} {a : Action} {as : List Action}

/-! ### Crossing -/

/-- No queue holds an event whose `postEvents` began before the session of the queue. -/
structure NoneCrossed (s : System) : Prop where
  written : ∀ e ∈ s.proxy.eventQueue.written, s.history.queueSession ≤ e.session
  pending : ∀ e ∈ s.proxy.pendingWrites.pendingEvents, s.history.pendingSession ≤ e.session

/-- The action posts events of an earlier session into a queue: it writes directly, with the event
queue replaced since, or it queues, with the pending queue replaced since. -/
def crosses (c : Constants) (s : System) : Action → Bool
  | .postEventsToMessageQueue k avail ok _ =>
    match s.posts[k]? with
    | none => false
    | some post =>
      match post.pc with
      | .tested _ => false
      | .processed events _ =>
        let numToWrite := s.proxy.pendingWrites.numToWrite events.length avail ok
        decide (post.session < s.history.queueSession) && decide (0 < numToWrite)
          || decide (post.session < s.history.pendingSession)
            && s.proxy.pendingWrites.queuesLeft c.kMaxSizePendingWriteEventsQueue events.length
              numToWrite
  | _ => false

/-- In the order in which they change: the sessions of the event queue and of the pending queue. -/
structure SessionsOrdered (s : System) : Prop where
  queue : s.history.queueSession ≤ s.history.pendingSession
  pending : s.history.pendingSession ≤ s.history.session
  past : Past .clearPendingQueue s → s.history.pendingSession = s.history.session

theorem sessionsOrdered_start (subHalList : List SubHalWrapper) :
    SessionsOrdered (start subHalList) :=
  ⟨Nat.le_refl _, Nat.le_refl _, fun _ => rfl⟩

/-! ### Sessions -/

/-- A step that leaves the sessions and the stage alone. -/
theorem SessionsOrdered.of_same (h : SessionsOrdered s)
    (hsession : t.history.session = s.history.session)
    (hpending : t.history.pendingSession = s.history.pendingSession)
    (hqueue : t.history.queueSession = s.history.queueSession)
    (hstage : t.initializing = s.initializing) : SessionsOrdered t := by
  refine ⟨?_, ?_, fun hpast => ?_⟩
  · rw [hqueue, hpending]
    exact h.queue
  · rw [hpending, hsession]
    exact h.pending
  · rw [hpending, hsession]
    exact h.past fun next args hnext => hpast next args (hstage.trans hnext)

theorem SessionsOrdered.afterStage (h : SessionsOrdered s) {stage : HalProxy.InitStage}
    {args : HalProxy.InitializeArgs} (now : ℕ) (hstage : s.initializing = some (stage, args)) :
    SessionsOrdered (s.afterStage stage args now) := by
  have hpast : stage ≠ .clearPendingQueue → Past .clearPendingQueue (s.afterStage stage args now) →
      s.history.pendingSession = s.history.session := by
    intro hne hafter
    rcases hafter.of_afterStage hstage with heq | hbefore
    · exact absurd heq.symm hne
    · exact h.past hbefore
  cases stage with
  | clearPendingQueue =>
    exact ⟨Nat.le_trans h.queue h.pending, Nat.le_refl _, fun _ => rfl⟩
  | setEventQueue =>
    -- The pending queue was replaced in this session.
    have hbefore : s.history.pendingSession = s.history.session := by
      apply h.past
      intro next args' hnext
      obtain ⟨rfl, -⟩ := Prod.mk.inj (Option.some.inj (hstage.symm.trans hnext))
      decide
    exact ⟨Nat.le_of_eq hbefore.symm, h.pending, fun _ => hbefore⟩
  | _ => exact ⟨h.queue, h.pending, hpast (by decide)⟩

theorem SessionsOrdered.step (h : SessionsOrdered s) (hstep : System.step c s a = some t) :
    SessionsOrdered t := by
  cases step_cases hstep with
  | initializeCommon args hidle =>
    refine ⟨h.queue, Nat.le_succ_of_le h.pending, fun hpast => ?_⟩
    exact absurd (hpast _ _ rfl) (Nat.not_lt_zero _)
  | initStage dt stage args hstage henabled => exact h.afterStage _ hstage
  | _ => exact h.of_same rfl rfl rfl rfl

/-! ### One step -/

/-- A step that moves no event into a queue. -/
theorem NoneCrossed.of_subset (h : NoneCrossed s)
    (hwritten : t.proxy.eventQueue.written = s.proxy.eventQueue.written)
    (hpending : t.proxy.pendingWrites.pendingEvents ⊆ s.proxy.pendingWrites.pendingEvents)
    (hqueueSession : t.history.queueSession = s.history.queueSession)
    (hpendingSession : t.history.pendingSession = s.history.pendingSession) : NoneCrossed t := by
  refine ⟨fun e he => ?_, fun e he => ?_⟩
  · rw [hqueueSession]
    exact h.written e (hwritten ▸ he)
  · rw [hpendingSession]
    exact h.pending e (hpending he)

theorem NoneCrossed.afterStage (h : NoneCrossed s) (stage : HalProxy.InitStage)
    (args : HalProxy.InitializeArgs) (now : ℕ) : NoneCrossed (s.afterStage stage args now) := by
  cases stage with
  | disableAllSensors =>
    have hsame := HalProxy.sameQueues_disableAllSensors s.proxy
    refine h.of_subset (congrArg _ hsame.eventQueue) ?_ rfl rfl
    show s.proxy.disableAllSensors.pendingWrites.pendingEvents ⊆ _
    rw [hsame.pendingWrites]
    exact List.Subset.refl _
  | clearPendingQueue => exact ⟨h.written, fun e he => nomatch he⟩
  | setEventQueue => exact ⟨(fun e he => nomatch he), h.pending⟩
  | _ => exact ⟨h.written, h.pending⟩

theorem session_stamp {post : Post} {events : List Event} {e : PostedEvent}
    (h : e ∈ s.stamp post events) : e.session = post.session := by
  obtain ⟨i, _, rfl⟩ := List.mem_mapIdx.mp h
  rfl

/-- A post keeps the sessions apart unless it crosses. -/
theorem noneCrossed_postBatch (h : NoneCrossed s) {k avail : ℕ} {ok : Bool} {dt : ℕ} {post : Post}
    {events : List Event} {n : ℕ} (hk : s.posts[k]? = some post)
    (hpc : post.pc = .processed events n) :
    NoneCrossed (s.postBatch c k post (s.stamp post events) n avail ok (s.clock + dt))
      ↔ crosses c s (.postEventsToMessageQueue k avail ok dt) = false := by
  have hlength : (s.stamp post events).length = events.length := by simp [stamp]
  have hsession : ∀ e ∈ s.stamp post events, e.session = post.session := fun e => session_stamp
  have hle : s.proxy.pendingWrites.numToWrite events.length avail ok ≤ events.length :=
    PendingWrites.numToWrite_le
  have hcrosses : crosses c s (.postEventsToMessageQueue k avail ok dt) = false
      ↔ (0 < s.proxy.pendingWrites.numToWrite events.length avail ok →
          s.history.queueSession ≤ post.session)
        ∧ (s.proxy.pendingWrites.queuesLeft c.kMaxSizePendingWriteEventsQueue events.length
            (s.proxy.pendingWrites.numToWrite events.length avail ok) = true →
          s.history.pendingSession ≤ post.session) := by
    simp only [crosses, hk, hpc]
    cases s.proxy.pendingWrites.queuesLeft c.kMaxSizePendingWriteEventsQueue events.length
      (s.proxy.pendingWrites.numToWrite events.length avail ok) <;>
    simp only [Bool.or_eq_false_iff, Bool.and_eq_false_iff, decide_eq_false_iff_not, Bool.and_true,
      Bool.and_false, true_imp_iff, Bool.false_eq_true, false_imp_iff, and_true] <;>
    omega
  rw [hcrosses]
  generalize s.stamp post events = stamped at hlength hsession ⊢
  generalize hm : s.proxy.pendingWrites.numToWrite events.length avail ok = m at hle ⊢
  have hwritten : (s.postBatch c k post stamped n avail ok (s.clock + dt)).proxy.eventQueue.written
      = s.proxy.eventQueue.written ++ stamped.take m := by
    show _ ++ stamped.take (s.proxy.pendingWrites.numToWrite stamped.length avail ok) = _
    rw [hlength, hm]
  have hpending : (s.postBatch c k post stamped n avail ok
        (s.clock + dt)).proxy.pendingWrites.pendingEvents
      = s.proxy.pendingWrites.pendingEvents
        ++ if s.proxy.pendingWrites.queuesLeft c.kMaxSizePendingWriteEventsQueue events.length m
          then stamped.drop m else [] := by
    show (s.proxy.pendingWrites.pushLeft _ stamped n
      (s.proxy.pendingWrites.numToWrite stamped.length avail ok)).pendingEvents = _
    rw [PendingWrites.pendingEvents_pushLeft, hlength, hm]
  constructor
  · intro ht
    refine ⟨fun hpos => ?_, fun hqueues => ?_⟩
    · -- Any event written directly shows the session of the post.
      have hne : 0 < (stamped.take m).length := by
        rw [List.length_take, hlength]
        omega
      obtain ⟨e, he⟩ := List.exists_mem_of_length_pos hne
      rw [← hsession e (List.mem_of_mem_take he)]
      exact ht.written e (hwritten ▸ List.mem_append_right _ he)
    · -- So does any event that is queued.
      have hlt : m < events.length := by
        simp only [PendingWrites.queuesLeft, Bool.and_eq_true, decide_eq_true_eq] at hqueues
        exact hqueues.1
      have hne : 0 < (stamped.drop m).length := by
        rw [List.length_drop, hlength]
        omega
      obtain ⟨e, he⟩ := List.exists_mem_of_length_pos hne
      rw [← hsession e (List.mem_of_mem_drop he)]
      refine ht.pending e ?_
      rw [hpending, if_pos hqueues]
      exact List.mem_append_right _ he
  · rintro ⟨hdirect, hqueued⟩
    refine ⟨fun e he => ?_, fun e he => ?_⟩
    · rw [hwritten] at he
      rcases List.mem_append.mp he with hold | hnew
      · exact h.written e hold
      · have hpos : 0 < m := by
          have hne := List.length_pos_of_mem hnew
          rw [List.length_take] at hne
          omega
        rw [hsession e (List.mem_of_mem_take hnew)]
        exact hdirect hpos
    · rw [hpending] at he
      rcases List.mem_append.mp he with hold | hnew
      · exact h.pending e hold
      · split_ifs at hnew with hqueues
        · rw [hsession e (List.mem_of_mem_drop hnew)]
          exact hqueued hqueues
        · exact absurd hnew List.not_mem_nil

/-- A chunk holds pending events. -/
theorem chunk_subset_pendingEvents (n : ℕ) : s.chunk n ⊆ s.proxy.pendingWrites.pendingEvents := by
  intro e he
  have hfront := List.mem_of_mem_take he
  unfold PendingWrites.pendingEvents
  cases hq : s.proxy.pendingWrites.mPendingWriteEventsQueue with
  | nil =>
    rw [hq] at hfront
    exact nomatch hfront
  | cons batch rest =>
    rw [hq] at hfront
    exact List.mem_append_left _ hfront

/-- **One step** keeps the sessions apart if and only if it does not cross. -/
theorem noneCrossed_step_iff (hcoh : Coherent s) (hs : SessionsOrdered s) (h : NoneCrossed s)
    (hstep : step c s a = some t) : NoneCrossed t ↔ crosses c s a = false := by
  have hkept : ∀ {u : System} {b : Action}, NoneCrossed u → crosses c s b = false →
      (NoneCrossed u ↔ crosses c s b = false) := fun h₁ h₂ => iff_of_true h₁ h₂
  cases step_cases hstep with
  | postEvents k avail ok dt post events n hk hpc hfree => exact noneCrossed_postBatch h hk hpc
  | writeChunk stored q n hpc =>
    -- Pending events are at least as young as the pending queue, and that as the event queue.
    refine hkept ⟨fun e he => ?_, h.pending⟩ rfl
    rcases List.mem_append.mp he with hold | hnew
    · exact h.written e hold
    · exact Nat.le_trans hs.queue (h.pending e (chunk_subset_pendingEvents n hnew))
  | finishWrite ok q n hpc =>
    obtain ⟨front, stored, rest, hq, rfl⟩ := hcoh.inHand hpc
    refine hkept (h.of_subset rfl ?_ rfl rfl) rfl
    dsimp only
    rw [PendingWrites.pendingEvents_finishWrite hq]
    exact List.drop_subset _ _
  | perform request =>
    have hsame := HalProxy.sameQueues_perform s.proxy request
    refine hkept (h.of_subset (congrArg _ hsame.eventQueue) ?_ rfl rfl) rfl
    dsimp only
    rw [hsame.pendingWrites]
    exact List.Subset.refl _
  | initStage dt stage args hstage henabled => exact hkept (h.afterStage stage args _) rfl
  | _ => exact hkept ⟨h.written, h.pending⟩ rfl

/-! ### Runs -/

/-- **No event crosses an initialization**, in every state of every run, if and only if no step of
the run posts events of an earlier session into a queue. -/
theorem noneCrossed_iff (c : Constants) (subHalList : List SubHalWrapper) (as : List Action) :
    (∀ t, (machine c).Visits (start subHalList) as t →
        (∀ e ∈ t.proxy.eventQueue.written, t.history.queueSession ≤ e.session)
          ∧ ∀ e ∈ t.proxy.pendingWrites.pendingEvents, t.history.pendingSession ≤ e.session)
      ↔ (machine c).Meets (fun s a => crosses c s a = false) (start subHalList) as := by
  refine Machine.always_iff_meets (d := fun _ _ => True)
    (I := fun s => Coherent s ∧ SessionsOrdered s ∧ NoneCrossed s)
    (fun s h => ⟨h.2.2.written, h.2.2.pending⟩) ?_ ?_
    ⟨coherent_start subHalList, sessionsOrdered_start subHalList, ?_⟩
    (Machine.meets_of_forall fun _ _ => trivial)
  · rintro s a t ⟨hcoh, hs, h⟩ - hc hstep
    exact ⟨hcoh.step hstep, hs.step hstep, (noneCrossed_step_iff hcoh hs h hstep).mpr hc⟩
  · rintro s a t ⟨hcoh, hs, h⟩ - hc hstep ⟨hwritten, hpending⟩
    exact hc ((noneCrossed_step_iff hcoh hs h hstep).mp ⟨hwritten, hpending⟩)
  · exact ⟨(fun e he => nomatch he), (fun e he => nomatch he)⟩

/-- A sub-HAL has tested `areThreadsRunning` when the framework initializes again, and posts
afterwards. -/
def postAcross : List Action :=
  initialization sampleArgs ++
    [.testThreadsRunning 0 [quietEvent] none, .processEvents 0, .initializeCommon sampleArgs,
      .handlePendingWrites true, .handlePendingWrites true, .handleWakelocks none 0 0 0] ++
    List.replicate 13 (.initStage 0) ++ [.postEventsToMessageQueue 0 2 true 0]

/-- In the end the new event queue holds the event. -/
theorem exists_crossing :
    ¬∀ t, (machine sampleConstants).Visits (start [pickUpSubHal]) postAcross t →
      (∀ e ∈ t.proxy.eventQueue.written, t.history.queueSession ≤ e.session)
        ∧ ∀ e ∈ t.proxy.pendingWrites.pendingEvents, t.history.pendingSession ≤ e.session := by
  intro hall
  obtain ⟨t, hvisits, ht⟩ := (machine sampleConstants).exists_visits (start [pickUpSubHal])
    postAcross (fun t => (t.proxy.eventQueue.written.map PostedEvent.session,
      t.history.queueSession)) ([1], 2) (by decide)
  obtain ⟨hwritten, hqueue⟩ := Prod.mk.inj ht
  obtain ⟨e, he, hsession⟩ := List.mem_map.mp (hwritten ▸ List.mem_singleton_self 1)
  have hle := (hall t hvisits).1 e he
  omega

end OnePlus9.System
