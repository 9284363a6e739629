import OnePlus9.Sensors.Equiv.Session
import OnePlus9.Sensors.Equiv.Threads
import OnePlus9.Sensors.Equiv.WakeUps

/-!
# The two counters of wake-up events

`processEvents` counts the wake-up events of a batch while it filters it, and `countNumWakeupEvents`
recounts a prefix of what is left of the batch when a chunk of it is dropped.  Both insert entries
into `mSensors`, and neither changes what a lookup reads, so they agree on every split of a batch
(`split_eventsOut`).

In a run, what is queued is the end of a batch that a `postEventsToMessageQueue` call has posted,
and the number stored with it is the one that this call counted (`Queued.exists_posted`).  Hence the
recount of a dropped chunk is a part of that number (`recount_add`).
-/

namespace OnePlus9

open PendingWrites

/-! ### Splits of a batch -/

/-- The number that `processEvents` returns, read off the table that it leaves. -/
theorem HalProxyCallback.numWakeupEvents_eq_numWakeUps (i : Int32) (events : List Event)
    (mSensors : SensorMap) :
    (processEvents i events mSensors).numWakeupEvents
      = (processEvents i events mSensors).mSensors.numWakeUps
          (processEvents i events mSensors).eventsOut := by
  have hwake := isWakeUp_processEvents i events mSensors
  rw [numWakeupEvents_processEvents, SensorMap.numWakeUps, hwake]
  rfl

/-- **The recounts of a prefix and of the rest** add up to the number that `processEvents`
returns. -/
theorem HalProxyCallback.split_eventsOut (i : Int32) (events : List Event) (mSensors : SensorMap)
    (k : ℕ) :
    let out := processEvents i events mSensors
    let first := countNumWakeupEvents out.mSensors out.eventsOut k
    first.1
        + (countNumWakeupEvents first.2 (out.eventsOut.drop k) (out.eventsOut.length - k)).1
      = out.numWakeupEvents := by
  intro out first
  have hsplit := countNumWakeupEvents_take_add_drop out.mSensors out.eventsOut k
  exact hsplit.trans (numWakeupEvents_eq_numWakeUps i events mSensors).symm

namespace System

variable {c : Constants} {s t : System} {a : Action} {as : List Action}
  {subHalList : List SubHalWrapper} {events : List PostedEvent} {n : ℕ}

/-! ### Where a queued batch comes from -/

/-- The step is the `postEventsToMessageQueue` call of a batch with a number, which it counts if the
wakelock of the call is locked and the threads run. -/
structure PostsBatch (s : System) (a : Action) (t : System) (post : Post)
    (events : List PostedEvent) (n : ℕ) : Prop where
  call : ∃ k availableToWrite writeOk dt,
    a = .postEventsToMessageQueue k availableToWrite writeOk dt ∧ s.posts[k]? = some post
  processed : ∃ eventsOut, post.pc = .processed eventsOut n ∧ events = s.stamp post eventsOut
  credited : t.proxy.wakelock.mWakelockRefCount
    = s.proxy.wakelock.mWakelockRefCount
      + if post.wakelock.isSome && s.proxy.mThreadsRun then n else 0

/-- The events are the end of a queued batch with this number. -/
def Queued (s : System) (events : List PostedEvent) (n : ℕ) : Prop :=
  ∃ batch ∈ s.proxy.pendingWrites.mPendingWriteEventsQueue, events <:+ batch.1 ∧ batch.2 = n

theorem Queued.of_subset (h : Queued t events n)
    (hqueue : t.proxy.pendingWrites.mPendingWriteEventsQueue
      ⊆ s.proxy.pendingWrites.mPendingWriteEventsQueue) : Queued s events n := by
  obtain ⟨batch, hbatch, hsuffix, hn⟩ := h
  exact ⟨batch, hqueue hbatch, hsuffix, hn⟩

/-- A step of `postEvents` is the call of its batch. -/
theorem postsBatch_postBatch {k avail : ℕ} {ok : Bool} {dt : ℕ} {post : Post}
    {eventsOut : List Event} (hk : s.posts[k]? = some post)
    (hpc : post.pc = .processed eventsOut n) :
    PostsBatch s (.postEventsToMessageQueue k avail ok dt)
      (s.postBatch c k post (s.stamp post eventsOut) n avail ok (s.clock + dt)) post
      (s.stamp post eventsOut) n := by
  refine ⟨⟨k, avail, ok, dt, rfl, hk⟩, ⟨eventsOut, hpc, rfl⟩, ?_⟩
  unfold postBatch HalProxy.postEventsToMessageQueue
  dsimp only
  rcases post.wakelock.isSome
  · rfl
  · rcases hrun : s.proxy.mThreadsRun
    · rfl
    · rfl

/-- **What is queued after a step** was queued before it, or the step has posted it. -/
theorem Queued.cases (hstep : step c s a = some t) (h : Queued t events n) :
    Queued s events n ∨ ∃ post posted, PostsBatch s a t post posted n ∧ events <:+ posted := by
  cases step_cases hstep with
  | postEvents k avail ok dt post eventsOut m hk hpc hfree =>
    obtain ⟨batch, hbatch, hsuffix, hn⟩ := h
    rcases mem_pushLeft hbatch with hold | rfl
    · exact Or.inl ⟨batch, hold, hsuffix, hn⟩
    · dsimp only at hsuffix hn
      subst hn
      exact Or.inr ⟨post, s.stamp post eventsOut, postsBatch_postBatch hk hpc,
        hsuffix.trans (List.drop_suffix _ _)⟩
  | finishWrite ok q m hpc =>
    obtain ⟨batch, hbatch, hsuffix, hn⟩ := h
    obtain ⟨batch', hbatch', hsuffix', hn'⟩ := mem_finishWrite hbatch
    exact Or.inl ⟨batch', hbatch', hsuffix.trans hsuffix', hn'.symm.trans hn⟩
  | perform request =>
    apply Or.inl
    apply h.of_subset
    show (s.proxy.perform request).pendingWrites.mPendingWriteEventsQueue ⊆ _
    rw [(HalProxy.sameQueues_perform s.proxy request).pendingWrites]
    exact List.Subset.refl _
  | initStage dt stage args hstage henabled =>
    exact Or.inl (h.of_subset (queue_initStage_subset s.proxy args _ stage))
  | _ => exact Or.inl (h.of_subset (List.Subset.refl _))

/-- A `postEventsToMessageQueue` call of the run is that of the batch, with this number. -/
def PostedIn (c : Constants) (s : System) (as : List Action) (post : Post)
    (events : List PostedEvent) (n : ℕ) : Prop :=
  ∃ as₁ a as₂ u v, as = as₁ ++ a :: as₂ ∧ (machine c).run s as₁ = some u
    ∧ (machine c).step u a = some v ∧ PostsBatch u a v post events n

/-- **Every queued batch is the end of one that was posted**, with its number. -/
theorem Queued.exists_posted (hrun : (machine c).run (start subHalList) as = some t)
    (h : Queued t events n) :
    ∃ post posted, PostedIn c (start subHalList) as post posted n ∧ events <:+ posted := by
  have hempty : ¬Queued (start subHalList) events n := by
    rintro ⟨batch, hbatch, _, _⟩
    exact nomatch hbatch
  have hcases : ∀ u a v, (machine c).step u a = some v → Queued v events n →
      Queued u events n ∨ ∃ post posted, PostsBatch u a v post posted n ∧ events <:+ posted :=
    fun u a v hstep hqueued => hqueued.cases hstep
  obtain ⟨as₁, a, as₂, u, v, heq, hbefore, hstep, post, posted, hposts, hsuffix⟩ :=
    Machine.exists_origin hcases hempty hrun h
  exact ⟨post, posted, ⟨as₁, a, as₂, u, v, heq, hbefore, hstep, hposts⟩, hsuffix⟩

/-- The number of a posted batch is that of its wake-up events, in every later state too. -/
theorem PostedIn.wakeUps_eq {post : Post} (hrun : (machine c).run (start subHalList) as = some t)
    (h : PostedIn c (start subHalList) as post events n) : t.wakeUps events = n := by
  obtain ⟨as₁, a, as₂, u, v, heq, hbefore, hstep, hposts⟩ := h
  have hu : (machine c).Visits (start subHalList) as₁ u := Machine.visits_of_run _ hbefore
  have ht : (machine c).Visits (start subHalList) as t := Machine.visits_of_run _ hrun
  have hinfo : SensorMap.info t.proxy.mSensors = SensorMap.info u.proxy.mSensors :=
    (info_of_visits ht).trans (info_of_visits hu).symm
  obtain ⟨k, _, _, _, _, hk⟩ := hposts.call
  obtain ⟨eventsOut, hpc, rfl⟩ := hposts.processed
  have hcount : u.wakeUps (u.stamp post eventsOut) = n :=
    (counted_of_visits hu).wakeUps_stamp hk hpc
  rw [← hcount]
  exact SensorMap.numWakeUps_congr (SensorMap.isWakeUp_congr hinfo) _

/-! ### The number in hand -/

/-- The number that the pending-writes thread has in hand is the one stored with the front batch,
and it is positive after a failed write. -/
def HoldsStored (queue : List (List PostedEvent × ℕ)) : WriterPc → Prop
  | .writing stored _ _ => ∃ front rest, queue = (front, stored) :: rest
  | .failed stored _ _ => 0 < stored ∧ ∃ front rest, queue = (front, stored) :: rest
  | _ => True

/-- New batches leave the front one in place. -/
theorem HoldsStored.of_prefix {queue queue' : List (List PostedEvent × ℕ)} {pc : WriterPc}
    (h : HoldsStored queue pc) (hpre : queue <+: queue') : HoldsStored queue' pc := by
  obtain ⟨more, rfl⟩ := hpre
  cases pc with
  | writing stored q n =>
    obtain ⟨front, rest, hq⟩ := h
    exact ⟨front, rest ++ more, by rw [hq, List.cons_append]⟩
  | failed stored q n =>
    obtain ⟨hpos, front, rest, hq⟩ := h
    exact ⟨hpos, front, rest ++ more, by rw [hq, List.cons_append]⟩
  | _ => trivial

/-- **The number in hand** stays the stored one. -/
theorem holdsStored_step (hcoh : Coherent s)
    (h : HoldsStored s.proxy.pendingWrites.mPendingWriteEventsQueue s.writer)
    (hstep : step c s a = some t) :
    HoldsStored t.proxy.pendingWrites.mPendingWriteEventsQueue t.writer := by
  cases step_cases hstep with
  | postEvents k avail ok dt post events n hk hpc hfree => exact h.of_prefix isPrefix_pushLeft
  | select ok front stored rest hpc hrun hq => exact ⟨front, rest, hq⟩
  | dropChunk stored q n hpc =>
    rw [hpc] at h
    show HoldsStored _ (if stored > 0 then .failed stored q n else .relocking q n)
    split_ifs with hpos
    · exact ⟨hpos, h⟩
    · trivial
  | wake | exitWriter | writeChunk | giveBack | finishWrite => trivial
  | perform request =>
    show HoldsStored (s.proxy.perform request).pendingWrites.mPendingWriteEventsQueue s.writer
    rw [(HalProxy.sameQueues_perform s.proxy request).pendingWrites]
    exact h
  | initStage dt stage args hstage henabled =>
    show HoldsStored (s.proxy.initStage args _ stage).pendingWrites.mPendingWriteEventsQueue
      (if stage = .startThreads then .waiting else s.writer)
    by_cases hclear : stage = .clearPendingQueue
    · -- The thread was joined before.
      subst hclear
      have hstopped : s.writer = .stopped := (hcoh.joined _ args hstage rfl).1
      rw [if_neg (by decide), hstopped]
      trivial
    · rw [queue_initStage s.proxy args _ hclear]
      split_ifs
      · trivial
      · exact h
  | _ => exact h

theorem holdsStored_of_visits (hv : (machine c).Visits (start subHalList) as t) :
    HoldsStored t.proxy.pendingWrites.mPendingWriteEventsQueue t.writer := by
  have hinv : Coherent t
      ∧ HoldsStored t.proxy.pendingWrites.mPendingWriteEventsQueue t.writer := by
    refine Machine.invariant_of_step (I := fun s => Coherent s
      ∧ HoldsStored s.proxy.pendingWrites.mPendingWriteEventsQueue s.writer) ?_
      ⟨coherent_start subHalList, trivial⟩ hv
    rintro s a t ⟨hcoh, hholds⟩ hstep
    exact ⟨hcoh.step hstep, holdsStored_step hcoh hholds hstep⟩
  exact hinv.2

/-! ### A dropped chunk -/

/-- The claims given back for the head of a batch are a recount. -/
theorem numToGiveBack_of_failed {stored q m : ℕ} {front : List PostedEvent}
    (hv : (machine c).Visits (start subHalList) as t) (hpc : t.writer = .failed stored q m)
    (hlong : q < front.length) :
    numToGiveBack t.proxy.mSensors front stored q
      = countNumWakeupEvents t.proxy.mSensors front q := by
  have hholds := holdsStored_of_visits hv
  rw [hpc] at hholds
  rw [numToGiveBack, if_pos hholds.1, if_pos hlong]

/-- **The recount of a chunk** off a queued batch, and the wake-up events in the rest of the posted
batch, add up to the number of the batch. -/
theorem recount_add {q : ℕ} {front : List PostedEvent} {rest : List (List PostedEvent × ℕ)}
    (hrun : (machine c).run (start subHalList) as = some t)
    (hq : t.proxy.pendingWrites.mPendingWriteEventsQueue = (front, n) :: rest) :
    ∃ post before, PostedIn c (start subHalList) as post (before ++ front) n
      ∧ (countNumWakeupEvents t.proxy.mSensors front q).1 + t.wakeUps (before ++ front.drop q)
        = n := by
  have hqueued : Queued t front n :=
    ⟨(front, n), hq ▸ List.mem_cons_self, List.suffix_rfl, rfl⟩
  obtain ⟨post, posted, hposted, before, rfl⟩ := hqueued.exists_posted hrun
  have hcount : t.wakeUps (before ++ front) = n := hposted.wakeUps_eq hrun
  have hsplit := wakeUps_take_add_drop t front q
  refine ⟨post, before, hposted, ?_⟩
  rw [countNumWakeupEvents_fst, wakeUps_append]
  rw [wakeUps_append] at hcount
  show t.wakeUps (front.take q) + _ = n
  omega

/-! ### The counters agree -/

/-- **The two counters of wake-up events agree on every split.**  For every sensor table and every
batch, `processEvents` returns the events that the pick-up filter does not remove, in order and with
the handles of the proxy, and the recounts of any prefix of them and of the rest add up to the
number it returns.  In every run, the recount of a dropped chunk is therefore a part of the number
that the `postEventsToMessageQueue` call of its batch has counted. -/
theorem wakeUpCounters_agree :
    (∀ (i : Int32) (events : List Event) (mSensors : SensorMap),
      let out := HalProxyCallback.processEvents i events mSensors
      List.Forall₂ (HalProxyCallback.Carries (sizeOfInt32 i))
          (events.filter fun event =>
            !HalProxyCallback.isRemoved (sizeOfInt32 i) mSensors event)
          out.eventsOut
        ∧ ∀ k ≤ out.eventsOut.length,
          let first := countNumWakeupEvents out.mSensors out.eventsOut k
          first.1
              + (countNumWakeupEvents first.2 (out.eventsOut.drop k)
                  (out.eventsOut.length - k)).1
            = out.numWakeupEvents)
    ∧ ∀ (c : Constants) (subHalList : List SubHalWrapper) (as : List Action) (t : System)
        (stored q m n : ℕ) (front : List PostedEvent) (rest : List (List PostedEvent × ℕ)),
      (machine c).run (start subHalList) as = some t →
      t.writer = .failed stored q m →
      t.proxy.pendingWrites.mPendingWriteEventsQueue = (front, n) :: rest →
      q < front.length →
        numToGiveBack t.proxy.mSensors front stored q
            = countNumWakeupEvents t.proxy.mSensors front q
          ∧ (countNumWakeupEvents t.proxy.mSensors front q).1 ≤ n
          ∧ ∃ post before, PostedIn c (start subHalList) as post (before ++ front) n
            ∧ (countNumWakeupEvents t.proxy.mSensors front q).1
                + t.wakeUps (before ++ front.drop q) = n := by
  constructor
  · intro i events mSensors out
    refine ⟨HalProxyCallback.carries_processEvents i events mSensors, ?_⟩
    intro k _
    exact HalProxyCallback.split_eventsOut i events mSensors k
  · intro c subHalList as t stored q m n front rest hrun hpc hq hlong
    obtain ⟨post, before, hposted, hadd⟩ := recount_add (q := q) hrun hq
    have hv : (machine c).Visits (start subHalList) as t := Machine.visits_of_run _ hrun
    refine ⟨numToGiveBack_of_failed hv hpc hlong, ?_, post, before, hposted, hadd⟩
    omega

/-- Three events of a wake-up sensor, with a non-zero pick-up sample between them. -/
def threeAndSample : List Event := [wakeUpEvent, wakeUpEvent, notPickedUp, wakeUpEvent]

/-- The second sub-HAL posts the batch, its wake-up events are queued behind an event queue for two,
and the blocking write of the first two fails. -/
def dropTwoOfThree : List Action :=
  initialization sampleArgs ++
    [.createScopedWakelock 1, .testThreadsRunning 1 threeAndSample (some 0), .processEvents 0,
      .postEventsToMessageQueue 0 0 true 0] ++ List.replicate 3 (.handlePendingWrites false)

/-- The three events arrive with the handle advertised for sensor 2 of the second sub-HAL, and the
recount of the two that are dropped is a part of their number. -/
theorem wakeUpCounters_agree_dropTwoOfThree :
    ∃ t front, (machine sampleConstants).run (start [pickUpSubHal, pickUpSubHal]) dropTwoOfThree
        = some t
      ∧ t.proxy.pendingWrites.mPendingWriteEventsQueue = [(front, 3)]
      ∧ front.map (fun posted => posted.event.sensorHandle) = List.replicate 3 0x01000002
      ∧ List.Forall₂ (HalProxyCallback.Carries 1) (List.replicate 3 wakeUpEvent)
          (HalProxyCallback.processEvents 1 threeAndSample t.proxy.mSensors).eventsOut
      ∧ (countNumWakeupEvents t.proxy.mSensors front 2).1 = 2
      ∧ (countNumWakeupEvents t.proxy.mSensors front 2).1 ≤ 3 := by
  have hview : ((machine sampleConstants).run (start [pickUpSubHal, pickUpSubHal])
      dropTwoOfThree).map
        (fun t => (t.writer, t.proxy.pendingWrites.mPendingWriteEventsQueue.map
          fun batch => (batch.1.map fun posted => posted.event.sensorHandle, batch.2,
            (countNumWakeupEvents t.proxy.mSensors batch.1 2).1)))
        = some (.failed 3 2 2, [(List.replicate 3 0x01000002, 3, 2)]) := by decide
  have hfilter : ((machine sampleConstants).run (start [pickUpSubHal, pickUpSubHal])
      dropTwoOfThree).map
        (fun t => threeAndSample.filter fun event =>
          !HalProxyCallback.isRemoved 1 t.proxy.mSensors event)
        = some (List.replicate 3 wakeUpEvent) := by decide
  obtain ⟨t, hrun, ht⟩ := Option.map_eq_some_iff.mp hview
  obtain ⟨hpc, hqueue⟩ := Prod.mk.inj ht
  rw [hrun] at hfilter
  have hkept : (threeAndSample.filter fun event =>
      !HalProxyCallback.isRemoved 1 t.proxy.mSensors event) = List.replicate 3 wakeUpEvent :=
    Option.some.inj hfilter
  have hcarries := (wakeUpCounters_agree.1 1 threeAndSample t.proxy.mSensors).1
  rw [show sizeOfInt32 1 = 1 from by decide, hkept] at hcarries
  rcases hq : t.proxy.pendingWrites.mPendingWriteEventsQueue with _ | ⟨⟨front, n⟩, rest⟩
  · rw [hq] at hqueue
    exact nomatch hqueue
  · rw [hq, List.map_cons] at hqueue
    obtain ⟨hfirst, hnone⟩ := List.cons.inj hqueue
    obtain ⟨hhandles, hsecond⟩ := Prod.mk.inj hfirst
    obtain ⟨hn, htwo⟩ := Prod.mk.inj hsecond
    dsimp only at hhandles hn htwo
    obtain rfl := List.map_eq_nil_iff.mp hnone
    subst hn
    have hlength : front.length = 3 := by
      rw [← List.length_map (fun posted : PostedEvent => posted.event.sensorHandle), hhandles,
        List.length_replicate]
    have hlong : 2 < front.length := by omega
    exact ⟨t, front, hrun, hq, hhandles, hcarries, htwo,
      (wakeUpCounters_agree.2 _ _ _ t 3 2 2 _ front [] hrun hpc hq hlong).2.1⟩

end System

end OnePlus9
