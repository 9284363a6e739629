import OnePlus9.Library.LossyChannel
import OnePlus9.Sensors.Equiv.Session
import OnePlus9.Sensors.Equiv.Threads

/-!
# Delivery of posted events

Seen from outside, posting and the pending-writes thread are a lossy channel: `channel s` has
the posted events as sent, the contents written to `mEventQueue` as received, and what is still to
be written as in transit.  Every step of every thread is a sequence of moves of the channel, except
the two stages of an initialization that replace a queue, where the history starts over
(`channel_step`).  So the channel is sound in every state (`sound_of_visits`).

`delivery` is the result in terms of events: delivery is in order, no event is delivered twice, and
an event that is neither delivered nor waiting was in a chunk whose blocking write failed or in a
rest that did not fit the pending queue.  `triesDirectWrite_of_writing` says that a post never
writes while the thread does.
-/

namespace OnePlus9.System

variable {c : Constants} {s t : System} {a : Action}

/-! ### The channel -/

/-- How many events of the front batch have been written or given up, but not taken off. -/
def doneWith : WriterPc → ℕ
  | .failed _ _ n | .relocking _ n => n
  | _ => 0

/-- The events still to be written. -/
def transit (s : System) : List PostedEvent :=
  s.proxy.pendingWrites.pendingEvents.drop (doneWith s.writer)

/-- The channel from the sub-HALs to the event queue. -/
def channel (s : System) : LossyChannel PostedEvent where
  sent := s.history.posted
  received := s.proxy.eventQueue.written
  transit := s.transit
  lost := s.history.losses.flatMap Loss.events

/-- The chunk in hand is the head of the pending events. -/
theorem chunk_eq_take {front : List PostedEvent} {stored q n : ℕ}
    {rest : List (List PostedEvent × ℕ)}
    (hq : s.proxy.pendingWrites.mPendingWriteEventsQueue = (front, stored) :: rest)
    (hn : n = min front.length q) :
    s.chunk n = s.proxy.pendingWrites.pendingEvents.take n := by
  rw [chunk, hq, hn, PendingWrites.take_pendingEvents hq]
  show front.take (min front.length q) = front.take q
  rw [Nat.min_comm, ← List.take_eq_take_min]

/-! ### Posts -/

theorem transit_of_doneWith (h : doneWith s.writer = 0) :
    s.transit = s.proxy.pendingWrites.pendingEvents := by
  rw [transit, h, List.drop_zero]

/-- While the threads are joined no chunk is in hand. -/
theorem transit_of_joined (h : Coherent s) {stage : HalProxy.InitStage}
    {args : HalProxy.InitializeArgs} (hstage : s.initializing = some (stage, args))
    (hjoined : stage.threadsJoined = true) :
    s.transit = s.proxy.pendingWrites.pendingEvents := by
  refine transit_of_doneWith ?_
  rw [(h.joined stage args hstage hjoined).1]
  rfl

/-- Nothing is in transit while nothing is pending. -/
theorem transit_of_empty (h : s.proxy.pendingWrites.mPendingWriteEventsQueue = []) :
    s.transit = [] := by
  rw [transit, PendingWrites.pendingEvents, h, List.flatMap_nil, List.drop_nil]

/-- What has been dealt with is pending. -/
theorem doneWith_le (h : Coherent s) :
    doneWith s.writer ≤ s.proxy.pendingWrites.pendingEvents.length := by
  cases hpc : s.writer with
  | failed stored q n | relocking q n =>
    obtain ⟨front, stored', rest, hq, rfl⟩ := h.inHand hpc
    rw [PendingWrites.pendingEvents, hq, List.flatMap_cons, List.length_append]
    exact Nat.le_trans (Nat.min_le_left _ _) (Nat.le_add_right _ _)
  | _ => exact Nat.zero_le _

/-- The rest of a batch that is queued is to be written after all else. -/
theorem transit_postBatch (h : Coherent s) (k : ℕ) (post : Post) (events : List PostedEvent)
    (numWakeupEvents availableToWrite : ℕ) (writeOk : Bool) (now n : ℕ)
    (hn : s.proxy.pendingWrites.numToWrite events.length availableToWrite writeOk = n) :
    (s.postBatch c k post events numWakeupEvents availableToWrite writeOk now).transit
      = s.transit ++
        if s.proxy.pendingWrites.queuesLeft c.kMaxSizePendingWriteEventsQueue events.length n
        then events.drop n else [] := by
  rw [transit, transit, ← List.drop_append_of_le_length (doneWith_le h),
    ← PendingWrites.pendingEvents_pushLeft, ← hn]
  rfl

/-- A post is a batch of the channel. -/
theorem steps_postBatch (h : Coherent s) (k : ℕ) (post : Post) (events : List PostedEvent)
    (numWakeupEvents availableToWrite : ℕ) (writeOk : Bool) (now : ℕ) :
    (channel s).Steps (channel
      (s.postBatch c k post events numWakeupEvents availableToWrite writeOk now)) := by
  generalize hn : s.proxy.pendingWrites.numToWrite events.length availableToWrite writeOk = n
  -- What is written directly overtakes nothing: nothing is pending then.
  have hempty : n = 0 ∨ (channel s).transit = [] := by
    by_cases hq : s.proxy.pendingWrites.mPendingWriteEventsQueue = []
    · exact Or.inr (transit_of_empty hq)
    · exact Or.inl (hn ▸ PendingWrites.numToWrite_of_pending hq)
  have hbatch := (channel s).steps_batch events n
    (s.proxy.pendingWrites.queuesLeft c.kMaxSizePendingWriteEventsQueue events.length n) hempty
  have htransit := transit_postBatch (c := c) h k post events numWakeupEvents availableToWrite
    writeOk now n hn
  have hchannel : channel (s.postBatch c k post events numWakeupEvents availableToWrite writeOk now)
      = { sent := s.history.posted ++ events
          received := s.proxy.eventQueue.written ++ events.take n
          transit := (s.postBatch c k post events numWakeupEvents availableToWrite writeOk
            now).transit
          lost := s.history.losses.flatMap Loss.events ++ s.refusedLeft c events n } := by
    rw [← hn]
    simp [channel, postBatch, HalProxy.postEventsToMessageQueue, EventMessageQueue.write,
      Loss.events]
  rw [hchannel, htransit]
  exact hbatch

/-! ### The pending-writes thread -/

/-- The chunk in hand is next. -/
theorem chunk_eq_take_transit (h : Coherent s) {stored q n : ℕ}
    (hpc : s.writer = .writing stored q n) : s.chunk n = s.transit.take n := by
  obtain ⟨front, stored', rest, hq, hn⟩ := h.inHand hpc
  rw [chunk_eq_take hq hn, transit_of_doneWith (by rw [hpc]; rfl)]

theorem transit_writeChunk {stored q n : ℕ} (hpc : s.writer = .writing stored q n) :
    (s.writeChunk q n).transit = s.transit.drop n := by
  rw [transit_of_doneWith (s := s) (by rw [hpc]; rfl)]
  rfl

theorem transit_dropChunk {stored q n : ℕ} (hpc : s.writer = .writing stored q n) :
    (s.dropChunk stored q n).transit = s.transit.drop n := by
  rw [transit_of_doneWith (s := s) (by rw [hpc]; rfl)]
  unfold dropChunk transit
  dsimp only
  split_ifs <;> rfl

theorem transit_giveBack {front : List PostedEvent} {stored q n : ℕ}
    (hpc : s.writer = .failed stored q n) :
    (s.giveBack front stored q n).transit = s.transit := by
  unfold giveBack transit
  rw [hpc]
  rfl

theorem transit_finishWrite (h : Coherent s) {q n : ℕ} (hpc : s.writer = .relocking q n) :
    transit { s with
      proxy.pendingWrites := s.proxy.pendingWrites.finishWrite q n
      writer := .waiting } = s.transit := by
  obtain ⟨front, stored, rest, hq, rfl⟩ := h.inHand hpc
  have hdone : doneWith s.writer = min front.length q := by rw [hpc]; rfl
  rw [transit_of_doneWith rfl, transit, hdone, ← PendingWrites.pendingEvents_finishWrite hq]

theorem steps_writeChunk (h : Coherent s) {stored q n : ℕ} (hpc : s.writer = .writing stored q n) :
    (channel s).Steps (channel (s.writeChunk q n)) := by
  have hchannel : channel (s.writeChunk q n) = { channel s with
      received := (channel s).received ++ (channel s).transit.take n
      transit := (channel s).transit.drop n } := by
    show LossyChannel.mk _ (s.proxy.eventQueue.written ++ s.chunk n)
        (s.writeChunk q n).transit _
      = { sent := _, received := s.proxy.eventQueue.written ++ s.transit.take n,
          transit := s.transit.drop n, lost := _ }
    rw [chunk_eq_take_transit h hpc, transit_writeChunk hpc]
    rfl
  rw [hchannel]
  exact .single (.deliver _ n)

theorem steps_dropChunk (h : Coherent s) {stored q n : ℕ} (hpc : s.writer = .writing stored q n) :
    (channel s).Steps (channel (s.dropChunk stored q n)) := by
  have hchannel : channel (s.dropChunk stored q n) = { channel s with
      transit := (channel s).transit.drop n
      lost := (channel s).lost ++ (channel s).transit.take n } := by
    show LossyChannel.mk _ _ (s.dropChunk stored q n).transit
        ((s.history.losses ++ [Loss.chunk (s.chunk n)]).flatMap Loss.events)
      = { sent := _, received := _, transit := s.transit.drop n, lost := _ ++ s.transit.take n }
    rw [chunk_eq_take_transit h hpc, transit_dropChunk hpc, List.flatMap_append,
      List.flatMap_singleton]
    rfl
  rw [hchannel]
  exact .single (.lose _ n)

theorem channel_finishWrite (h : Coherent s) {q n : ℕ} (hpc : s.writer = .relocking q n) :
    channel { s with
      proxy.pendingWrites := s.proxy.pendingWrites.finishWrite q n
      writer := .waiting } = channel s := by
  unfold channel
  rw [transit_finishWrite h hpc]

/-! ### All steps -/

/-- The stage replaces one of the two queues. -/
def ReplacesQueue (s : System) : Action → Prop
  | .initStage _ => ∃ args, s.initializing = some (.clearPendingQueue, args)
      ∨ s.initializing = some (.setEventQueue, args)
  | _ => False

/-- What the channel shows does not change. -/
theorem channel_eq (hproxy : HalProxy.SameQueues s.proxy t.proxy)
    (hwriter : doneWith t.writer = doneWith s.writer) (hhistory : t.history = s.history) :
    channel t = channel s := by
  unfold channel transit
  rw [hproxy.eventQueue, hproxy.pendingWrites, hwriter, hhistory]

/-- The history goes on over a stage that replaces no queue. -/
theorem recordStage_of_ne {stage : HalProxy.InitStage} (p : HalProxy PostedEvent) (h : History)
    (hclear : stage ≠ .clearPendingQueue) (hset : stage ≠ .setEventQueue) :
    recordStage stage p h = h := by
  cases stage with
  | clearPendingQueue => exact absurd rfl hclear
  | setEventQueue => exact absurd rfl hset
  | _ => rfl

/-- The stages that replace no queue do not show in the channel. -/
theorem channel_afterStage (h : Coherent s) {stage : HalProxy.InitStage}
    {args : HalProxy.InitializeArgs} {now : ℕ} (hstage : s.initializing = some (stage, args))
    (hclear : stage ≠ .clearPendingQueue) (hset : stage ≠ .setEventQueue) :
    channel (s.afterStage stage args now) = channel s := by
  have hwriter : doneWith (s.afterStage stage args now).writer = doneWith s.writer := by
    show doneWith (if stage = .startThreads then .waiting else s.writer) = _
    by_cases hstart : stage = .startThreads
    · rw [if_pos hstart, (h.joined stage args hstage (by rw [hstart]; rfl)).1]
      rfl
    · rw [if_neg hstart]
  have hhistory : (s.afterStage stage args now).history = s.history :=
    recordStage_of_ne _ _ hclear hset
  have hqueue : (s.afterStage stage args now).proxy.eventQueue = s.proxy.eventQueue := by
    cases stage with
    | setEventQueue => contradiction
    | disableAllSensors => exact (HalProxy.sameQueues_disableAllSensors s.proxy).eventQueue
    | _ => rfl
  unfold channel transit PendingWrites.pendingEvents
  rw [hwriter, hhistory, hqueue, System.afterStage, queue_initStage _ _ _ hclear]

/-- **Refinement.**  Every step of every thread is a sequence of moves of the channel, or replaces
a queue and starts the history over. -/
theorem channel_step (h : Coherent s) (hstep : step c s a = some t) :
    (channel s).Steps (channel t)
      ∨ ReplacesQueue s a ∧ t.history.losses = []
        ∧ t.history.posted = t.proxy.eventQueue.written ++ t.transit := by
  have hsame : ∀ {u : System}, channel u = channel s → (channel s).Steps (channel u) :=
    fun heq => heq ▸ .refl
  cases step_cases hstep with
  | postEvents k avail ok dt post events n hk hpc hfree => exact Or.inl (steps_postBatch h ..)
  | wake ok hpc hready => exact Or.inl (hsame (channel_eq (.refl _) (by rw [hpc]; rfl) rfl))
  | exitWriter ok hpc hrun => exact Or.inl (hsame (channel_eq (.refl _) (by rw [hpc]; rfl) rfl))
  | select ok front stored rest hpc hrun hq =>
    exact Or.inl (hsame (channel_eq (.refl _) (by rw [hpc]; rfl) rfl))
  | writeChunk stored q n hpc => exact Or.inl (steps_writeChunk h hpc)
  | dropChunk stored q n hpc => exact Or.inl (steps_dropChunk h hpc)
  | giveBack ok stored q n front stored' rest hpc hq =>
    refine Or.inl (hsame ?_)
    unfold channel
    rw [transit_giveBack hpc]
    rfl
  | finishWrite ok q n hpc => exact Or.inl (hsame (channel_finishWrite h hpc))
  | perform request =>
    exact Or.inl (hsame (channel_eq (HalProxy.sameQueues_perform s.proxy request) rfl rfl))
  | initStage dt stage args hstage henabled =>
    have hafter := h.step hstep
    -- The pending-writes thread does not exist, so no chunk is cut off from its batch.
    by_cases hclear : stage = .clearPendingQueue
    · subst hclear
      refine Or.inr ⟨⟨args, Or.inl hstage⟩, rfl, ?_⟩
      rw [transit_of_joined hafter rfl rfl]
      rfl
    · by_cases hset : stage = .setEventQueue
      · subst hset
        refine Or.inr ⟨⟨args, Or.inr hstage⟩, rfl, ?_⟩
        rw [transit_of_joined hafter rfl rfl]
        rfl
      · exact Or.inl (hsame (channel_afterStage h hstage hclear hset))
  | _ => exact Or.inl (hsame rfl)

theorem sound_step (h : Coherent s) (hsound : (channel s).Sound) (hstep : step c s a = some t) :
    (channel t).Sound := by
  rcases channel_step h hstep with hsteps | ⟨-, hlosses, hposted⟩
  · exact hsound.steps hsteps
  · refine LossyChannel.sound_of_eq hposted ?_
    rw [channel, hlosses, List.flatMap_nil]

/-! ### Serial numbers -/

/-- Posted events are numbered in order. -/
structure Numbered (s : System) : Prop where
  increasing : (s.history.posted.map PostedEvent.serial).Pairwise (· < ·)
  bounded : ∀ e ∈ s.history.posted, e.serial < s.history.numPosted

theorem map_serial_stamp (s : System) (post : Post) (events : List Event) :
    (s.stamp post events).map PostedEvent.serial
      = List.range' s.history.numPosted events.length := by
  refine List.ext_getElem (by simp [stamp]) fun i _ _ => ?_
  simp [stamp]

/-- Numbering goes on from a part of the history. -/
theorem Numbered.of_sublist (h : Numbered s) (hsub : t.history.posted.Sublist s.history.posted)
    (hnum : t.history.numPosted = s.history.numPosted) : Numbered t where
  increasing := h.increasing.sublist (hsub.map _)
  bounded := fun e he => hnum ▸ h.bounded e (hsub.subset he)

theorem Numbered.postBatch (h : Numbered s) (k : ℕ) (post : Post) (events : List Event)
    (numWakeupEvents availableToWrite : ℕ) (writeOk : Bool) (now : ℕ) :
    Numbered (s.postBatch c k post (s.stamp post events) numWakeupEvents availableToWrite writeOk
      now) := by
  -- The batch takes the next numbers.
  have hmem : ∀ e ∈ s.stamp post events,
      s.history.numPosted ≤ e.serial ∧ e.serial < s.history.numPosted + events.length := by
    intro e he
    have hserial := List.mem_map_of_mem (f := PostedEvent.serial) he
    rw [map_serial_stamp] at hserial
    simpa using hserial
  constructor
  · show ((s.history.posted ++ s.stamp post events).map PostedEvent.serial).Pairwise (· < ·)
    rw [List.map_append, map_serial_stamp, List.pairwise_append]
    refine ⟨h.increasing, List.pairwise_lt_range', fun x hx y hy => ?_⟩
    obtain ⟨e, he, rfl⟩ := List.mem_map.mp hx
    exact Nat.lt_of_lt_of_le (h.bounded e he) (List.mem_range'_1.mp hy).1
  · show ∀ e ∈ s.history.posted ++ s.stamp post events,
      e.serial < s.history.numPosted + (s.stamp post events).length
    have hlength : (s.stamp post events).length = events.length := List.length_mapIdx
    intro e he
    rw [hlength]
    rcases List.mem_append.mp he with hold | hnew
    · exact Nat.lt_add_right _ (h.bounded e hold)
    · exact (hmem e hnew).2

theorem Numbered.step (h : Numbered s) (hcoh : Coherent s) (hsound : (channel s).Sound)
    (hstep : step c s a = some t) : Numbered t := by
  have hwritten : s.proxy.eventQueue.written.Sublist s.history.posted :=
    (List.sublist_append_left _ _).trans hsound.inOrder
  cases step_cases hstep with
  | postEvents k avail ok dt post events n hk hpc hfree => exact h.postBatch ..
  | initStage dt stage args hstage henabled =>
    -- The history that starts over is part of the one before, by soundness.
    by_cases hclear : stage = .clearPendingQueue
    · subst hclear
      have hsub : (s.proxy.eventQueue.written ++ []).Sublist s.history.posted := by
        rw [List.append_nil]
        exact hwritten
      exact h.of_sublist hsub rfl
    · by_cases hset : stage = .setEventQueue
      · subst hset
        have htransit := transit_of_joined hcoh hstage rfl
        have hsub : s.proxy.pendingWrites.pendingEvents.Sublist s.history.posted :=
          htransit ▸ (List.sublist_append_right _ _).trans hsound.inOrder
        exact h.of_sublist hsub rfl
      · have hhistory : (s.afterStage stage args (s.clock + dt)).history = s.history :=
          recordStage_of_ne _ _ hclear hset
        exact h.of_sublist (by rw [hhistory]) (by rw [hhistory])
  | _ => exact ⟨h.increasing, h.bounded⟩

/-! ### Losses -/

/-- A rest was refused because it did not fit. -/
def Justified (c : Constants) : Loss → Prop
  | .chunk _ => True
  | .refused size events =>
    events ≠ [] → c.kMaxSizePendingWriteEventsQueue < (size + events.length) % sizeModulus

/-- What is left of a batch and not queued does not fit. -/
theorem justified_refusedLeft (events : List PostedEvent) (n : ℕ) :
    Justified c (.refused s.proxy.pendingWrites.mSizePendingWriteEventsQueue
      (s.refusedLeft c events n)) := by
  intro hleft
  unfold refusedLeft at hleft ⊢
  by_cases hqueues : s.proxy.pendingWrites.queuesLeft c.kMaxSizePendingWriteEventsQueue
      events.length n = true
  · exact absurd (if_pos hqueues) hleft
  · rw [if_neg hqueues] at hleft ⊢
    have hlt : n < events.length := by simpa using hleft
    simp only [PendingWrites.queuesLeft, hlt, decide_true, Bool.true_and,
      decide_eq_true_eq] at hqueues
    rw [List.length_drop]
    omega

theorem justified_step (h : ∀ loss ∈ s.history.losses, Justified c loss)
    (hstep : step c s a = some t) : ∀ loss ∈ t.history.losses, Justified c loss := by
  have happend : ∀ {loss' : Loss}, Justified c loss' →
      ∀ loss ∈ s.history.losses ++ [loss'], Justified c loss := by
    intro loss' hnew loss hloss
    rcases List.mem_append.mp hloss with hold | hlast
    · exact h loss hold
    · exact List.mem_singleton.mp hlast ▸ hnew
  cases step_cases hstep with
  | postEvents k avail ok dt post events n hk hpc hfree =>
    exact happend (justified_refusedLeft _ _)
  | dropChunk stored q n hpc => exact happend trivial
  | initStage dt stage args hstage henabled =>
    cases stage with
    | clearPendingQueue | setEventQueue => exact fun _ hloss => nomatch hloss
    | _ => exact h
  | _ => exact h

/-! ### The result -/

/-- All that is kept at once. -/
structure Accounted (c : Constants) (s : System) : Prop where
  coherent : Coherent s
  sound : (channel s).Sound
  numbered : Numbered s
  justified : ∀ loss ∈ s.history.losses, Justified c loss

theorem accounted_of_visits {subHalList : List SubHalWrapper} {as : List Action}
    (h : (machine c).Visits (start subHalList) as s) : Accounted c s := by
  refine Machine.invariant_of_step (fun s a t hs hstep => ?_)
    ⟨coherent_start subHalList, LossyChannel.sound_of_eq rfl rfl, ⟨.nil, fun _ he => nomatch he⟩,
      fun _ hloss => nomatch hloss⟩ h
  exact ⟨hs.coherent.step hstep, sound_step hs.coherent hs.sound hstep,
    hs.numbered.step hs.coherent hs.sound hstep, justified_step hs.justified hstep⟩

/-- What delivery promises. -/
structure Delivered (c : Constants) (s : System) : Prop where
  /-- What was delivered, followed by what is still to be written, is in the order of posting. -/
  inOrder : (s.proxy.eventQueue.written ++ s.transit).Sublist s.history.posted
  /-- No event is delivered twice, nor delivered and still to be written. -/
  nodup : (s.proxy.eventQueue.written ++ s.transit).Nodup
  /-- Any other event was in a chunk whose blocking write failed, or in a rest that did not fit. -/
  noSilentLoss : ∀ e ∈ s.history.posted, e ∉ s.proxy.eventQueue.written → e ∉ s.transit →
    (∃ events, .chunk events ∈ s.history.losses ∧ e ∈ events)
      ∨ ∃ size events, .refused size events ∈ s.history.losses ∧ e ∈ events
        ∧ c.kMaxSizePendingWriteEventsQueue < (size + events.length) % sizeModulus
  /-- A post does not write while the pending-writes thread does. -/
  exclusive : ∀ stored q n, s.writer = .writing stored q n → ∀ numEvents availableToWrite,
    s.proxy.pendingWrites.triesDirectWrite numEvents availableToWrite = false

theorem triesDirectWrite_of_writing (h : Coherent s) {stored q n : ℕ}
    (hpc : s.writer = .writing stored q n) (numEvents availableToWrite : ℕ) :
    s.proxy.pendingWrites.triesDirectWrite numEvents availableToWrite = false := by
  obtain ⟨front, stored', rest, hq, -⟩ := h.inHand hpc
  exact PendingWrites.triesDirectWrite_of_pending (by rw [hq]; exact List.cons_ne_nil _ _)

/-- **Delivery** is in order, without duplicates and without silent loss, in every state any run
of the proxy visits, whatever the interleaving and the outcomes of the writes.  `posted` are the
events posted since an initialization replaced the queues, after those they held then. -/
theorem delivery {subHalList : List SubHalWrapper} {as : List Action}
    (h : (machine c).Visits (start subHalList) as s) : Delivered c s := by
  have hacc := accounted_of_visits h
  -- Serial numbers increase, so posted events are distinct.
  have hnodup : s.history.posted.Nodup :=
    List.Pairwise.of_map PostedEvent.serial (fun _ _ hlt heq => Nat.lt_irrefl _ (heq ▸ hlt))
      hacc.numbered.increasing
  refine ⟨hacc.sound.inOrder, hacc.sound.nodup hnodup, fun e he hwritten htransit => ?_,
    fun _ _ _ hpc => triesDirectWrite_of_writing hacc.coherent hpc⟩
  have hmem : e ∈ s.proxy.eventQueue.written ++ s.transit
      ++ s.history.losses.flatMap Loss.events := hacc.sound.accounted.mem_iff.mpr he
  -- Every event sent is received, in transit or lost.
  have hlost : e ∈ s.history.losses.flatMap Loss.events := by
    rcases List.mem_append.mp hmem with hkept | hlost
    · exact absurd hkept fun hkept => (List.mem_append.mp hkept).elim hwritten htransit
    · exact hlost
  obtain ⟨loss, hloss, hevents⟩ := List.mem_flatMap.mp hlost
  cases loss with
  | chunk events => exact Or.inl ⟨events, hloss, hevents⟩
  | refused size events =>
    exact Or.inr ⟨size, events, hloss, hevents,
      hacc.justified _ hloss (List.ne_nil_of_mem hevents)⟩

/-- Four events, of which one is written directly, two by the pending-writes thread, and the last
is given up. -/
def partlyLost : List Action :=
  initialization sampleArgs ++
    [.testThreadsRunning 0 [quietEvent, wakeUpEvent, quietEvent, wakeUpEvent] none,
      .processEvents 0, .postEventsToMessageQueue 0 1 true 0] ++
    List.replicate 4 (.handlePendingWrites true) ++ List.replicate 3 (.handlePendingWrites false)

theorem delivery_partlyLost :
    ∃ s, (machine sampleConstants).Visits (start [pickUpSubHal]) partlyLost s
      ∧ (s.history.posted.length, s.proxy.eventQueue.written.length, s.history.losses.length)
        = (4, 3, 2)
      ∧ Delivered sampleConstants s := by
  obtain ⟨s, hvisits, hs⟩ := (machine sampleConstants).exists_visits (start [pickUpSubHal])
    partlyLost (fun s => (s.history.posted.length, s.proxy.eventQueue.written.length,
      s.history.losses.length)) (4, 3, 2) (by decide)
  exact ⟨s, hvisits, hs, delivery hvisits⟩

end OnePlus9.System
