import OnePlus9.Sensors.Equiv.WakelockCount

/-!
# Claims made after a timeout

A timeout forgets all claims.  What is given back later for a claim made before it must not count
against the claims made since (`freshClaims`).  A destroyed `ScopedWakelock` carries the time of
its creation, which is compared with the time of the reset; an acknowledgement carries no time and
is always taken for a new one.

With batches that are written directly, the count covers the fresh claims as long as no step takes
one of them (`takesFreshClaim`).  Such a step finds fewer claims counted beside the fresh ones
(`spareClaims`) than it gives back, or should have made, for others:

* an acknowledgement of events that were posted before the timeout;
* the destruction of an older wakelock whose time of creation is not before the reset (the clock
  may read the same);
* a post of wake-up events that is not counted, since its wakelock is not locked or the threads do
  not run (`takesFreshClaim_cases`).

`freshClaims_iff` says that these are exactly the steps after which the count is too low, and
`exists_late_acknowledgement` that an acknowledgement can be one of them.
-/

namespace OnePlus9.System

variable {c : Constants} {s t : System} {a : Action} {as : List Action}

/-! ### Claims since the last timeout -/

/-- The live wakelocks created since the last timeout. -/
def freshWakelocks (s : System) : ℕ :=
  s.liveWakelocks.countP fun wakelock => wakelock.epoch = s.history.resets

/-- The claims made since the last timeout and not given back. -/
def freshClaims (s : System) : ℕ := s.freshWakelocks + s.history.unackedFresh

/-- The claims counted beside them. -/
def spareClaims (s : System) : ℕ := s.proxy.wakelock.mWakelockRefCount - s.freshClaims

/-- The batch is written directly, as a whole. -/
def writesDirectly (s : System) : Action → Bool
  | .postEventsToMessageQueue k avail ok _ =>
    match s.posts[k]? with
    | none => true
    | some post =>
      match post.pc with
      | .tested _ => true
      | .processed events _ => decide (events.length ≤ avail) && ok
  | _ => true

/-- Batches are written directly, and events acknowledged at most once. -/
structure DirectlyWritten (s : System) (a : Action) : Prop where
  direct : writesDirectly s a = true
  acknowledges : acknowledgesDelivered s a = true

instance : Decidable (DirectlyWritten s a) :=
  decidable_of_iff (writesDirectly s a = true ∧ acknowledgesDelivered s a = true)
    ⟨fun ⟨h₁, h₂⟩ => ⟨h₁, h₂⟩, fun ⟨h₁, h₂⟩ => ⟨h₁, h₂⟩⟩

/-- The step takes a claim made since the last timeout, or does not make one where it should. -/
def takesFreshClaim (s : System) : Action → Bool
  | .destroyScopedWakelock k =>
    match s.scopedWakelocks[k]? with
    | none => false
    | some wakelock => s.proxy.mThreadsRun && decide (wakelock.epoch ≠ s.history.resets)
        && decide (¬SharedWakelock.Stale wakelock.mCreatedAtTimeNs s.proxy.wakelock)
        && decide (s.spareClaims = 0) && decide (0 < s.freshClaims)
  | .handleWakelocks (some n) late _ _ => s.wakelockThread.isReading
      && s.proxy.mThreadsRun && decide (s.spareClaims < late)
      && decide (n.toNat - late < s.freshClaims)
  | .postEventsToMessageQueue k _ _ _ =>
    match s.posts[k]? with
    | none => false
    | some post =>
      match post.pc with
      | .tested _ => false
      | .processed _ n => !(post.wakelock.isSome && s.proxy.mThreadsRun)
          && decide (s.spareClaims < n)
  | _ => false

/-- **What goes wrong** is one of three things: an acknowledgement comes late, an older wakelock
does not look older, or a post is not counted. -/
theorem takesFreshClaim_cases (h : takesFreshClaim s a = true) :
    (∃ n late dt dt', a = .handleWakelocks (some n) late dt dt' ∧ 0 < late)
      ∨ (∃ k wakelock, a = .destroyScopedWakelock k ∧ s.scopedWakelocks[k]? = some wakelock
        ∧ wakelock.epoch ≠ s.history.resets
        ∧ ¬SharedWakelock.Stale wakelock.mCreatedAtTimeNs s.proxy.wakelock)
      ∨ ∃ k avail ok dt post events n, a = .postEventsToMessageQueue k avail ok dt
        ∧ s.posts[k]? = some post ∧ post.pc = .processed events n ∧ 0 < n
        ∧ (post.wakelock = none ∨ s.proxy.mThreadsRun = false) := by
  cases a with
  | handleWakelocks n late dt dt' =>
    cases n with
    | none => exact nomatch h
    | some n =>
      simp only [takesFreshClaim, Bool.and_eq_true, decide_eq_true_eq] at h
      exact Or.inl ⟨n, late, dt, dt', rfl, by omega⟩
  | destroyScopedWakelock k =>
    unfold takesFreshClaim at h
    cases hk : s.scopedWakelocks[k]? with
    | none =>
      simp only [hk] at h
      exact nomatch h
    | some wakelock =>
      simp only [hk, Bool.and_eq_true, decide_eq_true_eq] at h
      exact Or.inr (Or.inl ⟨k, wakelock, rfl, hk, h.1.1.1.2, h.1.1.2⟩)
  | postEventsToMessageQueue k avail ok dt =>
    unfold takesFreshClaim at h
    cases hk : s.posts[k]? with
    | none =>
      simp only [hk] at h
      exact nomatch h
    | some post =>
      cases hpc : post.pc with
      | tested events =>
        simp only [hk, hpc] at h
        exact nomatch h
      | processed events n =>
        simp only [hk, hpc, Bool.and_eq_true, Bool.not_eq_true', Bool.and_eq_false_iff,
          decide_eq_true_eq, Option.isSome_eq_false_iff, Option.isNone_iff_eq_none] at h
        have hpos : 0 < n := by omega
        exact Or.inr (Or.inr ⟨k, avail, ok, dt, post, events, n, rfl, hk, hpc, hpos, h.1⟩)
  | _ => exact nomatch h

/-- What a run with direct writes keeps: nothing is ever pending. -/
structure Settled (s : System) : Prop where
  coherent : Coherent s
  counted : Counted s
  queue : s.proxy.pendingWrites.mPendingWriteEventsQueue = []
  epoch : ∀ wakelock ∈ s.liveWakelocks, wakelock.epoch ≤ s.history.resets

theorem settled_start (subHalList : List SubHalWrapper) : Settled (start subHalList) where
  coherent := coherent_start subHalList
  counted := fun _ hpost => nomatch hpost
  queue := rfl
  epoch := fun _ hwakelock => nomatch hwakelock

/-! ### What a step does to the claims -/

/-- Only the order of the live wakelocks changes. -/
theorem freshWakelocks_congr (hlive : t.liveWakelocks.Perm s.liveWakelocks)
    (hresets : t.history.resets = s.history.resets) : t.freshWakelocks = s.freshWakelocks := by
  rw [freshWakelocks, hresets, hlive.countP_eq, freshWakelocks]

/-- A wakelock created while the threads do not run is not locked. -/
theorem createScopedWakelock_stopped (hrun : s.proxy.mThreadsRun = false) (dt : ℕ) :
    s.createScopedWakelock dt = { s with clock := s.clock + dt } := by
  unfold createScopedWakelock
  rw [hrun]
  rfl

/-- Nothing is in hand while nothing is pending. -/
theorem Settled.idle (h : Settled s) (stored q n : ℕ) :
    s.writer ≠ .writing stored q n ∧ s.writer ≠ .failed stored q n ∧ s.writer ≠ .relocking q n := by
  have hfits := h.coherent.fits
  rw [h.queue] at hfits
  refine ⟨?_, ?_, ?_⟩
  all_goals
    intro hpc
    rw [hpc] at hfits
    obtain ⟨_, _, _, hq, -⟩ := hfits
    exact nomatch hq

section Post

variable {k avail : ℕ} {ok : Bool} {dt : ℕ} {post : Post} {events : List Event} {n : ℕ}

/-- The whole batch is written. -/
theorem Settled.numToWrite_eq (h : Settled s) (hk : s.posts[k]? = some post)
    (hpc : post.pc = .processed events n)
    (hdirect : writesDirectly s (.postEventsToMessageQueue k avail ok dt) = true) :
    s.proxy.pendingWrites.numToWrite (s.stamp post events).length avail ok
      = (s.stamp post events).length := by
  obtain ⟨havail, rfl⟩ : events.length ≤ avail ∧ ok = true := by
    simpa [writesDirectly, hk, hpc] using hdirect
  have hlength : (s.stamp post events).length = events.length := by simp [stamp]
  have hempty : s.proxy.pendingWrites.mPendingWriteEventsQueue.isEmpty = true := by
    rw [h.queue]
    rfl
  rw [PendingWrites.numToWrite, hempty, hlength, Nat.min_eq_left havail]
  simp only [if_true]
  split_ifs with hpos
  · rfl
  · omega

/-- A post delivers its wake-up events and queues nothing. -/
theorem Settled.postBatch (h : Settled s) (hk : s.posts[k]? = some post)
    (hpc : post.pc = .processed events n)
    (hdirect : writesDirectly s (.postEventsToMessageQueue k avail ok dt) = true) :
    let t := s.postBatch c k post (s.stamp post events) n avail ok (s.clock + dt)
    t.freshClaims = s.freshClaims + n
      ∧ t.proxy.pendingWrites.mPendingWriteEventsQueue = []
      ∧ t.proxy.wakelock.mWakelockRefCount = s.proxy.wakelock.mWakelockRefCount
        + if post.wakelock.isSome && s.proxy.mThreadsRun then n else 0 := by
  have hall := h.numToWrite_eq hk hpc hdirect
  refine ⟨?_, ?_, ?_⟩
  · have hn := h.counted.wakeUps_stamp hk hpc
    have hunacked : (s.postBatch c k post (s.stamp post events) n avail ok
        (s.clock + dt)).history.unackedFresh = s.history.unackedFresh + n := by
      show s.history.unackedFresh + s.wakeUps ((s.stamp post events).take _) = _
      rw [hall, List.take_length, hn]
    rw [freshClaims, hunacked, freshWakelocks_congr (live_postBatch hk) rfl, freshClaims,
      Nat.add_assoc]
  · show (s.proxy.pendingWrites.pushLeft _ _ _ _).mPendingWriteEventsQueue = []
    rw [hall, PendingWrites.pushLeft_of_refused, h.queue]
    simp [PendingWrites.queuesLeft]
  · show SharedWakelock.mWakelockRefCount (if _ then _ else _) = _
    cases post.wakelock.isSome with
    | false => rfl
    | true => cases s.proxy.mThreadsRun <;> rfl

end Post

/-! ### One step -/

/-- A step that makes no wakelock live. -/
theorem Settled.of_live (h : Settled s) (hstep : step c s a = some t)
    (hqueue : t.proxy.pendingWrites.mPendingWriteEventsQueue
      = s.proxy.pendingWrites.mPendingWriteEventsQueue)
    (hresets : s.history.resets ≤ t.history.resets) (hlive : t.liveWakelocks ⊆ s.liveWakelocks) :
    Settled t where
  coherent := h.coherent.step hstep
  counted := h.counted.step hstep
  queue := hqueue.trans h.queue
  epoch := fun wakelock hmem => Nat.le_trans (h.epoch wakelock (hlive hmem)) hresets

theorem Settled.createScopedWakelock (h : Settled s) (dt : ℕ)
    (hstep : System.step c s (.createScopedWakelock dt) = some (s.createScopedWakelock dt)) :
    Settled (s.createScopedWakelock dt) := by
  cases hrun : s.proxy.mThreadsRun with
  | false =>
    rw [createScopedWakelock_stopped hrun] at hstep ⊢
    exact h.of_live hstep rfl (Nat.le_refl _) (List.Subset.refl _)
  | true =>
    refine ⟨h.coherent.step hstep, h.counted.step hstep, h.queue, fun wakelock hmem => ?_⟩
    rcases List.mem_cons.mp ((live_createScopedWakelock hrun dt).subset hmem) with rfl | hold
    · exact Nat.le_refl _
    · exact h.epoch wakelock hold

theorem queue_afterStage_of_empty
    (h : s.proxy.pendingWrites.mPendingWriteEventsQueue = []) (stage : HalProxy.InitStage)
    (args : HalProxy.InitializeArgs) (now : ℕ) :
    (s.afterStage stage args now).proxy.pendingWrites.mPendingWriteEventsQueue = [] := by
  have hsubset := queue_initStage_subset s.proxy args now stage
  rw [h] at hsubset
  exact List.eq_nil_of_subset_nil hsubset

theorem resets_recordStage (stage : HalProxy.InitStage) (p : HalProxy PostedEvent) (h : History) :
    (recordStage stage p h).resets = h.resets := by
  cases stage <;> rfl

theorem Settled.step (h : Settled s) (hd : DirectlyWritten s a)
    (hstep : System.step c s a = some t) : Settled t := by
  have hkept := h.of_live hstep
  cases step_cases hstep with
  | createScopedWakelock dt => exact h.createScopedWakelock dt hstep
  | destroyScopedWakelock k wakelock hk =>
    refine hkept rfl (Nat.le_refl _) fun wakelock' hmem => ?_
    exact (live_destroyScopedWakelock hk).symm.subset (List.mem_cons_of_mem _ hmem)
  | goOn i events wakelock taken left htake hrun =>
    exact hkept rfl (Nat.le_refl _) (live_goOn htake).subset
  | processEvents k post events hk hpc out hout =>
    exact hkept rfl (Nat.le_refl _) (List.Perm.of_eq (live_processEvents hk)).subset
  | postEvents k avail ok dt post events n hk hpc hfree =>
    have hqueue := (h.postBatch (c := c) hk hpc hd.direct).2.1
    exact hkept (hqueue.trans h.queue.symm) (Nat.le_refl _) (live_postBatch hk).subset
  | finishWrite ok q n hpc => exact absurd hpc (h.idle 0 q n).2.2
  | timeOut n late dt dt' hpc hrun hcount htime =>
    exact hkept rfl (Nat.le_succ _) (List.Subset.refl _)
  | perform request =>
    have hsame := (HalProxy.sameQueues_perform s.proxy request).pendingWrites
    exact hkept (congrArg _ hsame) (Nat.le_refl _) (List.Subset.refl _)
  | initStage dt stage args hstage henabled =>
    have hqueue := queue_afterStage_of_empty h.queue stage args (s.clock + dt)
    refine hkept (hqueue.trans h.queue.symm) ?_ (List.Subset.refl _)
    exact Nat.le_of_eq (resets_recordStage stage _ s.history).symm
  | _ => exact hkept rfl (Nat.le_refl _) (List.Subset.refl _)

/-! ### The count after one step -/

/-- The count covers the fresh claims. -/
def CoversFresh (s : System) : Prop := s.freshClaims ≤ s.proxy.wakelock.mWakelockRefCount

/-- A step that does not touch the claims. -/
theorem CoversFresh.of_same (h : CoversFresh s)
    (hcount : t.proxy.wakelock.mWakelockRefCount = s.proxy.wakelock.mWakelockRefCount)
    (hlive : t.liveWakelocks.Perm s.liveWakelocks)
    (hresets : t.history.resets = s.history.resets)
    (hunacked : t.history.unackedFresh ≤ s.history.unackedFresh) : CoversFresh t := by
  unfold CoversFresh freshClaims at h ⊢
  rw [hcount, freshWakelocks_congr hlive hresets]
  omega

theorem coversFresh_createScopedWakelock (h : CoversFresh s) (dt : ℕ) :
    CoversFresh (s.createScopedWakelock dt) := by
  cases hrun : s.proxy.mThreadsRun with
  | false =>
    rw [createScopedWakelock_stopped hrun]
    exact h.of_same rfl (.refl _) rfl (Nat.le_refl _)
  | true =>
    have hcount : (s.createScopedWakelock dt).proxy.wakelock.mWakelockRefCount
        = s.proxy.wakelock.mWakelockRefCount + 1 := by
      unfold System.createScopedWakelock
      rw [hrun]
      rfl
    have hfresh : (s.createScopedWakelock dt).freshWakelocks = s.freshWakelocks + 1 := by
      rw [freshWakelocks, (live_createScopedWakelock hrun dt).countP_eq]
      exact List.countP_cons_of_pos (by simp [System.createScopedWakelock])
    unfold CoversFresh freshClaims at h ⊢
    rw [hcount, hfresh]
    show _ + s.history.unackedFresh ≤ _
    omega

/-- Destroying a wakelock gives its fresh claim back, if it is one. -/
theorem freshWakelocks_destroy {k : ℕ} {wakelock : ScopedWakelock}
    (hk : s.scopedWakelocks[k]? = some wakelock)
    (hlive : t.liveWakelocks
      = s.scopedWakelocks.eraseIdx k ++ s.posts.filterMap Post.wakelock)
    (hresets : t.history.resets = s.history.resets) :
    t.freshWakelocks + (if wakelock.epoch = s.history.resets then 1 else 0)
      = s.freshWakelocks := by
  rw [freshWakelocks, freshWakelocks, (live_destroyScopedWakelock hk).countP_eq, List.countP_cons,
    hlive, hresets]
  simp only [decide_eq_true_eq]

theorem coversFresh_destroyScopedWakelock (h : CoversFresh s) {k : ℕ} {wakelock : ScopedWakelock}
    (hk : s.scopedWakelocks[k]? = some wakelock)
    (hcount : t.proxy.wakelock = s.proxy.wakelock.decrementRefCountAndMaybeReleaseWakelock
      s.proxy.mThreadsRun 1 wakelock.mCreatedAtTimeNs)
    (hfresh : t.freshWakelocks + (if wakelock.epoch = s.history.resets then 1 else 0)
      = s.freshWakelocks)
    (hhistory : t.history = s.history) :
    CoversFresh t ↔ takesFreshClaim s (.destroyScopedWakelock k) = false := by
  simp only [takesFreshClaim, hk]
  unfold CoversFresh at h ⊢
  unfold spareClaims
  unfold freshClaims at h ⊢
  rw [hcount, hhistory]
  cases s.proxy.mThreadsRun with
  | false =>
    simp only [SharedWakelock.decrement_stopped, Bool.false_and, iff_true]
    omega
  | true =>
    rw [SharedWakelock.count_decrement]
    by_cases hstale : SharedWakelock.Stale wakelock.mCreatedAtTimeNs s.proxy.wakelock
    · simp only [hstale, if_true, not_true_eq_false, decide_false, Bool.and_false, Bool.false_and,
        iff_true]
      omega
    · by_cases hepoch : wakelock.epoch = s.history.resets
      · rw [if_pos hepoch] at hfresh
        simp only [hstale, hepoch, if_false, ne_eq, not_true_eq_false, decide_false, Bool.and_false,
          Bool.false_and, iff_true]
        omega
      · rw [if_neg hepoch] at hfresh
        -- An old claim that passes for a new one.
        simp only [hstale, hepoch, if_false, ne_eq, not_false_eq_true, decide_true, Bool.and_self,
          Bool.true_and, Bool.and_eq_false_imp, decide_eq_true_eq, decide_eq_false_iff_not]
        omega

theorem coversFresh_acknowledge (h : CoversFresh s) {n : UInt32} {late dt dt' : ℕ}
    (hpc : s.wakelockThread.isReading = true)
    (hack : acknowledgesDelivered s (.handleWakelocks (some n) late dt dt') = true) :
    CoversFresh (s.acknowledge n late)
      ↔ takesFreshClaim s (.handleWakelocks (some n) late dt dt') = false := by
  obtain ⟨hlate, hunackedLate, hunackedFresh⟩ := le_unacked_of_acknowledgesDelivered hpc hack
  have hfresh : (s.acknowledge n late).freshClaims = s.freshClaims - (n.toNat - late) := by
    show s.freshWakelocks + (s.history.unackedFresh - (n.toNat - late)) = _
    unfold freshClaims
    omega
  have hle : n.toNat - late ≤ s.freshClaims :=
    Nat.le_trans hunackedFresh (Nat.le_add_left _ _)
  have hcount : (s.acknowledge n late).proxy.wakelock
      = s.proxy.wakelock.decrementRefCountAndMaybeReleaseWakelock s.proxy.mThreadsRun n.toNat
        (-1) := rfl
  simp only [takesFreshClaim, hpc]
  unfold CoversFresh at h ⊢
  rw [hfresh, hcount]
  unfold spareClaims
  cases s.proxy.mThreadsRun with
  | false =>
    simp only [SharedWakelock.decrement_stopped, Bool.and_false, Bool.false_and, iff_true]
    omega
  | true =>
    rw [SharedWakelock.count_decrement_fresh SharedWakelock.not_stale_neg_one]
    simp only [Bool.true_and, Bool.and_eq_false_imp, decide_eq_true_eq, decide_eq_false_iff_not]
    omega

theorem coversFresh_postBatch (hs : Settled s) (h : CoversFresh s) {k avail : ℕ} {ok : Bool}
    {dt : ℕ} {post : Post} {events : List Event} {n : ℕ} (hk : s.posts[k]? = some post)
    (hpc : post.pc = .processed events n)
    (hdirect : writesDirectly s (.postEventsToMessageQueue k avail ok dt) = true) :
    CoversFresh (s.postBatch c k post (s.stamp post events) n avail ok (s.clock + dt))
      ↔ takesFreshClaim s (.postEventsToMessageQueue k avail ok dt) = false := by
  obtain ⟨hfresh, -, hcount⟩ := hs.postBatch (c := c) hk hpc hdirect
  simp only [takesFreshClaim, hk, hpc]
  unfold CoversFresh at h ⊢
  rw [hfresh, hcount]
  unfold spareClaims
  cases post.wakelock.isSome && s.proxy.mThreadsRun with
  | true =>
    simp only [if_true, Bool.not_true, Bool.false_and, iff_true]
    omega
  | false =>
    simp only [Bool.false_eq_true, if_false, Bool.not_false, Bool.true_and,
      decide_eq_false_iff_not]
    omega

/-- A timeout leaves no fresh claim. -/
theorem coversFresh_timeOut (hs : Settled s) (now : ℕ) : CoversFresh (s.timeOut now) := by
  -- Every wakelock that is live was created before this timeout.
  have hnone : (s.timeOut now).freshWakelocks = 0 := by
    apply List.countP_eq_zero.mpr
    intro wakelock hmem
    have hepoch := hs.epoch wakelock hmem
    have hresets : (s.timeOut now).history.resets = s.history.resets + 1 := rfl
    rw [hresets, decide_eq_true_eq]
    omega
  unfold CoversFresh freshClaims
  rw [hnone]
  exact Nat.zero_le _

/-- An initialization drops no claim: the threads do not run at its reset. -/
theorem coversFresh_afterStage (hs : Settled s) (h : CoversFresh s) {stage : HalProxy.InitStage}
    {args : HalProxy.InitializeArgs} (now : ℕ) (hstage : s.initializing = some (stage, args)) :
    CoversFresh (s.afterStage stage args now) := by
  have hcount : (s.proxy.initStage args now stage).wakelock.mWakelockRefCount
      = s.proxy.wakelock.mWakelockRefCount := by
    cases stage with
    | resetSharedWakelock =>
      -- `mThreadsRun` is cleared, and giving back does nothing.
      rw [HalProxy.initStage, hs.coherent.cleared _ _ hstage rfl]
      rfl
    | disableAllSensors =>
      exact congrArg _ (HalProxy.sameQueues_disableAllSensors s.proxy).wakelock
    | _ => rfl
  refine h.of_same hcount (.refl _) (resets_recordStage stage _ s.history) ?_
  cases stage with
  | setEventQueue => exact Nat.zero_le _
  | _ => exact Nat.le_refl _

/-- **One step** leaves the fresh claims covered if and only if it takes none of them. -/
theorem coversFresh_step_iff (hs : Settled s) (h : CoversFresh s) (hd : DirectlyWritten s a)
    (hstep : step c s a = some t) : CoversFresh t ↔ takesFreshClaim s a = false := by
  have hsame : ∀ {u : System} {b : Action}, CoversFresh u → takesFreshClaim s b = false →
      (CoversFresh u ↔ takesFreshClaim s b = false) := fun h₁ h₂ => iff_of_true h₁ h₂
  cases step_cases hstep with
  | createScopedWakelock dt => exact hsame (coversFresh_createScopedWakelock h dt) rfl
  | destroyScopedWakelock k wakelock hk =>
    exact coversFresh_destroyScopedWakelock h hk rfl (freshWakelocks_destroy hk rfl rfl) rfl
  | goOn i events wakelock taken left htake hrun =>
    exact hsame (h.of_same rfl (live_goOn htake) rfl (Nat.le_refl _)) rfl
  | processEvents k post events hk hpc out hout =>
    exact hsame (h.of_same rfl (.of_eq (live_processEvents hk)) rfl (Nat.le_refl _)) rfl
  | postEvents k avail ok dt post events n hk hpc hfree =>
    exact coversFresh_postBatch hs h hk hpc hd.direct
  | writeChunk stored q n hpc => exact absurd hpc (hs.idle stored q n).1
  | dropChunk stored q n hpc => exact absurd hpc (hs.idle stored q n).1
  | giveBack ok stored q n front stored' rest hpc hq => exact absurd hpc (hs.idle stored q n).2.1
  | exitWakelocks n late dt dt' hpc hrun =>
    refine hsame (h.of_same ?_ (.refl _) rfl (Nat.le_refl _)) ?_
    · show (SharedWakelock.resetSharedWakelock _ _ _).mWakelockRefCount = _
      rw [hrun]
      rfl
    · cases n <;> simp [takesFreshClaim, hpc]
  | timeOut n late dt dt' hpc hrun hcount htime =>
    refine hsame (coversFresh_timeOut hs _) ?_
    cases n <;> simp [takesFreshClaim, hpc]
  | startRead n late dt dt' hpc hrun hcount htime =>
    refine hsame (h.of_same rfl (.refl _) rfl (Nat.le_refl _)) ?_
    cases n <;> simp [takesFreshClaim, hpc]
  | acknowledge n late dt dt' timeLeft hpc =>
    exact coversFresh_acknowledge h (by rw [hpc]; rfl) hd.acknowledges
  | perform request =>
    have hwakelock := (HalProxy.sameQueues_perform s.proxy request).wakelock
    exact hsame (h.of_same (congrArg _ hwakelock) (.refl _) rfl (Nat.le_refl _)) rfl
  | initStage dt stage args hstage henabled =>
    exact hsame (coversFresh_afterStage hs h _ hstage) rfl
  | _ => exact hsame (h.of_same rfl (.refl _) rfl (Nat.le_refl _)) rfl

/-! ### Runs -/

/-- **The claims made since the last timeout are counted**, in every state of every run in which
batches are written directly and events acknowledged at most once, if and only if no step takes a
fresh claim. -/
theorem freshClaims_iff (c : Constants) (subHalList : List SubHalWrapper) (as : List Action)
    (hd : (machine c).Meets DirectlyWritten (start subHalList) as) :
    (∀ t, (machine c).Visits (start subHalList) as t →
        t.freshWakelocks + t.history.unackedFresh ≤ t.proxy.wakelock.mWakelockRefCount)
      ↔ (machine c).Meets (fun s a => takesFreshClaim s a = false) (start subHalList) as := by
  refine Machine.always_iff_meets (I := fun s => Settled s ∧ CoversFresh s) (fun s h => h.2) ?_ ?_
    ⟨settled_start subHalList, Nat.le_refl 0⟩ hd
  · intro s a t h hd hc hstep
    exact ⟨h.1.step hd hstep, (coversFresh_step_iff h.1 h.2 hd hstep).mpr hc⟩
  · intro s a t h hd hc hstep hcovers
    exact hc ((coversFresh_step_iff h.1 h.2 hd hstep).mp hcovers)

/-- A sub-HAL posts a wake-up event, which is written directly, and the wakelock times out. -/
def postThenTimeout : List Action :=
  initialization sampleArgs ++
    [.createScopedWakelock 1, .testThreadsRunning 0 [wakeUpEvent] (some 0), .processEvents 0,
      .postEventsToMessageQueue 0 2 true 0, .destroyScopedWakelock 0,
      .handleWakelocks none 0 1000000001 0]

/-- Another wakelock is created, and then the event is acknowledged. -/
def lateAcknowledgement : List Action :=
  postThenTimeout ++
    [.createScopedWakelock 0, .handleWakelocks none 0 0 0, .handleWakelocks (some 1) 1 0 0]

/-- A second event is posted after the timeout and acknowledged, the first one is not. -/
def freshAcknowledgement : List Action :=
  postThenTimeout ++
    [.createScopedWakelock 0, .testThreadsRunning 0 [wakeUpEvent] (some 0), .processEvents 0,
      .postEventsToMessageQueue 0 2 true 0, .handleWakelocks none 0 0 0,
      .handleWakelocks (some 1) 0 0 0]

theorem freshClaims_iff_freshAcknowledgement :
    ∃ t, (machine sampleConstants).Visits (start [pickUpSubHal]) freshAcknowledgement t
      ∧ (t.history.resets, t.history.unackedLate, t.freshWakelocks) = (1, 1, 1)
      ∧ t.freshWakelocks + t.history.unackedFresh ≤ t.proxy.wakelock.mWakelockRefCount := by
  obtain ⟨t, hvisits, ht⟩ := (machine sampleConstants).exists_visits (start [pickUpSubHal])
    freshAcknowledgement
    (fun t => (t.history.resets, t.history.unackedLate, t.freshWakelocks)) (1, 1, 1) (by decide)
  exact ⟨t, hvisits, ht,
    (freshClaims_iff sampleConstants [pickUpSubHal] freshAcknowledgement (by decide)).mpr
      (by decide) t hvisits⟩

/-- In the end nothing is counted, and the second wakelock is live. -/
theorem exists_late_acknowledgement :
    ¬∀ t, (machine sampleConstants).Meets DirectlyWritten (start [pickUpSubHal])
        lateAcknowledgement →
      (machine sampleConstants).Visits (start [pickUpSubHal]) lateAcknowledgement t →
      t.freshWakelocks + t.history.unackedFresh ≤ t.proxy.wakelock.mWakelockRefCount := by
  intro hall
  obtain ⟨t, hvisits, ht⟩ := (machine sampleConstants).exists_visits (start [pickUpSubHal])
    lateAcknowledgement
    (fun t => (t.freshWakelocks, t.proxy.wakelock.mWakelockRefCount)) (1, 0) (by decide)
  have hle := hall t (by decide) hvisits
  rw [(Prod.mk.inj ht).1, (Prod.mk.inj ht).2] at hle
  omega

end OnePlus9.System
