import OnePlus9.Sensors.Equiv.Delivery
import OnePlus9.Sensors.Equiv.WakeUps
import OnePlus9.Sensors.Equiv.Wakelock

/-!
# The wakelock count against what it counts

During a session without timeouts, claims are owed to the wake-up events that were delivered and
not acknowledged, to those still to be written, and to the live `ScopedWakelock`s (`owed`).  While
the pending-writes thread is about to give claims back for a chunk it dropped, these are counted
too (`debt`).

`ledger_step` says how a step changes the count and what is owed.  The two differ in two kinds of
steps only: a post whose refused rest has wake-up events, and a dropped chunk for which not exactly
its wake-up events are given back.

`Orderly` collects what a session keeps on the side (`Orderly.step`).  That the count does not
fall below what is owed is in `EarlyRelease.lean`, that it does not stay above in `Leak.lean`.
-/

namespace OnePlus9

/-- The pending-writes thread neither writes a chunk nor is about to give claims back for one. -/
def WriterPc.settled : WriterPc → Bool
  | writing .. | failed .. => false
  | _ => true

namespace System

variable {c : Constants} {s t : System} {a : Action}

/-! ### What is owed -/

/-- Wake-up events delivered and not acknowledged. -/
def unacked (s : System) : ℕ := s.history.unackedLate + s.history.unackedFresh

/-- The claims that should be counted. -/
def owed (s : System) : ℕ := s.unacked + s.wakeUps s.transit + s.liveWakelocks.length

/-- The front batch. -/
def front (s : System) : List PostedEvent :=
  s.proxy.pendingWrites.mPendingWriteEventsQueue.head?.elim [] Prod.fst

/-- How many claims are given back for a dropped chunk of the front batch. -/
def givenBack (stored q : ℕ) (s : System) : ℕ :=
  (PendingWrites.numToGiveBack s.proxy.mSensors s.front stored q).1

/-- The claims about to be given back. -/
def debt (s : System) : ℕ :=
  match s.writer with
  | .failed stored q _ => s.givenBack stored q
  | _ => 0

/-- The wake-up events in the refused rest of a batch that a step posts. -/
def refusedWakeUps (c : Constants) (s : System) : Action → ℕ
  | .postEventsToMessageQueue k avail ok _ =>
    match s.posts[k]? with
    | none => 0
    | some post =>
      match post.pc with
      | .tested _ => 0
      | .processed events _ =>
        let events := s.stamp post events
        s.wakeUps (s.refusedLeft c events
          (s.proxy.pendingWrites.numToWrite events.length avail ok))
  | _ => 0

/-- The wake-up events in the chunk that a step drops. -/
def droppedWakeUps (s : System) : Action → ℕ
  | .handlePendingWrites false =>
    match s.writer with
    | .writing _ _ n => s.wakeUps (s.chunk n)
    | _ => 0
  | _ => 0

/-- The claims that will be given back for the chunk that a step drops. -/
def droppedClaims (s : System) : Action → ℕ
  | .handlePendingWrites false =>
    match s.writer with
    | .writing stored q _ => s.givenBack stored q
    | _ => 0
  | _ => 0

/-! ### The environment -/

/-- The wakelock times out. -/
def timesOut (c : Constants) (s : System) : Action → Bool
  | .handleWakelocks _ _ dt _ => decide (s.wakelockThread = .waiting)
      && decide (c.kWakelockTimeoutNs
        < ↑(s.clock + dt) - s.proxy.wakelock.mWakelockTimeoutStartTime)
  | _ => false

/-- A batch is posted with a locked wakelock exactly when it has wake-up events. -/
def locksForWakeUps (s : System) : Action → Bool
  | .postEventsToMessageQueue k _ _ _ =>
    match s.posts[k]? with
    | none => true
    | some post =>
      match post.pc with
      | .tested _ => true
      | .processed _ n => post.wakelock.isSome == decide (0 < n)
  | _ => true

/-- Only delivered wake-up events are acknowledged, and each at most once. -/
def acknowledgesDelivered (s : System) : Action → Bool
  | .handleWakelocks (some n) late _ _ => !s.wakelockThread.isReading
      || decide (late ≤ n.toNat ∧ late ≤ s.history.unackedLate
        ∧ n.toNat - late ≤ s.history.unackedFresh)
  | _ => true

/-- A session without timeouts, with sub-HALs and a framework that keep to their part. -/
structure Disciplined (c : Constants) (s : System) (a : Action) : Prop where
  uninterrupted : uninterrupted a = true
  noTimeout : timesOut c s a = false
  locks : locksForWakeUps s a = true
  acknowledges : acknowledgesDelivered s a = true

instance : Decidable (Disciplined c s a) :=
  decidable_of_iff (System.uninterrupted a = true ∧ timesOut c s a = false
      ∧ locksForWakeUps s a = true ∧ acknowledgesDelivered s a = true)
    ⟨fun ⟨h₁, h₂, h₃, h₄⟩ => ⟨h₁, h₂, h₃, h₄⟩, fun ⟨h₁, h₂, h₃, h₄⟩ => ⟨h₁, h₂, h₃, h₄⟩⟩

/-- What the framework's part comes to when an acknowledgement is read. -/
theorem le_unacked_of_acknowledgesDelivered {n : UInt32} {late dt dt' : ℕ}
    (hpc : s.wakelockThread.isReading = true)
    (h : acknowledgesDelivered s (.handleWakelocks (some n) late dt dt') = true) :
    late ≤ n.toNat ∧ late ≤ s.history.unackedLate ∧ n.toNat - late ≤ s.history.unackedFresh := by
  simpa [acknowledgesDelivered, hpc] using h

theorem not_timesOut {n : Option UInt32} {late dt dt' : ℕ}
    (h : timesOut c s (.handleWakelocks n late dt dt') = false)
    (hpc : s.wakelockThread = .waiting) :
    ¬c.kWakelockTimeoutNs < ↑(s.clock + dt) - s.proxy.wakelock.mWakelockTimeoutStartTime := by
  simpa [timesOut, hpc] using h

/-! ### Locks younger than the last reset -/

/-- Live wakelocks are not stale. -/
structure LocksFresh (s : System) : Prop where
  resetTime : s.proxy.wakelock.mWakelockTimeoutResetTime ≤ s.clock
  created : ∀ wakelock ∈ s.liveWakelocks,
    s.proxy.wakelock.mWakelockTimeoutResetTime ≤ wakelock.mCreatedAtTimeNs

theorem LocksFresh.step (h : LocksFresh s) (hsession : InSession s) (hd : Disciplined c s a)
    (hstep : step c s a = some t) : LocksFresh t := by
  have hperm : ∀ {u : System}, u.liveWakelocks.Perm s.liveWakelocks →
      u.proxy.wakelock.mWakelockTimeoutResetTime = s.proxy.wakelock.mWakelockTimeoutResetTime →
      s.clock ≤ u.clock → LocksFresh u := by
    intro u hlive hreset hclock
    refine ⟨?_, fun wakelock hmem => ?_⟩
    · rw [hreset]
      exact Int.le_trans h.resetTime (Int.ofNat_le.mpr hclock)
    · rw [hreset]
      exact h.created wakelock (hlive.subset hmem)
  cases step_cases hstep with
  | createScopedWakelock dt =>
    have hlive := live_createScopedWakelock (s := s) hsession.mThreadsRun dt
    have hreset : (s.createScopedWakelock dt).proxy.wakelock.mWakelockTimeoutResetTime
        = s.proxy.wakelock.mWakelockTimeoutResetTime := SharedWakelock.resetTime_increment
    have hclock : s.proxy.wakelock.mWakelockTimeoutResetTime ≤ ↑(s.clock + dt) :=
      Int.le_trans h.resetTime (Int.ofNat_le.mpr (Nat.le_add_right _ _))
    refine ⟨hreset ▸ hclock, fun wakelock hmem => ?_⟩
    rw [hreset]
    rcases List.mem_cons.mp (hlive.subset hmem) with rfl | hold
    · exact hclock
    · exact h.created wakelock hold
  | destroyScopedWakelock k wakelock hk =>
    refine ⟨?_, fun wakelock' hmem => ?_⟩
    · show SharedWakelock.mWakelockTimeoutResetTime _ ≤ _
      rw [SharedWakelock.resetTime_decrement]
      exact h.resetTime
    · show SharedWakelock.mWakelockTimeoutResetTime _ ≤ _
      rw [SharedWakelock.resetTime_decrement]
      exact h.created wakelock'
        ((live_destroyScopedWakelock hk).symm.subset (List.mem_cons_of_mem _ hmem))
  | goOn i events wakelock taken left htake hrun =>
    exact hperm (live_goOn htake) rfl (Nat.le_refl _)
  | processEvents k post events hk hpc out hout =>
    exact hperm (.of_eq (live_processEvents hk)) rfl (Nat.le_refl _)
  | postEvents k avail ok dt post events n hk hpc hfree =>
    refine hperm (live_postBatch hk) ?_ (Nat.le_add_right _ _)
    unfold postBatch HalProxy.postEventsToMessageQueue
    dsimp only
    split_ifs
    · exact SharedWakelock.resetTime_increment
    · rfl
  | giveBack ok stored q n front stored' rest hpc hq =>
    exact hperm (.refl _) SharedWakelock.resetTime_decrement (Nat.le_refl _)
  | exitWakelocks n late dt dt' hpc hrun => exact nomatch hrun.symm.trans hsession.mThreadsRun
  | timeOut n late dt dt' hpc hrun hcount htime =>
    exact absurd htime (not_timesOut hd.noTimeout hpc)
  | startRead n late dt dt' hpc hrun hcount htime =>
    exact hperm (.refl _) rfl (Nat.le_add_right _ _)
  | acknowledge n late dt dt' timeLeft hpc =>
    exact hperm (.refl _) SharedWakelock.resetTime_decrement (Nat.le_refl _)
  | perform request =>
    exact hperm (.refl _) (congrArg SharedWakelock.mWakelockTimeoutResetTime
      (HalProxy.sameQueues_perform s.proxy request).wakelock) (Nat.le_refl _)
  | initializeCommon args hidle => exact nomatch hd.uninterrupted
  | initStage dt stage args hstage henabled => exact nomatch hsession.initializing.symm.trans hstage
  | _ => exact ⟨h.resetTime, h.created⟩

/-! ### The ledger -/

theorem front_of_queue {front : List PostedEvent} {stored : ℕ}
    {rest : List (List PostedEvent × ℕ)}
    (hq : s.proxy.pendingWrites.mPendingWriteEventsQueue = (front, stored) :: rest) :
    s.front = front := by
  rw [System.front, hq]
  rfl

/-- A post leaves the front batch in place. -/
theorem front_postBatch (hne : s.proxy.pendingWrites.mPendingWriteEventsQueue ≠ []) {k : ℕ}
    {post : Post} {events : List PostedEvent} {n avail : ℕ} {ok : Bool} {now : ℕ} :
    (s.postBatch c k post events n avail ok now).front = s.front := by
  obtain ⟨⟨front, stored⟩, rest, hq⟩ := List.exists_cons_of_ne_nil hne
  obtain ⟨more, hmore⟩ : s.proxy.pendingWrites.mPendingWriteEventsQueue <+:
      (s.postBatch c k post events n avail ok now).proxy.pendingWrites.mPendingWriteEventsQueue :=
    PendingWrites.isPrefix_pushLeft
  rw [hq] at hmore
  rw [front_of_queue hq, front_of_queue hmore.symm]

/-- The chunk in hand is the head of the front batch. -/
theorem chunk_eq_take_front (h : Coherent s) {stored q n : ℕ}
    (hpc : s.writer = .writing stored q n) : s.chunk n = s.front.take q := by
  obtain ⟨front, stored', rest, hq, rfl⟩ := h.inHand hpc
  rw [front_of_queue hq, chunk, hq]
  show front.take (min front.length q) = front.take q
  rw [Nat.min_comm, ← List.take_eq_take_min]

/-- The claims given back are the recount of the chunk, or the stored number for the last chunk. -/
theorem givenBack_eq (s : System) (stored q : ℕ) :
    s.givenBack stored q
      = if stored > 0 then
          if s.front.length > q then s.wakeUps (s.front.take q) else stored
        else 0 := by
  unfold givenBack PendingWrites.numToGiveBack
  split_ifs
  · exact PendingWrites.countNumWakeupEvents_fst s.proxy.mSensors s.front q
  · rfl
  · rfl

/-- What is about to be given back does not change while the pending-writes thread stands still. -/
theorem debt_eq (hstep : step c s a = some t) (hwriter : t.writer = s.writer)
    (hfront : ∀ stored q n, s.writer = .failed stored q n → t.front = s.front) :
    t.debt = s.debt := by
  unfold debt
  rw [hwriter]
  cases hpc : s.writer with
  | failed stored q n =>
    dsimp only
    rw [givenBack_eq, givenBack_eq, hfront stored q n hpc, wakeUps_step hstep]
  | _ => rfl

/-- How a step changes the count and what is owed. -/
structure LedgerStep (c : Constants) (s : System) (a : Action) (t : System)
    (added given : ℕ) : Prop where
  count : t.proxy.wakelock.mWakelockRefCount
    = s.proxy.wakelock.mWakelockRefCount + added - given
  owed : t.owed + t.debt + given + refusedWakeUps c s a + s.droppedWakeUps a
    = s.owed + s.debt + added + s.droppedClaims a

/-- A step that neither posts nor touches a chunk: only the live wakelocks matter. -/
theorem ledgerStep_of_live {added given : ℕ} (hstep : step c s a = some t)
    (hcount : t.proxy.wakelock.mWakelockRefCount
      = s.proxy.wakelock.mWakelockRefCount + added - given)
    (hlive : t.liveWakelocks.length + given = s.liveWakelocks.length + added)
    (hunacked : t.unacked = s.unacked) (htransit : t.transit = s.transit)
    (hdebt : t.debt = s.debt) (hrefused : refusedWakeUps c s a = 0)
    (hdropped : s.droppedWakeUps a = 0) (hclaims : s.droppedClaims a = 0) :
    LedgerStep c s a t added given where
  count := hcount
  owed := by
    rw [owed, owed, hunacked, htransit, hdebt, hrefused, hdropped, hclaims, wakeUps_step hstep]
    omega

/-- Where no chunk is written or given back for, nothing is dropped and nothing owed for a drop. -/
theorem dropped_eq_zero (ok : Bool) (h : s.writer.settled = true) :
    s.debt = 0 ∧ s.droppedWakeUps (.handlePendingWrites ok) = 0
      ∧ s.droppedClaims (.handlePendingWrites ok) = 0 := by
  unfold debt droppedWakeUps droppedClaims
  cases hpc : s.writer with
  | writing stored q n | failed stored q n =>
    rw [hpc] at h
    exact nomatch h
  | _ => cases ok <;> exact ⟨rfl, rfl, rfl⟩

/-- A step of the pending-writes thread that writes nothing and gives nothing back. -/
theorem ledgerStep_of_writer {ok : Bool} (hstep : step c s (.handlePendingWrites ok) = some t)
    (hcount : t.proxy.wakelock = s.proxy.wakelock) (hlive : t.liveWakelocks = s.liveWakelocks)
    (hhistory : t.history = s.history) (htransit : t.transit = s.transit) (hdebt' : t.debt = 0)
    (hsettled : s.writer.settled = true) : LedgerStep c s (.handlePendingWrites ok) t 0 0 := by
  obtain ⟨hdebt, hdropped, hclaims⟩ := dropped_eq_zero ok hsettled
  refine ledgerStep_of_live hstep ?_ ?_ ?_ htransit ?_ rfl hdropped hclaims
  · rw [hcount]
    rfl
  · rw [hlive]
  · rw [unacked, hhistory, unacked]
  · rw [hdebt, hdebt']

theorem ledgerStep_post (hcoh : Coherent s) (hcounted : Counted s) (hrun : InSession s)
    {k avail : ℕ} {ok : Bool} {dt : ℕ} {post : Post} {events : List Event} {n : ℕ}
    (hk : s.posts[k]? = some post) (hpc : post.pc = .processed events n)
    (hlocks : locksForWakeUps s (.postEventsToMessageQueue k avail ok dt) = true)
    (hstep : step c s (.postEventsToMessageQueue k avail ok dt)
      = some (s.postBatch c k post (s.stamp post events) n avail ok (s.clock + dt))) :
    LedgerStep c s (.postEventsToMessageQueue k avail ok dt)
      (s.postBatch c k post (s.stamp post events) n avail ok (s.clock + dt)) n 0 := by
  set stamped := s.stamp post events with hstamped
  generalize hm : s.proxy.pendingWrites.numToWrite stamped.length avail ok = m
  set t := s.postBatch c k post stamped n avail ok (s.clock + dt) with ht
  -- The batch is counted with the number of its wake-up events.
  have hn : n = s.wakeUps stamped := (hcounted.wakeUps_stamp hk hpc).symm
  have hcount : t.proxy.wakelock.mWakelockRefCount
      = s.proxy.wakelock.mWakelockRefCount + n := by
    have hiff : post.wakelock.isSome = decide (0 < n) := by
      simpa [locksForWakeUps, hk, hpc] using hlocks
    rw [ht]
    unfold postBatch HalProxy.postEventsToMessageQueue
    rw [hrun.mThreadsRun]
    dsimp only
    cases hlocked : post.wakelock.isSome with
    | true => rfl
    | false =>
      rw [hlocked] at hiff
      have hzero : n = 0 := by simpa using hiff
      rw [hzero]
      rfl
  have hunacked : t.unacked = s.unacked + s.wakeUps (stamped.take m) := by
    rw [ht, ← hm]
    exact (Nat.add_assoc _ _ _).symm
  have htransit := transit_postBatch (c := c) hcoh k post stamped n avail ok (s.clock + dt) m hm
  have hrefused : refusedWakeUps c s (.postEventsToMessageQueue k avail ok dt)
      = s.wakeUps (s.refusedLeft c stamped m) := by
    rw [refusedWakeUps, hk]
    dsimp only
    rw [hpc]
    dsimp only
    rw [← hstamped, hm]
  have hdebt : t.debt = s.debt := by
    refine debt_eq hstep rfl fun stored q n' hfailed => ?_
    -- The chunk in hand is at the head, and a post appends.
    obtain ⟨front, stored', rest, hq, -⟩ := hcoh.inHand hfailed
    exact front_postBatch (hq ▸ List.cons_ne_nil _ _)
  have hlive : t.liveWakelocks.length = s.liveWakelocks.length := (live_postBatch hk).length_eq
  -- The head of the batch is unacknowledged now; its rest is in transit or refused.
  have hsplit := wakeUps_take_add_drop s stamped m
  refine ⟨hcount, ?_⟩
  rw [owed, owed, hunacked, hdebt, hlive, hrefused, wakeUps_step hstep, htransit, wakeUps_append,
    hn]
  show _ + 0 + _ + 0 = _ + 0
  unfold refusedLeft
  split_ifs
  · rw [wakeUps_nil]
    omega
  · rw [wakeUps_nil]
    omega

theorem ledgerStep_writeChunk (hcoh : Coherent s) {stored q n : ℕ}
    (hpc : s.writer = .writing stored q n) :
    LedgerStep c s (.handlePendingWrites true) (s.writeChunk q n) 0 0 := by
  -- The chunk goes from what is to be written to what is to be acknowledged.
  have hunacked : (s.writeChunk q n).unacked = s.unacked + s.wakeUps (s.chunk n) := by
    have hsplit := wakeUps_filter_epoch s (s.chunk n) s.history.resets
    show s.history.unackedLate + s.wakeUps ((s.chunk n).filter (·.epoch ≠ s.history.resets))
      + (s.history.unackedFresh + s.wakeUps ((s.chunk n).filter (·.epoch = s.history.resets)))
      = s.history.unackedLate + s.history.unackedFresh + s.wakeUps (s.chunk n)
    omega
  have hdebt : s.debt = 0 := by rw [debt, hpc]
  have hsplit := wakeUps_take_add_drop s s.transit n
  refine ⟨rfl, ?_⟩
  rw [owed, owed, hunacked, transit_writeChunk hpc, hdebt, chunk_eq_take_transit hcoh hpc]
  show s.unacked + _ + s.wakeUps _ + s.liveWakelocks.length + 0 + 0 + 0 + 0 = _ + 0 + 0 + 0
  omega

theorem ledgerStep_dropChunk (hcoh : Coherent s) {stored q n : ℕ}
    (hpc : s.writer = .writing stored q n) :
    LedgerStep c s (.handlePendingWrites false) (s.dropChunk stored q n) 0 0 := by
  have hdebt : s.debt = 0 := by rw [debt, hpc]
  -- What will be given back is owed until then.
  have hdebt' : (s.dropChunk stored q n).debt = s.givenBack stored q := by
    unfold dropChunk debt
    dsimp only
    by_cases hstored : stored > 0
    · rw [if_pos hstored]
      rfl
    · rw [if_neg hstored, givenBack_eq, if_neg hstored]
  have hclaims : s.droppedClaims (.handlePendingWrites false) = s.givenBack stored q := by
    rw [droppedClaims, hpc]
  have hdropped : s.droppedWakeUps (.handlePendingWrites false) = s.wakeUps (s.transit.take n) := by
    rw [droppedWakeUps, hpc, ← chunk_eq_take_transit hcoh hpc]
  have hsplit := wakeUps_take_add_drop s s.transit n
  refine ⟨rfl, ?_⟩
  rw [owed, owed, transit_dropChunk hpc, hdebt, hdebt', hclaims, hdropped]
  show s.unacked + s.wakeUps _ + s.liveWakelocks.length + _ + 0 + 0 + _ = _ + 0 + 0 + _
  omega

theorem ledgerStep_giveBack (hrun : InSession s) {ok : Bool} {front : List PostedEvent}
    {stored q n stored' : ℕ} {rest : List (List PostedEvent × ℕ)}
    (hpc : s.writer = .failed stored q n)
    (hq : s.proxy.pendingWrites.mPendingWriteEventsQueue = (front, stored') :: rest)
    (hstep : step c s (.handlePendingWrites ok) = some (s.giveBack front stored q n)) :
    LedgerStep c s (.handlePendingWrites ok) (s.giveBack front stored q n) 0
      (s.givenBack stored q) := by
  have hdebt : s.debt = s.givenBack stored q := by rw [debt, hpc]
  have hdropped : s.droppedWakeUps (.handlePendingWrites ok) = 0 := by
    cases ok <;> simp [droppedWakeUps, hpc]
  have hclaims : s.droppedClaims (.handlePendingWrites ok) = 0 := by
    cases ok <;> simp [droppedClaims, hpc]
  constructor
  · have hfront := front_of_queue hq
    show SharedWakelock.mWakelockRefCount (SharedWakelock.decrementRefCountAndMaybeReleaseWakelock
      s.proxy.mThreadsRun _ (-1) s.proxy.wakelock) = _
    rw [hrun.mThreadsRun, SharedWakelock.count_decrement_fresh SharedWakelock.not_stale_neg_one,
      givenBack, hfront]
    rfl
  · rw [owed, owed, transit_giveBack hpc, hdebt, hdropped, hclaims, wakeUps_step hstep]
    show s.unacked + _ + s.liveWakelocks.length + 0 + _ + 0 + 0 = _ + 0 + 0
    omega

theorem ledgerStep_acknowledge (hrun : InSession s) {n : UInt32} {late dt dt' : ℕ}
    (hpc : s.wakelockThread.isReading = true)
    (hack : acknowledgesDelivered s (.handleWakelocks (some n) late dt dt') = true) :
    LedgerStep c s (.handleWakelocks (some n) late dt dt') (s.acknowledge n late) 0 n.toNat := by
  obtain ⟨hlate, hunackedLate, hunackedFresh⟩ := le_unacked_of_acknowledgesDelivered hpc hack
  constructor
  · show SharedWakelock.mWakelockRefCount (SharedWakelock.decrementRefCountAndMaybeReleaseWakelock
      s.proxy.mThreadsRun _ (-1) s.proxy.wakelock) = _
    rw [hrun.mThreadsRun, SharedWakelock.count_decrement_fresh SharedWakelock.not_stale_neg_one]
    rfl
  · show s.history.unackedLate - late + (s.history.unackedFresh - (n.toNat - late))
        + s.wakeUps s.transit + s.liveWakelocks.length + s.debt + n.toNat + 0 + 0
      = s.history.unackedLate + s.history.unackedFresh + s.wakeUps s.transit
        + s.liveWakelocks.length + s.debt + 0 + 0
    omega

/-- **The ledger.**  In a session every step changes the count and what is owed by the same
amount, but for refused rests and dropped chunks. -/
theorem ledger_step (hrun : InSession s) (hcoh : Coherent s) (hcounted : Counted s)
    (hfresh : LocksFresh s) (hd : Disciplined c s a) (hstep : step c s a = some t) :
    ∃ added given, LedgerStep c s a t added given := by
  have hsame : ∀ {pc : WriterPc}, s.writer = pc → doneWith pc = 0 →
      s.transit = s.proxy.pendingWrites.pendingEvents :=
    fun hpc hdone => transit_of_doneWith (by rw [hpc, hdone])
  cases step_cases hstep with
  | createScopedWakelock dt =>
    have hlive := (live_createScopedWakelock (s := s) hrun.mThreadsRun dt).length_eq
    have hdebt : (s.createScopedWakelock dt).debt = s.debt :=
      debt_eq hstep rfl fun _ _ _ _ => rfl
    have hcount : (s.createScopedWakelock dt).proxy.wakelock.mWakelockRefCount
        = s.proxy.wakelock.mWakelockRefCount + 1 := by
      unfold createScopedWakelock
      rw [hrun.mThreadsRun]
      rfl
    exact ⟨1, 0, ledgerStep_of_live hstep hcount hlive rfl rfl hdebt rfl rfl rfl⟩
  | destroyScopedWakelock k wakelock hk =>
    have hperm := live_destroyScopedWakelock hk
    -- It was created after the last reset, so its claim is not taken for an old one.
    have hcreated := hfresh.created wakelock (hperm.mem_iff.mpr List.mem_cons_self)
    have hnotStale : ¬SharedWakelock.Stale wakelock.mCreatedAtTimeNs s.proxy.wakelock := by
      intro hstale
      exact absurd hstale.2 (Int.not_lt.mpr hcreated)
    have hdebt := debt_eq hstep rfl fun _ _ _ _ => rfl
    refine ⟨0, 1, ledgerStep_of_live hstep ?_ hperm.length_eq.symm rfl rfl hdebt rfl rfl rfl⟩
    dsimp only
    rw [hrun.mThreadsRun, SharedWakelock.count_decrement_fresh hnotStale]
    rfl
  | goOn i events wakelock taken left htake hrun' =>
    have hdebt := debt_eq hstep rfl fun _ _ _ _ => rfl
    refine ⟨0, 0, ledgerStep_of_live hstep rfl ?_ rfl rfl hdebt rfl rfl rfl⟩
    exact (live_goOn htake).length_eq
  | processEvents k post events hk hpc out hout =>
    have hdebt := debt_eq hstep rfl fun _ _ _ _ => rfl
    refine ⟨0, 0, ledgerStep_of_live hstep rfl ?_ rfl rfl hdebt rfl rfl rfl⟩
    exact congrArg List.length (live_processEvents hk)
  | postEvents k avail ok dt post events n hk hpc hfree =>
    exact ⟨n, 0, ledgerStep_post hcoh hcounted hrun hk hpc hd.locks hstep⟩
  | wake ok hpc hready =>
    have hsettled : s.writer.settled = true := by rw [hpc]; rfl
    have htransit := (hsame hpc rfl).symm
    exact ⟨0, 0, ledgerStep_of_writer hstep rfl rfl rfl htransit rfl hsettled⟩
  | exitWriter ok hpc hrun' => exact nomatch hrun'.symm.trans hrun.mThreadsRun
  | select ok front stored rest hpc hrun' hq =>
    have hsettled : s.writer.settled = true := by rw [hpc]; rfl
    have htransit := (hsame hpc rfl).symm
    exact ⟨0, 0, ledgerStep_of_writer hstep rfl rfl rfl htransit rfl hsettled⟩
  | writeChunk stored q n hpc => exact ⟨0, 0, ledgerStep_writeChunk hcoh hpc⟩
  | dropChunk stored q n hpc => exact ⟨0, 0, ledgerStep_dropChunk hcoh hpc⟩
  | giveBack ok stored q n front stored' rest hpc hq =>
    exact ⟨0, _, ledgerStep_giveBack hrun hpc hq hstep⟩
  | finishWrite ok q n hpc =>
    have hsettled : s.writer.settled = true := by rw [hpc]; rfl
    have htransit := transit_finishWrite hcoh hpc
    exact ⟨0, 0, ledgerStep_of_writer hstep rfl rfl rfl htransit rfl hsettled⟩
  | acknowledge n late dt dt' timeLeft hpc =>
    exact ⟨0, _, ledgerStep_acknowledge hrun (by rw [hpc]; rfl) hd.acknowledges⟩
  | perform request =>
    have hsameQueues := HalProxy.sameQueues_perform s.proxy request
    refine ⟨0, 0, ledgerStep_of_live hstep ?_ rfl rfl ?_ (debt_eq hstep rfl fun _ _ _ _ => ?_)
      rfl rfl rfl⟩
    · exact congrArg SharedWakelock.mWakelockRefCount hsameQueues.wakelock
    · unfold transit
      rw [hsameQueues.pendingWrites]
    · unfold System.front
      rw [hsameQueues.pendingWrites]
  | exitWakelocks n late dt dt' hpc hrun' => exact nomatch hrun'.symm.trans hrun.mThreadsRun
  | timeOut n late dt dt' hpc hrun' hcount htime =>
    exact absurd htime (not_timesOut hd.noTimeout hpc)
  | initializeCommon args hidle => exact nomatch hd.uninterrupted
  | initStage dt stage args hstage henabled => exact nomatch hrun.initializing.symm.trans hstage
  | _ => exact ⟨0, 0, ledgerStep_of_live hstep rfl rfl rfl rfl rfl rfl rfl rfl⟩

/-! ### What a session keeps -/

/-- Everything that the ledger rests on. -/
structure Orderly (s : System) : Prop where
  inSession : InSession s
  coherent : Coherent s
  counted : Counted s
  locksFresh : LocksFresh s

theorem Orderly.step (h : Orderly s) (hd : Disciplined c s a) (hstep : step c s a = some t) :
    Orderly t where
  inSession := h.inSession.step hd.uninterrupted hstep
  coherent := h.coherent.step hstep
  counted := h.counted.step hstep
  locksFresh := h.locksFresh.step h.inSession hd hstep

theorem Orderly.ledger_step (h : Orderly s) (hd : Disciplined c s a)
    (hstep : System.step c s a = some t) : ∃ added given, LedgerStep c s a t added given :=
  System.ledger_step h.inSession h.coherent h.counted h.locksFresh hd hstep

theorem FreshSession.coherent (h : FreshSession s) : Coherent s :=
  coherent_of_waiting h.initializing h.writer

theorem FreshSession.liveWakelocks (h : FreshSession s) : s.liveWakelocks = [] := by
  rw [System.liveWakelocks, h.scopedWakelocks, h.posts]
  rfl

theorem FreshSession.orderly (h : FreshSession s) : Orderly s where
  inSession := h.inSession
  coherent := h.coherent
  counted := fun post hpost => by
    rw [h.posts] at hpost
    exact nomatch hpost
  locksFresh := ⟨h.resetTime, fun wakelock hmem => by
    rw [h.liveWakelocks] at hmem
    exact nomatch hmem⟩

/-- At the beginning nothing is owed. -/
theorem FreshSession.owed (h : FreshSession s) : s.owed + s.debt = 0 := by
  rw [System.owed, System.debt, transit_of_empty h.queue, h.liveWakelocks, h.writer, unacked,
    h.unackedLate, h.unackedFresh]
  rfl

end System

end OnePlus9
