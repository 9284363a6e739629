import OnePlus9.Sensors.Equiv.PendingAccounting

/-!
# The most pending events

`debug` reports `mMostEventsObservedPendingWriteEventsQueue`, which is raised where events are
queued and never lowered, not even by an initialization.  Since the account of the pending events is
exact all through a session (`Exact`), a session raises the mark to the largest number of events
that were pending in any of its states, and no further (`mostPending_of_run`).
-/

namespace OnePlus9

namespace PendingWrites

variable {ε : Type*} {p : PendingWrites ε} {kMax k n q : ℕ} {events : List ε}

/-- Queueing raises the mark to the number it counts. -/
theorem mostObserved_pushLeft
    (h : p.mSizePendingWriteEventsQueue ≤ p.mMostEventsObservedPendingWriteEventsQueue) :
    (p.pushLeft kMax events k n).mMostEventsObservedPendingWriteEventsQueue
      = max p.mMostEventsObservedPendingWriteEventsQueue
        (p.pushLeft kMax events k n).mSizePendingWriteEventsQueue := by
  unfold pushLeft
  split_ifs
  · rfl
  · omega

/-- Taking a chunk off leaves the mark alone. -/
theorem mostObserved_finishWrite :
    (p.finishWrite q n).mMostEventsObservedPendingWriteEventsQueue
      = p.mMostEventsObservedPendingWriteEventsQueue := by
  unfold finishWrite
  split <;> rfl

end PendingWrites

namespace System

variable {c : Constants} {s t : System} {a : Action} {as : List Action}

/-- The number of pending events. -/
def pending (s : System) : ℕ := s.proxy.pendingWrites.pendingEvents.length

/-- The mark of `debug`. -/
def mostPending (s : System) : ℕ :=
  s.proxy.pendingWrites.mMostEventsObservedPendingWriteEventsQueue

theorem mostPending_of_same (hpending : t.proxy.pendingWrites = s.proxy.pendingWrites)
    (hmark : s.pending ≤ s.mostPending) : t.mostPending = max s.mostPending t.pending := by
  have hmost : t.mostPending = s.mostPending := by rw [mostPending, mostPending, hpending]
  have hpend : t.pending = s.pending := by rw [pending, pending, hpending]
  omega

/-- **One step** raises the mark to the number of events pending after it. -/
theorem Exact.mostPending_step (h : Exact c s)
    (hmax : c.kMaxSizePendingWriteEventsQueue ≤ vectorMaxSize) (hmark : s.pending ≤ s.mostPending)
    (hw : withinSession s a = true) (hstep : System.step c s a = some t) :
    t.mostPending = max s.mostPending t.pending := by
  have hexact := h.step hmax hw hstep
  have hsize : s.proxy.pendingWrites.mSizePendingWriteEventsQueue = s.pending := h.accounted.size
  have hsize' : t.proxy.pendingWrites.mSizePendingWriteEventsQueue = t.pending :=
    hexact.accounted.size
  cases step_cases hstep with
  | postEvents k avail ok dt post events n hk hpc hfree =>
    rw [← hsize']
    exact PendingWrites.mostObserved_pushLeft (hsize ▸ hmark)
  | finishWrite ok q n hpc =>
    have hmost : mostPending { s with
        proxy.pendingWrites := s.proxy.pendingWrites.finishWrite q n
        writer := .waiting } = s.mostPending := PendingWrites.mostObserved_finishWrite
    obtain ⟨-, -, hdrop⟩ := h.pendingEvents_finishWrite hpc
    have hless : pending { s with
        proxy.pendingWrites := s.proxy.pendingWrites.finishWrite q n
        writer := .waiting } ≤ s.pending := by
      show (s.proxy.pendingWrites.finishWrite q n).pendingEvents.length ≤ s.pending
      rw [hdrop, List.length_drop, pending]
      exact Nat.sub_le _ _
    omega
  | perform request =>
    exact mostPending_of_same (HalProxy.sameQueues_perform s.proxy request).pendingWrites hmark
  | initStage dt stage args hstage henabled =>
    have hjoin : stage = .joinThreads := by simpa [withinSession, hstage] using hw
    subst hjoin
    exact mostPending_of_same rfl hmark
  | _ => exact mostPending_of_same rfl hmark

/-- **The mark of `debug`** after any run of a session is at least the number of events pending in
every state of it, and it is this number in one of them unless no state has exceeded what was
observed before the session.  Nor does a session raise it above the maximum of the queue. -/
theorem mostPending_of_run (hmax : c.kMaxSizePendingWriteEventsQueue ≤ vectorMaxSize)
    (hs : SessionBegins s)
    (hw : (machine c).Meets (fun s a => withinSession s a = true) s as)
    (hrun : (machine c).run s as = some t) :
    s.mostPending ≤ t.mostPending
      ∧ (∀ u, (machine c).Visits s as u → u.pending ≤ t.mostPending)
      ∧ (t.mostPending = s.mostPending
        ∨ ∃ u, (machine c).Visits s as u ∧ t.mostPending = u.pending)
      ∧ t.mostPending ≤ max s.mostPending c.kMaxSizePendingWriteEventsQueue := by
  have hstart : s.pending ≤ s.mostPending := by
    rw [pending, PendingWrites.pendingEvents, hs.queue]
    exact Nat.zero_le _
  have hstep : ∀ s a t, (Exact c s ∧ s.pending ≤ s.mostPending) → withinSession s a = true →
      (machine c).step s a = some t →
      (Exact c t ∧ t.pending ≤ t.mostPending) ∧ t.mostPending = max s.mostPending t.pending := by
    rintro s a t ⟨hexact, hmark⟩ hwithin hstep
    have hraised := hexact.mostPending_step hmax hmark hwithin hstep
    exact ⟨⟨hexact.step hmax hwithin hstep, by omega⟩, hraised⟩
  obtain ⟨hgrows, hall, hsome⟩ := Machine.highWater hstep ⟨hs.exact, hstart⟩ hstart hw hrun
  refine ⟨hgrows, hall, hsome, ?_⟩
  rcases hsome with heq | ⟨u, hu, heq⟩
  · omega
  · have hexact : Exact c u :=
      Machine.invariant (fun _ _ _ hs hw hstep => hs.step hmax hw hstep) hs.exact hw hu
    have hbounded := hexact.bounded
    rw [hexact.accounted.size] at hbounded
    have hle : u.pending ≤ c.kMaxSizePendingWriteEventsQueue := hbounded
    omega

/-- In the run of the three events, all of them are pending at once. -/
theorem mostPending_postThree :
    ∃ t, (machine sampleConstants).run sampleSession postThree = some t ∧ 3 ≤ t.mostPending := by
  have hpending : ((machine sampleConstants).run sampleSession postThree).map pending = some 3 := by
    decide
  obtain ⟨t, hrun, ht⟩ := Option.map_eq_some_iff.mp hpending
  obtain ⟨-, hall, -, -⟩ := mostPending_of_run (by decide)
    (sessionBegins_of_run (by decide) run_sampleSession) (by decide) hrun
  exact ⟨t, hrun, ht ▸ hall t ((machine sampleConstants).visits_of_run hrun)⟩

end System

end OnePlus9
