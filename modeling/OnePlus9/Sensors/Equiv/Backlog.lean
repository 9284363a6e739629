import OnePlus9.Sensors.Equiv.Delivery
import OnePlus9.Sensors.Equiv.PendingAccounting

/-!
# The backlog gets delivered

The pending-writes thread needs nobody else.  From every state of a session, if the blocking writes
succeed, its steps alone empty the queue of pending writes (`delivers_backlog`): everything that was
still to be written follows, in order, what was written before, and nothing is lost.  The measure is
`turns`, which counts the steps left to the thread.
-/

namespace OnePlus9.System

variable {c : Constants} {s t u : System} {a : Action} {as : List Action}

/-- A step of the pending-writes thread whose write, if any, succeeds. -/
def writesSuccessfully : Action → Bool
  | .handlePendingWrites writeOk => writeOk
  | _ => false

/-- What has been written, and what is still to be. -/
def deliveries (s : System) : List PostedEvent := s.proxy.eventQueue.written ++ s.transit

/-- Such a step moves events from the one to the other. -/
theorem deliveries_step (h : Coherent s) (hrun : s.proxy.mThreadsRun = true)
    (hstep : step c s (.handlePendingWrites true) = some t) :
    t.deliveries = s.deliveries ∧ t.history.losses = s.history.losses := by
  have hsame : ∀ {pc : WriterPc}, s.writer = pc → doneWith pc = 0 →
      s.proxy.pendingWrites.pendingEvents = s.transit :=
    fun hpc hdone => (transit_of_doneWith (by rw [hpc, hdone])).symm
  cases step_cases hstep with
  | wake ok hpc hready =>
    exact ⟨congrArg (s.proxy.eventQueue.written ++ ·) (hsame hpc rfl), rfl⟩
  | exitWriter ok hpc hstopped =>
    rw [hrun] at hstopped
    exact absurd hstopped.symm Bool.false_ne_true
  | select ok front stored rest hpc _ hq =>
    exact ⟨congrArg (s.proxy.eventQueue.written ++ ·) (hsame hpc rfl), rfl⟩
  | writeChunk stored q n hpc =>
    refine ⟨?_, rfl⟩
    show (s.proxy.eventQueue.written ++ s.chunk n) ++ (s.writeChunk q n).transit = _
    rw [chunk_eq_take_transit h hpc, transit_writeChunk hpc, List.append_assoc,
      List.take_append_drop]
    rfl
  | giveBack ok stored q n front stored' rest hpc hq =>
    exact ⟨congrArg (s.proxy.eventQueue.written ++ ·) (transit_giveBack hpc), rfl⟩
  | finishWrite ok q n hpc =>
    exact ⟨congrArg (s.proxy.eventQueue.written ++ ·) (transit_finishWrite h hpc), rfl⟩

/-- What the pending-writes thread keeps on its way. -/
structure Delivers (c : Constants) (s t : System) : Prop where
  exact : Exact c t
  mThreadsRun : t.proxy.mThreadsRun = true
  deliveries : t.deliveries = s.deliveries
  losses : t.history.losses = s.history.losses

theorem Delivers.step (h : Delivers c s t)
    (hmax : c.kMaxSizePendingWriteEventsQueue ≤ vectorMaxSize)
    (hstep : System.step c t (.handlePendingWrites true) = some u) : Delivers c s u := by
  obtain ⟨hdeliveries, hlosses⟩ := deliveries_step h.exact.coherent h.mThreadsRun hstep
  obtain ⟨hrun, -⟩ := h.exact.turns_step h.mThreadsRun rfl hstep
  exact ⟨h.exact.step hmax rfl hstep, hrun, hdeliveries.trans h.deliveries,
    hlosses.trans h.losses⟩

/-- **The backlog is delivered.**  From every state of every session with the threads running, the
pending-writes thread alone, with writes that succeed, gets to a state in which nothing is pending,
everything still to be written has been written in order, and nothing more was lost. -/
theorem delivers_backlog (hmax : c.kMaxSizePendingWriteEventsQueue ≤ vectorMaxSize)
    (hs : SessionBegins s) (hw : (machine c).Meets (fun s a => withinSession s a = true) s as)
    (hv : (machine c).Visits s as t) (hrun : t.proxy.mThreadsRun = true) :
    ∃ u, ((machine c).restrict writesSuccessfully).Reaches t u
      ∧ u.proxy.pendingWrites.mPendingWriteEventsQueue = []
      ∧ u.proxy.eventQueue.written = t.proxy.eventQueue.written ++ t.transit
      ∧ u.history.losses = t.history.losses := by
  have hexact : Exact c t :=
    Machine.invariant (fun _ _ _ hs hw hstep => hs.step hmax hw hstep) hs.exact hw hv
  obtain ⟨u, hreaches, hdelivers, hempty⟩ :=
    Machine.exists_reaches_of_measure (M := (machine c).restrict writesSuccessfully)
      (I := Delivers c t)
      (G := fun u => u.proxy.pendingWrites.mPendingWriteEventsQueue = []) turns
      (fun u hu hpending => by
        obtain ⟨v, hv⟩ := hu.exact.exists_step hu.mThreadsRun hpending true
        exact ⟨.handlePendingWrites true, v, Machine.restrict_step_eq_some.mpr ⟨rfl, hv⟩,
          hu.step hmax hv, hu.exact.turns_lt hu.mThreadsRun hv⟩)
      (⟨hexact, hrun, rfl, rfl⟩ : Delivers c t t)
  refine ⟨u, hreaches, hempty, ?_, hdelivers.losses⟩
  have hdeliveries := hdelivers.deliveries
  rw [deliveries, transit_of_empty hempty, List.append_nil] at hdeliveries
  exact hdeliveries

/-- Three events are posted while the event queue is full; then the thread writes all of them. -/
theorem delivers_backlog_postThree :
    ∃ t u, (machine sampleConstants).Visits sampleSession postThree t
      ∧ ((machine sampleConstants).restrict writesSuccessfully).Reaches t u
      ∧ u.proxy.pendingWrites.mPendingWriteEventsQueue = []
      ∧ u.proxy.eventQueue.written.length = 3 := by
  obtain ⟨t, hvisits, ht⟩ := (machine sampleConstants).exists_visits sampleSession postThree
    (fun t => (t.proxy.mThreadsRun, (t.proxy.eventQueue.written ++ t.transit).length)) (true, 3)
    (by decide)
  obtain ⟨hrun, hlength⟩ := Prod.mk.inj ht
  obtain ⟨u, hreaches, hempty, hwritten, -⟩ := delivers_backlog (by decide)
    (sessionBegins_of_run (by decide) run_sampleSession) (by decide) hvisits hrun
  exact ⟨t, u, hvisits, hreaches, hempty, by rw [hwritten, hlength]⟩

end OnePlus9.System
