import OnePlus9.Sensors.Equiv.Session
import OnePlus9.Sensors.Equiv.Threads
import Mathlib.Algebra.GroupWithZero.Nat

/-!
# The accounting of the pending-writes queue

A session begins with nothing pending (`SessionBegins`) and ends with `stopThreads`.  All through it
`mSizePendingWriteEventsQueue` is the number of pending events, at most the maximum, and no batch
is empty (`Exact`): posts append to the queue and raise the counter in one critical section, and the
pending-writes thread takes its chunk off both in another one, with a number computed before, which
posts in between cannot make wrong.

The thread never reads the front of an empty queue, since `mThreadsRun` is cleared once and not set
again, and each of its turns takes at least one event off.  As long as nothing is posted and nobody
stops the threads, `turns` falls with every step of the thread, which therefore takes at most five
steps for each pending event, and it has a next step until the queue is empty.

`exactAccounting` is all of this in one theorem.
-/

namespace OnePlus9

/-- The most elements a `std::vector` can have. -/
def vectorMaxSize : ℕ := 2 ^ 63 - 1

/-- The batch a post is about to process, or to put into the queues. -/
def Post.batch (post : Post) : List Event :=
  match post.pc with
  | .tested events => events
  | .processed eventsOut _ => eventsOut

/-- The chunk in hand, if any, is not empty. -/
def WriterPc.HoldsSome : WriterPc → Prop
  | .writing _ _ n | .failed _ _ n | .relocking _ n => 0 < n
  | _ => True

/-- Where the thread is in its turn. -/
def WriterPc.place : WriterPc → ℕ
  | .stopped | .waiting => 0
  | .woken => 1
  | .writing .. => 2
  | .failed .. => 3
  | .relocking .. => 4

namespace System

variable {c : Constants} {s t : System} {a : Action} {as : List Action}

/-! ### Sessions -/

/-- A session begins: the threads run, and nothing is pending. -/
structure SessionBegins (s : System) : Prop extends InSession s where
  writer : s.writer = .waiting
  queue : s.proxy.pendingWrites.mPendingWriteEventsQueue = []
  size : s.proxy.pendingWrites.mSizePendingWriteEventsQueue = 0
  quantumCount : 0 < s.proxy.eventQueue.quantumCount

/-- Of an initialization nothing but `stopThreads` is part of the session, and what is posted is a
vector. -/
def withinSession (s : System) : Action → Bool
  | .postEventsToMessageQueue k _ _ _ =>
    s.posts[k]?.all fun post => post.batch.length ≤ vectorMaxSize
  | .initStage _ => s.initializing.all fun next => next.1 = .joinThreads
  | _ => true

/-- The first initialization begins such a session. -/
theorem sessionBegins_of_run {subHalList : List SubHalWrapper} {args : HalProxy.InitializeArgs}
    (hquantum : 0 < args.quantumCount)
    (hrun : (machine c).run (start subHalList) (initialization args) = some s) :
    SessionBegins s := by
  obtain ⟨s', hrun', hfresh⟩ := run_initialization c subHalList args
  obtain rfl : s = s' := Option.some.inj (hrun.symm.trans hrun')
  refine ⟨hfresh.inSession, hfresh.writer, hfresh.queue, ?_, ?_⟩
  · obtain rfl := Option.some.inj hrun
    rfl
  · obtain rfl := Option.some.inj hrun
    exact hquantum

/-! ### The invariant -/

/-- The account of the pending events is exact, and the pending-writes thread has what it works
on. -/
structure Exact (c : Constants) (s : System) : Prop where
  coherent : Coherent s
  accounted : s.proxy.pendingWrites.Accounted
  bounded : s.proxy.pendingWrites.mSizePendingWriteEventsQueue
    ≤ c.kMaxSizePendingWriteEventsQueue
  quantumCount : 0 < s.proxy.eventQueue.quantumCount
  holdsSome : s.writer.HoldsSome
  woken : s.writer = .woken → s.proxy.mThreadsRun = true →
    s.proxy.pendingWrites.mPendingWriteEventsQueue ≠ []
  running : s.proxy.mThreadsRun = true → s.writer ≠ .stopped

theorem SessionBegins.exact (h : SessionBegins s) : Exact c s where
  coherent := coherent_of_waiting h.initializing h.writer
  accounted := PendingWrites.accounted_of_empty h.queue h.size
  bounded := by
    rw [h.size]
    exact Nat.zero_le _
  quantumCount := h.quantumCount
  holdsSome := by
    rw [h.writer]
    trivial
  woken := fun hpc => nomatch h.writer.symm.trans hpc
  running := fun _ hpc => nomatch h.writer.symm.trans hpc

/-- A step of another thread that leaves the queues alone. -/
theorem Exact.of_same (h : Exact c s) (hstep : System.step c s a = some t)
    (hpending : t.proxy.pendingWrites = s.proxy.pendingWrites)
    (hqueue : t.proxy.eventQueue.quantumCount = s.proxy.eventQueue.quantumCount)
    (hwriter : t.writer = s.writer)
    (hrun : t.proxy.mThreadsRun = true → s.proxy.mThreadsRun = true) : Exact c t where
  coherent := h.coherent.step hstep
  accounted := hpending ▸ h.accounted
  bounded := hpending ▸ h.bounded
  quantumCount := hqueue ▸ h.quantumCount
  holdsSome := hwriter ▸ h.holdsSome
  woken := fun hpc ht => by
    rw [hpending]
    exact h.woken (hwriter.symm.trans hpc) (hrun ht)
  running := fun ht => by
    rw [hwriter]
    exact h.running (hrun ht)

/-- A step of the pending-writes thread, with a chunk in hand, that leaves the queue alone. -/
theorem Exact.of_writer (h : Exact c s) (hstep : System.step c s a = some t)
    (hpending : t.proxy.pendingWrites = s.proxy.pendingWrites)
    (hqueue : t.proxy.eventQueue.quantumCount = s.proxy.eventQueue.quantumCount)
    (hholds : t.writer.HoldsSome) (hwoken : t.writer ≠ .woken) (hstopped : t.writer ≠ .stopped) :
    Exact c t where
  coherent := h.coherent.step hstep
  accounted := hpending ▸ h.accounted
  bounded := hpending ▸ h.bounded
  quantumCount := hqueue ▸ h.quantumCount
  holdsSome := hholds
  woken := fun hpc => absurd hpc hwoken
  running := fun _ => hstopped

/-! ### One step -/

/-- A post appends to the queue and raises the counter, unless the batch does not fit. -/
theorem Exact.accounted_postBatch (h : Exact c s)
    (hmax : c.kMaxSizePendingWriteEventsQueue ≤ vectorMaxSize) {k avail now : ℕ} {ok : Bool}
    {post : Post} {events : List Event} {n : ℕ} (hlength : events.length ≤ vectorMaxSize) :
    (s.postBatch c k post (s.stamp post events) n avail ok now).proxy.pendingWrites.Accounted := by
  have hsize := h.accounted.size
  have hbounded := h.bounded
  refine h.accounted.pushLeft ?_
  rw [stamp, List.length_mapIdx]
  unfold vectorMaxSize at hmax hlength
  unfold sizeModulus
  omega

/-- The thread takes its chunk off the queue and lowers the counter. -/
theorem Exact.accounted_finishWrite (h : Exact c s) {q n : ℕ} (hpc : s.writer = .relocking q n) :
    (s.proxy.pendingWrites.finishWrite q n).Accounted
      ∧ (s.proxy.pendingWrites.finishWrite q n).mSizePendingWriteEventsQueue
        ≤ c.kMaxSizePendingWriteEventsQueue := by
  obtain ⟨front, stored, rest, hq, rfl⟩ := h.coherent.inHand hpc
  have hsize := h.accounted.size_finishWrite (q := q) hq
  have hbounded := h.bounded
  constructor
  · exact h.accounted.finishWrite hq
  · omega

/-- **Every step** within the session keeps the account exact. -/
theorem Exact.step (h : Exact c s) (hmax : c.kMaxSizePendingWriteEventsQueue ≤ vectorMaxSize)
    (hw : withinSession s a = true) (hstep : System.step c s a = some t) : Exact c t := by
  have hholds := h.holdsSome
  cases step_cases hstep with
  | postEvents k avail ok dt post events n hk hpc hfree =>
    have hlength : events.length ≤ vectorMaxSize := by
      simpa [withinSession, hk, Post.batch, hpc] using hw
    exact ⟨h.coherent.step hstep, h.accounted_postBatch hmax hlength,
      PendingWrites.size_pushLeft_le h.bounded, h.quantumCount, h.holdsSome,
      fun hwoken => absurd hwoken hfree, h.running⟩
  | wake ok hpc hready =>
    refine ⟨h.coherent.step hstep, h.accounted, h.bounded, h.quantumCount, trivial,
      fun _ hrun => ?_, ?_⟩
    · rcases hready with hqueue | hstopped
      · exact hqueue
      · exact nomatch hrun.symm.trans hstopped
    · exact fun _ hpc => nomatch hpc
  | exitWriter ok hpc hrun =>
    refine ⟨h.coherent.step hstep, h.accounted, h.bounded, h.quantumCount, trivial, ?_, ?_⟩
    · exact fun hpc => nomatch hpc
    · exact fun hrun' => nomatch hrun'.symm.trans hrun
  | select ok front stored rest hpc hrun hq =>
    -- The front batch is not empty, and neither is the event queue.
    have hfront : front ≠ [] := h.accounted.nonempty (front, stored) (hq ▸ List.mem_cons_self ..)
    have hpos := List.length_pos_of_ne_nil hfront
    have hquantum := h.quantumCount
    refine h.of_writer hstep rfl rfl ?_ (fun h => nomatch h) (fun h => nomatch h)
    show 0 < min front.length s.proxy.eventQueue.quantumCount
    omega
  | writeChunk stored q n hpc =>
    rw [hpc] at hholds
    exact h.of_writer hstep rfl rfl hholds (fun h => nomatch h) (fun h => nomatch h)
  | dropChunk stored q n hpc =>
    rw [hpc] at hholds
    have hwriter : (s.dropChunk stored q n).writer
        = if stored > 0 then .failed stored q n else .relocking q n := rfl
    -- Whether or not there are claims to give back, the chunk stays in hand.
    refine h.of_writer hstep rfl rfl ?_ ?_ ?_ <;> rw [hwriter] <;> split_ifs
    · exact hholds
    · exact hholds
    all_goals exact fun h => nomatch h
  | giveBack ok stored q n front stored' rest hpc hq =>
    rw [hpc] at hholds
    exact h.of_writer hstep rfl rfl hholds (fun h => nomatch h) (fun h => nomatch h)
  | finishWrite ok q n hpc =>
    obtain ⟨haccounted, hbounded⟩ := h.accounted_finishWrite hpc
    refine ⟨h.coherent.step hstep, haccounted, hbounded, h.quantumCount, trivial, ?_, ?_⟩
    · exact fun hpc => nomatch hpc
    · exact fun _ hpc => nomatch hpc
  | perform request =>
    have hsame := HalProxy.sameQueues_perform s.proxy request
    refine h.of_same hstep hsame.pendingWrites ?_ rfl fun hrun => hsame.mThreadsRun.symm.trans hrun
    exact congrArg EventMessageQueue.quantumCount hsame.eventQueue
  | initializeCommon args hidle => exact h.of_same hstep rfl rfl rfl fun hrun => nomatch hrun
  | initStage dt stage args hstage henabled =>
    have hjoin : stage = .joinThreads := by simpa [withinSession, hstage] using hw
    subst hjoin
    exact h.of_same hstep rfl rfl rfl fun hrun => hrun
  | _ => exact h.of_same hstep rfl rfl rfl fun hrun => hrun

/-! ### The turns of the pending-writes thread -/

/-- The steps of the pending-writes thread. -/
def isHandlePendingWrites : Action → Bool
  | .handlePendingWrites _ => true
  | _ => false

/-- Nothing is posted, and nobody initializes. -/
def postsNothing : Action → Bool
  | .postEventsToMessageQueue .. | .initializeCommon _ | .initStage _ => false
  | _ => true

/-- At most so many steps are left to the thread: five for each pending event, of which it has
taken some in its turn. -/
def turns (s : System) : ℕ := 5 * s.proxy.pendingWrites.pendingEvents.length - s.writer.place

/-- While the thread has a chunk in hand, something is pending. -/
theorem Exact.length_pos (h : Exact c s) (hrun : s.proxy.mThreadsRun = true)
    (hpc : s.writer ≠ .waiting) : 0 < s.proxy.pendingWrites.pendingEvents.length := by
  refine h.accounted.length_pos ?_
  cases hwriter : s.writer with
  | stopped => exact absurd hwriter (h.running hrun)
  | waiting => exact absurd hwriter hpc
  | woken => exact h.woken hwriter hrun
  | writing stored q n | failed stored q n | relocking q n =>
    obtain ⟨front, stored', rest, hq, -⟩ := h.coherent.inHand hwriter
    rw [hq]
    exact List.cons_ne_nil _ _

/-- The chunk comes off the front: at least one event, and no more than there are. -/
theorem Exact.pendingEvents_finishWrite (h : Exact c s) {q n : ℕ}
    (hpc : s.writer = .relocking q n) :
    0 < n ∧ n ≤ s.proxy.pendingWrites.mSizePendingWriteEventsQueue
      ∧ (s.proxy.pendingWrites.finishWrite q n).pendingEvents
        = s.proxy.pendingWrites.pendingEvents.drop n := by
  have hholds := h.holdsSome
  rw [hpc] at hholds
  obtain ⟨front, stored, rest, hq, rfl⟩ := h.coherent.inHand hpc
  exact ⟨hholds, h.accounted.numToWrite_le_size hq, PendingWrites.pendingEvents_finishWrite hq⟩

/-- A step of the thread from one place of its turn to a later one. -/
theorem turns_lt_of_place {i j : ℕ} (hpos : 0 < s.proxy.pendingWrites.pendingEvents.length)
    (hpending : t.proxy.pendingWrites = s.proxy.pendingWrites) (hi : s.writer.place = i)
    (hj : t.writer.place = j) (hlt : i < j) (hlast : j ≤ 4) : turns t < turns s := by
  unfold turns
  rw [hpending]
  omega

/-- **Every step of the thread** brings it nearer to an empty queue. -/
theorem Exact.turns_lt (h : Exact c s) (hrun : s.proxy.mThreadsRun = true) {ok : Bool}
    (hstep : System.step c s (.handlePendingWrites ok) = some t) : turns t < turns s := by
  have hpos : ∀ {pc : WriterPc}, s.writer = pc → pc ≠ .waiting →
      0 < s.proxy.pendingWrites.pendingEvents.length :=
    fun hpc hne => h.length_pos hrun (hpc ▸ hne)
  cases step_cases hstep with
  | wake ok hpc hready =>
    have hqueue : s.proxy.pendingWrites.mPendingWriteEventsQueue ≠ [] := by
      rcases hready with hqueue | hstopped
      · exact hqueue
      · exact nomatch hrun.symm.trans hstopped
    exact turns_lt_of_place (i := 0) (j := 1) (h.accounted.length_pos hqueue) rfl
      (congrArg WriterPc.place hpc) rfl (by decide) (by decide)
  | exitWriter ok hpc hstopped => exact nomatch hrun.symm.trans hstopped
  | select ok front stored rest hpc _ hq =>
    exact turns_lt_of_place (i := 1) (j := 2) (hpos hpc (fun h => nomatch h)) rfl
      (congrArg WriterPc.place hpc) rfl (by decide) (by decide)
  | writeChunk stored q n hpc =>
    exact turns_lt_of_place (i := 2) (j := 4) (hpos hpc (fun h => nomatch h)) rfl
      (congrArg WriterPc.place hpc) rfl (by decide) (by decide)
  | dropChunk stored q n hpc =>
    have hpending := hpos hpc (fun h => nomatch h)
    have hplace : s.writer.place = 2 := congrArg WriterPc.place hpc
    have hwriter : (s.dropChunk stored q n).writer
        = if stored > 0 then .failed stored q n else .relocking q n := rfl
    by_cases hstored : stored > 0
    · rw [if_pos hstored] at hwriter
      exact turns_lt_of_place (j := 3) hpending rfl hplace (congrArg WriterPc.place hwriter)
        (by decide) (by decide)
    · rw [if_neg hstored] at hwriter
      exact turns_lt_of_place (j := 4) hpending rfl hplace (congrArg WriterPc.place hwriter)
        (by decide) (by decide)
  | giveBack ok stored q n front stored' rest hpc hq =>
    exact turns_lt_of_place (i := 3) (j := 4) (hpos hpc (fun h => nomatch h)) rfl
      (congrArg WriterPc.place hpc) rfl (by decide) (by decide)
  | finishWrite ok q n hpc =>
    -- The turn is over, and at least one event is gone.
    obtain ⟨hn, hle, hdrop⟩ := h.pendingEvents_finishWrite hpc
    rw [h.accounted.size] at hle
    unfold turns
    dsimp only
    rw [hdrop, List.length_drop, hpc]
    simp only [WriterPc.place]
    omega

/-- The thread has a next step, whatever the write returns, until the queue is empty. -/
theorem Exact.exists_step (h : Exact c s) (hrun : s.proxy.mThreadsRun = true)
    (hqueue : s.proxy.pendingWrites.mPendingWriteEventsQueue ≠ []) (ok : Bool) :
    ∃ t, System.step c s (.handlePendingWrites ok) = some t := by
  obtain ⟨⟨front, stored⟩, rest, hq⟩ := List.exists_cons_of_ne_nil hqueue
  show ∃ t, s.handlePendingWrites ok = some t
  unfold handlePendingWrites
  cases hpc : s.writer with
  | stopped => exact absurd hpc (h.running hrun)
  | waiting => exact ⟨_, by simp [hq]; rfl⟩
  | woken => exact ⟨_, by simp [hq, hrun]; rfl⟩
  | writing stored' q n =>
    cases ok with
    | true => exact ⟨_, rfl⟩
    | false => exact ⟨_, rfl⟩
  | failed stored' q n => exact ⟨_, by simp [hq]; rfl⟩
  | relocking q n => exact ⟨_, rfl⟩

/-! ### All of it -/

/-- Steps that post nothing and do not stop the threads bring no work to the pending-writes thread,
and its own steps lessen it. -/
theorem Exact.turns_step (h : Exact c s) (hrun : s.proxy.mThreadsRun = true)
    (hquiet : postsNothing a = true) (hstep : System.step c s a = some t) :
    t.proxy.mThreadsRun = true
      ∧ turns t + (if isHandlePendingWrites a then 1 else 0) ≤ turns s := by
  cases step_cases hstep with
  | wake | exitWriter | select | writeChunk | dropChunk | giveBack | finishWrite =>
    exact ⟨hrun, h.turns_lt hrun hstep⟩
  | perform request =>
    have hsame := HalProxy.sameQueues_perform s.proxy request
    refine ⟨hsame.mThreadsRun.trans hrun, Nat.le_of_eq ?_⟩
    show turns { s with proxy := s.proxy.perform request } = turns s
    unfold turns
    rw [hsame.pendingWrites]
  | postEvents => exact nomatch hquiet
  | initializeCommon => exact nomatch hquiet
  | initStage => exact nomatch hquiet
  | _ => exact ⟨hrun, Nat.le_refl _⟩

theorem withinSession_of_postsNothing (hquiet : postsNothing a = true) :
    withinSession s a = true := by
  cases a with
  | postEventsToMessageQueue k avail ok dt => exact nomatch hquiet
  | initStage dt => exact nomatch hquiet
  | _ => rfl

/-- The accounting of the pending-writes queue in a state `t`. -/
structure ExactAccounting (c : Constants) (t : System) : Prop where
  /-- The counter is the number of events in the queue, whether or not a chunk is in flight. -/
  size : t.proxy.pendingWrites.mSizePendingWriteEventsQueue
    = (t.proxy.pendingWrites.mPendingWriteEventsQueue.map fun batch => batch.1.length).sum
  bounded : t.proxy.pendingWrites.mSizePendingWriteEventsQueue
    ≤ c.kMaxSizePendingWriteEventsQueue
  nonempty : ∀ batch ∈ t.proxy.pendingWrites.mPendingWriteEventsQueue, batch.1 ≠ []
  /-- Past the wait there is a front to read, and it stays where it is during the write. -/
  front : t.writer = .woken → t.proxy.mThreadsRun = true →
    t.proxy.pendingWrites.mPendingWriteEventsQueue ≠ []
  inHand : t.writer.Fits t.proxy.pendingWrites.mPendingWriteEventsQueue
  noUnderflow : ∀ q n, t.writer = .relocking q n →
    n ≤ t.proxy.pendingWrites.mSizePendingWriteEventsQueue
  /-- A turn takes at least one event off the queue. -/
  removes : ∀ q n ok u, t.writer = .relocking q n →
    step c t (.handlePendingWrites ok) = some u →
    0 < n ∧ u.proxy.pendingWrites.pendingEvents = t.proxy.pendingWrites.pendingEvents.drop n
  /-- In all that can follow without posts, the thread takes at most five steps for each event that
  is pending now, and it is not stuck before the queue is empty. -/
  drains : t.proxy.mThreadsRun = true → ∀ as u, (∀ a ∈ as, postsNothing a = true) →
    (machine c).run t as = some u →
    as.countP isHandlePendingWrites ≤ 5 * t.proxy.pendingWrites.pendingEvents.length
      ∧ (u.proxy.pendingWrites.mPendingWriteEventsQueue ≠ [] →
        ∀ ok, ∃ v, step c u (.handlePendingWrites ok) = some v)

theorem Exact.drains (h : Exact c s) (hmax : c.kMaxSizePendingWriteEventsQueue ≤ vectorMaxSize)
    (hrun : s.proxy.mThreadsRun = true) (has : ∀ a ∈ as, postsNothing a = true)
    (ht : (machine c).run s as = some t) :
    as.countP isHandlePendingWrites ≤ 5 * s.proxy.pendingWrites.pendingEvents.length
      ∧ (t.proxy.pendingWrites.mPendingWriteEventsQueue ≠ [] →
        ∀ ok, ∃ u, System.step c t (.handlePendingWrites ok) = some u) := by
  obtain ⟨⟨hexact, hrun'⟩, hcount⟩ := Machine.countP_add_measure_le
    (I := fun s => Exact c s ∧ s.proxy.mThreadsRun = true) isHandlePendingWrites turns
    (fun s a t hs hquiet hstep =>
      have hturns := hs.1.turns_step hs.2 hquiet hstep
      ⟨⟨hs.1.step hmax (withinSession_of_postsNothing hquiet) hstep, hturns.1⟩, hturns.2⟩)
    ⟨h, hrun⟩ (Machine.meets_of_forall has) ht
  constructor
  · unfold turns at hcount
    omega
  · exact fun hqueue ok => hexact.exists_step hrun' hqueue ok

/-- **Pending-queue accounting is exact** in every state of every session. -/
theorem exactAccounting (hmax : c.kMaxSizePendingWriteEventsQueue ≤ vectorMaxSize)
    (hs : SessionBegins s)
    (hw : (machine c).Meets (fun s a => withinSession s a = true) s as)
    (hv : (machine c).Visits s as t) : ExactAccounting c t := by
  have h : Exact c t :=
    Machine.invariant (fun _ _ _ hs hw hstep => hs.step hmax hw hstep) hs.exact hw hv
  constructor
  case size =>
    rw [h.accounted.size, PendingWrites.pendingEvents, List.length_flatMap]
  case bounded => exact h.bounded
  case nonempty => exact h.accounted.nonempty
  case front => exact h.woken
  case inHand => exact h.coherent.fits
  case noUnderflow => exact fun q n hpc => (h.pendingEvents_finishWrite hpc).2.1
  case removes =>
    intro q n ok u hpc hstep
    obtain ⟨hn, -, hdrop⟩ := h.pendingEvents_finishWrite hpc
    have hu : step c t (.handlePendingWrites ok)
        = some { t with
            proxy.pendingWrites := t.proxy.pendingWrites.finishWrite q n
            writer := .waiting } := by
      simp only [step, handlePendingWrites, hpc]
    obtain rfl := Option.some.inj (hstep.symm.trans hu)
    exact ⟨hn, hdrop⟩
  case drains => exact fun hrun as u has hu => h.drains hmax hrun has hu

/-- Three events are posted while the event queue, which takes two, is full.  The pending-writes
thread writes two of them. -/
def postThree : List Action :=
  [.testThreadsRunning 0 [quietEvent, quietEvent, quietEvent] none, .processEvents 0,
    .postEventsToMessageQueue 0 0 true 0, .handlePendingWrites true, .handlePendingWrites true,
    .handlePendingWrites true]

theorem exactAccounting_postThree :
    ∃ t, (machine sampleConstants).Visits sampleSession postThree t
      ∧ t.proxy.pendingWrites.mSizePendingWriteEventsQueue = 3 ∧ t.writer = .relocking 2 2
      ∧ ExactAccounting sampleConstants t := by
  obtain ⟨t, hvisits, ht⟩ := (machine sampleConstants).exists_visits sampleSession postThree
    (fun t => (t.proxy.pendingWrites.mSizePendingWriteEventsQueue, t.writer)) (3, .relocking 2 2)
    (by decide)
  obtain ⟨hsize, hpc⟩ := Prod.mk.inj ht
  exact ⟨t, hvisits, hsize, hpc, exactAccounting (by decide)
    (sessionBegins_of_run (by decide) run_sampleSession) (by decide) hvisits⟩

end System

end OnePlus9
