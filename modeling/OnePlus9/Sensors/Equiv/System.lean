import OnePlus9.Sensors.Equiv.HalProxy
import OnePlus9.Sensors.System

/-!
# What a step of the system can be

`Transition c s a t` lists the ways in which one step leads from `s` to `t`: for every action the
branches of its function that return, each with what it needs and what it leaves.  `step_cases`
is the inversion lemma from which every invariant is derived.
-/

namespace OnePlus9.System

/-- One step, by the branch taken. -/
inductive Transition (c : Constants) (s : System) : Action → System → Prop
  | createScopedWakelock (dt : ℕ) :
    Transition c s (.createScopedWakelock dt) (s.createScopedWakelock dt)
  | destroyScopedWakelock (k : ℕ) (wakelock : ScopedWakelock)
      (hk : s.scopedWakelocks[k]? = some wakelock) :
    Transition c s (.destroyScopedWakelock k)
      { s with
        proxy.wakelock :=
          s.proxy.wakelock.decrementRefCountAndMaybeReleaseWakelock s.proxy.mThreadsRun 1
            wakelock.mCreatedAtTimeNs
        scopedWakelocks := s.scopedWakelocks.eraseIdx k }
  /-- `postEvents` returns at once. -/
  | returnAtOnce (i : ℕ) (events : List Event) (wakelock : Option ℕ) :
    Transition c s (.testThreadsRunning i events wakelock) s
  /-- The threads run, and `postEvents` goes on. -/
  | goOn (i : ℕ) (events : List Event) (wakelock : Option ℕ) (taken : Option ScopedWakelock)
      (left : List ScopedWakelock) (htake : s.takeWakelock wakelock = some (taken, left))
      (hrun : s.proxy.mThreadsRun = true) :
    Transition c s (.testThreadsRunning i events wakelock)
      { s with
        posts := s.posts ++ [⟨i, .tested events, taken, s.history.session⟩]
        scopedWakelocks := left }
  | processEvents (k : ℕ) (post : Post) (events : List Event) (hk : s.posts[k]? = some post)
      (hpc : post.pc = .tested events) (out : HalProxyCallback.ProcessedEvents)
      (hout : out = HalProxyCallback.processEvents (Int32.ofNat post.mSubHalIndex) events
        s.proxy.mSensors) :
    Transition c s (.processEvents k)
      { s with
        proxy.mSensors := out.mSensors
        posts := s.posts.set k { post with pc := .processed out.eventsOut out.numWakeupEvents } }
  | postEvents (k availableToWrite : ℕ) (writeOk : Bool) (dt : ℕ) (post : Post)
      (events : List Event) (numWakeupEvents : ℕ) (hk : s.posts[k]? = some post)
      (hpc : post.pc = .processed events numWakeupEvents) (hfree : s.writer ≠ .woken) :
    Transition c s (.postEventsToMessageQueue k availableToWrite writeOk dt)
      (s.postBatch c k post (s.stamp post events) numWakeupEvents availableToWrite writeOk
        (s.clock + dt))
  /-- The pending-writes thread leaves the wait. -/
  | wake (writeOk : Bool) (hpc : s.writer = .waiting)
      (hready : s.proxy.pendingWrites.mPendingWriteEventsQueue ≠ [] ∨ s.proxy.mThreadsRun = false) :
    Transition c s (.handlePendingWrites writeOk) { s with writer := .woken }
  /-- The loop of the pending-writes thread ends. -/
  | exitWriter (writeOk : Bool) (hpc : s.writer = .woken) (hrun : s.proxy.mThreadsRun = false) :
    Transition c s (.handlePendingWrites writeOk) { s with writer := .stopped }
  /-- A chunk is selected. -/
  | select (writeOk : Bool) (front : List PostedEvent) (stored : ℕ)
      (rest : List (List PostedEvent × ℕ)) (hpc : s.writer = .woken)
      (hrun : s.proxy.mThreadsRun = true)
      (hq : s.proxy.pendingWrites.mPendingWriteEventsQueue = (front, stored) :: rest) :
    Transition c s (.handlePendingWrites writeOk)
      { s with
        writer := .writing stored s.proxy.eventQueue.quantumCount
          (min front.length s.proxy.eventQueue.quantumCount) }
  | writeChunk (stored q n : ℕ) (hpc : s.writer = .writing stored q n) :
    Transition c s (.handlePendingWrites true) (s.writeChunk q n)
  | dropChunk (stored q n : ℕ) (hpc : s.writer = .writing stored q n) :
    Transition c s (.handlePendingWrites false) (s.dropChunk stored q n)
  | giveBack (writeOk : Bool) (stored q n : ℕ) (front : List PostedEvent) (stored' : ℕ)
      (rest : List (List PostedEvent × ℕ)) (hpc : s.writer = .failed stored q n)
      (hq : s.proxy.pendingWrites.mPendingWriteEventsQueue = (front, stored') :: rest) :
    Transition c s (.handlePendingWrites writeOk) (s.giveBack front stored q n)
  | finishWrite (writeOk : Bool) (q n : ℕ) (hpc : s.writer = .relocking q n) :
    Transition c s (.handlePendingWrites writeOk)
      { s with
        proxy.pendingWrites := s.proxy.pendingWrites.finishWrite q n
        writer := .waiting }
  /-- The loop of the wakelock thread ends. -/
  | exitWakelocks (n : Option UInt32) (late dt dt' : ℕ) (hpc : s.wakelockThread = .waiting)
      (hrun : s.proxy.mThreadsRun = false) :
    Transition c s (.handleWakelocks n late dt dt') (s.exitWakelocks (s.clock + dt))
  | timeOut (n : Option UInt32) (late dt dt' : ℕ) (hpc : s.wakelockThread = .waiting)
      (hrun : s.proxy.mThreadsRun = true) (hcount : 0 < s.proxy.wakelock.mWakelockRefCount)
      (htime : c.kWakelockTimeoutNs
        < ↑(s.clock + dt) - s.proxy.wakelock.mWakelockTimeoutStartTime) :
    Transition c s (.handleWakelocks n late dt dt') (s.timeOut (s.clock + dt + dt'))
  /-- The wakelock did not time out. -/
  | startRead (n : Option UInt32) (late dt dt' : ℕ) (hpc : s.wakelockThread = .waiting)
      (hrun : s.proxy.mThreadsRun = true) (hcount : 0 < s.proxy.wakelock.mWakelockRefCount)
      (htime : ¬c.kWakelockTimeoutNs
        < ↑(s.clock + dt) - s.proxy.wakelock.mWakelockTimeoutStartTime) :
    Transition c s (.handleWakelocks n late dt dt')
      { s with
        clock := s.clock + dt
        wakelockThread := .reading (c.kWakelockTimeoutNs
          - (↑(s.clock + dt) - s.proxy.wakelock.mWakelockTimeoutStartTime)) }
  /-- `readBlocking` times out. -/
  | readNothing (late dt dt' : ℕ) (timeLeft : ℤ) (hpc : s.wakelockThread = .reading timeLeft)
      (htimeLeft : timeLeft ≠ 0) :
    Transition c s (.handleWakelocks none late dt dt') { s with wakelockThread := .waiting }
  | acknowledge (n : UInt32) (late dt dt' : ℕ) (timeLeft : ℤ)
      (hpc : s.wakelockThread = .reading timeLeft) :
    Transition c s (.handleWakelocks (some n) late dt dt') (s.acknowledge n late)
  | perform (request : HalProxy.Request) :
    Transition c s (.perform request) { s with proxy := s.proxy.perform request }
  | initializeCommon (args : HalProxy.InitializeArgs) (hidle : s.initializing = none) :
    Transition c s (.initializeCommon args)
      { s with
        proxy.mThreadsRun := false
        initializing := some (.joinThreads, args)
        history := { s.history with session := s.history.session + 1 } }
  | initStage (dt : ℕ) (stage : HalProxy.InitStage) (args : HalProxy.InitializeArgs)
      (hstage : s.initializing = some (stage, args)) (henabled : s.stageEnabled stage = true) :
    Transition c s (.initStage dt) (s.afterStage stage args (s.clock + dt))

variable {c : Constants} {s t : System}

/-! ### The steps of the two loops -/

theorem handlePendingWrites_cases {writeOk : Bool} (h : s.handlePendingWrites writeOk = some t) :
    Transition c s (.handlePendingWrites writeOk) t := by
  unfold handlePendingWrites at h
  cases hpc : s.writer with
  | stopped => simp only [hpc] at h; exact nomatch h
  | waiting =>
    simp only [hpc] at h
    split_ifs at h with hready
    exact Option.some.inj h ▸ .wake writeOk hpc (by simpa using hready)
  | woken =>
    simp only [hpc] at h
    split_ifs at h with hrun
    · obtain ⟨⟨front, stored⟩, hhead, rfl⟩ := Option.map_eq_some_iff.mp h
      obtain ⟨rest, hq⟩ := List.head?_eq_some_iff.mp hhead
      exact .select writeOk front stored rest hpc hrun hq
    · exact Option.some.inj h ▸ .exitWriter writeOk hpc ((Bool.not_eq_true _).mp hrun)
  | writing stored q n =>
    simp only [hpc] at h
    cases writeOk with
    | true => exact Option.some.inj h ▸ .writeChunk stored q n hpc
    | false => exact Option.some.inj h ▸ .dropChunk stored q n hpc
  | failed stored q n =>
    simp only [hpc] at h
    obtain ⟨⟨front, stored'⟩, hhead, rfl⟩ := Option.map_eq_some_iff.mp h
    obtain ⟨rest, hq⟩ := List.head?_eq_some_iff.mp hhead
    exact .giveBack writeOk stored q n front stored' rest hpc hq
  | relocking q n =>
    simp only [hpc] at h
    exact Option.some.inj h ▸ .finishWrite writeOk q n hpc

theorem handleWakelocks_cases {n : Option UInt32} {late dt dt' : ℕ}
    (h : s.handleWakelocks c n late dt dt' = some t) :
    Transition c s (.handleWakelocks n late dt dt') t := by
  unfold handleWakelocks at h
  cases hpc : s.wakelockThread with
  | stopped => simp only [hpc] at h; exact nomatch h
  | waiting =>
    simp only [hpc] at h
    cases hrun : s.proxy.mThreadsRun with
    | false =>
      rw [hrun] at h
      exact Option.some.inj h ▸ .exitWakelocks n late dt dt' hpc hrun
    | true =>
      rw [hrun] at h
      simp only [Bool.not_true, Bool.false_eq_true, if_false,
        SharedWakelock.sharedWakelockDidTimeout] at h
      split_ifs at h with hcount htime
      · exact Option.some.inj h ▸ .timeOut n late dt dt' hpc hrun hcount htime
      · exact Option.some.inj h ▸ .startRead n late dt dt' hpc hrun hcount htime
  | reading timeLeft =>
    simp only [hpc] at h
    cases n with
    | none =>
      obtain ⟨htimeLeft, hreturn⟩ := Option.ite_none_left_eq_some.mp h
      exact Option.some.inj hreturn ▸ .readNothing late dt dt' timeLeft hpc htimeLeft
    | some n => exact Option.some.inj h ▸ .acknowledge n late dt dt' timeLeft hpc

/-! ### All steps -/

/-- **The inversion lemma.** -/
theorem step_cases {a : Action} (h : step c s a = some t) : Transition c s a t := by
  cases a with
  | createScopedWakelock dt => exact Option.some.inj h ▸ .createScopedWakelock dt
  | destroyScopedWakelock k =>
    obtain ⟨wakelock, hk, rfl⟩ := Option.map_eq_some_iff.mp h
    exact .destroyScopedWakelock k wakelock hk
  | testThreadsRunning i events wakelock =>
    rw [step, testThreadsRunning] at h
    by_cases hi : i < s.proxy.mSubHalList.length
    · rw [if_pos hi] at h
      obtain ⟨⟨taken, left⟩, htake, rfl⟩ := Option.map_eq_some_iff.mp h
      cases hreturn : events.isEmpty || !s.proxy.mThreadsRun with
      | true =>
        simp only [if_true]
        exact .returnAtOnce i events wakelock
      | false =>
        have hrun : s.proxy.mThreadsRun = true := by simpa using (Bool.or_eq_false_iff.mp hreturn).2
        simp only [Bool.false_eq_true, if_false]
        exact .goOn i events wakelock taken left htake hrun
    · rw [if_neg hi] at h
      exact nomatch h
  | processEvents k =>
    obtain ⟨post, hk, ht⟩ := Option.bind_eq_some_iff.mp h
    cases hpc : post.pc with
    | tested events =>
      simp only [hpc] at ht
      exact Option.some.inj ht ▸ .processEvents k post events hk hpc _ rfl
    | processed events n => simp only [hpc] at ht; exact nomatch ht
  | postEventsToMessageQueue k avail ok dt =>
    obtain ⟨post, hk, ht⟩ := Option.bind_eq_some_iff.mp h
    cases hpc : post.pc with
    | tested events => simp only [hpc] at ht; exact nomatch ht
    | processed events n =>
      simp only [hpc] at ht
      split_ifs at ht with hfree
      exact Option.some.inj ht ▸ .postEvents k avail ok dt post events n hk hpc hfree
  | handlePendingWrites ok => exact handlePendingWrites_cases h
  | handleWakelocks n late dt dt' => exact handleWakelocks_cases h
  | perform request => exact Option.some.inj h ▸ .perform request
  | initializeCommon args =>
    rw [step, initializeCommon] at h
    split_ifs at h with hidle
    exact Option.some.inj h ▸ .initializeCommon args (by simpa using hidle)
  | initStage dt =>
    obtain ⟨⟨stage, args⟩, hstage, ht⟩ := Option.bind_eq_some_iff.mp h
    dsimp only at ht
    split_ifs at ht with henabled
    exact Option.some.inj ht ▸ .initStage dt stage args hstage henabled

end OnePlus9.System
