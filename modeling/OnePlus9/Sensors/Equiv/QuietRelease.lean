import OnePlus9.Sensors.Equiv.ClaimTimes
import OnePlus9.Sensors.Equiv.Reset

/-!
# Nobody holds the device awake for long

A `ScopedWakelock` may never be destroyed and an event never be acknowledged, and still the shared
wakelock is released.  Once every claim is older than `kWakelockTimeoutNs` and nobody claims anew,
the wakelock thread is either in its wait, where its next turn times out, or in `readBlocking`,
one turn away from there (`Expired.turn`).

So two more turns release the wakelock, and it stays released whatever the other threads do
(`released_of_quiet`).  The thread is not stuck either: if it never found the clock at the limit,
its read has a deadline (`deadline_of_visits`), and while claims are counted it can always take its
next turn.
-/

namespace OnePlus9.System

open SharedWakelock

variable {c : Constants} {s t : System} {a : Action} {as bs : List Action}

/-- A step that makes no claim and does not stop the threads. -/
def ClaimsNothing (s : System) : Action → Prop
  | .initializeCommon _ => False
  | a => claimTimes s a = []

theorem ClaimsNothing.claimTimes_eq (h : ClaimsNothing s a) : claimTimes s a = [] := by
  cases a with
  | initializeCommon args => exact absurd h id
  | _ => exact h

/-- A step of the wakelock thread. -/
def isTurn : Action → Bool
  | .handleWakelocks .. => true
  | _ => false

/-! ### What every step keeps -/

/-- Only `initializeCommon` stops the threads. -/
theorem mThreadsRun_of_step (h : s.proxy.mThreadsRun = true) (ha : ClaimsNothing s a)
    (hstep : step c s a = some t) : t.proxy.mThreadsRun = true := by
  cases step_cases hstep with
  | initializeCommon args hidle => exact absurd ha id
  | perform request => exact (HalProxy.sameQueues_perform s.proxy request).mThreadsRun.trans h
  | initStage dt stage args hstage henabled =>
    show (s.proxy.initStage args _ stage).mThreadsRun = true
    by_cases hset : stage = .setThreadsRun
    · rw [hset]
      rfl
    · rw [mThreadsRun_initStage _ _ _ hset]
      exact h
  | _ => exact h

/-- While the threads run, the wakelock thread does not end. -/
theorem alive_of_step (h : s.wakelockThread ≠ .stopped) (hrun : s.proxy.mThreadsRun = true)
    (hstep : step c s a = some t) : t.wakelockThread ≠ .stopped := by
  cases step_cases hstep with
  | exitWakelocks n late dt dt' hpc hstopped =>
    exact absurd (hrun.symm.trans hstopped) Bool.noConfusion
  | startRead | readNothing | acknowledge => exact WakelockPc.noConfusion
  | initStage dt stage args hstage henabled =>
    show (if stage = .startThreads then .waiting else s.wakelockThread) ≠ WakelockPc.stopped
    split_ifs
    · exact WakelockPc.noConfusion
    · exact h
  | _ => exact h

/-- An unclaimed wakelock stays so until somebody claims it. -/
theorem unclaimed_of_claimTimes (h : s.proxy.wakelock.Unclaimed) (hclaims : claimTimes s a = [])
    (hstep : step c s a = some t) : t.proxy.wakelock.Unclaimed := by
  by_cases hquiet : quiet a = true
  · exact unclaimed_step h hquiet hstep
  · cases step_cases hstep with
    | createScopedWakelock dt =>
      have hrun : s.proxy.mThreadsRun = false := by
        refine Bool.eq_false_iff.mpr fun hrun => ?_
        rw [claimTimes, if_pos hrun] at hclaims
        exact List.cons_ne_nil _ _ hclaims
      unfold createScopedWakelock
      dsimp only
      rw [hrun]
      exact h
    | postEvents k avail ok dt post events n hk hpc hfree =>
      show Unclaimed (if post.wakelock.isSome then
        (s.proxy.wakelock.incrementRefCountAndMaybeAcquireWakelock s.proxy.mThreadsRun n
          ↑(s.clock + dt)).2 else s.proxy.wakelock)
      split_ifs with hlocked
      · have hrun : s.proxy.mThreadsRun = false := by
          refine Bool.eq_false_iff.mpr fun hrun => ?_
          rw [claimTimes, hk] at hclaims
          dsimp only at hclaims
          rw [if_pos ⟨hlocked, hrun⟩] at hclaims
          exact List.cons_ne_nil _ _ hclaims
        rw [hrun]
        exact h
      · exact h
    | perform request =>
      show Unclaimed (s.proxy.perform request).wakelock
      rw [(HalProxy.sameQueues_perform s.proxy request).wakelock]
      exact h
    | returnAtOnce | goOn | processEvents | initializeCommon => exact h
    | _ => exact absurd rfl hquiet

/-! ### The turns to the release -/

/-- The threads run, every claim that is counted is older than `kWakelockTimeoutNs`, and the
wakelock thread is in no read without a deadline. -/
structure Expired (c : Constants) (s : System) : Prop where
  mThreadsRun : s.proxy.mThreadsRun = true
  alive : s.wakelockThread ≠ .stopped
  deadline : s.wakelockThread ≠ .reading 0
  late : 0 < s.proxy.wakelock.mWakelockRefCount →
    c.kWakelockTimeoutNs < ↑s.clock - s.proxy.wakelock.mWakelockTimeoutStartTime

/-- Nothing is left for a new read. -/
theorem Expired.readTimeout_eq_none (h : Expired c s) : readTimeout c s a = none := by
  refine Option.eq_none_iff_forall_ne_some.mpr fun left hread => ?_
  obtain ⟨n, late, dt, dt', rfl, -, -, hcount, hleft, hle⟩ := readTimeout_eq_some_iff.mp hread
  have hlate := h.late hcount
  omega

/-- Time passes, and without a claim the start of the timeout stays. -/
theorem Expired.step (h : Expired c s) (ha : ClaimsNothing s a) (hstep : step c s a = some t) :
    Expired c t := by
  refine ⟨mThreadsRun_of_step h.mThreadsRun ha hstep, alive_of_step h.alive h.mThreadsRun hstep,
    fun hreading => ?_, fun hcount => ?_⟩
  · rcases reading_cases hstep hreading with hbefore | ⟨-, hread⟩
    · exact h.deadline hbefore
    · exact nomatch h.readTimeout_eq_none.symm.trans hread
  · have hclock := clock_le_of_step hstep
    rcases claimTimes_step hstep with ⟨now, hclaims, -, -⟩ | ⟨-, hstart, hle⟩
    · exact absurd (hclaims.symm.trans ha.claimTimes_eq) (List.cons_ne_nil _ _)
    · have hlate := h.late (Nat.lt_of_lt_of_le hcount hle)
      rw [hstart]
      omega

/-- How many turns the thread has left before the one that times out. -/
def turnsLeft : WakelockPc → ℕ
  | .reading _ => 1
  | .stopped | .waiting => 0

/-- **Every step** releases the wakelock or leaves the thread as close to its timeout, and a turn of
its own brings it closer. -/
theorem Expired.turn (h : Expired c s) (ha : ClaimsNothing s a)
    (hstep : System.step c s a = some t) :
    t.proxy.wakelock.Unclaimed
      ∨ Expired c t
        ∧ turnsLeft t.wakelockThread + (if isTurn a then 1 else 0)
          ≤ turnsLeft s.wakelockThread := by
  have hlater : Expired c t := h.step ha hstep
  cases step_cases hstep with
  | timeOut n late dt dt' hpc hrun hcount htime =>
    have hwakelock := wakelock_timeOut hrun hcount (s.clock + dt + dt')
    exact .inl ⟨by rw [hwakelock], by rw [hwakelock]⟩
  | startRead n late dt dt' hpc hrun hcount htime =>
    have hlate := h.late hcount
    exact absurd (by omega) htime
  | exitWakelocks n late dt dt' hpc hrun =>
    exact absurd (h.mThreadsRun.symm.trans hrun) Bool.noConfusion
  | readNothing late dt dt' timeLeft hpc | acknowledge n late dt dt' timeLeft hpc =>
    refine .inr ⟨hlater, ?_⟩
    rw [hpc]
    exact Nat.le_refl 1
  | initStage dt stage args hstage henabled =>
    refine .inr ⟨hlater, ?_⟩
    show turnsLeft (if stage = .startThreads then .waiting else s.wakelockThread) + 0 ≤ _
    split_ifs
    · exact Nat.zero_le _
    · exact Nat.le_refl _
  | _ => exact .inr ⟨hlater, Nat.le_refl _⟩

/-- While claims are counted, the thread can take its next turn. -/
theorem Expired.enabled (h : Expired c s) (hcount : 0 < s.proxy.wakelock.mWakelockRefCount)
    (n : Option UInt32) (late dt dt' : ℕ) :
    (System.step c s (.handleWakelocks n late dt dt')).isSome = true := by
  show (s.handleWakelocks c n late dt dt').isSome = true
  unfold handleWakelocks
  cases hpc : s.wakelockThread with
  | stopped => exact absurd hpc h.alive
  | waiting =>
    simp only [h.mThreadsRun, hcount, Bool.not_true, Bool.false_eq_true, if_false, if_true]
    split <;> rfl
  | reading timeLeft =>
    have htimeLeft : timeLeft ≠ 0 := fun hzero => h.deadline (hzero ▸ hpc)
    cases n with
    | none =>
      simp only [htimeLeft, if_false]
      rfl
    | some n => rfl

/-! ### Every run -/

/-- **The wakelock is released**, whatever was claimed and never given back: from a state of any run
in which the threads run and every claim is older than `kWakelockTimeoutNs`, in every continuation
that claims nothing and does not initialize the proxy again, if the thread never found the clock
exactly at the limit before.  The thread can take a turn as long as claims are counted, and once it
has taken two, no claim is counted and the OS wakelock is not held. -/
theorem released_of_quiet {subHalList : List SubHalWrapper}
    (hbefore : (machine c).run (start subHalList) as = some s)
    (hmisses : (machine c).Meets (MissesLimit c) (start subHalList) as)
    (hthreads : s.proxy.mThreadsRun = true) (halive : s.wakelockThread ≠ .stopped)
    (hold : AllOld c ((machine c).log claimTimes (start subHalList) as) s.clock)
    (hquiet : (machine c).Meets ClaimsNothing s bs) (hrun : (machine c).run s bs = some t) :
    (0 < t.proxy.wakelock.mWakelockRefCount →
        ∀ n late dt dt', (step c t (.handleWakelocks n late dt dt')).isSome = true)
      ∧ (2 ≤ bs.countP isTurn →
        t.proxy.wakelock.mWakelockRefCount = 0 ∧ t.proxy.wakelock.held = false) := by
  have hbounded : Bounded (start subHalList) ((machine c).log claimTimes (start subHalList) as) s :=
    Bounded.of_run (Int.le_refl 0) hbefore
  have hdeadline : s.wakelockThread ≠ .reading 0 := fun hreading =>
    absurd (deadline_of_visits hmisses ((machine c).visits_of_run hbefore) hreading)
      (Int.lt_irrefl 0)
  have hexpired : Expired c s :=
    ⟨hthreads, halive, hdeadline, fun hcount => (hbounded.timedOut_iff hcount).mpr hold⟩
  constructor
  · intro hcount
    have hlater : Expired c t :=
      Machine.invariant (fun _ _ _ hs ha hstep => hs.step ha hstep) hexpired hquiet
        ((machine c).visits_of_run hrun)
    exact hlater.enabled hcount
  · intro hturns
    have hleft : turnsLeft s.wakelockThread < bs.countP isTurn := by
      have hle : turnsLeft s.wakelockThread ≤ 1 := by
        cases s.wakelockThread with
        | stopped | waiting => exact Nat.zero_le 1
        | reading timeLeft => exact Nat.le_refl 1
      omega
    have hreleased : t.proxy.wakelock.Unclaimed :=
      Machine.settles_of_countP (I := Expired c) isTurn (fun s => turnsLeft s.wakelockThread)
        (fun _ _ _ hs ha hstep => hs.turn ha hstep)
        (fun _ _ _ hs ha hstep => unclaimed_of_claimTimes hs ha.claimTimes_eq hstep)
        hexpired hquiet hrun hleft
    exact ⟨hreleased.count, hreleased.held⟩

/-- Two claims, and a post without a wakelock a second later.  The wakelock thread is in
`readBlocking`. -/
def claimsForgotten : List Action :=
  claimTwice ++
    [.handleWakelocks none 0 5 0, .testThreadsRunning 0 [notPickedUp] none, .processEvents 0,
      .postEventsToMessageQueue 0 2 true 1000000100]

/-- `readBlocking` returns, a claim is given back, and the thread times out. -/
def twoTurns : List Action :=
  [.handleWakelocks none 0 0 0, .destroyScopedWakelock 0, .handleWakelocks none 0 0 0]

/-- After the two turns the wakelock is released. -/
theorem released_of_quiet_claimsForgotten :
    ∃ s t, (machine sampleConstants).run (start [pickUpSubHal]) claimsForgotten = some s
      ∧ s.proxy.wakelock.mWakelockRefCount = 2
      ∧ (machine sampleConstants).run s twoTurns = some t
      ∧ t.proxy.wakelock.mWakelockRefCount = 0 ∧ t.proxy.wakelock.held = false := by
  obtain ⟨s, hbefore, hs⟩ := Option.map_eq_some_iff.mp
    (show ((machine sampleConstants).run (start [pickUpSubHal]) claimsForgotten).map
      (fun s => (s.proxy.mThreadsRun, s.wakelockThread, s.proxy.wakelock.mWakelockRefCount,
        s.clock)) = some (true, .reading 999999995, 2, 1000000115) by decide)
  simp only [Prod.mk.injEq] at hs
  obtain ⟨hthreads, hpc, hcount, hclock⟩ := hs
  obtain ⟨t, hrun, -⟩ := Option.map_eq_some_iff.mp
    (show ((machine sampleConstants).run (start [pickUpSubHal]) (claimsForgotten ++ twoTurns)).map
      (fun t => t.proxy.wakelock.mWakelockRefCount) = some 0 by decide)
  rw [Machine.run_append, hbefore, Option.bind_some] at hrun
  have hlog : (machine sampleConstants).log claimTimes (start [pickUpSubHal]) claimsForgotten
      = [0, 10] := by decide
  have hold : AllOld sampleConstants
      ((machine sampleConstants).log claimTimes (start [pickUpSubHal]) claimsForgotten)
      s.clock := by
    rw [hlog, hclock]
    unfold AllOld
    decide
  have hquiet : (machine sampleConstants).Meets ClaimsNothing s twoTurns :=
    fun _ _ => ⟨rfl, fun _ _ => ⟨rfl, fun _ _ => ⟨rfl, trivial⟩⟩⟩
  have halive : s.wakelockThread ≠ .stopped := by
    rw [hpc]
    exact WakelockPc.noConfusion
  obtain ⟨-, hreleased⟩ :=
    released_of_quiet hbefore (by decide) hthreads halive hold hquiet hrun
  exact ⟨s, t, hbefore, hcount, hrun, hreleased (by decide)⟩

end OnePlus9.System
