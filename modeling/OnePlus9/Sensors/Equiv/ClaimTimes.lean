import OnePlus9.Sensors.Equiv.Deadline
import OnePlus9.Sensors.Equiv.WakeUps

/-!
# What a timeout drops

The wakelock thread times the shared wakelock out by one number, `mWakelockTimeoutStartTime`.
`claimTimes` logs when a run claimed the wakelock, by a `ScopedWakelock` or for a batch, and
`Bounded.of_run` relates the log to that number: no claim was made after it, and while claims are
counted one was made at it.

So a turn of the thread times out exactly when every claim ever made is older than
`kWakelockTimeoutNs` (`turn_of_run`).  It then releases the wakelock and drops all claims.  Those of
the `ScopedWakelock`s that are live are dropped for good: each was created at the start of the
timeout or earlier (`TimesInPast`), which is before the reset, and the time of the last reset never
goes back (`resetTime_of_step`), so that destroying one of them never again changes the shared
wakelock.  The claims of posted batches are given back without a time, and can lower a later count.
-/

namespace OnePlus9

namespace SharedWakelock

variable {run : Bool} {delta : ℕ} {now start : ℤ} {w : SharedWakelock}

theorem count_decrement_le :
    (decrementRefCountAndMaybeReleaseWakelock run delta start w).mWakelockRefCount
      ≤ w.mWakelockRefCount := by
  cases run with
  | false => exact Nat.le_refl _
  | true =>
    rw [count_decrement]
    split_ifs <;> omega

theorem count_reset_le :
    (resetSharedWakelock run now w).mWakelockRefCount ≤ w.mWakelockRefCount :=
  count_decrement_le

end SharedWakelock

/-- No stage of an initialization adds claims. -/
theorem HalProxy.count_initStage_le {ε : Type*} (p : HalProxy ε) (args : HalProxy.InitializeArgs)
    (now : ℤ) (stage : HalProxy.InitStage) :
    (p.initStage args now stage).wakelock.mWakelockRefCount ≤ p.wakelock.mWakelockRefCount := by
  cases stage with
  | resetSharedWakelock => exact SharedWakelock.count_reset_le
  | disableAllSensors =>
    have hsame := (HalProxy.sameQueues_disableAllSensors p).wakelock
    exact Nat.le_of_eq (congrArg SharedWakelock.mWakelockRefCount hsame)
  | _ => exact Nat.le_refl _

namespace System

variable {c : Constants} {s t u : System} {a : Action} {as : List Action}

/-! ### The log of the claims -/

/-- When a step claims the shared wakelock, if it does. -/
def claimTimes (s : System) : Action → List ℕ
  | .createScopedWakelock dt => if s.proxy.mThreadsRun then [s.clock + dt] else []
  | .postEventsToMessageQueue k _ _ dt =>
    match s.posts[k]? with
    | some post => if post.wakelock.isSome ∧ s.proxy.mThreadsRun then [s.clock + dt] else []
    | none => []
  | _ => []

/-- A step that claims the wakelock restarts the timeout, and no other step does or adds claims. -/
theorem claimTimes_step (hstep : step c s a = some t) :
    (∃ now, claimTimes s a = [now] ∧ s.clock ≤ now
        ∧ t.proxy.wakelock.mWakelockTimeoutStartTime = now)
      ∨ claimTimes s a = []
        ∧ t.proxy.wakelock.mWakelockTimeoutStartTime = s.proxy.wakelock.mWakelockTimeoutStartTime
        ∧ t.proxy.wakelock.mWakelockRefCount ≤ s.proxy.wakelock.mWakelockRefCount := by
  cases step_cases hstep with
  | createScopedWakelock dt =>
    unfold claimTimes createScopedWakelock
    dsimp only
    cases hrun : s.proxy.mThreadsRun with
    | false => exact .inr ⟨rfl, rfl, Nat.le_refl _⟩
    | true => exact .inl ⟨s.clock + dt, rfl, Nat.le_add_right _ _, rfl⟩
  | postEvents k avail ok dt post events n hk hpc hfree =>
    have hclaims : claimTimes s (.postEventsToMessageQueue k avail ok dt)
        = if post.wakelock.isSome ∧ s.proxy.mThreadsRun then [s.clock + dt] else [] := by
      rw [claimTimes, hk]
    have hwakelock : (s.postBatch c k post (s.stamp post events) n avail ok
        (s.clock + dt)).proxy.wakelock
        = if post.wakelock.isSome then
            (s.proxy.wakelock.incrementRefCountAndMaybeAcquireWakelock s.proxy.mThreadsRun n
              ↑(s.clock + dt)).2
          else s.proxy.wakelock := rfl
    rw [hclaims, hwakelock]
    by_cases hclaim : post.wakelock.isSome = true ∧ s.proxy.mThreadsRun = true
    · rw [if_pos hclaim, if_pos hclaim.1, SharedWakelock.startTime_increment, if_pos hclaim.2]
      exact .inl ⟨s.clock + dt, rfl, Nat.le_add_right _ _, rfl⟩
    · rw [if_neg hclaim]
      refine .inr ⟨rfl, ?_⟩
      split_ifs with hlocked
      · have hrun : s.proxy.mThreadsRun = false :=
          Bool.eq_false_iff.mpr fun hrun => hclaim ⟨hlocked, hrun⟩
        rw [hrun]
        exact ⟨rfl, Nat.le_refl _⟩
      · exact ⟨rfl, Nat.le_refl _⟩
  | destroyScopedWakelock k wakelock hk =>
    exact .inr ⟨rfl, SharedWakelock.startTime_decrement, SharedWakelock.count_decrement_le⟩
  | giveBack ok stored q n front stored' rest hpc hq =>
    exact .inr ⟨rfl, SharedWakelock.startTime_decrement, SharedWakelock.count_decrement_le⟩
  | exitWakelocks n late dt dt' hpc hrun =>
    exact .inr ⟨rfl, SharedWakelock.startTime_reset, SharedWakelock.count_reset_le⟩
  | timeOut n late dt dt' hpc hrun hcount htime =>
    exact .inr ⟨rfl, SharedWakelock.startTime_reset, SharedWakelock.count_reset_le⟩
  | acknowledge n late dt dt' timeLeft hpc =>
    exact .inr ⟨rfl, SharedWakelock.startTime_decrement, SharedWakelock.count_decrement_le⟩
  | perform request =>
    have hsame := (HalProxy.sameQueues_perform s.proxy request).wakelock
    exact .inr ⟨rfl, congrArg SharedWakelock.mWakelockTimeoutStartTime hsame,
      Nat.le_of_eq (congrArg SharedWakelock.mWakelockRefCount hsame)⟩
  | initStage dt stage args hstage henabled =>
    exact .inr ⟨rfl, startTime_initStage s.proxy args _ stage,
      HalProxy.count_initStage_le s.proxy args _ stage⟩
  | _ => exact .inr ⟨rfl, rfl, Nat.le_refl _⟩

/-- The start of the timeout between two states, by the claims made in between. -/
structure Bounded (s : System) (claims : List ℕ) (t : System) : Prop where
  /-- The start only moves forward, -/
  mono : s.proxy.wakelock.mWakelockTimeoutStartTime ≤ t.proxy.wakelock.mWakelockTimeoutStartTime
  /-- up to the last claim. -/
  le : ∀ time ∈ claims, (time : ℤ) ≤ t.proxy.wakelock.mWakelockTimeoutStartTime
  mem : t.proxy.wakelock.mWakelockTimeoutStartTime = s.proxy.wakelock.mWakelockTimeoutStartTime
    ∨ ∃ time ∈ claims, (time : ℤ) = t.proxy.wakelock.mWakelockTimeoutStartTime
  /-- Without a claim nothing more is counted. -/
  count : claims = [] → t.proxy.wakelock.mWakelockRefCount ≤ s.proxy.wakelock.mWakelockRefCount

/-- A step ahead of the others. -/
theorem Bounded.cons {claims : List ℕ} (hpast : StartedInPast s)
    (hstep : step c s a = some t) (h : Bounded t claims u) :
    Bounded s (claimTimes s a ++ claims) u := by
  rcases claimTimes_step hstep with ⟨now, hclaims, hnow, hstart⟩ | ⟨hclaims, hstart, hcount⟩
  · have hlater := hstart ▸ h.mono
    unfold StartedInPast at hpast
    rw [hclaims]
    refine ⟨by omega, fun time htime => ?_, ?_, fun hnil => absurd hnil (List.cons_ne_nil _ _)⟩
    · rcases List.mem_cons.mp htime with rfl | hrest
      · exact hlater
      · exact h.le time hrest
    · rcases h.mem with hsame | ⟨time, htime, heq⟩
      · exact .inr ⟨now, List.mem_cons_self, (hsame.trans hstart).symm⟩
      · exact .inr ⟨time, List.mem_cons_of_mem _ htime, heq⟩
  · rw [hclaims, List.nil_append]
    exact ⟨hstart ▸ h.mono, h.le, hstart ▸ h.mem, fun hnil => Nat.le_trans (h.count hnil) hcount⟩

/-- **The start of the timeout** is the time of the last claim. -/
theorem Bounded.of_run (hpast : StartedInPast s) (hrun : (machine c).run s as = some t) :
    Bounded s ((machine c).log claimTimes s as) t :=
  Machine.of_log (R := fun s claims t => StartedInPast s → Bounded s claims t)
    (fun _ _ => ⟨Int.le_refl _, fun _ h => absurd h List.not_mem_nil, .inl rfl,
      fun _ => Nat.le_refl _⟩)
    (fun _ _ _ _ _ hstep h hpast => (h (hpast.step hstep)).cons hpast hstep) hrun hpast

/-! ### Times -/

theorem clock_le_of_step (hstep : step c s a = some t) : s.clock ≤ t.clock := by
  cases step_cases hstep with
  | timeOut n late dt dt' hpc hrun hcount htime =>
    show s.clock ≤ s.clock + dt + dt'
    omega
  | createScopedWakelock | postEvents | exitWakelocks | startRead | initStage =>
    exact Nat.le_add_right _ _
  | _ => exact Nat.le_refl _

/-- The time of the last reset is that of the state before, or the clock of the state after. -/
theorem resetTime_of_step (hstep : step c s a = some t) :
    t.proxy.wakelock.mWakelockTimeoutResetTime = s.proxy.wakelock.mWakelockTimeoutResetTime
      ∨ t.proxy.wakelock.mWakelockTimeoutResetTime = t.clock := by
  cases step_cases hstep with
  | createScopedWakelock dt => exact .inl SharedWakelock.resetTime_increment
  | postEvents k avail ok dt post events n hk hpc hfree =>
    refine .inl ?_
    unfold postBatch HalProxy.postEventsToMessageQueue
    dsimp only
    split_ifs
    · exact SharedWakelock.resetTime_increment
    · rfl
  | destroyScopedWakelock | giveBack | acknowledge =>
    exact .inl SharedWakelock.resetTime_decrement
  | exitWakelocks | timeOut => exact .inr rfl
  | perform request =>
    exact .inl (congrArg SharedWakelock.mWakelockTimeoutResetTime
      (HalProxy.sameQueues_perform s.proxy request).wakelock)
  | initStage dt stage args hstage henabled =>
    cases stage with
    | resetSharedWakelock => exact .inr rfl
    | disableAllSensors =>
      exact .inl (congrArg SharedWakelock.mWakelockTimeoutResetTime
        (HalProxy.sameQueues_disableAllSensors s.proxy).wakelock)
    | _ => exact .inl rfl
  | _ => exact .inl rfl

/-- A live `ScopedWakelock` was live before, or it was created at the start of the timeout. -/
theorem live_of_step {wakelock : ScopedWakelock} (hstep : step c s a = some t)
    (hmem : wakelock ∈ t.liveWakelocks) :
    wakelock ∈ s.liveWakelocks
      ∨ wakelock.mCreatedAtTimeNs = t.clock
        ∧ t.proxy.wakelock.mWakelockTimeoutStartTime = t.clock := by
  cases step_cases hstep with
  | createScopedWakelock dt =>
    cases hrun : s.proxy.mThreadsRun with
    | false =>
      unfold createScopedWakelock liveWakelocks at hmem
      rw [hrun] at hmem
      exact .inl hmem
    | true =>
      rcases List.mem_cons.mp ((live_createScopedWakelock hrun dt).subset hmem) with rfl | hold
      · refine .inr ⟨rfl, ?_⟩
        unfold createScopedWakelock
        rw [hrun]
        rfl
      · exact .inl hold
  | destroyScopedWakelock k wakelock' hk =>
    exact .inl ((live_destroyScopedWakelock hk).symm.subset (List.mem_cons_of_mem _ hmem))
  | goOn i events wakelock' taken left htake hrun => exact .inl ((live_goOn htake).subset hmem)
  | processEvents k post events hk hpc out hout =>
    rw [live_processEvents hk] at hmem
    exact .inl hmem
  | postEvents k avail ok dt post events n hk hpc hfree =>
    exact .inl ((live_postBatch hk).subset hmem)
  | _ => exact .inl hmem

/-- Every time that is recorded lies in the past. -/
structure TimesInPast (s : System) : Prop where
  startTime : StartedInPast s
  resetTime : s.proxy.wakelock.mWakelockTimeoutResetTime ≤ s.clock
  /-- A live `ScopedWakelock` was created when the timeout started, or earlier. -/
  created : ∀ wakelock ∈ s.liveWakelocks, 0 ≤ wakelock.mCreatedAtTimeNs
    ∧ wakelock.mCreatedAtTimeNs ≤ s.proxy.wakelock.mWakelockTimeoutStartTime

theorem timesInPast_start (subHalList : List SubHalWrapper) : TimesInPast (start subHalList) :=
  ⟨Int.le_refl 0, Int.le_refl 0, fun _ hmem => nomatch hmem⟩

theorem TimesInPast.step (h : TimesInPast s) (hstep : System.step c s a = some t) :
    TimesInPast t := by
  have hclock := clock_le_of_step hstep
  have hreset := h.resetTime
  refine ⟨h.startTime.step hstep, ?_, fun wakelock hmem => ?_⟩
  · rcases resetTime_of_step hstep with hsame | hnow
    · omega
    · omega
  · rcases live_of_step hstep hmem with hold | ⟨hcreated, hstart⟩
    · obtain ⟨hpos, hle⟩ := h.created wakelock hold
      have hpast : s.proxy.wakelock.mWakelockTimeoutStartTime ≤ s.clock := h.startTime
      rcases claimTimes_step hstep with ⟨now, -, hnow, hstart⟩ | ⟨-, hstart, -⟩
      · omega
      · omega
    · omega

/-- **The time of the last reset** never goes back. -/
theorem TimesInPast.resetTime_le (h : TimesInPast s) (hrun : (machine c).run s as = some t) :
    s.proxy.wakelock.mWakelockTimeoutResetTime ≤ t.proxy.wakelock.mWakelockTimeoutResetTime := by
  have hinv : TimesInPast t
      ∧ s.proxy.wakelock.mWakelockTimeoutResetTime
        ≤ t.proxy.wakelock.mWakelockTimeoutResetTime := by
    refine Machine.invariant_of_step (I := fun t => TimesInPast t
      ∧ s.proxy.wakelock.mWakelockTimeoutResetTime
        ≤ t.proxy.wakelock.mWakelockTimeoutResetTime) ?_ ⟨h, Int.le_refl _⟩
      ((machine c).visits_of_run hrun)
    rintro u a v ⟨hu, hle⟩ hstep
    refine ⟨hu.step hstep, ?_⟩
    have hclock := clock_le_of_step hstep
    have hreset := hu.resetTime
    rcases resetTime_of_step hstep with hsame | hnow
    · omega
    · omega
  exact hinv.2

/-! ### A turn of the wakelock thread -/

/-- Every claim is older than `kWakelockTimeoutNs` at the time `now`. -/
def AllOld (c : Constants) (claims : List ℕ) (now : ℕ) : Prop :=
  ∀ time ∈ claims, (time : ℤ) + c.kWakelockTimeoutNs < now

/-- The wakelock has timed out exactly when every claim is old. -/
theorem Bounded.timedOut_iff {claims : List ℕ} {subHalList : List SubHalWrapper} {now : ℕ}
    (h : Bounded (start subHalList) claims s) (hcount : 0 < s.proxy.wakelock.mWakelockRefCount) :
    c.kWakelockTimeoutNs < ↑now - s.proxy.wakelock.mWakelockTimeoutStartTime
      ↔ AllOld c claims now := by
  constructor
  · intro htime time hmem
    have hle := h.le time hmem
    omega
  · intro hold
    have hne : claims ≠ [] := fun hnil => by
      have hzero : s.proxy.wakelock.mWakelockRefCount ≤ 0 := h.count hnil
      omega
    -- While claims are counted, the start is the time of one of them.
    obtain ⟨time, hmem, heq⟩ : ∃ time ∈ claims,
        (time : ℤ) = s.proxy.wakelock.mWakelockTimeoutStartTime := by
      rcases h.mem with hsame | hexists
      · have hzero : s.proxy.wakelock.mWakelockTimeoutStartTime = 0 := hsame
        obtain ⟨time, hmem⟩ := List.exists_mem_of_ne_nil claims hne
        have hle := h.le time hmem
        exact ⟨time, hmem, by omega⟩
      · exact hexists
    have hlt := hold time hmem
    omega

/-- A timeout releases the wakelock. -/
theorem wakelock_timeOut (hrun : s.proxy.mThreadsRun = true)
    (hcount : 0 < s.proxy.wakelock.mWakelockRefCount) (now : ℕ) :
    (s.timeOut now).proxy.wakelock
      = { s.proxy.wakelock with
          mWakelockRefCount := 0
          held := false
          mWakelockTimeoutResetTime := now } := by
  have hne : s.proxy.wakelock.mWakelockRefCount ≠ 0 := Nat.ne_of_gt hcount
  show SharedWakelock.resetSharedWakelock s.proxy.mThreadsRun _ _ = _
  rw [hrun, SharedWakelock.resetSharedWakelock, SharedWakelock.decrement_running,
    if_neg (not_or.mpr ⟨hne, SharedWakelock.not_stale_neg_one⟩), Nat.sub_self, if_pos rfl]

/-- The `wakelocks` no longer count: to destroy one of them does nothing to the shared wakelock, in
any continuation. -/
def Forgotten (c : Constants) (wakelocks : List ScopedWakelock) (t : System) : Prop :=
  ∀ bs u k wakelock, (machine c).run t bs = some u → wakelock ∈ wakelocks →
    u.scopedWakelocks[k]? = some wakelock →
    step c u (.destroyScopedWakelock k)
      = some { u with scopedWakelocks := u.scopedWakelocks.eraseIdx k }

/-- **What is stale** stays so. -/
theorem TimesInPast.forgotten {wakelocks : List ScopedWakelock} (h : TimesInPast t)
    (hstale : ∀ wakelock ∈ wakelocks,
      SharedWakelock.Stale wakelock.mCreatedAtTimeNs t.proxy.wakelock) :
    Forgotten c wakelocks t := by
  intro bs u k wakelock hrun hmem hk
  obtain ⟨hne, hlt⟩ := hstale wakelock hmem
  have hlater : SharedWakelock.Stale wakelock.mCreatedAtTimeNs u.proxy.wakelock :=
    ⟨hne, Int.lt_of_lt_of_le hlt (h.resetTime_le hrun)⟩
  show u.destroyScopedWakelock k = _
  rw [destroyScopedWakelock, hk, Option.map_some]
  cases hthreads : u.proxy.mThreadsRun with
  | false => rw [SharedWakelock.decrement_stopped]
  | true => rw [SharedWakelock.decrement_running, if_pos (.inr hlater)]

/-- **A turn of the wakelock thread.**  In every run, whatever was claimed and given back: a turn
with claims counted drops all of them if every claim ever made is older than `kWakelockTimeoutNs`,
those of the live `ScopedWakelock`s for good, and leaves the wakelock alone otherwise. -/
theorem turn_of_run {subHalList : List SubHalWrapper}
    (hrun : (machine c).run (start subHalList) as = some s) (hpc : s.wakelockThread = .waiting)
    (hthreads : s.proxy.mThreadsRun = true) (hcount : 0 < s.proxy.wakelock.mWakelockRefCount)
    (n : Option UInt32) (late dt dt' : ℕ) :
    ∃ t, step c s (.handleWakelocks n late dt dt') = some t
      ∧ (AllOld c ((machine c).log claimTimes (start subHalList) as) (s.clock + dt) →
        t.proxy.wakelock.mWakelockRefCount = 0 ∧ t.proxy.wakelock.held = false
          ∧ Forgotten c s.liveWakelocks t)
      ∧ (¬AllOld c ((machine c).log claimTimes (start subHalList) as) (s.clock + dt) →
        t.proxy.wakelock = s.proxy.wakelock ∧ t.wakelockThread.isReading = true) := by
  have hbounded : Bounded (start subHalList) ((machine c).log claimTimes (start subHalList) as) s :=
    Bounded.of_run (Int.le_refl 0) hrun
  have htimedOut : c.kWakelockTimeoutNs
      < ↑(s.clock + dt) - s.proxy.wakelock.mWakelockTimeoutStartTime
      ↔ AllOld c ((machine c).log claimTimes (start subHalList) as) (s.clock + dt) :=
    hbounded.timedOut_iff hcount
  have hpast : TimesInPast s :=
    Machine.invariant_of_step (fun _ _ _ h hstep => h.step hstep) (timesInPast_start subHalList)
      ((machine c).visits_of_run hrun)
  by_cases htime : c.kWakelockTimeoutNs
      < ↑(s.clock + dt) - s.proxy.wakelock.mWakelockTimeoutStartTime
  · have hstep : step c s (.handleWakelocks n late dt dt')
        = some (s.timeOut (s.clock + dt + dt')) := by
      unfold step handleWakelocks
      simp only [hpc, hthreads, hcount, SharedWakelock.sharedWakelockDidTimeout, gt_iff_lt, htime,
        Bool.not_true, Bool.false_eq_true, if_false, if_true]
    refine ⟨_, hstep, fun _ => ?_, fun hyoung => absurd (htimedOut.mp htime) hyoung⟩
    have hwakelock := wakelock_timeOut hthreads hcount (s.clock + dt + dt')
    refine ⟨by rw [hwakelock], by rw [hwakelock], (hpast.step hstep).forgotten ?_⟩
    intro wakelock hmem
    -- It was created before the timeout started, and the reset comes after its end.
    have hpos := c.kWakelockTimeoutNs_pos
    obtain ⟨hnonneg, hcreated⟩ := hpast.created wakelock hmem
    rw [hwakelock]
    refine ⟨by omega, ?_⟩
    show wakelock.mCreatedAtTimeNs < ↑(s.clock + dt + dt')
    omega
  · obtain ⟨t, hstep, hwakelock, hreading⟩ : ∃ t, step c s (.handleWakelocks n late dt dt') = some t
        ∧ t.proxy.wakelock = s.proxy.wakelock ∧ t.wakelockThread.isReading = true := by
      unfold step handleWakelocks
      simp only [hpc, hthreads, hcount, SharedWakelock.sharedWakelockDidTimeout, gt_iff_lt, htime,
        Bool.not_true, Bool.false_eq_true, if_false, if_true]
      exact ⟨_, rfl, rfl, rfl⟩
    exact ⟨t, hstep, fun hold => absurd (htimedOut.mpr hold) htime, fun _ => ⟨hwakelock, hreading⟩⟩

/-- Two claims, 10 ns apart. -/
def claimTwice : List Action :=
  initialization sampleArgs ++ [.createScopedWakelock 0, .createScopedWakelock 10]

/-- A turn 5 ns past the limit of the second claim drops both.  When a new wakelock is created and
the first one destroyed, the new one stays counted. -/
theorem turn_of_run_claimTwice :
    ∃ s t u, (machine sampleConstants).run (start [pickUpSubHal]) claimTwice = some s
      ∧ step sampleConstants s (.handleWakelocks none 0 1000000005 0) = some t
      ∧ t.proxy.wakelock.mWakelockRefCount = 0 ∧ t.proxy.wakelock.held = false
      ∧ (machine sampleConstants).run t [.createScopedWakelock 0] = some u
      ∧ u.proxy.wakelock.mWakelockRefCount = 1
      ∧ step sampleConstants u (.destroyScopedWakelock 0)
        = some { u with scopedWakelocks := u.scopedWakelocks.eraseIdx 0 } := by
  obtain ⟨s, hrun, hs⟩ := Option.map_eq_some_iff.mp
    (show ((machine sampleConstants).run (start [pickUpSubHal]) claimTwice).map
      (fun s => (s.wakelockThread, s.proxy.mThreadsRun, s.proxy.wakelock.mWakelockRefCount,
        s.clock, s.liveWakelocks)) = some (.waiting, true, 2, 10, [⟨0, 0⟩, ⟨10, 0⟩]) by decide)
  simp only [Prod.mk.injEq] at hs
  obtain ⟨hpc, hthreads, hcount, hclock, hlive⟩ := hs
  have hlog : (machine sampleConstants).log claimTimes (start [pickUpSubHal]) claimTwice
      = [0, 10] := by decide
  obtain ⟨t, hstep, hdropped, -⟩ :=
    turn_of_run hrun hpc hthreads (by omega) none 0 1000000005 0
  rw [hlog, hclock, hlive] at hdropped
  obtain ⟨hzero, hheld, hforgotten⟩ := hdropped (by unfold AllOld; decide)
  obtain ⟨u, hlater, hu⟩ := Option.map_eq_some_iff.mp
    (show ((machine sampleConstants).run (start [pickUpSubHal])
      (claimTwice ++ [.handleWakelocks none 0 1000000005 0, .createScopedWakelock 0])).map
        (fun u => (u.proxy.wakelock.mWakelockRefCount, u.scopedWakelocks[0]?))
        = some (1, some ⟨0, 0⟩) by decide)
  obtain ⟨hone, hfirst⟩ := Prod.mk.inj hu
  have hturn : (machine sampleConstants).step s (.handleWakelocks none 0 1000000005 0) = some t :=
    hstep
  rw [Machine.run_append, hrun, Option.bind_some, Machine.run_cons, hturn,
    Option.bind_some] at hlater
  exact ⟨s, t, u, hrun, hstep, hzero, hheld, hlater, hone,
    hforgotten _ u 0 ⟨0, 0⟩ hlater List.mem_cons_self hfirst⟩

end System

end OnePlus9
