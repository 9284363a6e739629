import OnePlus9.Sensors.Equiv.Session
import OnePlus9.Sensors.Equiv.Wakelock

/-!
# When the OS wakelock is held

The OS wakelock should be held exactly while claims are counted (`SharedWakelock.Synced`).  Of all
steps of all threads only one can break this: a batch posted with a locked wakelock, but without
a wake-up event, while the count is zero (`AcquiresForNothing`).  Then
`incrementRefCountAndMaybeAcquireWakelock` acquires the OS wakelock and counts nothing.

* `synced_step_iff`: a step keeps the agreement if and only if it is not such a post.
* `synced_iff`: in a run, claims are counted exactly while the OS wakelock is held, if and only if
  there is no such post.
* `exists_held_uncounted`: the bad post is possible, with a live `ScopedWakelock`.  The wakelock
  times out while `processEvents` filters the batch.
-/

namespace OnePlus9.System

open SharedWakelock

/-- The action posts, with a locked wakelock, a batch without wake-up events while no claim is
counted. -/
def AcquiresForNothing (s : System) : Action → Prop
  | .postEventsToMessageQueue k _ _ _ =>
    ∃ post events, s.posts[k]? = some post ∧ post.pc = .processed events 0
      ∧ post.wakelock.isSome = true ∧ s.proxy.mThreadsRun = true
      ∧ s.proxy.wakelock.mWakelockRefCount = 0
  | _ => False

variable {c : Constants} {s t : System} {a : Action}

/-- Any increment keeps the agreement unless the threads run and it adds nothing to zero. -/
theorem synced_increment_run_iff {run : Bool} {delta : ℕ} {now : ℤ} {w : SharedWakelock}
    (h : Synced w) :
    Synced (incrementRefCountAndMaybeAcquireWakelock run delta now w).2
      ↔ ¬(run = true ∧ w.mWakelockRefCount = 0 ∧ delta = 0) := by
  cases run with
  | false => simpa using h
  | true =>
    rw [synced_increment_iff h]
    simp only [true_and]
    omega

/-- A post keeps the agreement unless it acquires for nothing. -/
theorem synced_postBatch_iff {k numWakeupEvents availableToWrite now : ℕ} {post : Post}
    {events : List PostedEvent} {writeOk : Bool} (h : Synced s.proxy.wakelock) :
    Synced (s.postBatch c k post events numWakeupEvents availableToWrite writeOk
        now).proxy.wakelock
      ↔ ¬(post.wakelock.isSome = true ∧ s.proxy.mThreadsRun = true
        ∧ s.proxy.wakelock.mWakelockRefCount = 0 ∧ numWakeupEvents = 0) := by
  unfold postBatch HalProxy.postEventsToMessageQueue
  dsimp only
  cases hlocked : post.wakelock.isSome with
  | false => simpa using h
  | true =>
    rw [if_pos rfl, synced_increment_run_iff h]
    simp

/-- A stage of an initialization keeps the agreement. -/
theorem Synced.initStage {ε : Type*} {p : HalProxy ε} (h : Synced p.wakelock)
    (args : HalProxy.InitializeArgs) (now : ℤ) (stage : HalProxy.InitStage) :
    Synced (p.initStage args now stage).wakelock := by
  cases stage with
  | resetSharedWakelock => exact Synced.reset h
  | disableAllSensors =>
    rw [HalProxy.initStage, (HalProxy.sameQueues_disableAllSensors p).wakelock]
    exact h
  | _ => exact h

/-- **One step** keeps the agreement if and only if it does not acquire for nothing. -/
theorem synced_step_iff (h : Synced s.proxy.wakelock) (hstep : step c s a = some t) :
    Synced t.proxy.wakelock ↔ ¬AcquiresForNothing s a := by
  have hkept : ∀ {u : System} {b : Action}, Synced u.proxy.wakelock → ¬AcquiresForNothing s b →
      (Synced u.proxy.wakelock ↔ ¬AcquiresForNothing s b) := fun h₁ h₂ => iff_of_true h₁ h₂
  cases step_cases hstep with
  | createScopedWakelock dt =>
    exact hkept ((synced_increment_run_iff h).mpr fun hbad => nomatch hbad.2.2) id
  | destroyScopedWakelock k wakelock hk => exact hkept (Synced.decrement h) id
  | postEvents k avail ok dt post events n hk hpc hfree =>
    -- The only step that can acquire without counting.
    rw [synced_postBatch_iff h, not_iff_not]
    constructor
    · rintro ⟨hlocked, hrun, hcount, rfl⟩
      exact ⟨post, events, hk, hpc, hlocked, hrun, hcount⟩
    · rintro ⟨post', events', hk', hpc', hlocked, hrun, hcount⟩
      obtain rfl : post = post' := Option.some.inj (hk.symm.trans hk')
      have hpcs : PostPc.processed events n = .processed events' 0 := hpc.symm.trans hpc'
      injection hpcs with _ hn
      exact ⟨hlocked, hrun, hcount, hn⟩
  | giveBack ok stored q n front stored' rest hpc hq => exact hkept (Synced.decrement h) id
  | exitWakelocks n late dt dt' hpc hrun => exact hkept (Synced.reset h) id
  | timeOut n late dt dt' hpc hrun hcount htime => exact hkept (Synced.reset h) id
  | acknowledge n late dt dt' timeLeft hpc => exact hkept (Synced.decrement h) id
  | perform request =>
    refine hkept ?_ id
    rw [(HalProxy.sameQueues_perform s.proxy request).wakelock]
    exact h
  | initStage dt stage args hstage henabled => exact hkept (Synced.initStage h args _ stage) id
  | _ => exact hkept h id

/-- **The OS wakelock is held exactly while claims are counted**, in every state a run of the
proxy visits, if and only if no step of the run acquires for nothing. -/
theorem synced_iff (c : Constants) (subHalList : List SubHalWrapper) (as : List Action) :
    (∀ t, (machine c).Visits (start subHalList) as t →
        (t.proxy.wakelock.held = true ↔ 0 < t.proxy.wakelock.mWakelockRefCount))
      ↔ (machine c).Meets (fun s a => ¬AcquiresForNothing s a) (start subHalList) as := by
  refine Machine.always_iff_meets (d := fun _ _ => True)
    (I := fun s : System => Synced s.proxy.wakelock) (fun s h => h) ?_ ?_ synced_fresh ?_
  · exact fun s a t h _ hc hstep => (synced_step_iff h hstep).mpr hc
  · exact fun s a t h _ hc hstep hsynced => hc ((synced_step_iff h hstep).mp hsynced)
  · exact Machine.meets_of_forall fun _ _ => trivial

/-- A sub-HAL takes a wakelock and posts a "not picked up" sample.  While `processEvents` filters
it, the wakelock times out. -/
def filteredAfterTimeout : List Action :=
  initialization sampleArgs ++
    [.createScopedWakelock 1, .testThreadsRunning 0 [notPickedUp] (some 0), .processEvents 0,
      .handleWakelocks none 0 1000000001 0, .postEventsToMessageQueue 0 2 true 0,
      .destroyScopedWakelock 0]

/-- In the end the OS wakelock is held and no claim is counted. -/
theorem exists_held_uncounted :
    ¬∀ t, (machine sampleConstants).Visits (start [pickUpSubHal]) filteredAfterTimeout t →
      (t.proxy.wakelock.held = true ↔ 0 < t.proxy.wakelock.mWakelockRefCount) := by
  intro hall
  obtain ⟨t, hvisits, ht⟩ := (machine sampleConstants).exists_visits (start [pickUpSubHal])
    filteredAfterTimeout (fun t => (t.proxy.wakelock.held, t.proxy.wakelock.mWakelockRefCount))
    (true, 0) (by decide)
  have hiff := hall t hvisits
  rw [(Prod.mk.inj ht).1, (Prod.mk.inj ht).2] at hiff
  exact absurd (hiff.mp rfl) (Nat.lt_irrefl 0)

end OnePlus9.System
