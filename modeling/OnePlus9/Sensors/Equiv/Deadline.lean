import OnePlus9.Sensors.Equiv.Session
import OnePlus9.Sensors.Equiv.System
import OnePlus9.Sensors.Equiv.Wakelock

/-!
# How long the wakelock thread waits

While claims are counted, the wakelock thread reads acknowledgements with a timeout: what is left
of `kWakelockTimeoutNs` since `mWakelockTimeoutStartTime` (`readTimeout`).  For `readBlocking` a
timeout of 0 is no timeout at all.

The start is never in the future (`StartedInPast.step`), so no more than `kWakelockTimeoutNs` is
left.  But the wakelock has timed out only when *more* than `kWakelockTimeoutNs` has passed.  When
exactly this much has passed, 0 is left and the thread waits without a deadline.  `hasDeadline_iff`
says that this is the only way: in every run, every read has a deadline if and only if no turn of
the thread finds the clock at the limit.
-/

namespace OnePlus9.System

variable {c : Constants} {s t : System} {a : Action} {as : List Action}

/-! ### The timeout of a read -/

/-- The timeout that a step passes to `readBlocking`, if it calls it with claims counted. -/
def readTimeout (c : Constants) (s : System) : Action → Option ℤ
  | .handleWakelocks _ _ dt _ =>
    if s.wakelockThread = .waiting ∧ s.proxy.mThreadsRun = true
        ∧ 0 < s.proxy.wakelock.mWakelockRefCount then
      s.proxy.wakelock.sharedWakelockDidTimeout c.kWakelockTimeoutNs ↑(s.clock + dt)
    else none
  | _ => none

theorem readTimeout_eq_some_iff {left : ℤ} :
    readTimeout c s a = some left
      ↔ ∃ n late dt dt', a = .handleWakelocks n late dt dt' ∧ s.wakelockThread = .waiting
        ∧ s.proxy.mThreadsRun = true ∧ 0 < s.proxy.wakelock.mWakelockRefCount
        ∧ left = s.proxy.wakelock.mWakelockTimeoutStartTime + c.kWakelockTimeoutNs - ↑(s.clock + dt)
        ∧ 0 ≤ left := by
  constructor
  · intro hread
    cases a with
    | handleWakelocks n late dt dt' =>
      rw [readTimeout] at hread
      split_ifs at hread with hcall
      obtain ⟨hpc, hrun, hcount⟩ := hcall
      obtain ⟨hleft, hle⟩ := SharedWakelock.didTimeout_eq_some_iff.mp hread
      exact ⟨n, late, dt, dt', rfl, hpc, hrun, hcount, hleft, hle⟩
    | _ => exact nomatch hread
  · rintro ⟨n, late, dt, dt', rfl, hpc, hrun, hcount, hleft, hle⟩
    rw [readTimeout, if_pos ⟨hpc, hrun, hcount⟩]
    exact SharedWakelock.didTimeout_eq_some_iff.mpr ⟨hleft, hle⟩

/-- Who is in `readBlocking` was there before or has just called it. -/
theorem reading_cases {left : ℤ} (hstep : step c s a = some t)
    (h : t.wakelockThread = .reading left) :
    s.wakelockThread = .reading left
      ∨ s.wakelockThread = .waiting ∧ readTimeout c s a = some left := by
  cases step_cases hstep with
  | startRead n late dt dt' hpc hrun hcount htime =>
    have hleft := WakelockPc.reading.inj h
    exact Or.inr ⟨hpc, readTimeout_eq_some_iff.mpr
      ⟨n, late, dt, dt', rfl, hpc, hrun, hcount, by omega, by omega⟩⟩
  | exitWakelocks => exact nomatch h
  | readNothing => exact nomatch h
  | acknowledge => exact nomatch h
  | initStage dt stage args hstage henabled =>
    have hthread : (if stage = .startThreads then WakelockPc.waiting else s.wakelockThread)
        = .reading left := h
    split_ifs at hthread
    exact Or.inl hthread
  | _ => exact Or.inl h

/-- The calls of `readBlocking` are the steps with which the thread gets into it. -/
theorem readTimeout_eq_iff_reading {left : ℤ} (hstep : step c s a = some t) :
    readTimeout c s a = some left
      ↔ s.wakelockThread = .waiting ∧ t.wakelockThread = .reading left := by
  constructor
  · intro hread
    obtain ⟨n, late, dt, dt', rfl, hpc, hrun, hcount, hleft, hle⟩ :=
      readTimeout_eq_some_iff.mp hread
    refine ⟨hpc, ?_⟩
    cases step_cases hstep with
    | startRead =>
      refine congrArg WakelockPc.reading ?_
      omega
    | exitWakelocks n late dt dt' _ hstopped => exact nomatch hrun.symm.trans hstopped
    | timeOut n late dt dt' _ _ _ htime => omega
    | readNothing late dt dt' timeLeft hreading => exact nomatch hpc.symm.trans hreading
    | acknowledge n late dt dt' timeLeft hreading => exact nomatch hpc.symm.trans hreading
  · rintro ⟨hbefore, hafter⟩
    rcases reading_cases hstep hafter with hreading | ⟨-, hread⟩
    · exact nomatch hbefore.symm.trans hreading
    · exact hread

/-- Every call of `readBlocking` gets a timeout of more than 0 and at most `kWakelockTimeoutNs`. -/
def HasDeadline (c : Constants) (s : System) (a : Action) : Prop :=
  ∀ left, readTimeout c s a = some left → 0 < left ∧ left ≤ c.kWakelockTimeoutNs

instance : Decidable (HasDeadline c s a) :=
  decidable_of_iff (∀ left ∈ readTimeout c s a, 0 < left ∧ left ≤ c.kWakelockTimeoutNs) Iff.rfl

/-- The thread does not find the clock exactly `kWakelockTimeoutNs` past the start, with claims
counted. -/
def MissesLimit (c : Constants) (s : System) : Action → Prop
  | .handleWakelocks _ _ dt _ =>
    s.wakelockThread = .waiting → s.proxy.mThreadsRun = true →
      0 < s.proxy.wakelock.mWakelockRefCount →
      ↑(s.clock + dt) ≠ s.proxy.wakelock.mWakelockTimeoutStartTime + c.kWakelockTimeoutNs
  | _ => True

instance : Decidable (MissesLimit c s a) := by
  cases a <;> unfold MissesLimit <;> infer_instance

/-! ### The start of the timeout -/

/-- The clock has passed the start of the timeout. -/
def StartedInPast (s : System) : Prop := s.proxy.wakelock.mWakelockTimeoutStartTime ≤ s.clock

/-- A step that does not touch the start. -/
theorem StartedInPast.of_same (h : StartedInPast s)
    (hstart : t.proxy.wakelock.mWakelockTimeoutStartTime
      = s.proxy.wakelock.mWakelockTimeoutStartTime) (hclock : s.clock ≤ t.clock) :
    StartedInPast t := by
  unfold StartedInPast at h ⊢
  rw [hstart]
  omega

/-- No stage of an initialization touches it. -/
theorem startTime_initStage {ε : Type*} (p : HalProxy ε) (args : HalProxy.InitializeArgs) (now : ℤ)
    (stage : HalProxy.InitStage) :
    (p.initStage args now stage).wakelock.mWakelockTimeoutStartTime
      = p.wakelock.mWakelockTimeoutStartTime := by
  cases stage with
  | resetSharedWakelock => exact SharedWakelock.startTime_reset
  | disableAllSensors => rw [HalProxy.initStage, (HalProxy.sameQueues_disableAllSensors p).wakelock]
  | _ => rfl

/-- **Every step** leaves the start in the past. -/
theorem StartedInPast.step (h : StartedInPast s) (hstep : System.step c s a = some t) :
    StartedInPast t := by
  have hclock : ∀ dt : ℕ, s.clock ≤ s.clock + dt := fun dt => Nat.le_add_right _ _
  cases step_cases hstep with
  | createScopedWakelock dt =>
    unfold StartedInPast createScopedWakelock
    dsimp only
    rw [SharedWakelock.startTime_increment]
    unfold StartedInPast at h
    split_ifs <;> omega
  | destroyScopedWakelock k wakelock hk =>
    exact h.of_same SharedWakelock.startTime_decrement (Nat.le_refl _)
  | postEvents k avail ok dt post events n hk hpc hfree =>
    unfold StartedInPast postBatch HalProxy.postEventsToMessageQueue
    dsimp only
    unfold StartedInPast at h
    cases post.wakelock.isSome with
    | false =>
      rw [if_neg Bool.false_ne_true]
      omega
    | true =>
      rw [if_pos rfl, SharedWakelock.startTime_increment]
      split_ifs <;> omega
  | giveBack ok stored q n front stored' rest hpc hq =>
    exact h.of_same SharedWakelock.startTime_decrement (Nat.le_refl _)
  | exitWakelocks n late dt dt' hpc hrun =>
    exact h.of_same SharedWakelock.startTime_reset (hclock dt)
  | timeOut n late dt dt' hpc hrun hcount htime =>
    refine h.of_same SharedWakelock.startTime_reset ?_
    show s.clock ≤ s.clock + dt + dt'
    omega
  | startRead n late dt dt' hpc hrun hcount htime => exact h.of_same rfl (hclock dt)
  | acknowledge n late dt dt' timeLeft hpc =>
    exact h.of_same SharedWakelock.startTime_decrement (Nat.le_refl _)
  | perform request =>
    refine h.of_same ?_ (Nat.le_refl _)
    show (s.proxy.perform request).wakelock.mWakelockTimeoutStartTime = _
    rw [(HalProxy.sameQueues_perform s.proxy request).wakelock]
  | initStage dt stage args hstage henabled =>
    exact h.of_same (startTime_initStage s.proxy args _ stage) (hclock dt)
  | _ => exact h.of_same rfl (Nat.le_refl _)

/-! ### Deadlines -/

/-- **One read** has a deadline unless the clock is at the limit. -/
theorem hasDeadline_step_iff (h : StartedInPast s) : HasDeadline c s a ↔ MissesLimit c s a := by
  have hpos := c.kWakelockTimeoutNs_pos
  unfold StartedInPast at h
  constructor
  · intro hdeadline
    cases a with
    | handleWakelocks n late dt dt' =>
      intro hpc hrun hcount hlimit
      -- At the limit nothing is left.
      have hread : readTimeout c s (.handleWakelocks n late dt dt') = some 0 :=
        readTimeout_eq_some_iff.mpr
          ⟨n, late, dt, dt', rfl, hpc, hrun, hcount, by omega, Int.le_refl 0⟩
      have hleft := (hdeadline 0 hread).1
      omega
    | _ => trivial
  · intro hmisses left hread
    obtain ⟨n, late, dt, dt', rfl, hpc, hrun, hcount, hleft, hle⟩ :=
      readTimeout_eq_some_iff.mp hread
    have hne := hmisses hpc hrun hcount
    omega

/-- A thread that never found the clock at the limit is not in a read without a deadline. -/
theorem deadline_of_visits {subHalList : List SubHalWrapper}
    (hc : (machine c).Meets (MissesLimit c) (start subHalList) as)
    (hv : (machine c).Visits (start subHalList) as s) {left : ℤ}
    (hreading : s.wakelockThread = .reading left) : 0 < left := by
  have hinv : StartedInPast s ∧ ∀ left, s.wakelockThread = .reading left → 0 < left := by
    refine Machine.invariant (c := MissesLimit c)
      (I := fun s => StartedInPast s ∧ ∀ left, s.wakelockThread = .reading left → 0 < left)
      ?_ ?_ hc hv
    · rintro s a t ⟨hpast, hleft⟩ hmisses hstep
      refine ⟨hpast.step hstep, fun left hpc => ?_⟩
      rcases reading_cases hstep hpc with hbefore | ⟨-, hread⟩
      · exact hleft left hbefore
      · exact ((hasDeadline_step_iff hpast).mpr hmisses left hread).1
    · exact ⟨Int.le_refl 0, fun _ hpc => nomatch hpc⟩
  exact hinv.2 left hreading

/-- **The wakelock thread never waits without a deadline**, in every run, if and only if it never
finds the clock at the limit. -/
theorem hasDeadline_iff (c : Constants) (subHalList : List SubHalWrapper) (as : List Action) :
    (machine c).Meets (HasDeadline c) (start subHalList) as
      ↔ (machine c).Meets (MissesLimit c) (start subHalList) as :=
  Machine.meets_congr (I := StartedInPast) (fun _ _ _ h hstep => h.step hstep)
    (fun _ _ _ h _ => hasDeadline_step_iff h) (Int.le_refl 0)

/-- A wakelock is created, and the thread looks at it as soon as its time is over. -/
def readAtLimit : List Action :=
  initialization sampleArgs ++ [.createScopedWakelock 0, .handleWakelocks none 0 1000000000 0]

/-- It then waits without a deadline. -/
theorem exists_read_without_deadline :
    ¬(machine sampleConstants).Meets (HasDeadline sampleConstants) (start [pickUpSubHal])
      readAtLimit := by
  decide

end OnePlus9.System
