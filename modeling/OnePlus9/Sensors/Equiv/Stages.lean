import OnePlus9.Sensors.Equiv.HalProxy
import OnePlus9.Sensors.System

/-!
# Stages of an initialization

The stages of `initializeCommon` are taken one after the other (`position`), and each touches its
own fields only.  `Past stage s` says that the initialization under way in `s`, if any, has taken
`stage`.  What a stage sets and no other touches is set in all states past it (`Past.field`).
-/

namespace OnePlus9.System

variable {s : System} {args : HalProxy.InitializeArgs}

/-! ### What a stage leaves alone -/

/-- No stage but the one that replaces the pending queue touches it. -/
theorem queue_initStage {ε : Type*} (p : HalProxy ε) (args : HalProxy.InitializeArgs) (now : ℤ)
    {stage : HalProxy.InitStage} (hstage : stage ≠ .clearPendingQueue) :
    (p.initStage args now stage).pendingWrites.mPendingWriteEventsQueue
      = p.pendingWrites.mPendingWriteEventsQueue := by
  cases stage with
  | clearPendingQueue => exact absurd rfl hstage
  | disableAllSensors =>
    exact congrArg PendingWrites.mPendingWriteEventsQueue
      (HalProxy.sameQueues_disableAllSensors p).pendingWrites
  | _ => rfl

/-- No stage queues anything. -/
theorem queue_initStage_subset {ε : Type*} (p : HalProxy ε) (args : HalProxy.InitializeArgs)
    (now : ℤ) (stage : HalProxy.InitStage) :
    (p.initStage args now stage).pendingWrites.mPendingWriteEventsQueue
      ⊆ p.pendingWrites.mPendingWriteEventsQueue := by
  by_cases hclear : stage = .clearPendingQueue
  · rw [hclear]
    exact List.nil_subset _
  · rw [queue_initStage p args now hclear]
    exact List.Subset.refl _

/-- No stage but one touches `mThreadsRun`. -/
theorem mThreadsRun_initStage {ε : Type*} (p : HalProxy ε) (args : HalProxy.InitializeArgs)
    (now : ℤ) {stage : HalProxy.InitStage} (hstage : stage ≠ .setThreadsRun) :
    (p.initStage args now stage).mThreadsRun = p.mThreadsRun := by
  cases stage with
  | setThreadsRun => exact absurd rfl hstage
  | disableAllSensors => exact (HalProxy.sameQueues_disableAllSensors p).mThreadsRun
  | _ => rfl

/-- No stage touches the static sensors. -/
theorem mSensors_initStage {ε : Type*} (p : HalProxy ε) (args : HalProxy.InitializeArgs) (now : ℤ)
    (stage : HalProxy.InitStage) : (p.initStage args now stage).mSensors = p.mSensors := by
  cases stage with
  | disableAllSensors => exact (HalProxy.sameQueues_disableAllSensors p).mSensors
  | _ => rfl

/-! ### Their order -/

/-- The place of a stage in the order. -/
def position (stage : HalProxy.InitStage) : ℕ := HalProxy.InitStage.all.idxOf stage

theorem position_inj {stage stage' : HalProxy.InitStage} (h : position stage = position stage') :
    stage = stage' := by
  have hmem : ∀ x : HalProxy.InitStage, x ∈ HalProxy.InitStage.all := by
    intro x
    cases x <;> decide
  exact (List.idxOf_inj (hmem stage)).mp h

theorem position_next {stage following : HalProxy.InitStage} (h : stage.next = some following) :
    position following = position stage + 1 := by
  cases stage <;> cases h <;> rfl

/-- The last stage has the last place. -/
theorem position_le_of_last {stage : HalProxy.InitStage} (h : stage.next = none)
    (stage' : HalProxy.InitStage) : position stage' ≤ position stage := by
  cases stage with
  | setOperationMode => cases stage' <;> decide
  | _ => exact nomatch h

/-- The stage has been taken. -/
def Past (stage : HalProxy.InitStage) (s : System) : Prop :=
  ∀ next args, s.initializing = some (next, args) → position stage < position next

/-- What is past after a stage was past before, or is that stage. -/
theorem Past.of_afterStage {stage stage' : HalProxy.InitStage} {now : ℕ}
    (hstage : s.initializing = some (stage, args))
    (h : Past stage' (s.afterStage stage args now)) : stage' = stage ∨ Past stage' s := by
  by_cases heq : stage' = stage
  · exact Or.inl heq
  · apply Or.inr
    intro next args' hnext
    obtain ⟨rfl, -⟩ := Prod.mk.inj (Option.some.inj (hstage.symm.trans hnext))
    -- It is past what follows `stage`, which is one place further.
    have hne : position stage' ≠ position stage := fun hpos => heq (position_inj hpos)
    cases hlast : stage.next with
    | none =>
      have hle := position_le_of_last hlast stage'
      omega
    | some following =>
      have hafter : (s.afterStage stage args now).initializing = some (following, args) := by
        rw [System.afterStage, hlast]
        rfl
      have hlt := h following args hafter
      rw [position_next hlast] at hlt
      omega

/-- The queue is replaced before the size is zeroed. -/
theorem Past.clearPendingQueue (h : Past .clearPendingSize s) : Past .clearPendingQueue s :=
  fun next args hnext => Nat.lt_trans (by decide) (h next args hnext)

/-- A field that stage `stage'` sets to `x` and no other stage touches. -/
theorem Past.field {α : Type*} (f : HalProxy PostedEvent → α) (x : α)
    {stage stage' : HalProxy.InitStage} {now : ℕ} (hstage : s.initializing = some (stage, args))
    (hset : f (s.proxy.initStage args now stage') = x)
    (hkeep : stage ≠ stage' → f (s.proxy.initStage args now stage) = f s.proxy)
    (hold : Past stage' s → f s.proxy = x) (h : Past stage' (s.afterStage stage args now)) :
    f (s.afterStage stage args now).proxy = x := by
  by_cases heq : stage = stage'
  · subst heq
    exact hset
  · rcases h.of_afterStage hstage with rfl | hpast
    · exact absurd rfl heq
    · exact (hkeep heq).trans (hold hpast)

end OnePlus9.System
