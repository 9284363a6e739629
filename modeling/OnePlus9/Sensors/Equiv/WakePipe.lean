import OnePlus9.Sensors.Equiv.SensorThread

/-!
# Unread bytes in the wake pipe

Every `activate` call that changes `mIsEnabled` writes a byte to the pipe, and every
`setOperationMode` call does, whether or not it changes `mMode`.  The thread reads at most one byte
for each `poll`, and none while the sensor is disabled or in `DATA_INJECTION`.  Nothing keeps the
two in balance, and a write to a full pipe blocks.

`unread s` counts the bytes in the pipe and those that calls under way have yet to write.  Finishing
these calls can never fill the pipe if and only if each call that writes a byte begins with less
than one byte short of the capacity (`never_full_iff`).  A pipe of any size is filled by some run
(`exists_fills`).
-/

namespace OnePlus9.SysfsPollingOneShotSensor

variable {capacity : PipeCapacity} {s t : SysfsPollingOneShotSensor} {a : Action}
  {as : List Action}

/-! ### Counting bytes -/

/-- How many calls have yet to write to the pipe. -/
def pendingInterrupts (s : SysfsPollingOneShotSensor) : ℕ :=
  s.setOperationModes + (s.activatePc == .interruptingPoll).toNat

/-- The bytes in the pipe and those that will be written to it. -/
def unread (s : SysfsPollingOneShotSensor) : ℕ :=
  s.waitPipe + s.mWaitPipeFd.toNat * s.pendingInterrupts

/-- The step begins a call that goes on to `interruptPoll`. -/
def interrupts (s : SysfsPollingOneShotSensor) : Action → Bool
  | .activate enable => s.mIsEnabled != enable
  | .setOperationMode _ => true
  | _ => false

/-- The step finishes a call. -/
def finishes : Action → Bool
  | .notifyActivate | .interruptPoll => true
  | _ => false

/-- A call that writes a byte begins with room for two. -/
def HasRoom (capacity : PipeCapacity) (s : SysfsPollingOneShotSensor) (a : Action) : Prop :=
  interrupts s a = true → s.mWaitPipeFd = true → s.unread + 1 < capacity.bytes

instance (capacity : PipeCapacity) (s : SysfsPollingOneShotSensor) (a : Action) :
    Decidable (HasRoom capacity s a) := inferInstanceAs (Decidable (_ → _ → _))

/-- There is room in the pipe, and `interruptPoll` does not block. -/
structure Writable (capacity : PipeCapacity) (s : SysfsPollingOneShotSensor) : Prop where
  waitPipe : s.waitPipe < capacity.bytes
  interruptPoll : (s.interruptPoll capacity).isSome = true

theorem writable_iff : s.Writable capacity ↔ s.waitPipe < capacity.bytes := by
  constructor
  · exact fun h => h.waitPipe
  · intro hlt
    refine ⟨hlt, ?_⟩
    unfold SysfsPollingOneShotSensor.interruptPoll
    split_ifs <;> rfl

theorem waitPipe_le_unread (s : SysfsPollingOneShotSensor) : s.waitPipe ≤ s.unread :=
  Nat.le_add_right _ _

/-! ### One step -/

theorem pendingInterrupts_of_pos (hpos : 0 < s.setOperationModes) :
    s.pendingInterrupts
      = s.setOperationModes - 1 + (s.activatePc == .interruptingPoll).toNat + 1 := by
  rw [pendingInterrupts]
  omega

/-- Writing a byte leaves the count alone. -/
theorem unread_of_interrupted {n : ℕ} (hwaitPipe : t.waitPipe = s.interrupted.waitPipe)
    (hopen : t.mWaitPipeFd = s.mWaitPipeFd) (hpending : s.pendingInterrupts = n + 1)
    (hwritten : t.pendingInterrupts = n) : t.unread = s.unread := by
  have hbyte : s.interrupted.waitPipe = s.waitPipe + s.mWaitPipeFd.toNat := rfl
  rw [unread, unread, hwaitPipe, hbyte, hopen, hpending, hwritten, Nat.mul_succ]
  omega

/-- **A call that is to write a byte** adds it to the count. -/
theorem unread_of_interrupts (hyes : interrupts s a = true) (hstep : step capacity s a = some t) :
    t.unread = s.unread + s.mWaitPipeFd.toNat ∧ t.mWaitPipeFd = s.mWaitPipeFd
      ∧ t.waitPipe = s.waitPipe := by
  have hcall : t.mWaitPipeFd = s.mWaitPipeFd → t.waitPipe = s.waitPipe →
      t.pendingInterrupts = s.pendingInterrupts + 1 →
      t.unread = s.unread + s.mWaitPipeFd.toNat ∧ t.mWaitPipeFd = s.mWaitPipeFd
        ∧ t.waitPipe = s.waitPipe := by
    intro hopen hwaitPipe hpending
    refine ⟨?_, hopen, hwaitPipe⟩
    rw [unread, unread, hwaitPipe, hopen, hpending, Nat.mul_succ, Nat.add_assoc]
  cases step_cases hstep with
  | activateSame enable hlife hsame =>
    rw [interrupts, hsame, bne_self_eq_false] at hyes
    exact nomatch hyes
  | activate enable hlife hfree hne =>
    have hidle := (mRunMutexFree_iff.mp hfree).2
    refine hcall rfl rfl ?_
    rw [pendingInterrupts, pendingInterrupts, hidle]
    rfl
  | sameOperationMode mode hlife hsame => exact hcall rfl rfl (Nat.add_right_comm _ _ _)
  | setOperationMode mode hlife hfree hne => exact hcall rfl rfl (Nat.add_right_comm _ _ _)
  | _ => exact nomatch hyes

/-- **No other step** of a sensor that is not destroyed adds to the count. -/
theorem unread_le (h : Sound s) (halive : a ≠ .destroy) (hno : interrupts s a = false)
    (hstep : step capacity s a = some t) : t.unread ≤ s.unread := by
  cases step_cases hstep with
  | construct pipeOpened nodeOpened hlife =>
    -- No call is under way yet.
    obtain ⟨hidle, hnone⟩ := h.noCalls (by rw [hlife]; decide)
    have hactivate : (s.activatePc == .interruptingPoll) = false :=
      beq_eq_false_iff_ne.mpr fun hpc => nomatch hidle.symm.trans hpc
    have hpending : s.pendingInterrupts = 0 := by
      rw [pendingInterrupts, hnone, Nat.zero_add]
      exact congrArg Bool.toNat hactivate
    refine Nat.le_of_eq ?_
    show s.waitPipe + _ * s.pendingInterrupts = s.waitPipe + _ * s.pendingInterrupts
    rw [hpending, Nat.mul_zero, Nat.mul_zero]
  | activate enable hlife hfree hne =>
    rw [interrupts, bne_eq_false_iff_eq] at hno
    exact absurd hno hne
  | interruptActivate hpc =>
    refine Nat.le_of_eq (unread_of_interrupted (n := s.setOperationModes) rfl rfl ?_ rfl)
    rw [pendingInterrupts, hpc]
    rfl
  | notifyActivate hpc =>
    show s.waitPipe + _ * (s.setOperationModes + 0) ≤ s.unread
    rw [unread, pendingInterrupts, hpc]
    exact Nat.le_refl _
  | sameOperationMode | setOperationMode => exact nomatch hno
  | interruptPoll hpos =>
    exact Nat.le_of_eq (unread_of_interrupted rfl rfl (pendingInterrupts_of_pos hpos) rfl)
  | readPipe node triggered revents hpc htrigger =>
    show s.waitPipe - 1 + _ ≤ s.unread
    exact Nat.add_le_add_right (Nat.sub_le _ _) _
  | beginDestroy | interruptDestroy | stop | join => exact absurd rfl halive
  | _ => exact Nat.le_refl _

/-! ### Finishing the calls under way -/

theorem not_interrupts_of_finishes (h : finishes a = true) (s : SysfsPollingOneShotSensor) :
    a ≠ .destroy ∧ interrupts s a = false := by
  cases a with
  | notifyActivate | interruptPoll => exact ⟨(fun heq => nomatch heq), rfl⟩
  | _ => exact nomatch h

/-- While the count is below the capacity, the calls under way cannot fill the pipe. -/
theorem writable_of_unread (h : Sound s) (hlt : s.unread < capacity.bytes)
    (hreaches : ((machine capacity).restrict finishes).Reaches s t) : t.Writable capacity := by
  obtain ⟨as, hrun⟩ := hreaches
  have hinv : Sound t ∧ t.unread < capacity.bytes := by
    refine Machine.invariant_of_step (I := fun s => Sound s ∧ s.unread < capacity.bytes) ?_
      ⟨h, hlt⟩ (Machine.visits_of_run _ hrun)
    rintro s a t ⟨hs, hlt⟩ hstep
    obtain ⟨hfinishes, hstep⟩ := Machine.restrict_step_eq_some.mp hstep
    obtain ⟨halive, hno⟩ := not_interrupts_of_finishes hfinishes s
    have hle := unread_le hs halive hno hstep
    exact ⟨hs.step hstep, by omega⟩
  rw [writable_iff]
  have hle := waitPipe_le_unread t
  omega

/-- One of the calls under way writes its byte. -/
theorem exists_write (hopen : s.mWaitPipeFd = true) (hroom : s.waitPipe < capacity.bytes)
    (hpending : 0 < s.pendingInterrupts) :
    ∃ a t, ((machine capacity).restrict finishes).step s a = some t
      ∧ t.mWaitPipeFd = true ∧ t.waitPipe = s.waitPipe + 1 ∧ t.unread = s.unread := by
  have hwrite : s.interruptPoll capacity = some { s with waitPipe := s.waitPipe + 1 } := by
    rw [SysfsPollingOneShotSensor.interruptPoll, hopen]
    exact if_pos hroom
  have hbyte : s.waitPipe + 1 = s.interrupted.waitPipe := by
    rw [interrupted, hopen]
    rfl
  by_cases hactivate : s.activatePc = .interruptingPoll
  · have hstep : ((machine capacity).restrict finishes).step s .notifyActivate
        = some { s with waitPipe := s.waitPipe + 1, activatePc := .notifying } := by
      refine Machine.restrict_step_eq_some.mpr ⟨rfl, ?_⟩
      show SysfsPollingOneShotSensor.notifyActivate capacity s = _
      rw [SysfsPollingOneShotSensor.notifyActivate, hactivate]
      dsimp only
      rw [hwrite, Option.map_some]
    refine ⟨_, _, hstep, hopen, rfl, unread_of_interrupted hbyte rfl ?_ rfl⟩
    rw [pendingInterrupts, hactivate]
    rfl
  · have hmodes : 0 < s.setOperationModes := by
      have hnone : (s.activatePc == .interruptingPoll) = false := beq_eq_false_iff_ne.mpr hactivate
      rw [pendingInterrupts, hnone] at hpending
      exact hpending
    have hstep : ((machine capacity).restrict finishes).step s .interruptPoll
        = some { s with
            waitPipe := s.waitPipe + 1
            setOperationModes := s.setOperationModes - 1 } := by
      refine Machine.restrict_step_eq_some.mpr ⟨rfl, ?_⟩
      show SysfsPollingOneShotSensor.interruptAfterMode capacity s = _
      rw [interruptAfterMode, if_neg (Nat.ne_of_gt hmodes), hwrite, Option.map_some]
    exact ⟨_, _, hstep, hopen, rfl,
      unread_of_interrupted hbyte rfl (pendingInterrupts_of_pos hmodes) rfl⟩

/-- Once the count reaches the capacity, finishing the calls under way fills the pipe. -/
theorem exists_full (hopen : s.mWaitPipeFd = true) (hle : s.waitPipe ≤ capacity.bytes)
    (hunread : capacity.bytes ≤ s.unread) :
    ∃ t, ((machine capacity).restrict finishes).Reaches s t ∧ t.waitPipe = capacity.bytes := by
  have hwrites : ∀ s : SysfsPollingOneShotSensor,
      (s.mWaitPipeFd = true ∧ s.waitPipe ≤ capacity.bytes ∧ capacity.bytes ≤ s.unread) →
      ¬s.waitPipe = capacity.bytes →
      ∃ a t, ((machine capacity).restrict finishes).step s a = some t
        ∧ (t.mWaitPipeFd = true ∧ t.waitPipe ≤ capacity.bytes ∧ capacity.bytes ≤ t.unread)
        ∧ capacity.bytes - t.waitPipe < capacity.bytes - s.waitPipe := by
    rintro s ⟨hopen, hle, hunread⟩ hne
    have hroom : s.waitPipe < capacity.bytes := by omega
    have hpending : 0 < s.pendingInterrupts := by
      rw [unread, hopen, Bool.toNat_true, Nat.one_mul] at hunread
      omega
    obtain ⟨a, t, hstep, hopen', hwritten, hsame⟩ := exists_write hopen hroom hpending
    exact ⟨a, t, hstep, ⟨hopen', by omega, by omega⟩, by omega⟩
  obtain ⟨t, hreaches, -, hfull⟩ :=
    Machine.exists_reaches_of_measure _ hwrites ⟨hopen, hle, hunread⟩
  exact ⟨t, hreaches, hfull⟩

/-! ### Runs -/

/-- **When the pipe never fills up.**  Whatever the capacity of the pipe: in every run of calls and
steps of the thread, the pipe has room in every state visited and while the calls under way finish,
so that none of them blocks, if and only if every call that writes a byte begins with more than one
byte of room for what is unread. -/
theorem never_full_iff (capacity : PipeCapacity) (halive : ∀ a ∈ as, a ≠ .destroy) :
    (∀ t, (machine capacity).Visits start as t →
        ∀ u, ((machine capacity).restrict finishes).Reaches t u → u.Writable capacity)
      ↔ (machine capacity).Meets (HasRoom capacity) start as := by
  refine Machine.always_iff_meets (d := fun _ a => a ≠ Action.destroy)
    (I := fun s => Sound s ∧ s.unread < capacity.bytes)
    (P := fun t => ∀ u, ((machine capacity).restrict finishes).Reaches t u → u.Writable capacity)
    ?_ ?_ ?_ ⟨sound_start, capacity.bytes_pos⟩
    (Machine.meets_of_forall (c := fun a => a ≠ Action.destroy) halive)
  · rintro s ⟨hs, hlt⟩ u hreaches
    exact writable_of_unread hs hlt hreaches
  · rintro s a t ⟨hs, hlt⟩ halive hroom hstep
    refine ⟨hs.step hstep, ?_⟩
    cases hcall : interrupts s a with
    | false =>
      have hle := unread_le hs halive hcall hstep
      omega
    | true =>
      obtain ⟨hunread, -, -⟩ := unread_of_interrupts hcall hstep
      cases hopen : s.mWaitPipeFd with
      | false =>
        rw [hopen, Bool.toNat_false] at hunread
        omega
      | true =>
        have hlt' := hroom hcall hopen
        rw [hopen, Bool.toNat_true] at hunread
        omega
  · rintro s a t ⟨hs, hlt⟩ halive hroom hstep hwritable
    unfold HasRoom at hroom
    push Not at hroom
    obtain ⟨hcall, hopen, hle⟩ := hroom
    obtain ⟨hunread, hopen', hwaitPipe⟩ := unread_of_interrupts hcall hstep
    rw [hopen, Bool.toNat_true] at hunread
    have hbelow := waitPipe_le_unread s
    have hfull : ∃ u, ((machine capacity).restrict finishes).Reaches t u
        ∧ u.waitPipe = capacity.bytes :=
      exists_full (hopen'.trans hopen) (by omega) (by omega)
    obtain ⟨u, hreaches, hfull⟩ := hfull
    have hroom := (hwritable u hreaches).waitPipe
    omega

theorem never_full_iff_polling :
    ((machine samplePipe).run start polling).isSome = true
      ∧ ∀ t, (machine samplePipe).Visits start polling t →
        ∀ u, ((machine samplePipe).restrict finishes).Reaches t u → u.Writable samplePipe := by
  refine ⟨by decide, (never_full_iff samplePipe ?_).mpr (by decide)⟩
  unfold polling
  simp

/-! ### Filling a pipe -/

/-- The mode of a disabled sensor is set to `NORMAL`, which it has, over and over. -/
def setNormal (n : ℕ) : List Action :=
  (List.replicate n [Action.setOperationMode .normal, .interruptPoll]).flatten

/-- A disabled sensor with some bytes in its pipe; the thread has not begun. -/
def disabledSensor (n : ℕ) : SysfsPollingOneShotSensor :=
  { start with
    mWaitPipeFd := true
    waitPipe := n
    lifePc := .alive }

/-- **Every call adds a byte**, until the pipe is full. -/
theorem run_setNormal {k n : ℕ} (h : k + n ≤ capacity.bytes) :
    (machine capacity).run (disabledSensor k) (setNormal n) = some (disabledSensor (k + n)) := by
  induction n generalizing k with
  | zero => rfl
  | succ n ih =>
    have hroom : k < capacity.bytes := by omega
    have hbyte : SysfsPollingOneShotSensor.interruptPoll capacity
        { disabledSensor k with setOperationModes := 1 }
        = some { disabledSensor (k + 1) with setOperationModes := 1 } := if_pos hroom
    have hwrite : (machine capacity).step { disabledSensor k with setOperationModes := 1 }
        .interruptPoll = some (disabledSensor (k + 1)) := by
      show interruptAfterMode capacity { disabledSensor k with setOperationModes := 1 } = _
      rw [interruptAfterMode, if_neg Nat.one_ne_zero, hbyte]
      rfl
    have hcall : (machine capacity).run (disabledSensor k)
        [.setOperationMode .normal, .interruptPoll] = some (disabledSensor (k + 1)) := by
      show ((machine capacity).step { disabledSensor k with setOperationModes := 1 }
        .interruptPoll).bind _ = _
      rw [hwrite]
      rfl
    have hcons : setNormal (n + 1)
        = [.setOperationMode .normal, .interruptPoll] ++ setNormal n := rfl
    rw [hcons, Machine.run_append, hcall, Option.bind_some, ih (by omega)]
    congr 2
    omega

/-- **A pipe of any size** is filled by a run in which the sensor stays disabled and in `NORMAL`. -/
theorem exists_fills (capacity : PipeCapacity) :
    ∃ as t, (∀ a ∈ as, a ≠ .destroy) ∧ (machine capacity).Visits start as t
      ∧ t.waitPipe = capacity.bytes := by
  have hrun : (machine capacity).run start (.construct true true :: setNormal capacity.bytes)
      = some (disabledSensor (0 + capacity.bytes)) :=
    run_setNormal (Nat.le_of_eq (Nat.zero_add _))
  refine ⟨_, _, fun a ha => ?_, Machine.visits_of_run _ hrun, Nat.zero_add _⟩
  rintro rfl
  rcases List.mem_cons.mp ha with hfirst | hrest
  · exact nomatch hfirst
  · obtain ⟨call, hcall, hmem⟩ := List.mem_flatten.mp hrest
    rw [List.eq_of_mem_replicate hcall] at hmem
    simp at hmem

/-- A pipe of the usual size can be full. -/
theorem exists_full_pipe :
    ¬∀ as t, (∀ a ∈ as, a ≠ .destroy) → (machine samplePipe).Visits start as t →
      t.waitPipe < samplePipe.bytes := by
  intro hall
  obtain ⟨as, t, halive, hvisits, hfull⟩ := exists_fills samplePipe
  have hlt := hall as t halive hvisits
  omega

end OnePlus9.SysfsPollingOneShotSensor
