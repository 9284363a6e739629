import OnePlus9.Library.Spacing
import OnePlus9.Sensors.Equiv.Batch
import OnePlus9.Sensors.Equiv.PeriodicSensor
import Mathlib.Data.List.Induction

/-!
# What a sampled sensor does over its lifetime

Only the comparison of the clock with the next sample time takes a sample (`taken_step`).  So the
samples of a run follow a schedule: each is taken at least one period after the one before it
(`InOrder`), and the period is the one that the last `batch` call asked for, within the limits
(`samplingPeriod_of_run`).

* `samples_of_run`: every sample is taken by this schedule, and posted while the sensor is enabled
  and in `NORMAL`.
* `sampleTimes_rate`: once `batch` was called, no window of time has more samples than the shortest
  sampling period allows, whatever the clients do and however the clock is set.
* `noticesBatch_iff`: `batch` notifies the thread without the mutex, so a new period can go
  unnoticed until the old sleep is over; this says exactly when.
* `destruction_ends`: the destructor returns after a few steps of the thread.
-/

namespace OnePlus9

open ConditionVariable Spacing

/-! ### Samples in order -/

/-- When the last sample was taken; 0 before the first one. -/
def lastTime (samples : List Sample) : ℤ := (samples.getLast?.map Sample.now).getD 0

/-- Each sample is taken at least one period after the one before it. -/
def InOrder (samples : List Sample) : Prop :=
  ∀ k sample, samples[k]? = some sample →
    sample.last = lastTime (samples.take k) ∧ sample.last + sample.period ≤ sample.now

section Samples

variable {samples later : List Sample} {sample : Sample} {gap : ℤ}

@[simp] theorem lastTime_append_singleton : lastTime (samples ++ [sample]) = sample.now := by
  simp [lastTime]

/-- Samples to come do not matter to those before. -/
theorem InOrder.of_append (h : InOrder (samples ++ later)) : InOrder samples := by
  intro k x hx
  obtain ⟨hlt, -⟩ := List.getElem?_eq_some_iff.mp hx
  have hsample := h k x (by rw [List.getElem?_append_left hlt, hx])
  rw [List.take_append_of_le_length (Nat.le_of_lt hlt)] at hsample
  exact hsample

theorem inOrder_append_singleton_iff :
    InOrder (samples ++ [sample])
      ↔ InOrder samples ∧ sample.last = lastTime samples
        ∧ sample.last + sample.period ≤ sample.now := by
  constructor
  · intro h
    have hlast := h samples.length sample (by simp)
    rw [List.take_left] at hlast
    exact ⟨h.of_append, hlast⟩
  · rintro ⟨h, hlast⟩ k x hx
    rcases Nat.lt_or_ge k samples.length with hlt | hge
    · rw [List.getElem?_append_left hlt] at hx
      rw [List.take_append_of_le_length (Nat.le_of_lt hlt)]
      exact h k x hx
    · obtain ⟨hlt, hget⟩ := List.getElem?_eq_some_iff.mp hx
      obtain rfl : k = samples.length := by
        rw [List.length_append, List.length_singleton] at hlt
        omega
      rw [List.take_left]
      rw [List.getElem_concat_length rfl] at hget
      exact hget ▸ hlast

/-- **Samples in order** whose periods are no shorter than a gap are that far apart. -/
theorem InOrder.spaced (h : InOrder samples) (hgap : 0 ≤ gap)
    (hperiod : ∀ sample ∈ samples, gap ≤ sample.period) :
    Spaced gap (samples.map Sample.now) ∧ ∀ sample ∈ samples, sample.now ≤ lastTime samples := by
  induction samples using List.reverseRecOn with
  | nil => exact ⟨List.Pairwise.nil, fun _ hmem => absurd hmem List.not_mem_nil⟩
  | append_singleton samples sample ih =>
    obtain ⟨hbefore, hlast, hdue⟩ := inOrder_append_singleton_iff.mp h
    obtain ⟨hspaced, hle⟩ := ih hbefore fun x hx => hperiod x (List.mem_append_left _ hx)
    have hlong := hperiod sample (List.mem_append_right _ (List.mem_singleton_self _))
    rw [List.map_append, List.map_singleton, spaced_append_singleton, lastTime_append_singleton]
    refine ⟨⟨hspaced, fun time htime => ?_⟩, fun x hx => ?_⟩
    · obtain ⟨x, hx, rfl⟩ := List.mem_map.mp htime
      have hx := hle x hx
      omega
    · rcases List.mem_append.mp hx with hold | hnew
      · have hx := hle x hold
        omega
      · rw [List.mem_singleton.mp hnew]

end Samples

/-- The sample that the thread has taken and not posted. -/
def SamplePc.taken : SamplePc → Option Sample
  | sampling sample | posting sample _ => some sample
  | _ => none

@[simp] theorem SamplePc.taken_notify (pc : SamplePc) : pc.notify.taken = pc.taken := by
  cases pc <;> rfl

namespace PeriodicSensor

variable {s t : PeriodicSensor} {a : Action} {as : List Action} {info : SensorInfo}
  {minDelay maxDelay : Int32} {gap : ℤ} {sample : Sample}

/-! ### The samples of a run -/

/-- The samples that were posted. -/
def samples (s : PeriodicSensor) : List Sample := s.posts.filterMap SensorPost.sample

/-- The samples that were taken. -/
def taken (s : PeriodicSensor) : List Sample := s.samples ++ s.runPc.taken.toList

/-- The step compares the clock with the next sample time, and takes the sample. -/
structure TakesSample (s : PeriodicSensor) (t : PeriodicSensor) (sample : Sample) : Prop where
  runPc : s.runPc = .comparing sample.now
  last : sample.last = s.mLastSampleTimeNs
  period : sample.period = s.samplingPeriod
  due : sample.last + sample.period ≤ sample.now
  taken : t.taken = s.taken ++ [sample]
  mLastSampleTimeNs : t.mLastSampleTimeNs = sample.now

/-- **Only the comparison takes a sample**, and every sample that is taken is kept. -/
theorem taken_step (hstep : step s a = some t) :
    (t.taken = s.taken ∧ t.mLastSampleTimeNs = s.mLastSampleTimeNs)
      ∨ ∃ sample, TakesSample s t sample := by
  have hpc : ∀ {pc : SamplePc}, pc.taken = s.runPc.taken →
      taken { s with runPc := pc } = s.taken := by
    intro pc hpc
    show s.samples ++ pc.taken.toList = _
    rw [hpc, taken]
  cases step_cases hstep with
  | activate | setOperationMode | notifyBatch | wakeUp | stop =>
    exact .inl ⟨hpc (SamplePc.taken_notify _), rfl⟩
  | activateSame | sameOperationMode | batch | flush | join => exact .inl ⟨rfl, rfl⟩
  | postFlush hpos =>
    refine .inl ⟨?_, rfl⟩
    show (s.posts ++ [_]).filterMap SensorPost.sample ++ _ = _
    rw [List.filterMap_append, taken, samples]
    exact congrArg (· ++ _) (List.append_nil _)
  | lock now hlock =>
    refine .inl ⟨hpc ?_, rfl⟩
    rcases hlock with hlocking | hrelocking
    · rw [hlocking]
      rfl
    · rw [hrelocking]
      rfl
  | exit now hrun | wait now hrun | readClock now hrun | leaveWait now hrun
  | stepWait now pc pc' hrun | notDue now' now hrun | readPeriod now' sample hrun
  | sleep now' next hrun | timeOut next hrun =>
    refine .inl ⟨hpc ?_, rfl⟩
    rw [hrun]
    rfl
  | sampleDue now' now hrun hdue =>
    refine .inr ⟨⟨now, s.mLastSampleTimeNs, s.samplingPeriod⟩, hrun, rfl, rfl, hdue, ?_, rfl⟩
    rw [taken, taken, hrun]
    exact congrArg (· ++ _) (List.append_nil _).symm
  | post now' sample next hrun =>
    refine .inl ⟨?_, rfl⟩
    show (s.posts ++ [_]).filterMap SensorPost.sample ++ [] = _
    rw [List.filterMap_append, List.append_nil, taken, hrun]
    rfl

/-- The samples follow one another, and `mLastSampleTimeNs` is the time of the last one. -/
structure OnSchedule (s : PeriodicSensor) : Prop where
  inOrder : InOrder s.taken
  last : s.mLastSampleTimeNs = lastTime s.taken

theorem onSchedule_start : OnSchedule (start info minDelay maxDelay) where
  inOrder := fun _ _ h => nomatch h
  last := rfl

theorem OnSchedule.step (h : OnSchedule s) (hstep : PeriodicSensor.step s a = some t) :
    OnSchedule t := by
  rcases taken_step hstep with ⟨htaken, hlast⟩ | ⟨sample, htakes⟩
  · exact ⟨htaken ▸ h.inOrder, by rw [hlast, htaken, h.last]⟩
  · refine ⟨?_, ?_⟩
    · rw [htakes.taken]
      exact inOrder_append_singleton_iff.mpr
        ⟨h.inOrder, htakes.last.trans h.last, htakes.due⟩
    · rw [htakes.taken, htakes.mLastSampleTimeNs, lastTime_append_singleton]

theorem onSchedule_of_run (hrun : machine.run (start info minDelay maxDelay) as = some t) :
    OnSchedule t :=
  Machine.invariant_of_step (fun _ _ _ h hstep => h.step hstep) onSchedule_start
    (machine.visits_of_run hrun)

/-! ### The period in force -/

/-- The period after an action: what a `batch` call asks for, within the limits. -/
def nextPeriod (minDelay maxDelay : Int32) (period : ℤ) : Action → ℤ
  | .batch samplingPeriodNs =>
    (clampInt32 samplingPeriodNs (minDelay * 1000) (maxDelay * 1000)).toInt
  | _ => period

/-- What the last `batch` call asked for, within the limits; 0 if there was none. -/
def requestedPeriod (minDelay maxDelay : Int32) (as : List Action) : ℤ :=
  as.foldl (nextPeriod minDelay maxDelay) 0

/-- Only `batch` changes the period. -/
theorem samplingPeriod_step (hstep : step s a = some t) :
    t.samplingPeriod = nextPeriod s.batching.minDelay s.batching.maxDelay s.samplingPeriod a
      ∧ t.batching.minDelay = s.batching.minDelay
      ∧ t.batching.maxDelay = s.batching.maxDelay := by
  cases step_cases hstep with
  | batch samplingPeriodNs hlife =>
    unfold samplingPeriod nextPeriod SamplingSensor.sensorBatch
    dsimp only
    split_ifs with hne
    · exact ⟨Int32.toInt_toInt64 _, rfl, rfl⟩
    · rw [not_not.mp hne]
      exact ⟨Int32.toInt_toInt64 _, rfl, rfl⟩
  | _ => exact ⟨rfl, rfl, rfl⟩

/-- **The period** is the one that the last `batch` call asked for. -/
theorem samplingPeriod_of_run (hrun : machine.run (start info minDelay maxDelay) as = some t) :
    t.samplingPeriod = requestedPeriod minDelay maxDelay as := by
  refine Machine.foldl_of_run (I := fun s => s.batching.minDelay = minDelay
    ∧ s.batching.maxDelay = maxDelay) ?_ ⟨rfl, rfl⟩ hrun
  rintro s a u ⟨hmin, hmax⟩ hstep
  obtain ⟨hperiod, hmin', hmax'⟩ := samplingPeriod_step hstep
  rw [hmin, hmax] at hperiod
  exact ⟨⟨hmin'.trans hmin, hmax'.trans hmax⟩, hperiod⟩

/-! ### What is posted -/

/-- The call posts a sample of the armed sensor or completes a flush, in the name of the sensor. -/
structure OfSensor (info : SensorInfo) (post : SensorPost) : Prop where
  wakeup : post.wakeup = (info.flags &&& WAKE_UP != 0)
  sample : post.sample.isSome = true → post.enabled = true ∧ post.mode = .normal
    ∧ post.events = [⟨info.sensorHandle, info.type, ⟨0, 0, [0, ACCURACY_HIGH]⟩⟩]
  flush : post.sample = none →
    post.events = [⟨info.sensorHandle, .metaData, ⟨META_DATA_FLUSH_COMPLETE, 0, []⟩⟩]

/-- All posts so far are of the sensor. -/
structure PostsOwn (info : SensorInfo) (s : PeriodicSensor) : Prop where
  sound : Sound s
  mSensorInfo : s.mSensorInfo = info
  posts : ∀ post ∈ s.posts, OfSensor info post

theorem PostsOwn.step (h : PostsOwn info s) (hstep : PeriodicSensor.step s a = some t) :
    PostsOwn info t := by
  have hsound := h.sound.step hstep
  have hinfo := h.mSensorInfo
  cases step_cases hstep with
  | postFlush hpos =>
    refine ⟨hsound, hinfo, fun post hpost => ?_⟩
    rcases List.mem_append.mp hpost with hold | hnew
    · exact h.posts post hold
    · rw [List.mem_singleton.mp hnew, ← hinfo]
      exact ⟨rfl, (fun hsample => nomatch hsample), fun _ => rfl⟩
  | post now' sample next hpc =>
    -- The thread has the mutex since it found the sensor armed.
    obtain ⟨henabled, hmode⟩ := armed_iff.mp (h.sound.inSample (by rw [hpc]; rfl))
    refine ⟨hsound, hinfo, fun post hpost => ?_⟩
    rcases List.mem_append.mp hpost with hold | hnew
    · exact h.posts post hold
    · rw [List.mem_singleton.mp hnew, ← hinfo]
      exact ⟨rfl, (fun _ => ⟨henabled, hmode, rfl⟩), fun hnone => nomatch hnone⟩
  | _ => exact ⟨hsound, hinfo, h.posts⟩

theorem postsOwn_of_run (hrun : machine.run (start info minDelay maxDelay) as = some t) :
    PostsOwn info t :=
  Machine.invariant_of_step (fun _ _ _ h hstep => h.step hstep)
    ⟨sound_start info minDelay maxDelay, rfl, fun _ h => absurd h List.not_mem_nil⟩
    (machine.visits_of_run hrun)

/-! ### The schedule -/

/-- A sample that was taken was taken by some comparison of the run. -/
theorem exists_takesSample (hrun : machine.run (start info minDelay maxDelay) as = some t) {k : ℕ}
    (hsample : t.taken[k]? = some sample) :
    ∃ as₁ a as₂ u v, as = as₁ ++ a :: as₂
      ∧ machine.run (start info minDelay maxDelay) as₁ = some u ∧ machine.step u a = some v
      ∧ TakesSample u v sample ∧ u.taken.length = k := by
  refine Machine.exists_origin (P := fun s => s.taken[k]? = some sample)
    (O := fun u _ v => TakesSample u v sample ∧ u.taken.length = k) ?_ (fun h => nomatch h) hrun
    hsample
  intro u a v hstep hv
  rcases taken_step hstep with ⟨htaken, -⟩ | ⟨sample', htakes⟩
  · exact .inl (htaken ▸ hv)
  · rw [htakes.taken] at hv
    rcases Nat.lt_or_ge k u.taken.length with hlt | hge
    · rw [List.getElem?_append_left hlt] at hv
      exact .inl hv
    · obtain ⟨hlt, hget⟩ := List.getElem?_eq_some_iff.mp hv
      obtain rfl : k = u.taken.length := by
        rw [List.length_append, List.length_singleton] at hlt
        omega
      rw [List.getElem_concat_length rfl] at hget
      exact .inr ⟨hget ▸ htakes, rfl⟩

/-- **Samples are taken on schedule.**  In every run, each sample is posted while the sensor is
enabled and in `NORMAL`.  It is taken at least one period after the one before it (after 0, if it is
the first), and the period is the one that the last `batch` call before asked for, within the
limits. -/
theorem samples_of_run (hrun : machine.run (start info minDelay maxDelay) as = some t) :
    (∀ post ∈ t.posts, OfSensor info post)
      ∧ ∀ k sample, t.samples[k]? = some sample →
        sample.last = lastTime (t.samples.take k)
          ∧ sample.last + sample.period ≤ sample.now
          ∧ ∃ as₁ a as₂ u, as = as₁ ++ a :: as₂
            ∧ machine.run (start info minDelay maxDelay) as₁ = some u
            ∧ u.runPc = .comparing sample.now ∧ u.samples.length = k
            ∧ sample.period = requestedPeriod minDelay maxDelay as₁ := by
  refine ⟨(postsOwn_of_run hrun).posts, fun k sample hsample => ?_⟩
  obtain ⟨hlast, hdue⟩ := (onSchedule_of_run hrun).inOrder.of_append k sample hsample
  obtain ⟨hlt, -⟩ := List.getElem?_eq_some_iff.mp hsample
  have htaken : t.taken[k]? = some sample := by
    rw [taken, List.getElem?_append_left hlt, hsample]
  obtain ⟨as₁, a, as₂, u, v, heq, hbefore, -, htakes, hlength⟩ := exists_takesSample hrun htaken
  refine ⟨hlast, hdue, as₁, a, as₂, u, heq, hbefore, htakes.runPc, ?_, ?_⟩
  · rw [taken, htakes.runPc] at hlength
    exact (congrArg List.length (List.append_nil _)).symm.trans hlength
  · rw [htakes.period, samplingPeriod_of_run hbefore]

/-! ### The rate of samples -/

/-- When the samples were taken. -/
def sampleTimes (s : PeriodicSensor) : List ℤ := s.samples.map Sample.now

/-- The samples are on schedule and their periods no shorter than `gap`, and so is the period of the
next one. -/
structure Paced (gap : ℤ) (s : PeriodicSensor) : Prop where
  limits : s.batching.HasLimits
  shortest : gap ≤ s.batching.minDelay.toInt * 1000
  period : gap ≤ s.samplingPeriod
  onSchedule : OnSchedule s
  taken : ∀ sample ∈ s.taken, gap ≤ sample.period

theorem minDelay_start : (start info minDelay maxDelay).batching.minDelay = minDelay := rfl

/-- `batch` keeps the limits, and sets no period shorter than the shortest one. -/
theorem sensorBatch_limits {sensor : SamplingSensor} (h : sensor.HasLimits)
    (samplingPeriodNs : Int32) :
    (sensor.sensorBatch samplingPeriodNs).1.HasLimits
      ∧ (sensor.sensorBatch samplingPeriodNs).1.minDelay = sensor.minDelay
      ∧ sensor.minDelay.toInt * 1000
        ≤ (sensor.sensorBatch samplingPeriodNs).1.mSamplingPeriodNs.toInt := by
  have hbatch := SamplingSensor.mSamplingPeriodNs_batch h samplingPeriodNs
  rw [SamplingSensor.batch, h.isOneShot, if_neg Bool.false_ne_true] at hbatch
  refine ⟨?_, ?_, ?_⟩
  · unfold SamplingSensor.sensorBatch
    dsimp only
    split_ifs
    · exact ⟨h.isOneShot, h.minDelay, h.le, h.maxDelay⟩
    · exact h
  · unfold SamplingSensor.sensorBatch
    dsimp only
    split_ifs <;> rfl
  · rw [hbatch]
    exact le_max_left _ _

/-- A call of `batch` gives a sensor the rest of what it needs: a period that keeps the gap. -/
theorem paced_of_batch {samplingPeriodNs : Int32} (hlimits : s.batching.HasLimits)
    (hshortest : gap ≤ s.batching.minDelay.toInt * 1000) (honSchedule : OnSchedule s)
    (htaken : ∀ sample ∈ s.taken, gap ≤ sample.period)
    (hstep : PeriodicSensor.step s (.batch samplingPeriodNs) = some t) : Paced gap t := by
  have hkept := honSchedule.step hstep
  cases step_cases hstep with
  | batch samplingPeriodNs hlife =>
    obtain ⟨hlimits', hmin, hperiod⟩ := sensorBatch_limits hlimits samplingPeriodNs
    exact ⟨hlimits', hmin ▸ hshortest, Int.le_trans hshortest hperiod, hkept, htaken⟩

theorem Paced.step (h : Paced gap s) (hstep : PeriodicSensor.step s a = some t) : Paced gap t := by
  have hkept := h.onSchedule.step hstep
  have htaken : ∀ sample ∈ t.taken, gap ≤ sample.period := by
    rcases taken_step hstep with ⟨hsame, -⟩ | ⟨sample, htakes⟩
    · exact hsame ▸ h.taken
    · intro x hx
      rw [htakes.taken] at hx
      rcases List.mem_append.mp hx with hold | hnew
      · exact h.taken x hold
      · rw [List.mem_singleton.mp hnew, htakes.period]
        exact h.period
  cases step_cases hstep with
  | batch samplingPeriodNs hlife =>
    exact paced_of_batch h.limits h.shortest h.onSchedule h.taken hstep
  | _ => exact ⟨h.limits, h.shortest, h.period, hkept, htaken⟩

/-- **The rate of samples.**  Once `batch` was called on a fresh sensor, a window of `w` nanoseconds
of its clock holds at most `w / (minDelay * 1000) + 1` samples, rounded up. -/
theorem sampleTimes_rate (hmin : 0 < minDelay.toInt) (hle : minDelay.toInt ≤ maxDelay.toInt)
    (hmax : maxDelay.toInt * 1000 < 2 ^ 31) {samplingPeriodNs : Int32}
    (hrun : machine.run (start info minDelay maxDelay) (.batch samplingPeriodNs :: as) = some t)
    (lo : ℤ) {w : ℤ} (hw : 0 ≤ w) :
    t.sampleTimes.countP (fun x => decide (lo ≤ x ∧ x < lo + w)) * (minDelay.toInt * 1000)
      < w + minDelay.toInt * 1000 := by
  obtain ⟨s, hfirst, hrest⟩ := Option.bind_eq_some_iff.mp hrun
  have hlimits : (start info minDelay maxDelay).batching.HasLimits :=
    { isOneShot := rfl, minDelay := Int.le_of_lt hmin, le := hle, maxDelay := hmax }
  have hshortest : minDelay.toInt * 1000
      ≤ (start info minDelay maxDelay).batching.minDelay.toInt * 1000 := by
    rw [minDelay_start]
  have hbegin : Paced (minDelay.toInt * 1000) s :=
    paced_of_batch hlimits hshortest onSchedule_start
      (fun _ hmem => absurd hmem List.not_mem_nil) hfirst
  have hpaced : Paced (minDelay.toInt * 1000) t :=
    Machine.invariant_of_step (fun _ _ _ h hstep => h.step hstep) hbegin
      (machine.visits_of_run hrest)
  have hspaced : Spaced (minDelay.toInt * 1000) t.sampleTimes :=
    (hpaced.onSchedule.inOrder.of_append.spaced (by omega) fun sample hmem =>
      hpaced.taken sample (List.mem_append_left _ hmem)).1
  exact hspaced.countP_mul_lt (by omega) lo hw

/-- A sensor that takes at most 100 samples a second. -/
def sampleInfo : SensorInfo := ⟨1, .other 1, "android.sensor.accelerometer", 0⟩

/-- A sampling period of 20 milliseconds is set, the sensor enabled, and a first sample taken; then
the thread goes to sleep. -/
def firstSample : List Action :=
  [.batch 20000000, .notifyBatch, .activate true, .run 0, .run 100000000] ++
    List.replicate 4 (.run 0)

/-- A second sample is taken. -/
def secondSample : List Action := [.timeOut, .run 0, .run 130000000] ++ List.replicate 4 (.run 0)

theorem exists_run_samples :
    ∃ t, machine.run (start sampleInfo 10000 1000000) (firstSample ++ secondSample) = some t
      ∧ t.samples = [⟨100000000, 0, 20000000⟩, ⟨130000000, 100000000, 20000000⟩] := by
  obtain ⟨t, hrun, ht⟩ := Option.map_eq_some_iff.mp
    (show (machine.run (start sampleInfo 10000 1000000) (firstSample ++ secondSample)).map
      (fun t => t.samples)
        = some [⟨100000000, 0, 20000000⟩, ⟨130000000, 100000000, 20000000⟩] by decide)
  exact ⟨t, hrun, ht⟩

/-- The second sample comes 30 ms after the first one, and was due after 20 ms. -/
theorem samples_of_run_secondSample :
    ∃ t, machine.run (start sampleInfo 10000 1000000) (firstSample ++ secondSample) = some t
      ∧ t.samples[1]? = some ⟨130000000, 100000000, 20000000⟩
      ∧ (100000000 : ℤ) = lastTime (t.samples.take 1)
      ∧ (100000000 : ℤ) + 20000000 ≤ 130000000
      ∧ ∀ post ∈ t.posts, OfSensor sampleInfo post := by
  obtain ⟨t, hrun, hsamples⟩ := exists_run_samples
  obtain ⟨hposts, hschedule⟩ := samples_of_run hrun
  have hsecond : t.samples[1]? = some ⟨130000000, 100000000, 20000000⟩ := by rw [hsamples]; rfl
  obtain ⟨hlast, hdue, -⟩ := hschedule 1 _ hsecond
  exact ⟨t, hrun, hsecond, hlast, hdue, hposts⟩

theorem sampleTimes_rate_samples :
    ∃ t, machine.run (start sampleInfo 10000 1000000) (firstSample ++ secondSample) = some t
      ∧ t.sampleTimes = [100000000, 130000000]
      ∧ t.sampleTimes.countP (fun x => decide (0 ≤ x ∧ x < 0 + 200000000)) * 10000000
        < (200000000 : ℤ) + 10000000 := by
  obtain ⟨t, hrun, hsamples⟩ := exists_run_samples
  exact ⟨t, hrun, by rw [sampleTimes, hsamples]; rfl,
    sampleTimes_rate (by decide) (by decide) (by decide) hrun 0 (by decide)⟩

/-! ### The end -/

/-- A step of the thread. -/
def Action.isRun : Action → Bool
  | run _ => true
  | _ => false

/-- What holds once the destructor has set `mStopThread`. -/
structure Dying (s : PeriodicSensor) : Prop where
  sound : Sound s
  lifePc : s.lifePc ≠ .alive

/-- Every step of a thread that is to stop brings it closer to its end, and no other step takes it
back. -/
theorem Dying.step (h : Dying s) (hstep : PeriodicSensor.step s a = some t) :
    Dying t ∧ t.runPc.remaining + (if a.isRun then 1 else 0) ≤ s.runPc.remaining := by
  obtain ⟨hstop, hleaving⟩ := h.sound.stopped h.lifePc
  have hsound := h.sound.step hstep
  have hnotified := SamplePc.remaining_notify hleaving
  have hnot : ∀ {pc : SamplePc}, s.runPc = pc → pc.leaving = true := fun hpc => hpc ▸ hleaving
  cases step_cases hstep with
  | activate enable hlife | setOperationMode mode hlife | batch samplingPeriodNs hlife
  | flush hlife | stop hlife => exact absurd hlife h.lifePc
  | activateSame | sameOperationMode | postFlush => exact ⟨⟨hsound, h.lifePc⟩, Nat.le_refl _⟩
  | notifyBatch | wakeUp => exact ⟨⟨hsound, h.lifePc⟩, Nat.le_of_eq hnotified⟩
  | lock now hpc =>
    refine ⟨⟨hsound, h.lifePc⟩, ?_⟩
    rcases hpc with hpc | hpc <;> rw [hpc] <;> exact Nat.le_refl 2
  | exit now hpc hstop =>
    refine ⟨⟨hsound, h.lifePc⟩, ?_⟩
    rw [hpc]
    exact Nat.le_refl 1
  | leaveWait now hpc =>
    refine ⟨⟨hsound, h.lifePc⟩, ?_⟩
    rw [hpc]
    exact Nat.le_refl 2
  | wait now hpc hrun | readClock now hpc hrun =>
    rw [hstop] at hrun
    exact absurd hrun.symm Bool.false_ne_true
  | stepWait now pc pc' hpc hpc' =>
    refine ⟨⟨hsound, h.lifePc⟩, ?_⟩
    rw [hstop, Bool.or_true] at hpc'
    have hawake : pc.Awake := by simpa [SamplePc.leaving] using hnot hpc
    have hlt := (hawake.step hpc').2
    rw [hpc]
    show pc'.remaining + 2 + 1 ≤ pc.remaining + 2
    omega
  | sampleDue now' now hpc | notDue now' now hpc | readPeriod now' sample hpc
  | post now' sample next hpc | sleep now' next hpc | timeOut next hpc =>
    exact absurd (hnot hpc) Bool.false_ne_true
  | join hlife hpc =>
    have hne : SensorLifePc.joined ≠ .alive := by decide
    exact ⟨⟨hsound, hne⟩, Nat.le_refl _⟩

/-- A thread that is to stop can always go on, until it has ended. -/
theorem Dying.exists_run (h : Dying s) (hpc : s.runPc ≠ .exited) (now : ℤ) :
    (PeriodicSensor.step s (.run now)).isSome = true := by
  obtain ⟨hstop, hleaving⟩ := h.sound.stopped h.lifePc
  rw [PeriodicSensor.step, PeriodicSensor.run]
  cases hrun : s.runPc with
  | locking | relocking => rfl
  | loopTest =>
    rw [hstop]
    rfl
  | waiting pc =>
    rw [hrun] at hleaving
    have hawake : pc.Awake := by simpa [SamplePc.leaving] using hleaving
    by_cases hpassed : pc = .passed
    · rw [hpassed]
      rfl
    · obtain ⟨pc', hpc'⟩ := hawake.exists_step hpassed
      rw [hstop, Bool.or_true]
      cases pc with
      | passed => exact absurd rfl hpassed
      | test | notified => rfl
      | willBlock => exact absurd rfl hawake.1
      | blocked => exact absurd rfl hawake.2
  | exited => exact absurd hrun hpc
  | _ =>
    rw [hrun] at hleaving
    exact absurd hleaving Bool.false_ne_true

theorem remaining_le (s : PeriodicSensor) : s.runPc.remaining ≤ 4 := by
  cases s.runPc with
  | waiting pc => cases pc <;> decide
  | _ => simp [SamplePc.remaining]

/-- **The destructor returns.**  Once it has set `mStopThread`, the thread takes at most four more
steps, and until the join has returned either the thread can take one of them or the join can
return. -/
theorem destruction_ends (hv : machine.Visits (start info minDelay maxDelay) as s)
    (hlife : s.lifePc = .joining) {bs : List Action} (hrun : machine.run s bs = some t) :
    bs.countP Action.isRun ≤ 4 ∧ (t.lifePc = .joined
      ∨ (PeriodicSensor.step t .destroy).isSome = true
      ∨ ∀ now, (PeriodicSensor.step t (.run now)).isSome = true) := by
  have hdying : Dying s := by
    refine ⟨sound_of_visits (sound_start info minDelay maxDelay) hv, ?_⟩
    rw [hlife]
    decide
  obtain ⟨hend, hcount⟩ := Machine.countP_add_measure_le (I := Dying) (c := fun _ _ => True)
    Action.isRun (fun s => s.runPc.remaining) (fun _ _ _ h _ hstep => h.step hstep) hdying
    (Machine.meets_of_forall fun _ _ => trivial) hrun
  have hremaining := remaining_le s
  refine ⟨by omega, ?_⟩
  by_cases hexited : t.runPc = .exited
  · cases hjoin : t.lifePc with
    | alive => exact absurd hjoin hend.lifePc
    | joining =>
      refine .inr (.inl ?_)
      rw [PeriodicSensor.step, destroy, hjoin]
      dsimp only
      rw [if_pos hexited]
      rfl
    | joined => exact .inl rfl
  · exact .inr (.inr fun now => hend.exists_run hexited now)

theorem destruction_ends_samples :
    ∃ s t, machine.run (start sampleInfo 10000 1000000) (firstSample ++ [.destroy]) = some s
      ∧ machine.run s [.run 0, .run 0, .destroy] = some t ∧ t.lifePc = .joined
      ∧ ([.run 0, .run 0, .destroy] : List Action).countP Action.isRun ≤ 4 := by
  obtain ⟨s, hrun, hs⟩ := Option.map_eq_some_iff.mp
    (show (machine.run (start sampleInfo 10000 1000000) (firstSample ++ [.destroy])).map
      (fun s => (s.lifePc, ((machine.run s [.run 0, .run 0, .destroy]).map fun t => t.lifePc)))
        = some (.joining, some .joined) by decide)
  obtain ⟨hlife, hend⟩ := Prod.mk.inj hs
  obtain ⟨t, hrest, ht⟩ := Option.map_eq_some_iff.mp hend
  exact ⟨s, t, hrun, hrest, ht, (destruction_ends (machine.visits_of_run hrun) hlife hrest).1⟩

/-! ### New periods that go unnoticed -/

/-- The time of the next sample that the thread has settled on. -/
def planned (s : PeriodicSensor) : Option ℤ :=
  match s.runPc with
  | .posting _ next | .willSleep next | .sleeping next => some next
  | _ => none

/-- The thread has settled on a time that the current period does not give. -/
def Outdated (s : PeriodicSensor) : Prop :=
  ∃ next ∈ s.planned, next ≠ s.mLastSampleTimeNs + s.samplingPeriod

/-- A thread that has settled on such a time is still to be notified. -/
def NoticesBatch (s : PeriodicSensor) : Prop := s.Outdated → 0 < s.batches

/-- The last notification of a new period comes while the thread is about to go to sleep with the
old one. -/
def LosesNotification (s : PeriodicSensor) (a : Action) : Prop :=
  a = .notifyBatch ∧ s.batches = 1 ∧ s.Outdated ∧ s.runPc.holdsMutex = true

/-- A thread without a plan is not outdated. -/
theorem noticesBatch_of_planned (h : s.planned = none) : NoticesBatch s := by
  rintro ⟨next, hmem, -⟩
  rw [h] at hmem
  exact absurd hmem (Option.not_mem_none _)

/-- A plan that was just made is up to date. -/
theorem noticesBatch_of_fresh (h : s.planned = some (s.mLastSampleTimeNs + s.samplingPeriod)) :
    NoticesBatch s := by
  rintro ⟨next, hmem, hne⟩
  rw [h] at hmem
  exact absurd (Option.mem_some.mp hmem).symm hne

/-- A notification leaves the plan of a thread with the mutex, and makes any other give it up. -/
theorem planned_notify (s : PeriodicSensor) :
    planned { s with runPc := s.runPc.notify }
      = if s.runPc.holdsMutex then s.planned else none := by
  unfold planned
  cases s.runPc with
  | waiting pc => cases pc <;> rfl
  | _ => rfl

/-- A state with the plan of `s` and the same numbers to compare it with. -/
theorem NoticesBatch.of_planned (h : NoticesBatch s) (hplanned : t.planned = s.planned)
    (hlast : t.mLastSampleTimeNs = s.mLastSampleTimeNs) (hbatching : t.batching = s.batching)
    (hbatches : t.batches = s.batches) : NoticesBatch t := by
  rintro ⟨next, hmem, hne⟩
  rw [hplanned] at hmem
  rw [hlast, samplingPeriod, hbatching] at hne
  rw [hbatches]
  exact h ⟨next, hmem, hne⟩

theorem NoticesBatch.step (h : NoticesBatch s) (hc : ¬LosesNotification s a)
    (hstep : PeriodicSensor.step s a = some t) : NoticesBatch t := by
  have hgivenUp : s.runPc.holdsMutex = false →
      planned { s with runPc := s.runPc.notify } = none := by
    intro hfree
    rw [planned_notify, hfree]
    rfl
  cases step_cases hstep with
  | activateSame | sameOperationMode => exact h
  | activate enable hlife hfree | setOperationMode mode hlife hfree
  | stop hlife hbatches hflushes hfree => exact noticesBatch_of_planned (hgivenUp hfree)
  | batch samplingPeriodNs hlife =>
    cases hnotifies : (s.batching.sensorBatch samplingPeriodNs).2 with
    | true =>
      intro _
      exact Nat.succ_pos _
    | false =>
      have hsame : (s.batching.sensorBatch samplingPeriodNs).1 = s.batching := by
        unfold SamplingSensor.sensorBatch at hnotifies ⊢
        dsimp only at hnotifies ⊢
        split_ifs at hnotifies ⊢
        rfl
      exact h.of_planned rfl rfl hsame rfl
  | notifyBatch hpos =>
    cases hfree : s.runPc.holdsMutex with
    | false => exact noticesBatch_of_planned (hgivenUp hfree)
    | true =>
      rintro ⟨next, hmem, hne⟩
      have hplanned := planned_notify s
      rw [hfree, if_pos rfl] at hplanned
      have houtdated : s.Outdated := ⟨next, hplanned ▸ hmem, hne⟩
      have hmore : s.batches ≠ 1 := fun hone => hc ⟨rfl, hone, houtdated, hfree⟩
      show 0 < s.batches - 1
      omega
  | flush | postFlush | join => exact h.of_planned rfl rfl rfl rfl
  | notDue now' now hpc hdue => exact noticesBatch_of_fresh rfl
  | readPeriod now' sample hpc => exact noticesBatch_of_fresh rfl
  | post now' sample next hpc =>
    have hplanned : s.planned = some next := by rw [planned, hpc]
    exact h.of_planned hplanned.symm rfl rfl rfl
  | sleep now' next hpc =>
    have hplanned : s.planned = some next := by rw [planned, hpc]
    exact h.of_planned hplanned.symm rfl rfl rfl
  | wakeUp =>
    cases hfree : s.runPc.holdsMutex with
    | false => exact noticesBatch_of_planned (hgivenUp hfree)
    | true =>
      have hplanned := planned_notify s
      rw [hfree, if_pos rfl] at hplanned
      exact h.of_planned hplanned rfl rfl rfl
  | _ => exact noticesBatch_of_planned rfl

/-- A lost notification leaves the thread with its old plan and nobody to tell it. -/
theorem not_noticesBatch_of_loses (hc : LosesNotification s a)
    (hstep : PeriodicSensor.step s a = some t) : ¬NoticesBatch t := by
  obtain ⟨rfl, hone, ⟨next, hmem, hne⟩, hmutex⟩ := hc
  cases step_cases hstep with
  | notifyBatch hpos =>
    intro hnotices
    have hplanned := planned_notify s
    rw [hmutex, if_pos rfl] at hplanned
    have hpending : 0 < s.batches - 1 := hnotices ⟨next, hplanned ▸ hmem, hne⟩
    omega

/-- **New periods are noticed** if and only if no last notification falls into the gap.  In every
state of a run, a thread whose plan is outdated is still to be notified, exactly if the run has no
`batch` call that notifies, as the last one, between the thread's reading of the old period and its
going to sleep. -/
theorem noticesBatch_iff (info : SensorInfo) (minDelay maxDelay : Int32) (as : List Action) :
    (∀ t, machine.Visits (start info minDelay maxDelay) as t → NoticesBatch t)
      ↔ machine.Meets (fun s a => ¬LosesNotification s a) (start info minDelay maxDelay) as := by
  refine Machine.always_iff_meets (d := fun _ _ => True) (I := NoticesBatch) (fun _ h => h)
    (fun _ _ _ h _ hc hstep => h.step hc hstep) (fun _ _ _ _ _ hc hstep => ?_)
    (noticesBatch_of_planned rfl) (Machine.meets_of_forall fun _ _ => trivial)
  exact not_noticesBatch_of_loses (not_not.mp hc) hstep

/-- A `batch` call while the thread is about to sleep: the notification is lost, and the thread
sleeps as long as the old period says. -/
example : ((machine.run (start sampleInfo 10000 1000000)
    ([.batch 20000000, .notifyBatch, .activate true, .run 0, .run 100000000] ++
      List.replicate 3 (.run 0) ++ [.batch 10000000, .notifyBatch, .run 0])).map
    fun t => (t.runPc, t.mLastSampleTimeNs + t.samplingPeriod, t.batches))
      = some (.sleeping 120000000, 110000000, 0) := by decide

end PeriodicSensor

end OnePlus9
