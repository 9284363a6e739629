import OnePlus9.Sensors.Equiv.PendingWrites
import OnePlus9.Sensors.Equiv.ProcessEvents
import OnePlus9.Sensors.Equiv.Stages
import OnePlus9.Sensors.Equiv.System
import Mathlib.Data.List.Perm.Basic

/-!
# Wake-up events and live wakelocks

What the wakelock is claimed for: wake-up events and live `ScopedWakelock`s.

* No step changes what a lookup of a static sensor reads (`info_step`), so `wakeUps s`, the number
  of wake-up events in a list, is the same function all through a run.
* A processed batch carries the number of its wake-up events (`Counted`, `Counted.step`).
* A `ScopedWakelock` is held by a sub-HAL or by a post (`liveWakelocks`).  Only creation and
  destruction change which ones are live, up to order.
-/

namespace OnePlus9.System

variable {c : Constants} {s t : System} {a : Action}

/-! ### Which sensors wake up -/

/-- **No step changes what a lookup reads** in the table of the static sensors. -/
theorem info_step (hstep : step c s a = some t) :
    SensorMap.info t.proxy.mSensors = SensorMap.info s.proxy.mSensors := by
  cases step_cases hstep with
  | processEvents k post events hk hpc out hout =>
    subst hout
    exact HalProxyCallback.info_processEvents _ events s.proxy.mSensors
  | giveBack ok stored q n front stored' rest hpc hq =>
    exact PendingWrites.info_numToGiveBack s.proxy.mSensors front stored q
  | perform request => rw [(HalProxy.sameQueues_perform s.proxy request).mSensors]
  | initStage dt stage args hstage henabled =>
    rw [System.afterStage]
    dsimp only
    rw [mSensors_initStage]
  | _ => rfl

/-- So no step changes which sensors wake up. -/
theorem isWakeUp_step (hstep : step c s a = some t) :
    SensorMap.isWakeUp t.proxy.mSensors = SensorMap.isWakeUp s.proxy.mSensors :=
  SensorMap.isWakeUp_congr (info_step hstep)

/-- Every table a run visits reads like the one of the constructor. -/
theorem info_of_visits {subHalList : List SubHalWrapper} {as : List Action}
    (hv : (machine c).Visits (start subHalList) as t) :
    SensorMap.info t.proxy.mSensors
      = SensorMap.info (HalProxy.construct subHalList : HalProxy PostedEvent).mSensors :=
  Machine.invariant_of_step (I := fun t => SensorMap.info t.proxy.mSensors
      = SensorMap.info (HalProxy.construct subHalList : HalProxy PostedEvent).mSensors)
    (fun _ _ _ hs hstep => (info_step hstep).trans hs) rfl hv

/-- The number of wake-up events in a list. -/
def wakeUps (s : System) (events : List PostedEvent) : ℕ := s.proxy.mSensors.numWakeUps events

theorem wakeUps_step (hstep : step c s a = some t) (events : List PostedEvent) :
    t.wakeUps events = s.wakeUps events :=
  SensorMap.numWakeUps_congr (isWakeUp_step hstep) events

@[simp] theorem wakeUps_nil (s : System) : s.wakeUps [] = 0 := rfl

theorem wakeUps_append (s : System) (xs ys : List PostedEvent) :
    s.wakeUps (xs ++ ys) = s.wakeUps xs + s.wakeUps ys := SensorMap.numWakeUps_append _ xs ys

theorem wakeUps_take_add_drop (s : System) (xs : List PostedEvent) (n : ℕ) :
    s.wakeUps (xs.take n) + s.wakeUps (xs.drop n) = s.wakeUps xs :=
  SensorMap.numWakeUps_take_add_drop _ xs n

/-- Splitting by epoch. -/
theorem wakeUps_filter_epoch (s : System) (xs : List PostedEvent) (epoch : ℕ) :
    s.wakeUps (xs.filter (·.epoch ≠ epoch)) + s.wakeUps (xs.filter (·.epoch = epoch))
      = s.wakeUps xs := by
  induction xs with
  | nil => rfl
  | cons e es ih =>
    have hcons : ∀ ys, s.wakeUps (e :: ys) = s.wakeUps [e] + s.wakeUps ys :=
      fun ys => wakeUps_append s [e] ys
    by_cases he : e.epoch = epoch
    · rw [List.filter_cons_of_neg (by simpa using he), List.filter_cons_of_pos (by simpa using he),
        hcons, hcons es]
      omega
    · rw [List.filter_cons_of_pos (by simpa using he), List.filter_cons_of_neg (by simpa using he),
        hcons, hcons es]
      omega

/-! ### Processed batches -/

/-- Stamping does not change which events wake up. -/
theorem wakeUps_stamp (s : System) (post : Post) (events : List Event) :
    s.wakeUps (s.stamp post events) = s.proxy.mSensors.numWakeUps events := by
  have hmap : (s.stamp post events).map PostedEvent.event = events := by
    refine List.ext_getElem (by simp [stamp]) fun i _ _ => ?_
    simp [stamp]
  have hcount : s.wakeUps (s.stamp post events)
      = s.proxy.mSensors.numWakeUps ((s.stamp post events).map PostedEvent.event) := by
    rw [SensorMap.numWakeUps, List.countP_map]
    rfl
  rw [hcount, hmap]

/-- A processed batch carries the number of its wake-up events. -/
def Counted (s : System) : Prop :=
  ∀ post ∈ s.posts, ∀ events n, post.pc = .processed events n →
    n = s.proxy.mSensors.numWakeUps events

theorem Counted.of_mem (h : Counted s) (hstep : step c s a = some t)
    (hmem : ∀ post ∈ t.posts, post ∈ s.posts ∨ ∀ events n, post.pc = .processed events n →
      n = t.proxy.mSensors.numWakeUps events) : Counted t := by
  intro post hpost events n hpc
  rcases hmem post hpost with hold | hnew
  · rw [h post hold events n hpc]
    exact SensorMap.numWakeUps_congr (isWakeUp_step hstep).symm events
  · exact hnew events n hpc

theorem Counted.step (h : Counted s) (hstep : step c s a = some t) : Counted t := by
  cases step_cases hstep with
  | goOn i events wakelock taken left htake hrun =>
    apply h.of_mem hstep
    intro post hpost
    rcases List.mem_append.mp hpost with hold | hnew
    · exact Or.inl hold
    · rw [List.mem_singleton.mp hnew]
      exact Or.inr fun _ _ hpc => nomatch hpc
  | processEvents k post events hk hpc out hout =>
    apply h.of_mem hstep
    intro post' hpost'
    rcases List.mem_or_eq_of_mem_set hpost' with hold | rfl
    · exact Or.inl hold
    · apply Or.inr
      intro events' n hpc'
      obtain ⟨rfl, rfl⟩ := PostPc.processed.inj hpc'
      subst hout
      dsimp only
      rw [HalProxyCallback.numWakeupEvents_processEvents]
      exact SensorMap.numWakeUps_congr (HalProxyCallback.isWakeUp_processEvents ..).symm _
  | postEvents k avail ok dt post events n hk hpc hfree =>
    exact h.of_mem hstep fun post' hpost' => Or.inl (List.mem_of_mem_eraseIdx hpost')
  | _ => exact h.of_mem hstep fun _ hpost => Or.inl hpost

theorem counted_of_visits {subHalList : List SubHalWrapper} {as : List Action}
    (hv : (machine c).Visits (start subHalList) as t) : Counted t := by
  have hstart : Counted (start subHalList) := fun _ hpost => nomatch hpost
  exact Machine.invariant_of_step (fun _ _ _ hs hstep => hs.step hstep) hstart hv

/-- So does its stamped form. -/
theorem Counted.wakeUps_stamp (h : Counted s) {k : ℕ} {post : Post} {events : List Event} {n : ℕ}
    (hk : s.posts[k]? = some post) (hpc : post.pc = .processed events n) :
    s.wakeUps (s.stamp post events) = n := by
  rw [System.wakeUps_stamp]
  exact (h post (List.mem_of_getElem? hk) events n hpc).symm

/-! ### Live wakelocks -/

/-- The locked `ScopedWakelock`s that were not destroyed. -/
def liveWakelocks (s : System) : List ScopedWakelock :=
  s.scopedWakelocks ++ s.posts.filterMap Post.wakelock

/-- Taking an element out of a list by its index. -/
theorem perm_cons_eraseIdx {α : Type*} {xs : List α} {k : ℕ} {x : α} (h : xs[k]? = some x) :
    xs.Perm (x :: xs.eraseIdx k) := by
  obtain ⟨hlt, rfl⟩ := List.getElem?_eq_some_iff.mp h
  exact (List.getElem_cons_eraseIdx_perm hlt).symm

theorem perm_takeWakelock {wakelock : Option ℕ} {taken : Option ScopedWakelock}
    {left : List ScopedWakelock} (h : s.takeWakelock wakelock = some (taken, left)) :
    s.scopedWakelocks.Perm (taken.toList ++ left) := by
  unfold takeWakelock at h
  cases wakelock with
  | none =>
    obtain ⟨rfl, rfl⟩ := Prod.mk.inj (Option.some.inj h)
    exact .refl _
  | some k =>
    obtain ⟨wl, hk, heq⟩ := Option.map_eq_some_iff.mp h
    obtain ⟨rfl, rfl⟩ := Prod.mk.inj heq
    exact perm_cons_eraseIdx hk

/-- A created wakelock is live. -/
theorem live_createScopedWakelock (hrun : s.proxy.mThreadsRun = true) (dt : ℕ) :
    (s.createScopedWakelock dt).liveWakelocks.Perm
      (⟨↑(s.clock + dt), s.history.resets⟩ :: s.liveWakelocks) := by
  unfold createScopedWakelock liveWakelocks
  rw [hrun]
  show (s.scopedWakelocks ++ [_] ++ _).Perm _
  rw [List.append_assoc]
  exact List.perm_middle

/-- The wakelocks live before the destruction of one of them. -/
theorem live_destroyScopedWakelock {k : ℕ} {wakelock : ScopedWakelock}
    (hk : s.scopedWakelocks[k]? = some wakelock) :
    s.liveWakelocks.Perm
      (wakelock :: (s.scopedWakelocks.eraseIdx k ++ s.posts.filterMap Post.wakelock)) :=
  (perm_cons_eraseIdx hk).append_right _

/-- A wakelock passed to `postEvents` stays live. -/
theorem live_goOn {i : ℕ} {events : List Event} {wakelock : Option ℕ}
    {taken : Option ScopedWakelock} {left : List ScopedWakelock}
    (h : s.takeWakelock wakelock = some (taken, left)) :
    (liveWakelocks { s with
      posts := s.posts ++ [⟨i, .tested events, taken, s.history.session⟩]
      scopedWakelocks := left }).Perm s.liveWakelocks := by
  have hperm := perm_takeWakelock h
  unfold liveWakelocks
  rw [List.filterMap_append]
  have hlast : [Post.mk i (.tested events) taken s.history.session].filterMap Post.wakelock
      = taken.toList := by
    cases taken <;> rfl
  rw [hlast]
  refine List.Perm.trans ?_ (hperm.symm.append_right _)
  rw [← List.append_assoc]
  refine List.perm_append_comm.trans ?_
  rw [← List.append_assoc]

/-- Replacing an element by one with the same image. -/
theorem filterMap_set_of_eq {α β : Type*} {f : α → Option β} {xs : List α} {k : ℕ} {x y : α}
    (hk : xs[k]? = some x) (hf : f y = f x) : (xs.set k y).filterMap f = xs.filterMap f := by
  induction xs generalizing k with
  | nil => rfl
  | cons z zs ih =>
    cases k with
    | zero =>
      obtain rfl : z = x := Option.some.inj hk
      rw [List.set_cons_zero, List.filterMap_cons, List.filterMap_cons, hf]
    | succ k => rw [List.set_cons_succ, List.filterMap_cons, List.filterMap_cons, ih hk]

/-- Processing a batch does not change who owns its wakelock. -/
theorem live_processEvents {k : ℕ} {post : Post} {pc : PostPc} {mSensors : SensorMap}
    (hk : s.posts[k]? = some post) :
    liveWakelocks { s with
      proxy.mSensors := mSensors
      posts := s.posts.set k { post with pc := pc } } = s.liveWakelocks :=
  congrArg (s.scopedWakelocks ++ ·) (filterMap_set_of_eq hk rfl)

/-- A post gives its wakelock back live. -/
theorem live_postBatch {k : ℕ} {post : Post} {events : List PostedEvent} {n avail : ℕ} {ok : Bool}
    {now : ℕ} (hk : s.posts[k]? = some post) :
    (s.postBatch c k post events n avail ok now).liveWakelocks.Perm s.liveWakelocks := by
  have hperm := (perm_cons_eraseIdx hk).filterMap Post.wakelock
  have hcons : (post :: s.posts.eraseIdx k).filterMap Post.wakelock
      = post.wakelock.toList ++ (s.posts.eraseIdx k).filterMap Post.wakelock := by
    cases hw : post.wakelock <;> simp [hw]
  rw [hcons] at hperm
  show (s.scopedWakelocks ++ post.wakelock.toList ++ _).Perm _
  rw [List.append_assoc]
  exact hperm.symm.append_left _

end OnePlus9.System
