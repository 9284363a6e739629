import OnePlus9.Sensors.Equiv.PendingWrites
import OnePlus9.Sensors.Equiv.ProcessEvents
import OnePlus9.Sensors.Equiv.SensorList
import OnePlus9.Sensors.Equiv.Session
import OnePlus9.Sensors.Equiv.Stages
import Mathlib.Data.List.Perm.Subperm

/-!
# The list of static sensors

`getSensorsList_2_1` reads `mSensors`, the table that `initializeSensorList` fills.  Two other
functions reach this table through `operator[]`, which inserts what it does not find:
`processEvents` for every posted event (`contains_processEvents`), and `countNumWakeupEvents` for
every event of a dropped chunk.

`Listed m events` says that all events are of sensors in the table `m`.  A listed batch leaves the
table as it is (`mSensors_processEvents`), and what is queued of it can be recounted without a
trace (`mSensors_numToGiveBack`).  One event of an unlisted sensor, such as a dynamic sensor,
lengthens the list for good (`length_getSensorsList_lt`).  Hence `getSensorsList_2_1` always
returns the list of the constructor if and only if every processed batch is listed
(`getSensorsList_eq_iff`).
-/

namespace OnePlus9

namespace SensorMap

variable {m m' : SensorMap} {h k : Int32}

/-! ### Lookups that insert -/

/-- A lookup of a listed sensor inserts nothing. -/
theorem index_snd_of_contains (hk : m.contains h = true) : (m.index h).2 = m := by
  have hsome : m[h]?.isSome = true := by rwa [← Std.TreeMap.contains_eq_isSome_getElem?]
  obtain ⟨info, hinfo⟩ := Option.isSome_iff_exists.mp hsome
  rw [index, hinfo]

/-- After a lookup the handle is in the table. -/
theorem contains_index_snd :
    (m.index h).2.contains k = true ↔ m.contains k = true ∨ k = h := by
  cases hh : m.contains h with
  | true =>
    rw [index_snd_of_contains hh]
    constructor
    · exact Or.inl
    · rintro (hk | rfl)
      · exact hk
      · exact hh
  | false =>
    have hnone : m[h]? = none := by
      rw [← Option.not_isSome_iff_eq_none, ← Std.TreeMap.contains_eq_isSome_getElem?, hh]
      exact Bool.false_ne_true
    rw [index, hnone]
    exact contains_insert_iff

/-- All events are of sensors in the table. -/
def Listed {ε : Type*} [SensorEvent ε] (m : SensorMap) (events : List ε) : Prop :=
  ∀ e ∈ events, m.contains (SensorEvent.toEvent e).sensorHandle = true

/-- A table with more keys is longer. -/
theorem length_keys_lt (hsub : ∀ k, m.contains k = true → m'.contains k = true)
    (hold : m.contains h = false) (hnew : m'.contains h = true) :
    m.keys.length < m'.keys.length := by
  have hmem : ∀ {t : SensorMap} {k : Int32}, k ∈ t.keys ↔ t.contains k = true := fun {t k} => by
    rw [Std.TreeMap.mem_keys, Std.TreeMap.mem_iff_contains]
  have hnodup : (h :: m.keys).Nodup := by
    refine List.nodup_cons.mpr ⟨fun hh => ?_, Std.TreeMap.nodup_keys⟩
    rw [hmem, hold] at hh
    exact Bool.false_ne_true hh
  have hsubset : h :: m.keys ⊆ m'.keys := by
    intro k hk
    rcases List.mem_cons.mp hk with rfl | hk
    · exact hmem.mpr hnew
    · exact hmem.mpr (hsub k (hmem.mp hk))
  exact (hnodup.subperm hsubset).length_le

end SensorMap

open SensorMap

/-! ### The lookups of a batch -/

namespace HalProxyCallback

variable {i : Int32} {m : SensorMap} {events : List Event}

/-- The table a batch leaves behind has the handles it was processed under. -/
theorem contains_processEvents (i : Int32) (events : List Event) (m : SensorMap) (k : Int32) :
    (processEvents i events m).mSensors.contains k = true
      ↔ m.contains k = true ∨ k ∈ (events.map (tagEvent i)).map Event.sensorHandle := by
  induction events generalizing m with
  | nil => simp [processEvents]
  | cons e es ih =>
    have hcons : (processEvents i (e :: es) m).mSensors
        = (processEvents i es (m.index (tagEvent i e).sensorHandle).2).mSensors := by
      cases hk : keeps m (tagEvent i e) with
      | false => rw [processEvents_cons_filtered hk]
      | true => rw [processEvents_cons_kept hk]
    rw [hcons, ih, contains_index_snd, List.map_cons, List.map_cons, List.mem_cons, or_assoc]

/-- A listed batch leaves the table as it is. -/
theorem mSensors_processEvents (h : Listed m (events.map (tagEvent i))) :
    (processEvents i events m).mSensors = m := by
  induction events with
  | nil => rfl
  | cons e es ih =>
    have hhead : m.contains (tagEvent i e).sensorHandle = true := h _ (List.mem_cons_self ..)
    have htail : Listed m (es.map (tagEvent i)) := fun e he => h e (List.mem_cons_of_mem _ he)
    cases hk : keeps m (tagEvent i e) with
    | false => rw [processEvents_cons_filtered hk, index_snd_of_contains hhead, ih htail]
    | true =>
      rw [processEvents_cons_kept hk, index_snd_of_contains hhead]
      exact ih htail

/-- What it emits is listed. -/
theorem listed_eventsOut (h : Listed m (events.map (tagEvent i))) :
    Listed m (processEvents i events m).eventsOut := by
  intro e he
  rw [eventsOut_processEvents] at he
  exact h e (List.mem_filter.mp he).1

end HalProxyCallback

namespace PendingWrites

variable {ε : Type*} [SensorEvent ε] {m : SensorMap} {events : List ε}

/-- Recounting listed events leaves the table as it is. -/
theorem mSensors_foldl_count (h : Listed m events) (start : ℕ) :
    (events.foldl
      (fun (x : ℕ × SensorMap) event =>
        let y := x.2.index (SensorEvent.toEvent event).sensorHandle
        (if y.1.flags &&& WAKE_UP != 0 then x.1 + 1 else x.1, y.2))
      (start, m)).2 = m := by
  induction events generalizing start with
  | nil => rfl
  | cons e es ih =>
    have hhead : (m.index (SensorEvent.toEvent e).sensorHandle).2 = m :=
      index_snd_of_contains (h e (List.mem_cons_self ..))
    have htail : Listed m es := fun e he => h e (List.mem_cons_of_mem _ he)
    rw [List.foldl_cons]
    dsimp only
    rw [hhead]
    exact ih htail _

/-- Giving back the claims of a chunk leaves the table as it is, if the batch is listed. -/
theorem mSensors_numToGiveBack (h : Listed m events) (stored q : ℕ) :
    (numToGiveBack m events stored q).2 = m := by
  unfold numToGiveBack
  split_ifs
  · exact mSensors_foldl_count (fun e he => h e (List.mem_of_mem_take he)) 0
  · rfl
  · rfl

end PendingWrites

/-! ### The list along a run -/

namespace HalProxy

variable {ε : Type*}

/-- One more handle in the table lengthens the list. -/
theorem length_getSensorsList_lt {p p' : HalProxy ε} {h : Int32}
    (hsub : ∀ k, p.mSensors.contains k = true → p'.mSensors.contains k = true)
    (hold : p.mSensors.contains h = false) (hnew : p'.mSensors.contains h = true) :
    p.getSensorsList_2_1.length < p'.getSensorsList_2_1.length := by
  have hlength : ∀ q : HalProxy ε, q.getSensorsList_2_1.length = q.mSensors.keys.length := by
    intro q
    rw [getSensorsList_2_1, List.length_map, ← Std.TreeMap.map_fst_toList_eq_keys, List.length_map]
  rw [hlength, hlength]
  exact length_keys_lt hsub hold hnew

end HalProxy

namespace System

variable {c : Constants} {s t : System} {a : Action} {m : SensorMap}

/-- Every batch that `processEvents` is called with is of sensors in the table `m`. -/
def ProcessesListed (m : SensorMap) (s : System) : Action → Prop
  | .processEvents k => ∀ post events, s.posts[k]? = some post → post.pc = .tested events →
      Listed m (events.map (HalProxyCallback.tagEvent (Int32.ofNat post.mSubHalIndex)))
  | _ => True

/-- The table is `m`, and all events in the proxy are listed in it. -/
structure KeepsList (m : SensorMap) (s : System) : Prop where
  mSensors : s.proxy.mSensors = m
  pending : ∀ batch ∈ s.proxy.pendingWrites.mPendingWriteEventsQueue, Listed m batch.1
  processed : ∀ post ∈ s.posts, ∀ events n, post.pc = .processed events n → Listed m events

/-- A step that only takes posts or batches away. -/
theorem KeepsList.of_subset (h : KeepsList m s) (hm : t.proxy.mSensors = s.proxy.mSensors)
    (hqueue : t.proxy.pendingWrites.mPendingWriteEventsQueue
      ⊆ s.proxy.pendingWrites.mPendingWriteEventsQueue)
    (hposts : t.posts ⊆ s.posts) : KeepsList m t where
  mSensors := hm.trans h.mSensors
  pending := fun batch hbatch => h.pending batch (hqueue hbatch)
  processed := fun post hpost => h.processed post (hposts hpost)

theorem KeepsList.processEvents (h : KeepsList m s) {k : ℕ} {post : Post} {events : List Event}
    {out : HalProxyCallback.ProcessedEvents} (hk : s.posts[k]? = some post)
    (hpc : post.pc = .tested events)
    (hout : out = HalProxyCallback.processEvents (Int32.ofNat post.mSubHalIndex) events
      s.proxy.mSensors)
    (hc : ProcessesListed m s (.processEvents k)) :
    KeepsList m
      { s with
        proxy.mSensors := out.mSensors
        posts := s.posts.set k { post with pc := .processed out.eventsOut out.numWakeupEvents } }
    := by
  have hlisted := hc post events hk hpc
  rw [h.mSensors] at hout
  refine ⟨?_, h.pending, fun post' hpost' events' n hpc' => ?_⟩
  · rw [hout]
    exact HalProxyCallback.mSensors_processEvents hlisted
  · rcases List.mem_or_eq_of_mem_set hpost' with hold | rfl
    · exact h.processed post' hold events' n hpc'
    · obtain ⟨rfl, -⟩ := PostPc.processed.inj hpc'
      rw [hout]
      exact HalProxyCallback.listed_eventsOut hlisted

/-- The events of a post keep their handles. -/
theorem listed_stamp {post : Post} {events : List Event} (h : Listed m events) :
    Listed m (s.stamp post events) := by
  intro e he
  obtain ⟨i, hi, rfl⟩ := List.mem_mapIdx.mp he
  exact h _ (List.getElem_mem hi)

theorem KeepsList.postBatch (h : KeepsList m s) {k avail now : ℕ} {ok : Bool} {post : Post}
    {events : List Event} {n : ℕ} (hk : s.posts[k]? = some post)
    (hpc : post.pc = .processed events n) :
    KeepsList m (s.postBatch c k post (s.stamp post events) n avail ok now) := by
  have hlisted : Listed m (s.stamp post events) :=
    listed_stamp (h.processed post (List.mem_of_getElem? hk) events n hpc)
  refine ⟨h.mSensors, fun batch hbatch => ?_, fun post hpost => ?_⟩
  · rcases PendingWrites.mem_pushLeft hbatch with hold | rfl
    · exact h.pending batch hold
    · exact fun e he => hlisted e (List.mem_of_mem_drop he)
  · exact h.processed post (List.mem_of_mem_eraseIdx hpost)

theorem KeepsList.giveBack (h : KeepsList m s) {stored q n : ℕ} {front : List PostedEvent}
    {stored' : ℕ} {rest : List (List PostedEvent × ℕ)}
    (hq : s.proxy.pendingWrites.mPendingWriteEventsQueue = (front, stored') :: rest) :
    KeepsList m (s.giveBack front stored q n) := by
  have hfront : Listed m front := h.pending (front, stored') (hq ▸ List.mem_cons_self ..)
  refine ⟨?_, h.pending, h.processed⟩
  show (PendingWrites.numToGiveBack s.proxy.mSensors front stored q).2 = m
  rw [h.mSensors]
  exact PendingWrites.mSensors_numToGiveBack hfront stored q

theorem KeepsList.finishWrite (h : KeepsList m s) (q n : ℕ) :
    KeepsList m
      { s with
        proxy.pendingWrites := s.proxy.pendingWrites.finishWrite q n
        writer := .waiting } := by
  refine ⟨h.mSensors, fun batch hbatch => ?_, h.processed⟩
  -- What is left of a batch is as listed as the batch was.
  obtain ⟨batch', hbatch', hsuffix, _⟩ := PendingWrites.mem_finishWrite hbatch
  intro e he
  exact h.pending batch' hbatch' e (hsuffix.subset he)

theorem KeepsList.afterStage (h : KeepsList m s) (stage : HalProxy.InitStage)
    (args : HalProxy.InitializeArgs) (now : ℕ) : KeepsList m (s.afterStage stage args now) := by
  exact h.of_subset (mSensors_initStage s.proxy args now stage)
    (queue_initStage_subset s.proxy args now stage) (List.Subset.refl _)

/-- **A step** that processes listed batches only keeps the list. -/
theorem KeepsList.step (h : KeepsList m s) (hc : ProcessesListed m s a)
    (hstep : step c s a = some t) : KeepsList m t := by
  have hsame : s.proxy.pendingWrites.mPendingWriteEventsQueue
      ⊆ s.proxy.pendingWrites.mPendingWriteEventsQueue := List.Subset.refl _
  cases step_cases hstep with
  | goOn i events wakelock taken left htake hrun =>
    refine ⟨h.mSensors, h.pending, fun post hpost events' n hpc => ?_⟩
    rcases List.mem_append.mp hpost with hold | hnew
    · exact h.processed post hold events' n hpc
    · rw [List.mem_singleton.mp hnew] at hpc
      exact nomatch hpc
  | processEvents k post events hk hpc out hout => exact h.processEvents hk hpc hout hc
  | postEvents k avail ok dt post events n hk hpc hfree => exact h.postBatch hk hpc
  | giveBack ok stored q n front stored' rest hpc hq => exact h.giveBack hq
  | finishWrite ok q n hpc => exact h.finishWrite q n
  | perform request =>
    have hproxy := HalProxy.sameQueues_perform s.proxy request
    refine h.of_subset hproxy.mSensors ?_ (List.Subset.refl _)
    show (s.proxy.perform request).pendingWrites.mPendingWriteEventsQueue ⊆ _
    rw [hproxy.pendingWrites]
    exact hsame
  | initStage dt stage args hstage henabled => exact h.afterStage stage args _
  | _ => exact h.of_subset rfl hsame (List.Subset.refl _)

/-- **One unlisted event** lengthens the list. -/
theorem length_lt_of_not_processesListed (h : KeepsList m s) (hc : ¬ProcessesListed m s a)
    (hstep : step c s a = some t) :
    s.proxy.getSensorsList_2_1.length < t.proxy.getSensorsList_2_1.length := by
  cases step_cases hstep with
  | processEvents k post events hk hpc out hout =>
    have hunlisted : ¬Listed m
        (events.map (HalProxyCallback.tagEvent (Int32.ofNat post.mSubHalIndex))) := by
      intro hlisted
      apply hc
      intro post' events' hk' hpc'
      obtain rfl : post = post' := Option.some.inj (hk.symm.trans hk')
      obtain rfl : events = events' := PostPc.tested.inj (hpc.symm.trans hpc')
      exact hlisted
    unfold Listed at hunlisted
    push Not at hunlisted
    obtain ⟨e, he, hnot⟩ := hunlisted
    refine HalProxy.length_getSensorsList_lt (h := e.sensorHandle) (fun k hk => ?_) ?_ ?_
    · show out.mSensors.contains k = true
      rw [hout, HalProxyCallback.contains_processEvents]
      exact Or.inl hk
    · rw [h.mSensors]
      exact (Bool.not_eq_true _).mp hnot
    · show out.mSensors.contains e.sensorHandle = true
      rw [hout, HalProxyCallback.contains_processEvents]
      exact Or.inr (List.mem_map_of_mem he)
  | _ => exact absurd trivial hc

theorem keepsList_start (subHalList : List SubHalWrapper) :
    KeepsList (HalProxy.construct subHalList : HalProxy PostedEvent).mSensors
      (start subHalList) where
  mSensors := rfl
  pending := fun _ h => nomatch h
  processed := fun _ h => nomatch h

/-- **The static sensor list** is the list of the constructor throughout a run, if and only if every
batch processed in it is of sensors in this list. -/
theorem getSensorsList_eq_iff (c : Constants) (subHalList : List SubHalWrapper)
    (as : List Action) :
    (∀ t, (machine c).Visits (start subHalList) as t →
        t.proxy.getSensorsList_2_1
          = (HalProxy.construct subHalList : HalProxy PostedEvent).getSensorsList_2_1)
      ↔ (machine c).Meets
        (ProcessesListed (HalProxy.construct subHalList : HalProxy PostedEvent).mSensors)
        (start subHalList) as := by
  refine Machine.always_iff_meets (d := fun _ _ => True)
    (I := KeepsList (HalProxy.construct subHalList : HalProxy PostedEvent).mSensors)
    (fun s hs => ?_) (fun s a t hs _ hc hstep => hs.step hc hstep)
    (fun s a t hs _ hc hstep heq => ?_) (keepsList_start subHalList)
    (Machine.meets_of_forall fun _ _ => trivial)
  · rw [HalProxy.getSensorsList_2_1, hs.mSensors, HalProxy.getSensorsList_2_1]
  · have hlt := length_lt_of_not_processesListed hs hc hstep
    rw [heq, HalProxy.getSensorsList_2_1, hs.mSensors, HalProxy.getSensorsList_2_1] at hlt
    exact Nat.lt_irrefl _ hlt

/-! ### A dynamic sensor in the list -/

/-- A sub-HAL connects a dynamic sensor and posts an event of it. -/
def postOfDynamicSensor : List Action :=
  initialization sampleArgs ++
    [.perform (.onDynamicSensorsConnected [⟨7, .other 1, "android.sensor.accelerometer", 0⟩] 0),
      .testThreadsRunning 0 [⟨7, .other 1, ⟨0, 0, []⟩⟩] none, .processEvents 0]

/-- The list of the static sensors then has an entry more. -/
theorem exists_list_changed :
    ¬∀ t, (machine sampleConstants).Visits (start [pickUpSubHal]) postOfDynamicSensor t →
      t.proxy.getSensorsList_2_1
        = (HalProxy.construct [pickUpSubHal] : HalProxy PostedEvent).getSensorsList_2_1 := by
  intro hall
  obtain ⟨t, hvisits, ht⟩ := (machine sampleConstants).exists_visits (start [pickUpSubHal])
    postOfDynamicSensor (fun t => t.proxy.getSensorsList_2_1.length) 4 (by decide)
  rw [hall t hvisits] at ht
  exact absurd ht (by decide)

end System

end OnePlus9
