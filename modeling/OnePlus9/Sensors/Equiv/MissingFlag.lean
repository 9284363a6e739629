import OnePlus9.Sensors.Equiv.Reset
import OnePlus9.Sensors.Equiv.WakeUps

/-!
# An initialization without an event flag

Where `createEventFlag` fails for the event queue, `initializeCommon` notes `BAD_VALUE` and goes on:
it sets `mThreadsRun`, starts the two threads and initializes the sub-HALs, with `mEventQueueFlag`
null.  From then on `postEvents` goes through, and the flag is woken, or passed to `writeBlocking`,
as if it were there.

The missing flag stays unused if and only if nothing is ever posted: every batch a sub-HAL has
under way or posts later is dropped by the pick-up filter as a whole (`inert_iff`).  For the other
direction, the initialization is finished, and what is not dropped is posted and written directly.
-/

open OnePlus9.HalProxyCallback

namespace OnePlus9

/-! ### Silent posts -/

/-- The filter drops every event of a batch of the sub-HAL at index `i`. -/
def HalProxyCallback.AllFiltered (mSensors : SensorMap) (i : ℕ) (events : List Event) : Prop :=
  ∀ e ∈ events, keeps mSensors (tagEvent (Int32.ofNat i) e) = false

/-- The call has nothing to post, or will have nothing when its batch is processed. -/
def Post.Silent (mSensors : SensorMap) (post : Post) : Prop :=
  match post.pc with
  | .tested events => AllFiltered mSensors post.mSubHalIndex events
  | .processed eventsOut _ => eventsOut = []

theorem Post.silent_iff_of_tested {m : SensorMap} {post : Post} {events : List Event}
    (hpc : post.pc = .tested events) :
    post.Silent m ↔ AllFiltered m post.mSubHalIndex events := by
  unfold Silent
  rw [hpc]

theorem Post.silent_iff_of_processed {m : SensorMap} {post : Post} {eventsOut : List Event} {n : ℕ}
    (hpc : post.pc = .processed eventsOut n) : post.Silent m ↔ eventsOut = [] := by
  unfold Silent
  rw [hpc]

theorem HalProxyCallback.eventsOut_eq_nil_iff {m m' : SensorMap} (hinfo : m'.info = m.info) {i : ℕ}
    {events : List Event} :
    (processEvents (Int32.ofNat i) events m').eventsOut = [] ↔ AllFiltered m i events := by
  have hkeeps : keeps m' = keeps m := funext fun e => by rw [keeps, hinfo, keeps]
  rw [eventsOut_processEvents, hkeeps, List.filter_eq_nil_iff, List.forall_mem_map]
  exact forall₂_congr fun e _ => iff_of_eq (Bool.not_eq_true _)

namespace System

variable {c : Constants} {s t u : System} {a : Action} {args : HalProxy.InitializeArgs}
  {mayPost : ℕ → List Event → Prop}

/-! ### Uses of the flag -/

/-- How many events a `postEventsToMessageQueue` step writes directly. -/
def numWrittenDirectly (k availableToWrite : ℕ) (writeOk : Bool) (s : System) : ℕ :=
  match s.posts[k]?.map Post.pc with
  | some (.processed eventsOut _) =>
    s.proxy.pendingWrites.numToWrite eventsOut.length availableToWrite writeOk
  | _ => 0

/-- The step uses `mEventQueueFlag`: what was written directly is followed by a `wake`, and the
pending-writes thread passes the flag to `writeBlocking`. -/
def usesEventQueueFlag (s : System) : Action → Bool
  | .postEventsToMessageQueue k availableToWrite writeOk _ =>
    decide (0 < s.numWrittenDirectly k availableToWrite writeOk)
  | .handlePendingWrites _ => decide (s.writer = .woken) && s.proxy.mThreadsRun
  | _ => false

/-- The flag is there where it is used. -/
def FlagPresent (s : System) (a : Action) : Prop :=
  usesEventQueueFlag s a = true → s.proxy.mEventQueueFlag = true

instance (s : System) (a : Action) : Decidable (FlagPresent s a) :=
  inferInstanceAs (Decidable (_ → _))

/-- No initialization succeeds, and the sub-HALs post only batches of a kind. -/
def BeforeSuccess (mayPost : ℕ → List Event → Prop) (s : System) : Action → Prop
  | .initializeCommon args => s.proxy.initializeResult args ≠ .ok
  | .testThreadsRunning i events _ => mayPost i events
  | _ => True

theorem beforeSuccess_of_quiet (ha : quiet a = true) (s : System) : BeforeSuccess mayPost s a := by
  cases a with
  | initializeCommon args => exact nomatch ha
  | testThreadsRunning i events wakelock => exact nomatch ha
  | _ => trivial

theorem numWrittenDirectly_of_processed {k n avail : ℕ} {ok : Bool} {post : Post}
    {eventsOut : List Event} (hk : s.posts[k]? = some post)
    (hpc : post.pc = .processed eventsOut n) :
    s.numWrittenDirectly k avail ok
      = s.proxy.pendingWrites.numToWrite eventsOut.length avail ok := by
  rw [numWrittenDirectly, hk, Option.map_some, hpc]

/-! ### While nothing is posted -/

/-- No step adds or removes a sub-HAL. -/
theorem length_step (hstep : step c s a = some t) :
    t.proxy.mSubHalList.length = s.proxy.mSubHalList.length := by
  cases step_cases hstep with
  | perform request => exact HalProxy.length_perform s.proxy request
  | initStage dt stage args hstage henabled => exact HalProxy.length_initStage _ _ _ _
  | _ => rfl

/-- Only the sub-HALs of the list post. -/
theorem lt_of_testThreadsRunning {i : ℕ} {events : List Event} {wakelock : Option ℕ}
    (hstep : step c s (.testThreadsRunning i events wakelock) = some t) :
    i < s.proxy.mSubHalList.length := by
  rw [step, testThreadsRunning] at hstep
  by_contra hi
  rw [if_neg hi] at hstep
  contradiction

/-- Every post is silent, and so is every batch that may still be posted.  Once the pending queue
has been replaced, it stays empty. -/
structure Inert (mSensors : SensorMap) (mayPost : ℕ → List Event → Prop) (s : System) : Prop where
  info : SensorMap.info s.proxy.mSensors = mSensors.info
  coherent : Coherent s
  posts : ∀ post ∈ s.posts, post.Silent mSensors
  allowed : ∀ i events, i < s.proxy.mSubHalList.length → mayPost i events →
    AllFiltered mSensors i events
  queue : Past .clearPendingQueue s → s.proxy.pendingWrites.mPendingWriteEventsQueue = []

variable {m : SensorMap}

/-- Only the pending queue of the proxy matters. -/
theorem Inert.of_same (h : Inert m mayPost s) (hstep : System.step c s a = some t)
    (hposts : ∀ post ∈ t.posts, post ∈ s.posts ∨ post.Silent m)
    (hqueue : Past .clearPendingQueue t → t.proxy.pendingWrites.mPendingWriteEventsQueue = []) :
    Inert m mayPost t where
  info := (info_step hstep).trans h.info
  coherent := h.coherent.step hstep
  posts := fun post hpost => (hposts post hpost).elim (h.posts post) id
  allowed := fun i events hi => h.allowed i events (length_step hstep ▸ hi)
  queue := hqueue

/-- **Silence lasts**, as long as only silent batches are posted. -/
theorem Inert.step (h : Inert m mayPost s) (ha : BeforeSuccess mayPost s a)
    (hstep : System.step c s a = some t) : Inert m mayPost t := by
  have hsame : ∀ post ∈ s.posts, post ∈ s.posts ∨ post.Silent m := fun post hpost => Or.inl hpost
  cases step_cases hstep with
  | goOn i events wakelock taken left htake hrun =>
    refine h.of_same hstep (fun post hpost => ?_) h.queue
    rcases List.mem_append.mp hpost with hold | hnew
    · exact Or.inl hold
    · right
      rw [List.mem_singleton.mp hnew]
      exact h.allowed i events (lt_of_testThreadsRunning hstep) ha
  | processEvents k post events hk hpc out hout =>
    refine h.of_same hstep (fun post' hpost' => ?_) h.queue
    rcases List.mem_or_eq_of_mem_set hpost' with hold | hnew
    · exact Or.inl hold
    · right
      have hsilent := h.posts post (List.mem_of_getElem? hk)
      rw [Post.silent_iff_of_tested hpc] at hsilent
      rw [hnew, hout]
      exact (eventsOut_eq_nil_iff h.info).mpr hsilent
  | postEvents k avail ok dt post events n hk hpc hfree =>
    refine h.of_same hstep (fun post' hpost' => Or.inl (List.mem_of_mem_eraseIdx hpost')) ?_
    intro hpast
    -- A silent call has nothing to queue.
    have hsilent := h.posts post (List.mem_of_getElem? hk)
    rw [Post.silent_iff_of_processed hpc] at hsilent
    subst hsilent
    show (s.proxy.pendingWrites.pushLeft c.kMaxSizePendingWriteEventsQueue (s.stamp post []) n
      (s.proxy.pendingWrites.numToWrite 0 avail ok)).mPendingWriteEventsQueue = []
    have hstamp : s.stamp post [] = [] := rfl
    rw [PendingWrites.numToWrite_zero, hstamp, PendingWrites.pushLeft_nil]
    exact h.queue hpast
  | finishWrite ok q n hpc =>
    apply h.of_same hstep hsame
    intro hpast
    show (s.proxy.pendingWrites.finishWrite q n).mPendingWriteEventsQueue = []
    have hqueue := h.queue hpast
    rw [PendingWrites.finishWrite, hqueue]
    exact hqueue
  | perform request =>
    apply h.of_same hstep hsame
    intro hpast
    show (s.proxy.perform request).pendingWrites.mPendingWriteEventsQueue = []
    rw [(HalProxy.sameQueues_perform s.proxy request).pendingWrites]
    exact h.queue hpast
  | initializeCommon args hidle =>
    apply h.of_same hstep hsame
    intro hpast
    exact absurd (hpast _ _ rfl) (Nat.not_lt_zero _)
  | initStage dt stage args hstage henabled =>
    refine h.of_same hstep hsame ?_
    exact Past.field (fun p => p.pendingWrites.mPendingWriteEventsQueue) [] hstage rfl
      (queue_initStage s.proxy args _) h.queue
  | _ => exact h.of_same hstep hsame h.queue

/-- While the threads run, the pending queue has been replaced. -/
theorem Coherent.past_clearPendingQueue (h : Coherent s) (hrun : s.proxy.mThreadsRun = true) :
    Past .clearPendingQueue s := by
  intro next args hnext
  by_contra hle
  have hcleared : next.threadsCleared = true := by
    cases next with
    | startThreads => exact absurd (by decide) hle
    | initializeSubHals => exact absurd (by decide) hle
    | setOperationMode => exact absurd (by decide) hle
    | _ => rfl
  exact nomatch hrun.symm.trans (h.cleared next args hnext hcleared)

/-- **A silent system** does not use the flag. -/
theorem Inert.not_uses (h : Inert m mayPost s) (hstep : System.step c s a = some t) :
    usesEventQueueFlag s a = false := by
  cases step_cases hstep with
  | postEvents k avail ok dt post events n hk hpc hfree =>
    have hsilent := h.posts post (List.mem_of_getElem? hk)
    rw [Post.silent_iff_of_processed hpc] at hsilent
    subst hsilent
    rw [usesEventQueueFlag, numWrittenDirectly_of_processed hk hpc, List.length_nil,
      PendingWrites.numToWrite_zero]
    rfl
  | select ok front stored rest hpc hrun hq =>
    have hqueue := h.queue (h.coherent.past_clearPendingQueue hrun)
    exact nomatch hq.symm.trans hqueue
  | wake ok hpc hready => rw [usesEventQueueFlag, hpc]; rfl
  | exitWriter ok hpc hrun => rw [usesEventQueueFlag, hrun, Bool.and_false]
  | writeChunk stored q n hpc => rw [usesEventQueueFlag, hpc]; rfl
  | dropChunk stored q n hpc => rw [usesEventQueueFlag, hpc]; rfl
  | giveBack ok stored q n front stored' rest hpc hq => rw [usesEventQueueFlag, hpc]; rfl
  | finishWrite ok q n hpc => rw [usesEventQueueFlag, hpc]; rfl
  | _ => rfl

/-! ### Once something is posted -/

/-- Quiet steps leave the `postEvents` calls where they are. -/
theorem posts_of_quiet (ha : quiet a = true) (hstep : step c s a = some t) : t.posts = s.posts := by
  cases step_cases hstep with
  | goOn | processEvents | postEvents | perform => exact nomatch ha
  | _ => rfl

/-- An initialization can be finished without a step of the sub-HALs. -/
theorem exists_restarted (h : Coherent s) (hbegin : step c s (.initializeCommon args) = some t) :
    ∃ as u, (∀ a ∈ as, quiet a = true) ∧ (machine c).run t as = some u ∧ Restarted args s u := by
  have hcoh : Coherent t := h.step hbegin
  cases step_cases hbegin with
  | initializeCommon args hidle =>
    obtain ⟨joined, hdrains, hwriter, hthread⟩ := threadsStop (c := c) hcoh rfl
    obtain ⟨as, hquiet, hrun⟩ := hdrains.run
    obtain ⟨u, hstages, hrestarted⟩ := run_stages (c := c) hwriter hthread hdrains.initializing
    have hposts : joined.posts = s.posts := by
      refine Machine.invariant (I := fun v : System => v.posts = s.posts) ?_ ?_
        (Machine.meets_of_forall (c := fun a => quiet a = true) hquiet)
        (Machine.visits_of_run _ hrun)
      · intro v a w hv ha hstep
        exact (posts_of_quiet ha hstep).trans hv
      · rfl
    refine ⟨as ++ List.replicate 13 (.initStage 0), u, fun a ha => ?_, ?_, hrestarted.initializing,
      hrestarted.mThreadsRun, hrestarted.writer, hrestarted.queue, hrestarted.mEventQueueFlag,
      hrestarted.posts.trans hposts⟩
    · rcases List.mem_append.mp ha with hdrain | hinit
      · exact hquiet a hdrain
      · rw [List.eq_of_mem_replicate hinit]
        rfl
    · rw [Machine.run_append, hrun]
      exact hstages

/-- The event queue is ready and its flag is missing. -/
structure FlagMissing (s : System) : Prop where
  writer : s.writer ≠ .woken
  queue : s.proxy.pendingWrites.mPendingWriteEventsQueue = []
  mEventQueueFlag : s.proxy.mEventQueueFlag = false

/-- A processed batch that is not empty is written directly, and the missing flag is woken. -/
theorem FlagMissing.violates_of_processed (h : FlagMissing s) {k n : ℕ} {post : Post}
    {eventsOut : List Event} (hk : s.posts[k]? = some post)
    (hpc : post.pc = .processed eventsOut n) (hne : eventsOut ≠ []) :
    (machine c).Violates (BeforeSuccess mayPost) FlagPresent s := by
  have hstep : (machine c).step s (.postEventsToMessageQueue k 1 true 0)
      = some (s.postBatch c k post (s.stamp post eventsOut) n 1 true (s.clock + 0)) := by
    rw [machine_step, step, postEventsToMessageQueue, hk, Option.bind_some, hpc]
    exact if_neg h.writer
  have hmin : min eventsOut.length 1 = 1 := Nat.min_eq_right (List.length_pos_iff.mpr hne)
  have hone : s.numWrittenDirectly k 1 true = 1 := by
    rw [numWrittenDirectly_of_processed hk hpc]
    unfold PendingWrites.numToWrite
    rw [h.queue]
    dsimp only
    rw [hmin]
    rfl
  have huses : usesEventQueueFlag s (.postEventsToMessageQueue k 1 true 0) = true := by
    rw [usesEventQueueFlag, decide_eq_true_iff, hone]
    exact Nat.one_pos
  apply Machine.Violates.now hstep trivial
  intro hpresent
  exact Bool.false_ne_true (h.mEventQueueFlag.symm.trans (hpresent huses))

/-- So is a batch that is not dropped as a whole, once it is processed. -/
theorem FlagMissing.violates_of_tested (h : FlagMissing s) {k : ℕ} {post : Post}
    {events : List Event} (hinfo : SensorMap.info s.proxy.mSensors = m.info)
    (hk : s.posts[k]? = some post) (hpc : post.pc = .tested events)
    (hkept : ¬AllFiltered m post.mSubHalIndex events) :
    (machine c).Violates (BeforeSuccess mayPost) FlagPresent s := by
  set out := HalProxyCallback.processEvents (Int32.ofNat post.mSubHalIndex) events s.proxy.mSensors
    with hout
  have hstep : (machine c).step s (.processEvents k) = some
      { s with
        proxy.mSensors := out.mSensors
        posts := s.posts.set k
          { post with pc := .processed out.eventsOut out.numWakeupEvents } } := by
    rw [machine_step, step, System.processEvents, hk, Option.bind_some, hpc]
  have hne : out.eventsOut ≠ [] := fun hnil => hkept ((eventsOut_eq_nil_iff hinfo).mp hnil)
  have hlt : k < s.posts.length := (List.getElem?_eq_some_iff.mp hk).1
  refine Machine.Violates.of_step ?_ hstep trivial
  have hset : (s.posts.set k { post with pc := .processed out.eventsOut out.numWakeupEvents })[k]?
      = some { post with pc := .processed out.eventsOut out.numWakeupEvents } :=
    List.getElem?_set_self hlt
  exact FlagMissing.violates_of_processed ⟨h.writer, h.queue, h.mEventQueueFlag⟩ hset rfl hne

/-- **A call that is not silent** uses the missing flag in the end. -/
theorem FlagMissing.violates_of_post (h : FlagMissing s) {post : Post}
    (hinfo : SensorMap.info s.proxy.mSensors = m.info) (hpost : post ∈ s.posts)
    (hloud : ¬post.Silent m) : (machine c).Violates (BeforeSuccess mayPost) FlagPresent s := by
  obtain ⟨k, hk⟩ := List.getElem?_of_mem hpost
  cases hpc : post.pc with
  | tested events =>
    rw [Post.silent_iff_of_tested hpc] at hloud
    exact h.violates_of_tested hinfo hk hpc hloud
  | processed eventsOut n =>
    rw [Post.silent_iff_of_processed hpc] at hloud
    exact h.violates_of_processed hk hpc hloud

/-- **A batch that is not dropped as a whole** can be posted, and uses the missing flag. -/
theorem FlagMissing.violates_of_mayPost (h : FlagMissing s) {i : ℕ} {events : List Event}
    (hrun : s.proxy.mThreadsRun = true) (hinfo : SensorMap.info s.proxy.mSensors = m.info)
    (hi : i < s.proxy.mSubHalList.length) (hmay : mayPost i events)
    (hkept : ¬AllFiltered m i events) :
    (machine c).Violates (BeforeSuccess mayPost) FlagPresent s := by
  have hne : events.isEmpty = false := by
    cases events with
    | nil => exact absurd (fun _ he => nomatch he) hkept
    | cons e es => rfl
  have hstep : (machine c).step s (.testThreadsRunning i events none) = some
      { s with
        posts := s.posts ++ [⟨i, .tested events, none, s.history.session⟩] } := by
    rw [machine_step, step, testThreadsRunning, if_pos hi, takeWakelock, Option.map_some, hne, hrun]
    rfl
  refine Machine.Violates.of_step ?_ hstep hmay
  have hlast : (s.posts ++ [⟨i, .tested events, none, s.history.session⟩])[s.posts.length]?
      = some ⟨i, .tested events, none, s.history.session⟩ := List.getElem?_concat_length
  exact FlagMissing.violates_of_tested ⟨h.writer, h.queue, h.mEventQueueFlag⟩ hinfo hlast rfl hkept

/-! ### When the proxy stays inert -/

/-- **When a missing flag stays unused.**  In every state of every run in which none is under way,
let an initialization begin in which `createEventFlag` fails for the event queue, and let the
sub-HALs post batches of some kind: until an initialization succeeds, no step uses the missing flag,
if and only if the filter drops all that is being posted and all that may be posted. -/
theorem inert_iff {subHalList : List SubHalWrapper} {as : List Action}
    (hv : (machine c).Visits (start subHalList) as s)
    (hbegin : step c s (.initializeCommon args) = some t) (hflag : args.eventFlagCreated = false)
    (mayPost : ℕ → List Event → Prop) :
    (∀ bs, (machine c).Meets (BeforeSuccess mayPost) t bs → (machine c).Meets FlagPresent t bs)
      ↔ (∀ post ∈ s.posts, post.Silent s.proxy.mSensors)
        ∧ ∀ i events, i < s.proxy.mSubHalList.length → mayPost i events →
          AllFiltered s.proxy.mSensors i events := by
  have hcoh : Coherent s := coherent_of_visits hv
  have hinfo : SensorMap.info t.proxy.mSensors = SensorMap.info s.proxy.mSensors := info_step hbegin
  constructor
  · rw [← Machine.not_violates_iff]
    intro hsafe
    obtain ⟨cs, u, hquiet, hrun, hrestarted⟩ := exists_restarted hcoh hbegin
    have hmissing : FlagMissing u := by
      refine ⟨?_, hrestarted.queue, hrestarted.mEventQueueFlag.trans hflag⟩
      rw [hrestarted.writer]
      decide
    have hsame : SensorMap.info u.proxy.mSensors = SensorMap.info s.proxy.mSensors
        ∧ u.proxy.mSubHalList.length = s.proxy.mSubHalList.length :=
      Machine.invariant_of_step
        (I := fun v : System => SensorMap.info v.proxy.mSensors = SensorMap.info s.proxy.mSensors
          ∧ v.proxy.mSubHalList.length = s.proxy.mSubHalList.length)
        (fun _ _ _ hs hstep => ⟨(info_step hstep).trans hs.1, (length_step hstep).trans hs.2⟩)
        ⟨hinfo, length_step hbegin⟩ (Machine.visits_of_run _ hrun)
    obtain ⟨hinfo', hlength⟩ := hsame
    have hunsafe : ¬(machine c).Violates (BeforeSuccess mayPost) FlagPresent u := fun hviolates =>
      hsafe (hviolates.of_run hrun fun a ha v => beforeSuccess_of_quiet (hquiet a ha) v)
    constructor
    · intro post hpost
      by_contra hloud
      exact hunsafe (hmissing.violates_of_post hinfo' (hrestarted.posts ▸ hpost) hloud)
    · intro i events hi hmay
      by_contra hkept
      exact hunsafe (hmissing.violates_of_mayPost hrestarted.mThreadsRun hinfo' (hlength ▸ hi) hmay
        hkept)
  · rintro ⟨hposts, hallowed⟩ bs hbs
    have hinert : Inert s.proxy.mSensors mayPost t := by
      cases step_cases hbegin with
      | initializeCommon args hidle =>
        exact ⟨rfl, hcoh.step hbegin, hposts, hallowed,
          fun hpast => absurd (hpast _ _ rfl) (Nat.not_lt_zero _)⟩
    refine Machine.Meets.of_invariant (fun _ _ _ h ha hstep => h.step ha hstep) ?_ hinert hbs
    intro v a w h _ hstep huses
    exact nomatch (h.not_uses hstep).symm.trans huses

/-- An initialization in which `createEventFlag` fails for the event queue. -/
def argsWithoutFlag : HalProxy.InitializeArgs := ⟨0, 2, false, true⟩

theorem inert_iff_notPickedUp :
    ∃ t, step sampleConstants (start [pickUpSubHal]) (.initializeCommon argsWithoutFlag) = some t
      ∧ ∀ bs, (machine sampleConstants).Meets
          (BeforeSuccess fun _ events => events = [notPickedUp]) t bs →
        (machine sampleConstants).Meets FlagPresent t bs := by
  refine ⟨_, rfl, ?_⟩
  rw [inert_iff (.here (start [pickUpSubHal]) []) rfl rfl]
  refine ⟨(fun _ hpost => nomatch hpost), ?_⟩
  rintro i events hi rfl
  obtain rfl : i = 0 := Nat.lt_one_iff.mp hi
  unfold AllFiltered
  decide

/-- After it, a sub-HAL posts an event that is not filtered. -/
def postWithoutFlag : List Action :=
  initialization argsWithoutFlag ++
    [.testThreadsRunning 0 [quietEvent] none, .processEvents 0,
      .postEventsToMessageQueue 0 1 true 0]

/-- The missing flag is woken. -/
theorem exists_missing_flag_used :
    ¬(machine sampleConstants).Meets FlagPresent (start [pickUpSubHal]) postWithoutFlag := by
  decide

end System

end OnePlus9
