import OnePlus9.Sensors.Equiv.WakelockCount

/-!
# The wakelock is not released early

A batch is queued with the number of its wake-up events.  The number is kept when only a rest of
the batch is queued, and when the head of a long batch is taken off.  So it can exceed the wake-up
events left, and it is what is given back when the blocking write of the last chunk fails
(`givesBackTooMuch`): claims of other events are lost.

* `owed_le_count`: as long as this does not happen, the count covers every wake-up event
  delivered and not acknowledged, and every one still to be written.
* `exists_released_early`: it does happen.
-/

namespace OnePlus9.System

variable {c : Constants} {s t : System} {a : Action} {as : List Action}

/-- The blocking write of a whole front batch fails, and the number stored with it exceeds the
wake-up events in it. -/
def givesBackTooMuch (s : System) : Action → Bool
  | .handlePendingWrites false =>
    match s.writer with
    | .writing stored q _ =>
      decide (s.front.length ≤ q) && decide (s.wakeUps s.front < stored)
    | _ => false
  | _ => false

/-- Otherwise no more is given back for a dropped chunk than it has wake-up events. -/
theorem droppedClaims_le (h : Coherent s) (hc : givesBackTooMuch s a = false) :
    s.droppedClaims a ≤ s.droppedWakeUps a := by
  unfold droppedClaims droppedWakeUps
  split
  case h_2 => exact Nat.le_refl _
  cases hpc : s.writer with
  | writing stored q n =>
    dsimp only
    rw [givenBack_eq, chunk_eq_take_front h hpc]
    by_cases hlong : s.front.length > q
    · -- A chunk off a longer batch is recounted.
      rw [if_pos hlong]
      split_ifs
      · exact Nat.le_refl _
      · exact Nat.zero_le _
    · -- The last chunk: the stored number is given back.
      have hle : stored ≤ s.wakeUps s.front := by
        have hle : s.front.length ≤ q := Nat.not_lt.mp hlong
        simpa [givesBackTooMuch, hpc, hle] using hc
      rw [if_neg hlong, List.take_of_length_le (Nat.not_lt.mp hlong)]
      split_ifs
      · exact hle
      · exact Nat.zero_le _
  | _ => exact Nat.le_refl _

/-- The count covers what is owed. -/
theorem covers_step (h : Orderly s) (hcovers : s.owed + s.debt ≤ s.proxy.wakelock.mWakelockRefCount)
    (hd : Disciplined c s a) (hc : givesBackTooMuch s a = false) (hstep : step c s a = some t) :
    t.owed + t.debt ≤ t.proxy.wakelock.mWakelockRefCount := by
  obtain ⟨added, given, hcount, howed⟩ := h.ledger_step hd hstep
  have hdropped := droppedClaims_le h.coherent hc
  omega

/-- **The wakelock is not released early.**  In every state of every session without timeouts in
which no last chunk is dropped with too large a number stored, the count is at least the number of
wake-up events that were delivered and not acknowledged or are still to be written. -/
theorem owed_le_count (hs : FreshSession s) (hd : (machine c).Meets (Disciplined c) s as)
    (hc : (machine c).Meets (fun s a => givesBackTooMuch s a = false) s as)
    (hv : (machine c).Visits s as t) :
    t.unacked + t.wakeUps t.transit ≤ t.proxy.wakelock.mWakelockRefCount := by
  -- The live wakelocks and the claims about to be given back only add to what is covered.
  have hinv := Machine.invariant
    (I := fun s => Orderly s ∧ s.owed + s.debt ≤ s.proxy.wakelock.mWakelockRefCount)
    (fun s a t hs hc hstep => ⟨hs.1.step hc.1 hstep, covers_step hs.1 hs.2 hc.1 hc.2 hstep⟩)
    ⟨hs.orderly, by rw [hs.owed]; exact Nat.zero_le _⟩ (hd.and hc) hv
  have hcovers := hinv.2
  unfold owed at hcovers
  omega

/-- Three wake-up events are queued.  The blocking write of the first two fails, that of the last
succeeds. -/
def dropHeadOfBatch : List Action :=
  [.createScopedWakelock 1, .testThreadsRunning 0 [wakeUpEvent, wakeUpEvent, wakeUpEvent] (some 0),
    .processEvents 0, .postEventsToMessageQueue 0 0 true 0, .destroyScopedWakelock 0] ++
    List.replicate 5 (.handlePendingWrites false) ++ List.replicate 4 (.handlePendingWrites true)

theorem owed_le_count_dropHeadOfBatch :
    ∃ t, (machine sampleConstants).Visits sampleSession dropHeadOfBatch t
      ∧ (t.unacked, t.proxy.wakelock.mWakelockRefCount) = (1, 1)
      ∧ t.unacked + t.wakeUps t.transit ≤ t.proxy.wakelock.mWakelockRefCount := by
  obtain ⟨t, hvisits, ht⟩ := (machine sampleConstants).exists_visits sampleSession
    dropHeadOfBatch (fun t => (t.unacked, t.proxy.wakelock.mWakelockRefCount)) (1, 1) (by decide)
  exact ⟨t, hvisits, ht,
    owed_le_count freshSession_sampleSession (by decide) (by decide) hvisits⟩

/-- Two wake-up events are posted at once.  One is written directly; the blocking write of the
other fails. -/
def dropAfterPartialWrite : List Action :=
  [.createScopedWakelock 1, .testThreadsRunning 0 [wakeUpEvent, wakeUpEvent] (some 0),
    .processEvents 0, .postEventsToMessageQueue 0 1 true 0, .destroyScopedWakelock 0] ++
    List.replicate 5 (.handlePendingWrites false)

/-- In the end nothing is counted, and the event delivered is not acknowledged. -/
theorem exists_released_early :
    ¬∀ t, FreshSession sampleSession →
      (machine sampleConstants).Meets (Disciplined sampleConstants) sampleSession
        dropAfterPartialWrite →
      (machine sampleConstants).Visits sampleSession dropAfterPartialWrite t →
      t.unacked + t.wakeUps t.transit ≤ t.proxy.wakelock.mWakelockRefCount := by
  intro hall
  obtain ⟨t, hvisits, ht⟩ := (machine sampleConstants).exists_visits sampleSession
    dropAfterPartialWrite
    (fun t => (t.unacked, t.proxy.wakelock.mWakelockRefCount)) (1, 0) (by decide)
  have hle := hall t freshSession_sampleSession (by decide) hvisits
  rw [(Prod.mk.inj ht).1, (Prod.mk.inj ht).2] at hle
  omega

end OnePlus9.System
