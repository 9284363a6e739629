import OnePlus9.Library.Machine

/-!
# Waiting on a condition variable

`cv.wait(lock, predicate)` tests the predicate with the mutex; where it is false, the thread
releases the mutex and blocks, and tests again once it was notified and has the mutex back.  The
test and the blocking are two steps, and a notification between them is lost: it wakes only a thread
that has blocked.

`Awake pc` says that the thread is at neither of the two places from which it could wait for a
notification that was lost.  Once the predicate holds for good, an awake thread stays awake until it
returns (`Awake.step`, `Awake.exists_step`), and a notification makes a thread awake unless it falls
into the gap (`awake_notify_iff`).  A notifier with the mutex does not find the thread there.  So in
a machine that takes the steps of a wait, the thread gets through (`Awake.reaches_passed`).
-/

namespace ConditionVariable

/-- Where a thread is in `wait`. -/
inductive WaitPc where
  /-- About to evaluate the predicate. -/
  | test
  /-- The predicate was false; about to release the mutex and block. -/
  | willBlock
  /-- Blocked until a notification. -/
  | blocked
  /-- Notified; about to take the mutex again. -/
  | notified
  /-- The predicate was true; `wait` returns. -/
  | passed
  deriving DecidableEq, Repr

namespace WaitPc

/-- The next step of the thread, where `predicate` is what the predicate evaluates to. -/
def step (predicate : Bool) : WaitPc → Option WaitPc
  | test => some (if predicate then passed else willBlock)
  | willBlock => some blocked
  | blocked => none
  | notified => some test
  | passed => none

/-- A notification. -/
def notify : WaitPc → WaitPc
  | blocked => notified
  | pc => pc

/-- Whether the thread has the mutex. -/
def holdsMutex : WaitPc → Bool
  | test | willBlock | passed => true
  | blocked | notified => false

/-- How many steps of `wait` a thread has left once the predicate holds for good. -/
def remaining : WaitPc → ℕ
  | notified => 2
  | test => 1
  | willBlock | blocked | passed => 0

/-- The thread does not depend on a notification to come. -/
def Awake (pc : WaitPc) : Prop := pc ≠ willBlock ∧ pc ≠ blocked

instance (pc : WaitPc) : Decidable pc.Awake := inferInstanceAs (Decidable (_ ∧ _))

variable {pc pc' : WaitPc}

/-- **While the predicate holds**, an awake thread stays awake and comes closer to its return. -/
theorem Awake.step (h : pc.Awake) (hstep : pc.step true = some pc') :
    pc'.Awake ∧ pc'.remaining < pc.remaining := by
  cases pc with
  | test =>
    obtain rfl := Option.some.inj hstep
    decide
  | willBlock => exact absurd rfl h.1
  | notified =>
    obtain rfl := Option.some.inj hstep
    decide
  | blocked | passed => exact nomatch hstep

/-- It is never stuck before it returns. -/
theorem Awake.exists_step (h : pc.Awake) (hpc : pc ≠ passed) : ∃ pc', pc.step true = some pc' := by
  cases pc with
  | willBlock => exact absurd rfl h.1
  | blocked => exact absurd rfl h.2
  | passed => exact absurd rfl hpc
  | test | notified => exact ⟨_, rfl⟩

/-- A thread gets the mutex only on its way back from being notified. -/
theorem holdsMutex_of_step {predicate : Bool} (hstep : pc.step predicate = some pc')
    (_ : pc'.holdsMutex = true) : pc.holdsMutex = true ∨ pc = notified := by
  cases pc with
  | test | willBlock => exact Or.inl rfl
  | notified => exact Or.inr rfl
  | blocked | passed => exact nomatch hstep

/-- A thread goes to sleep only on a false predicate. -/
theorem awake_of_step {predicate : Bool} (hstep : pc.step predicate = some pc')
    (h : ¬pc'.Awake) : ¬pc.Awake ∨ predicate = false := by
  cases predicate with
  | false => exact Or.inr rfl
  | true => exact Or.inl fun hawake => h (hawake.step hstep).1

/-- **A notification is lost** exactly in the gap between the test and the blocking. -/
theorem awake_notify_iff : pc.notify.Awake ↔ pc ≠ willBlock := by
  cases pc <;> decide

/-- An awake thread is not put to sleep by a notification. -/
theorem Awake.notify (h : pc.Awake) : pc.notify.Awake := awake_notify_iff.mpr h.1

/-- **After a step of others**, a thread is awake if it was, or if it is notified by one who has the
mutex that it does not have. -/
theorem awake_of_notifies {notifies : Bool}
    (h : pc.Awake ∨ notifies = true ∧ pc.holdsMutex = false) :
    (if notifies then pc.notify else pc).Awake := by
  rcases h with hawake | ⟨rfl, hmutex⟩
  · split_ifs
    · exact hawake.notify
    · exact hawake
  · rw [if_pos rfl]
    refine awake_notify_iff.mpr fun hgap => ?_
    rw [hgap] at hmutex
    exact Bool.false_ne_true hmutex.symm

/-- **A machine that takes the steps of a wait** gets an awake thread through it. -/
theorem Awake.reaches_passed {σ α : Type*} {M : Machine σ α} {f : WaitPc → σ} {a : α}
    (h : pc.Awake)
    (hstep : ∀ pc pc', pc.step true = some pc' → M.step (f pc) a = some (f pc')) :
    M.Reaches (f pc) (f passed) := by
  have htest : M.Reaches (f test) (f passed) := .of_step (hstep test passed rfl)
  cases pc with
  | test => exact htest
  | notified => exact (Machine.Reaches.of_step (hstep notified test rfl)).trans htest
  | passed => exact .refl _
  | willBlock => exact absurd rfl h.1
  | blocked => exact absurd rfl h.2

end WaitPc

end ConditionVariable
