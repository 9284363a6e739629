import OnePlus9.Library.Machine
import Mathlib.Data.List.Perm.Basic

/-!
# A mirror kept by notices

A set of keys, the source, is updated in critical sections, and another party keeps a mirror of it
from the notices it is sent.  A notice is sent after its critical section, so that several can be
pending and arrive in any order (`deliveries`).

The mirror equals the source once every notice has arrived, whatever the order, if no pending
notice says anything else about a key than the source does (`InStep`): `InStep.deliver` and
`InStep.nil`.  An update keeps this as long as it disagrees with no pending notice
(`InStep.update`).  Conversely, a pending notice that disagrees with the source can arrive last
(`exists_mirror_of_mem`).
-/

/-- These keys are in the set from now on, or are not. -/
structure Notice (κ : Type*) where
  keys : List κ
  present : Bool
  deriving DecidableEq, Repr

namespace Notice

variable {κ : Type*} [DecidableEq κ]

/-- The set after the notice. -/
def apply (n : Notice κ) (set : κ → Bool) : κ → Bool :=
  fun k => if k ∈ n.keys then n.present else set k

/-- The two notices disagree about no key. -/
def Agrees (n m : Notice κ) : Prop := ∀ k ∈ n.keys, k ∈ m.keys → n.present = m.present

instance (n m : Notice κ) : Decidable (n.Agrees m) := inferInstanceAs (Decidable (∀ _ ∈ _, _))

variable {n m : Notice κ} {set : κ → Bool} {k : κ}

theorem apply_of_mem (h : k ∈ n.keys) : n.apply set k = n.present := if_pos h

theorem apply_of_not_mem (h : k ∉ n.keys) : n.apply set k = set k := if_neg h

end Notice

namespace Mirror

variable {κ : Type*}

/-- The pending notices say what the source does, and where there is none the mirror does. -/
structure InStep (source mirror : κ → Bool) (pending : List (Notice κ)) : Prop where
  agrees : ∀ n ∈ pending, ∀ k ∈ n.keys, n.present = source k
  settled : ∀ k, (∀ n ∈ pending, k ∉ n.keys) → mirror k = source k

variable {source mirror : κ → Bool} {pending : List (Notice κ)} {n : Notice κ}

/-- With nothing pending, the mirror equals the source. -/
theorem InStep.nil (h : InStep source mirror []) : mirror = source :=
  funext fun k => h.settled k fun _ hn => nomatch hn

theorem inStep_self (h : ∀ n ∈ pending, ∀ k ∈ n.keys, n.present = source k) :
    InStep source source pending := ⟨h, fun _ _ => rfl⟩

variable [DecidableEq κ]

/-- A mirror and the notices that have yet to arrive, which do so in any order. -/
def deliveries : Machine ((κ → Bool) × List (Notice κ)) ℕ :=
  ⟨fun s i => s.2[i]?.map fun n => (n.apply s.1, s.2.eraseIdx i)⟩

/-- **A notice arrives.** -/
theorem InStep.deliver (h : InStep source mirror pending) {i : ℕ} (hi : pending[i]? = some n) :
    InStep source (n.apply mirror) (pending.eraseIdx i) := by
  have hn : n ∈ pending := List.mem_of_getElem? hi
  constructor
  · intro m hm
    exact h.agrees m (List.mem_of_mem_eraseIdx hm)
  · intro k hk
    by_cases hmem : k ∈ n.keys
    · rw [Notice.apply_of_mem hmem]
      exact h.agrees n hn k hmem
    · rw [Notice.apply_of_not_mem hmem]
      obtain ⟨hlt, hget⟩ := List.getElem?_eq_some_iff.mp hi
      have hperm : (n :: pending.eraseIdx i).Perm pending :=
        hget ▸ List.getElem_cons_eraseIdx_perm hlt
      apply h.settled k
      intro m hm
      rcases List.mem_cons.mp (hperm.mem_iff.mpr hm) with rfl | hother
      · exact hmem
      · exact hk m hother

/-- **The source is updated**, and a notice of it becomes pending. -/
theorem InStep.update (h : InStep source mirror pending) (hagrees : ∀ m ∈ pending, n.Agrees m) :
    InStep (n.apply source) mirror (pending ++ [n]) := by
  constructor
  · intro m hm k hk
    rcases List.mem_append.mp hm with hold | hnew
    · by_cases hmem : k ∈ n.keys
      · rw [Notice.apply_of_mem hmem]
        exact (hagrees m hold k hmem hk).symm
      · rw [Notice.apply_of_not_mem hmem]
        exact h.agrees m hold k hk
    · rw [List.mem_singleton.mp hnew] at hk ⊢
      exact (Notice.apply_of_mem hk).symm
  · intro k hk
    have hmem : k ∉ n.keys := hk n (List.mem_append_right _ (List.mem_singleton_self n))
    rw [Notice.apply_of_not_mem hmem]
    exact h.settled k fun m hm => hk m (List.mem_append_left _ hm)

/-! ### The last notice to arrive -/

/-- All notices behind one of them can arrive before it. -/
theorem reaches_singleton_of_cons (rest : List (Notice κ)) (mirror : κ → Bool) :
    ∃ mirror', deliveries.Reaches (mirror, n :: rest) (mirror', [n]) := by
  induction rest generalizing mirror with
  | nil => exact ⟨mirror, .refl _⟩
  | cons m rest ih =>
    obtain ⟨mirror', hrest⟩ := ih (m.apply mirror)
    have hfirst : deliveries.step (mirror, n :: m :: rest) 1 = some (m.apply mirror, n :: rest) :=
      rfl
    exact ⟨mirror', (Machine.Reaches.of_step hfirst).trans hrest⟩

/-- So can all others. -/
theorem reaches_singleton (hn : n ∈ pending) (mirror : κ → Bool) :
    ∃ mirror', deliveries.Reaches (mirror, pending) (mirror', [n]) := by
  obtain ⟨before, after, rfl⟩ := List.append_of_mem hn
  clear hn
  induction before generalizing mirror with
  | nil => exact reaches_singleton_of_cons after mirror
  | cons m before ih =>
    obtain ⟨mirror', hrest⟩ := ih (m.apply mirror)
    have hfirst : deliveries.step (mirror, m :: before ++ n :: after) 0
        = some (m.apply mirror, before ++ n :: after) := rfl
    exact ⟨mirror', (Machine.Reaches.of_step hfirst).trans hrest⟩

/-- **Any pending notice can arrive last**, and then the mirror is as it says. -/
theorem exists_mirror_of_mem (hn : n ∈ pending) (mirror : κ → Bool) :
    ∃ mirror', deliveries.Reaches (mirror, pending) (mirror', [])
      ∧ ∀ k ∈ n.keys, mirror' k = n.present := by
  obtain ⟨mirror', hothers⟩ := reaches_singleton hn mirror
  have hlast : deliveries.step (mirror', [n]) 0 = some (n.apply mirror', []) := rfl
  refine ⟨n.apply mirror', hothers.trans (Machine.Reaches.of_step hlast), fun k hk => ?_⟩
  exact Notice.apply_of_mem hk

/-- All notices can arrive. -/
theorem exists_mirror (pending : List (Notice κ)) (mirror : κ → Bool) :
    ∃ mirror', deliveries.Reaches (mirror, pending) (mirror', []) := by
  cases pending with
  | nil => exact ⟨mirror, .refl _⟩
  | cons n rest =>
    obtain ⟨mirror', hreaches, -⟩ := exists_mirror_of_mem (List.mem_cons_self ..) mirror
    exact ⟨mirror', hreaches⟩

end Mirror
