import Mathlib.Data.Int.ModEq
import Mathlib.Order.Lattice

/-!
# Clamping a number that was narrowed

A number is clamped to an interval (`clamp`) after it went through a machine type of `m` values,
that is, as its remainder of least absolute value, `Int.bmod`.  Where the interval is within the
range of the type, the outcome is the clamped number itself for all numbers in the range; for the
others it depends on which end the remainder happens to be clamped to (`clamp_bmod_eq_iff`).
-/

namespace Narrowing

/-! ### Clamping -/

section Clamp

variable {α : Type*} [LinearOrder α] {lo hi x y : α}

/-- The nearest number of the interval. -/
def clamp (lo hi x : α) : α := max lo (min x hi)

/-- Clamping as it is usually computed. -/
theorem clamp_eq_ite (hle : lo ≤ hi) :
    clamp lo hi x = if x < lo then lo else if hi < x then hi else x := by
  unfold clamp
  split_ifs with hlo hhi
  · rw [min_eq_left (hlo.le.trans hle), max_eq_left hlo.le]
  · rw [min_eq_right hhi.le, max_eq_right hle]
  · rw [min_eq_left (not_lt.mp hhi), max_eq_right (not_lt.mp hlo)]

theorem clamp_mono (h : x ≤ y) : clamp lo hi x ≤ clamp lo hi y :=
  max_le_max le_rfl (min_le_min h le_rfl)

/-- What is clamped to the lower end. -/
theorem clamp_eq_left_iff (hle : lo ≤ hi) : clamp lo hi x = lo ↔ lo = hi ∨ x ≤ lo := by
  rw [clamp, max_eq_left_iff, min_le_iff]
  constructor
  · rintro (hx | hhi)
    · exact Or.inr hx
    · exact Or.inl (le_antisymm hle hhi)
  · rintro (heq | hx)
    · exact Or.inr heq.ge
    · exact Or.inl hx

/-- What is clamped to the upper end. -/
theorem clamp_eq_right_iff (hle : lo ≤ hi) : clamp lo hi x = hi ↔ lo = hi ∨ hi ≤ x := by
  constructor
  · intro heq
    rcases le_total hi x with hx | hx
    · exact Or.inr hx
    · rw [clamp, min_eq_left hx] at heq
      rcases max_choice lo x with hmax | hmax
      · exact Or.inl (hmax.symm.trans heq)
      · exact Or.inr (hmax.symm.trans heq).ge
  · rintro (heq | hx)
    · rw [clamp, heq]
      exact max_eq_left (min_le_right _ _)
    · rw [clamp, min_eq_right hx, max_eq_right hle]

end Clamp

/-! ### Narrowing -/

variable {lo hi x : ℤ} {m : ℕ}

/-- The numbers that a signed machine type of `m` values holds. -/
def Fits (m : ℕ) (x : ℤ) : Prop := -(m / 2 : ℤ) ≤ x ∧ x < (m + 1) / 2

instance (m : ℕ) (x : ℤ) : Decidable (Fits m x) := inferInstanceAs (Decidable (_ ∧ _))

theorem bmod_of_fits (h : Fits m x) : x.bmod m = x :=
  Int.bmod_eq_of_le h.1 h.2

/-- **Clamping after narrowing** is clamping if and only if the number fits the type, the interval
is a single number, or the remainder is clamped to the end that the number is beyond. -/
theorem clamp_bmod_eq_iff (hlo : Fits m lo) (hhi : Fits m hi) (hle : lo ≤ hi) :
    clamp lo hi (x.bmod m) = clamp lo hi x
      ↔ Fits m x ∨ lo = hi ∨ (hi < x ∧ hi ≤ x.bmod m) ∨ (x < lo ∧ x.bmod m ≤ lo) := by
  by_cases hfits : Fits m x
  · rw [bmod_of_fits hfits]
    exact iff_of_true rfl (Or.inl hfits)
  · -- A number that does not fit is beyond one end.
    have hbeyond : hi < x ∨ x < lo := by
      unfold Fits at hlo hhi hfits
      omega
    rcases hbeyond with hx | hx
    · have hexact : clamp lo hi x = hi := (clamp_eq_right_iff hle).mpr (Or.inr hx.le)
      rw [hexact, clamp_eq_right_iff hle]
      constructor
      · rintro (heq | hrem)
        · exact Or.inr (Or.inl heq)
        · exact Or.inr (Or.inr (Or.inl ⟨hx, hrem⟩))
      · rintro (hfit | heq | ⟨-, hrem⟩ | ⟨hlt, -⟩)
        · exact absurd hfit hfits
        · exact Or.inl heq
        · exact Or.inr hrem
        · omega
    · have hexact : clamp lo hi x = lo := (clamp_eq_left_iff hle).mpr (Or.inr hx.le)
      rw [hexact, clamp_eq_left_iff hle]
      constructor
      · rintro (heq | hrem)
        · exact Or.inr (Or.inl heq)
        · exact Or.inr (Or.inr (Or.inr ⟨hx, hrem⟩))
      · rintro (hfit | heq | ⟨hlt, -⟩ | ⟨-, hrem⟩)
        · exact absurd hfit hfits
        · exact Or.inl heq
        · omega
        · exact Or.inr hrem

end Narrowing
