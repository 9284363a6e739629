import Mathlib.Data.Int.Notation
import Mathlib.Data.List.Basic
import Mathlib.Tactic.Common

/-!
# Spaced points in time

`Spaced gap times` says that each of the `times` comes at least `gap` after all before it.  Points
are added at the end (`spaced_append_singleton`), and a window of length `w` holds fewer than
`w / gap + 1` of them (`Spaced.countP_mul_lt`).
-/

namespace Spacing

/-- Each point comes at least `gap` after all before it. -/
def Spaced (gap : ℤ) (times : List ℤ) : Prop := times.Pairwise fun x y => x + gap ≤ y

variable {gap : ℤ} {times : List ℤ}

theorem spaced_append_singleton {now : ℤ} :
    Spaced gap (times ++ [now]) ↔ Spaced gap times ∧ ∀ x ∈ times, x + gap ≤ now := by
  simp [Spaced, List.pairwise_append]

/-- From the first point to a bound on all, each further point takes up a gap. -/
theorem Spaced.length_mul_le {x bound : ℤ} (h : Spaced gap (x :: times))
    (hbound : ∀ y ∈ x :: times, y ≤ bound) : times.length * gap ≤ bound - x := by
  induction times generalizing x with
  | nil =>
    have hx : x ≤ bound := hbound x List.mem_cons_self
    rw [List.length_nil, Int.natCast_zero, Int.zero_mul]
    omega
  | cons y times ih =>
    obtain ⟨hfirst, hrest⟩ := List.pairwise_cons.mp h
    have hgap : x + gap ≤ y := hfirst y List.mem_cons_self
    have hlater := ih hrest fun z hz => hbound z (List.mem_cons_of_mem _ hz)
    rw [List.length_cons, Int.natCast_add, Int.add_mul, Int.natCast_one, Int.one_mul]
    omega

/-- **The rate.**  A window holds fewer points than gaps fit into it, and one. -/
theorem Spaced.countP_mul_lt (h : Spaced gap times) (hgap : 0 < gap) (lo : ℤ) {w : ℤ}
    (hw : 0 ≤ w) : times.countP (fun x => decide (lo ≤ x ∧ x < lo + w)) * gap < w + gap := by
  have hfilter := List.Pairwise.filter (fun x => decide (lo ≤ x ∧ x < lo + w)) h
  have hinside : ∀ y ∈ times.filter (fun x => decide (lo ≤ x ∧ x < lo + w)),
      lo ≤ y ∧ y < lo + w := fun y hy => by simpa using (List.mem_filter.mp hy).2
  rw [List.countP_eq_length_filter]
  cases hwindow : times.filter (fun x => decide (lo ≤ x ∧ x < lo + w)) with
  | nil =>
    rw [List.length_nil, Int.natCast_zero, Int.zero_mul]
    omega
  | cons x rest =>
    rw [hwindow] at hfilter hinside
    have hbound : ∀ y ∈ x :: rest, y ≤ lo + w - 1 := by
      intro y hy
      have hlast := (hinside y hy).2
      omega
    have hlength := Spaced.length_mul_le hfilter hbound
    have hx : lo ≤ x := (hinside x List.mem_cons_self).1
    rw [List.length_cons, Int.natCast_add, Int.add_mul, Int.natCast_one, Int.one_mul]
    omega

end Spacing
