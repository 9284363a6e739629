import Mathlib.Data.List.Basic
import Mathlib.Data.List.Perm.Basic
import Mathlib.Logic.Relation

/-!
# Lossy first-in first-out channels

A `LossyChannel α` carries items from a sender to a receiver.  Its state is the history of both
ends (`sent`, `received`), the items in `transit`, and the items that were given up (`lost`).  An
item is accepted into the channel or refused at its entry, and leaves from the front: delivered,
or lost.

* `Sound c`: what was received, followed by what is in transit, is a sublist of what was sent (so
  it is in order and no item appears twice), and every item sent is received, in transit or lost.
* `Sound.steps`: every sequence of moves keeps a channel sound.

An implementation is shown correct by mapping its states to channels and each of its steps to a
sequence of moves.
-/

/-- The state of a lossy channel, with its history. -/
structure LossyChannel (α : Type*) where
  /-- Everything handed to the channel, oldest first. -/
  sent : List α
  /-- Everything delivered, oldest first. -/
  received : List α
  /-- Accepted and neither delivered nor lost yet, oldest first. -/
  transit : List α
  /-- Refused at the entry, or given up later. -/
  lost : List α

namespace LossyChannel

variable {α : Type*}

/-- One move of the channel. -/
inductive Step : LossyChannel α → LossyChannel α → Prop
  /-- Items are accepted. -/
  | accept (c : LossyChannel α) (xs : List α) :
      Step c { c with sent := c.sent ++ xs, transit := c.transit ++ xs }
  /-- Items are refused at the entry. -/
  | refuse (c : LossyChannel α) (xs : List α) :
      Step c { c with sent := c.sent ++ xs, lost := c.lost ++ xs }
  /-- The oldest `n` items in transit are delivered. -/
  | deliver (c : LossyChannel α) (n : ℕ) :
      Step c { c with received := c.received ++ c.transit.take n, transit := c.transit.drop n }
  /-- The oldest `n` items in transit are lost. -/
  | lose (c : LossyChannel α) (n : ℕ) :
      Step c { c with transit := c.transit.drop n, lost := c.lost ++ c.transit.take n }

/-- Any number of moves. -/
abbrev Steps : LossyChannel α → LossyChannel α → Prop := Relation.ReflTransGen Step

/-- A batch of which the first `n` items are delivered at once, which takes an empty channel, and
the rest is kept or refused. -/
theorem steps_batch (c : LossyChannel α) (xs : List α) (n : ℕ) (keep : Bool)
    (hn : n = 0 ∨ c.transit = []) :
    Steps c
      { sent := c.sent ++ xs
        received := c.received ++ xs.take n
        transit := c.transit ++ if keep then xs.drop n else []
        lost := c.lost ++ if keep then [] else xs.drop n } := by
  -- Accept the head and deliver it: after that, only the histories have changed.
  have hhead : Steps c
      { c with sent := c.sent ++ xs.take n, received := c.received ++ xs.take n } := by
    rcases hn with rfl | hempty
    · simpa using Relation.ReflTransGen.refl
    · have hdeliver := Relation.ReflTransGen.tail (.single (Step.accept c (xs.take n)))
        (Step.deliver _ n)
      simpa [hempty, List.take_take] using hdeliver
  have hsent : c.sent ++ xs = c.sent ++ xs.take n ++ xs.drop n := by
    rw [List.append_assoc, List.take_append_drop]
  rw [hsent]
  cases keep with
  | false =>
    have hrest := hhead.tail (Step.refuse _ (xs.drop n))
    simpa using hrest
  | true =>
    have hrest := hhead.tail (Step.accept _ (xs.drop n))
    simpa using hrest

/-- Order and conservation. -/
structure Sound (c : LossyChannel α) : Prop where
  /-- Delivery is in order and without duplicates, and what is still in transit comes after. -/
  inOrder : (c.received ++ c.transit).Sublist c.sent
  /-- Every item sent is accounted for, exactly once. -/
  accounted : (c.received ++ c.transit ++ c.lost).Perm c.sent

/-- A channel whose history is just what it carries is sound. -/
theorem sound_of_eq {c : LossyChannel α} (hsent : c.sent = c.received ++ c.transit)
    (hlost : c.lost = []) : Sound c where
  inOrder := hsent ▸ List.Sublist.refl _
  accounted := by rw [hlost, List.append_nil, hsent]

theorem Sound.step {c d : LossyChannel α} (h : Sound c) (hs : Step c d) : Sound d := by
  cases hs with
  | accept xs =>
    constructor
    · simpa only [← List.append_assoc] using h.inOrder.append_right xs
    · have hswap : (c.received ++ (c.transit ++ xs) ++ c.lost).Perm
          (c.received ++ c.transit ++ c.lost ++ xs) := by
        simp only [List.append_assoc]
        exact ((List.perm_append_comm).append_left _).append_left _
      exact hswap.trans (h.accounted.append_right xs)
  | refuse xs =>
    constructor
    · exact h.inOrder.trans (List.sublist_append_left _ _)
    · simpa only [← List.append_assoc] using h.accounted.append_right xs
  | deliver n =>
    have hsplit : c.received ++ c.transit.take n ++ c.transit.drop n = c.received ++ c.transit := by
      rw [List.append_assoc, List.take_append_drop]
    constructor
    · exact hsplit ▸ h.inOrder
    · exact hsplit ▸ h.accounted
  | lose n =>
    constructor
    · exact ((List.drop_sublist n c.transit).append_left _).trans h.inOrder
    · have hswap : (c.received ++ c.transit.drop n ++ (c.lost ++ c.transit.take n)).Perm
          (c.received ++ (c.transit.take n ++ c.transit.drop n) ++ c.lost) := by
        simp only [List.append_assoc]
        refine List.Perm.append_left _ ?_
        rw [← List.append_assoc, ← List.append_assoc]
        exact List.perm_append_comm.trans (List.append_assoc _ _ _ ▸ List.Perm.refl _)
      rw [List.take_append_drop] at hswap
      exact hswap.trans h.accounted

/-- **Soundness of lossy channels.** -/
theorem Sound.steps {c d : LossyChannel α} (h : Sound c) (hs : Steps c d) : Sound d := by
  induction hs with
  | refl => exact h
  | tail _ hstep ih => exact ih.step hstep

/-- If no two items sent are equal, no item is received twice, or received and in transit. -/
theorem Sound.nodup {c : LossyChannel α} (h : Sound c) (hnd : c.sent.Nodup) :
    (c.received ++ c.transit).Nodup :=
  h.inOrder.nodup hnd

end LossyChannel
