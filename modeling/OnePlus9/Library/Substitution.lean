import Mathlib.Tactic.Common

/-!
# Substitution in texts

A pattern says for each of its places what it admits there, so that all its matches have one length.
`substFirst` replaces the first match in a text, and `substAll` all matches from left to right,
going on after each of them.

* `substFirst_eq_self_iff`: a replacement that is no match itself changes exactly the texts with a
  match, so that a second `substFirst` changes nothing if and only if the first has left no match.
* `occurs_substAll`: a replacement that no match can begin in or run into leaves no match behind.
* `getElem?_substFirst`: a replacement of the pattern's length moves nothing, and outside of the
  matches nothing changes.
-/

namespace Substitution

variable {α : Type}

/-- What each place of a match admits. -/
abbrev Pattern (α : Type) := List (α → Bool)

/-- The text itself as a pattern. -/
def literal [BEq α] (text : List α) : Pattern α := text.map fun a b => b == a

/-- Whether a text begins with a match. -/
def begins : Pattern α → List α → Bool
  | [], _ => true
  | _ :: _, [] => false
  | p :: pattern, a :: text => p a && begins pattern text

/-- Whether a text has a match. -/
def occurs (pattern : Pattern α) : List α → Bool
  | [] => begins pattern []
  | a :: text => begins pattern (a :: text) || occurs pattern text

/-- Replace the first match. -/
def substFirst (pattern : Pattern α) (new : List α) : List α → List α
  | [] => []
  | a :: text =>
    if begins pattern (a :: text) then new ++ (a :: text).drop pattern.length
    else a :: substFirst pattern new text

/-- Replace all matches, after `skip` characters that belong to the last one. -/
def substAll (pattern : Pattern α) (new : List α) : ℕ → List α → List α
  | _, [] => []
  | skip + 1, _ :: text => substAll pattern new skip text
  | 0, a :: text =>
    if begins pattern (a :: text) then new ++ substAll pattern new (pattern.length - 1) text
    else a :: substAll pattern new 0 text

variable {pattern : Pattern α} {new text : List α}

/-! ### Matches -/

theorem length_le_of_begins (h : begins pattern text = true) : pattern.length ≤ text.length := by
  induction pattern generalizing text with
  | nil => exact Nat.zero_le _
  | cons p pattern ih =>
    rcases text with _ | ⟨a, text⟩
    · exact absurd h Bool.false_ne_true
    · rw [begins, Bool.and_eq_true] at h
      have hle := ih h.2
      rw [List.length_cons, List.length_cons]
      omega

/-- A match is all that the pattern looks at. -/
theorem begins_take (pattern : Pattern α) (text : List α) :
    begins pattern (text.take pattern.length) = begins pattern text := by
  induction pattern generalizing text with
  | nil => rw [begins, begins]
  | cons p pattern ih =>
    rcases text with _ | ⟨a, text⟩
    · rw [List.take_nil]
    · rw [List.length_cons, List.take_succ_cons, begins, begins, ih]

/-- A match stays one if the text goes on. -/
theorem begins_append (h : begins pattern text = true) (rest : List α) :
    begins pattern (text ++ rest) = true := by
  rw [← begins_take, List.take_append_of_le_length (length_le_of_begins h), begins_take]
  exact h

/-- Where the pattern occurs. -/
theorem occurs_iff (pattern : Pattern α) (text : List α) :
    occurs pattern text = true ↔ ∃ i ≤ text.length, begins pattern (text.drop i) = true := by
  induction text with
  | nil =>
    rw [occurs]
    constructor
    · exact fun h => ⟨0, Nat.le_refl _, h⟩
    · rintro ⟨i, -, h⟩
      rw [List.drop_nil] at h
      exact h
  | cons a text ih =>
    rw [occurs, Bool.or_eq_true, ih]
    constructor
    · rintro (h | ⟨i, hi, h⟩)
      · exact ⟨0, Nat.zero_le _, h⟩
      · exact ⟨i + 1, Nat.succ_le_succ hi, h⟩
    · rintro ⟨i, hi, h⟩
      rcases i with _ | i
      · exact Or.inl h
      · exact Or.inr ⟨i, Nat.le_of_succ_le_succ hi, h⟩

/-! ### The first match -/

theorem substFirst_of_not_occurs (h : occurs pattern text = false) :
    substFirst pattern new text = text := by
  induction text with
  | nil => rfl
  | cons a text ih =>
    rw [occurs, Bool.or_eq_false_iff] at h
    rw [substFirst, h.1, if_neg Bool.false_ne_true, ih h.2]

/-- **A replacement that is no match itself** changes exactly the texts with a match. -/
theorem substFirst_eq_self_iff (hpattern : pattern ≠ []) (hnew : begins pattern new = false) :
    substFirst pattern new text = text ↔ occurs pattern text = false := by
  refine ⟨fun h => ?_, substFirst_of_not_occurs⟩
  induction text with
  | nil =>
    rcases pattern with _ | ⟨p, pattern⟩
    · exact absurd rfl hpattern
    · rfl
  | cons a text ih =>
    rw [substFirst] at h
    by_cases hbegins : begins pattern (a :: text) = true
    · -- The replacement would have to be what it replaces.
      rw [if_pos hbegins] at h
      have hsplit := List.take_append_drop pattern.length (a :: text)
      have hsame : new = (a :: text).take pattern.length :=
        List.append_cancel_right (h.trans hsplit.symm)
      rw [hsame, begins_take, hbegins] at hnew
      exact absurd hnew.symm Bool.false_ne_true
    · rw [if_neg hbegins] at h
      have hrest := ih (List.cons.inj h).2
      rw [occurs, hrest, Bool.eq_false_iff.mpr hbegins]
      rfl

theorem mem_substFirst {a : α} (h : a ∈ substFirst pattern new text) : a ∈ new ∨ a ∈ text := by
  induction text with
  | nil => exact Or.inr h
  | cons b text ih =>
    rw [substFirst] at h
    split_ifs at h
    · rcases List.mem_append.mp h with hnew | hrest
      · exact Or.inl hnew
      · exact Or.inr (List.mem_of_mem_drop hrest)
    · rcases List.mem_cons.mp h with rfl | hrest
      · exact Or.inr List.mem_cons_self
      · exact (ih hrest).imp_right (List.mem_cons_of_mem _)

theorem substFirst_ne_nil (hnew : new ≠ []) (htext : text ≠ []) :
    substFirst pattern new text ≠ [] := by
  rcases text with _ | ⟨a, text⟩
  · exact htext
  · rw [substFirst]
    split_ifs
    · exact List.append_ne_nil_of_left_ne_nil hnew _
    · exact List.cons_ne_nil _ _

/-- **A replacement of the pattern's length** keeps the length of the text. -/
theorem length_substFirst (hlength : new.length = pattern.length) :
    (substFirst pattern new text).length = text.length := by
  induction text with
  | nil => rfl
  | cons a text ih =>
    rw [substFirst]
    split_ifs with hbegins
    · have hle := length_le_of_begins hbegins
      rw [List.length_append, List.length_drop]
      omega
    · rw [List.length_cons, ih, List.length_cons]

/-- **Outside of the matches** nothing changes. -/
theorem getElem?_substFirst (hlength : new.length = pattern.length) {i : ℕ}
    (hi : ∀ j ≤ i, i < j + pattern.length → begins pattern (text.drop j) = false) :
    (substFirst pattern new text)[i]? = text[i]? := by
  induction text generalizing i with
  | nil => rfl
  | cons a text ih =>
    rw [substFirst]
    split_ifs with hbegins
    · have hbehind : pattern.length ≤ i := by
        by_contra hlt
        have hfirst := hi 0 (Nat.zero_le _) (by omega)
        rw [List.drop_zero, hbegins] at hfirst
        exact absurd hfirst.symm Bool.false_ne_true
      rw [List.getElem?_append_right (by omega), List.getElem?_drop]
      congr 1
      omega
    · rcases i with _ | i
      · rfl
      · rw [List.getElem?_cons_succ, List.getElem?_cons_succ]
        apply ih
        intro j hj hlt
        have hlater := hi (j + 1) (by omega) (by omega)
        rw [List.drop_succ_cons] at hlater
        exact hlater

/-! ### All matches -/

theorem mem_substAll {a : α} {skip : ℕ} (h : a ∈ substAll pattern new skip text) :
    a ∈ new ∨ a ∈ text := by
  induction text generalizing skip with
  | nil =>
    rw [substAll] at h
    exact Or.inr h
  | cons b text ih =>
    rcases skip with _ | skip
    · rw [substAll] at h
      split_ifs at h
      · rcases List.mem_append.mp h with hnew | hrest
        · exact Or.inl hnew
        · exact (ih hrest).imp_right (List.mem_cons_of_mem _)
      · rcases List.mem_cons.mp h with rfl | hrest
        · exact Or.inr List.mem_cons_self
        · exact (ih hrest).imp_right (List.mem_cons_of_mem _)
    · rw [substAll] at h
      exact (ih h).imp_right (List.mem_cons_of_mem _)

theorem substAll_ne_nil (hnew : new ≠ []) (htext : text ≠ []) :
    substAll pattern new 0 text ≠ [] := by
  rcases text with _ | ⟨a, text⟩
  · exact absurd rfl htext
  · rw [substAll]
    split_ifs
    · exact List.append_ne_nil_of_left_ne_nil hnew _
    · exact List.cons_ne_nil _ _

/-- A match does not run into a replacement whose first character none of its places admits. -/
theorem begins_of_begins_substAll {x : α} {rest : List α} {places : Pattern α}
    (hfirst : ∀ p ∈ places, p x = false)
    (h : begins places (substAll pattern (x :: rest) 0 text) = true) :
    begins places text = true := by
  induction places generalizing text with
  | nil => rfl
  | cons p places ih =>
    rcases text with _ | ⟨a, text⟩
    · exact h
    · rw [substAll] at h
      by_cases hbegins : begins pattern (a :: text) = true
      · rw [if_pos hbegins, List.cons_append, begins, hfirst p List.mem_cons_self] at h
        exact absurd h Bool.false_ne_true
      · rw [if_neg hbegins, begins, Bool.and_eq_true] at h
        rw [begins, h.1, ih (fun p hp => hfirst p (List.mem_cons_of_mem _ hp)) h.2]
        rfl

/-- No match begins in a text that the first place admits nothing of. -/
theorem occurs_append {p : α → Bool} {front : List α} (hfront : ∀ a ∈ front, p a = false) :
    occurs (p :: pattern) (front ++ text) = occurs (p :: pattern) text := by
  induction front with
  | nil => rfl
  | cons a front ih =>
    rw [List.cons_append, occurs, begins, hfront a List.mem_cons_self, Bool.false_and,
      Bool.false_or, ih fun b hb => hfront b (List.mem_cons_of_mem _ hb)]

/-- **No match is left** if none can begin in a replacement or run into one. -/
theorem occurs_substAll {p : α → Bool} {x : α} {rest : List α}
    (hbegin : (x :: rest).any p = false) (hrun : (pattern.any fun q => q x) = false) (skip : ℕ)
    (text : List α) :
    occurs (p :: pattern) (substAll (p :: pattern) (x :: rest) skip text) = false := by
  have hfront : ∀ a ∈ x :: rest, p a = false := fun a ha =>
    Bool.eq_false_iff.mpr (List.any_eq_false.mp hbegin a ha)
  have hplaces : ∀ q ∈ pattern, q x = false := fun q hq =>
    Bool.eq_false_iff.mpr (List.any_eq_false.mp hrun q hq)
  induction text generalizing skip with
  | nil => rw [substAll, occurs, begins]
  | cons a text ih =>
    rcases skip with _ | skip
    · rw [substAll]
      by_cases hmatch : begins (p :: pattern) (a :: text) = true
      · rw [if_pos hmatch, occurs_append hfront, ih]
      · rw [if_neg hmatch, occurs, ih, Bool.or_false, Bool.eq_false_iff]
        intro h
        rw [begins, Bool.and_eq_true] at h
        apply hmatch
        rw [begins, h.1, begins_of_begins_substAll hplaces h.2]
        rfl
    · rw [substAll]
      exact ih skip

/-- A text without a match stays as it is. -/
theorem substAll_of_not_occurs (h : occurs pattern text = false) :
    substAll pattern new 0 text = text := by
  induction text with
  | nil => rw [substAll]
  | cons a text ih =>
    rw [occurs, Bool.or_eq_false_iff] at h
    rw [substAll, h.1, if_neg Bool.false_ne_true, ih h.2]

end Substitution
