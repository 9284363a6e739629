import Mathlib.Data.List.TakeWhile
import Mathlib.Order.Basic

/-!
# Numerals

`IsNumeral base text n` says that `text` is a number `n` written in `base`, most significant digit
first, with the letters of either case as the digits from ten on.  Leading zeros are allowed, so a
number has many numerals; `Nat.toDigits` gives one of them (`isNumeral_toDigits`).  A reader that
takes digits as long as there are any reads the whole numeral (`IsNumeral.takeWhile`).
-/

namespace Numeral

/-! ### Digits -/

/-- What a digit stands for, in the bases up to 36. -/
def digitValue (c : Char) : Option ℕ :=
  if '0'.toNat ≤ c.toNat ∧ c.toNat ≤ '9'.toNat then some (c.toNat - '0'.toNat)
  else if 'a'.toNat ≤ c.toNat ∧ c.toNat ≤ 'z'.toNat then some (c.toNat - 'a'.toNat + 10)
  else if 'A'.toNat ≤ c.toNat ∧ c.toNat ≤ 'Z'.toNat then some (c.toNat - 'A'.toNat + 10)
  else none

/-- Whether a character is a digit of the base. -/
def isDigit (base : ℕ) (c : Char) : Bool := (digitValue c).any fun d => decide (d < base)

theorem digitValue_digitChar {d : ℕ} (h : d < 16) : digitValue d.digitChar = some d := by
  have hall : ∀ d : Fin 16, digitValue d.val.digitChar = some d.val := by decide
  exact hall ⟨d, h⟩

theorem isDigit_digitChar {base d : ℕ} (hbase : base ≤ 16) (h : d < base) :
    isDigit base d.digitChar = true := by
  rw [isDigit, digitValue_digitChar (h.trans_le hbase), Option.any_some]
  exact decide_eq_true h

/-- The digits of the bases up to 16. -/
theorem toNat_of_isDigit {base : ℕ} {c : Char} (hbase : base ≤ 16) (h : isDigit base c = true) :
    (48 ≤ c.toNat ∧ c.toNat ≤ 57) ∨ (65 ≤ c.toNat ∧ c.toNat ≤ 70)
      ∨ (97 ≤ c.toNat ∧ c.toNat ≤ 102) := by
  unfold isDigit digitValue at h
  simp only [Char.reduceToNat] at h
  split_ifs at h with hdecimal hlower hupper
  · exact Or.inl hdecimal
  · rw [Option.any_some, decide_eq_true_iff] at h
    omega
  · rw [Option.any_some, decide_eq_true_iff] at h
    omega
  · exact nomatch h

/-! ### Numerals -/

variable {base n : ℕ} {text : List Char}

/-- The number that a list of digits stands for. -/
def value (base : ℕ) (text : List Char) : ℕ :=
  text.foldl (fun n c => n * base + (digitValue c).getD 0) 0

/-- The number `n`, written in the base. -/
structure IsNumeral (base : ℕ) (text : List Char) (n : ℕ) : Prop where
  ne_nil : text ≠ []
  isDigit : ∀ c ∈ text, isDigit base c = true
  value_eq : value base text = n

theorem value_concat (base : ℕ) (text : List Char) (c : Char) :
    value base (text ++ [c]) = value base text * base + (digitValue c).getD 0 := by
  rw [value, List.foldl_append]
  rfl

theorem IsNumeral.takeWhile (h : IsNumeral base text n) :
    text.takeWhile (Numeral.isDigit base) = text :=
  List.takeWhile_eq_self_iff.mpr h.isDigit

/-- One more digit. -/
theorem IsNumeral.concat (h : IsNumeral base text n) (hbase : base ≤ 16) {d : ℕ} (hd : d < base) :
    IsNumeral base (text ++ [d.digitChar]) (n * base + d) := by
  refine ⟨List.append_ne_nil_of_left_ne_nil h.ne_nil _, fun c hc => ?_, ?_⟩
  · rcases List.mem_append.mp hc with htext | hlast
    · exact h.isDigit c htext
    · rw [List.mem_singleton.mp hlast]
      exact isDigit_digitChar hbase hd
  · rw [value_concat, h.value_eq, digitValue_digitChar (hd.trans_le hbase)]
    rfl

/-- **Every number has a numeral** in every base up to 16. -/
theorem isNumeral_toDigits (hone : 1 < base) (hbase : base ≤ 16) (n : ℕ) :
    IsNumeral base (Nat.toDigits base n) n := by
  induction n using Nat.strong_induction_on with
  | _ n ih =>
    by_cases hlt : n < base
    · rw [Nat.toDigits_of_lt_base hlt]
      refine ⟨List.cons_ne_nil _ _, fun c hc => ?_, ?_⟩
      · rw [List.mem_singleton.mp hc]
        exact isDigit_digitChar hbase hlt
      · show 0 * base + (digitValue n.digitChar).getD 0 = n
        rw [digitValue_digitChar (hlt.trans_le hbase), Nat.zero_mul, Nat.zero_add, Option.getD_some]
    · have hle : base ≤ n := not_lt.mp hlt
      have hsmaller : n / base < n := Nat.div_lt_self (by omega) hone
      have hconcat := (ih _ hsmaller).concat hbase (Nat.mod_lt n (by omega))
      rw [Nat.toDigits_of_base_le hone hle]
      rw [Nat.div_add_mod'] at hconcat
      exact hconcat

end Numeral
