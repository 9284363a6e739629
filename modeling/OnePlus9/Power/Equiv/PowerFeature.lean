import OnePlus9.Power.PowerFeature

/-!
# What a sequence of gesture calls does to the mask

`setDeviceSpecificFeature_cases` lists what a call can do: nothing, or set the bit of its feature in
the mask it has read and write that back.  The way through two bases of text loses nothing
(`stoi16_of_isHexText`, `isNumeral_to_string`).

Where the read fails, the call goes on with the mask 0.  So every call changes its own bit only, and
in the end every bit is what the last successful call for it made it, if and only if no call whose
read fails writes to a mask with another bit set (`changes_own_bits_iff`).
-/

namespace OnePlus9

open Numeral

/-! ### Reading hexadecimal numbers -/

variable {text : List Char} {n : ℕ}

/-- A digit is no space, no sign and no `x`. -/
theorem ne_of_isDigit {c : Char} (h : isDigit 16 c = true) :
    isspace c = false ∧ c ≠ '-' ∧ c ≠ '+' ∧ c ≠ 'x' ∧ c ≠ 'X' := by
  have hrange := toNat_of_isDigit (Nat.le_refl 16) h
  have hne : ∀ d : Char, d.toNat < 48 ∨ 102 < d.toNat ∨ d.toNat = 88 → c ≠ d := by
    rintro d hd rfl
    omega
  refine ⟨?_, hne '-' (by decide), hne '+' (by decide), hne 'x' (by decide), hne 'X' (by decide)⟩
  have hblank : (c == ' ') = false := beq_eq_false_iff_ne.mpr (hne ' ' (by decide))
  rw [isspace, hblank, Bool.false_or, Bool.and_eq_false_iff, decide_eq_false_iff_not,
    decide_eq_false_iff_not]
  omega

/-- No space is dropped in front of a digit. -/
theorem dropWhile_isspace {c : Char} (h : isDigit 16 c = true) (text : List Char) :
    (c :: text).dropWhile isspace = c :: text := by
  refine List.dropWhile_cons_of_neg ?_
  rw [(ne_of_isDigit h).1]
  exact Bool.false_ne_true

/-- A digit is no sign. -/
theorem readSign_of_isDigit {c : Char} (h : isDigit 16 c = true) (text : List Char) :
    readSign ((c :: text).dropWhile isspace) = (false, c :: text) := by
  obtain ⟨-, hminus, hplus, -, -⟩ := ne_of_isDigit h
  rw [dropWhile_isspace h]
  unfold readSign
  split
  · next heq => exact absurd (List.cons.inj heq).1 hminus
  · next heq => exact absurd (List.cons.inj heq).1 hplus
  · rfl

/-- A numeral has no `0x` in front. -/
theorem dropHexPrefix_of_isNumeral (h : IsNumeral 16 text n) : dropHexPrefix text = text := by
  unfold dropHexPrefix
  split
  · next x c rest =>
    have hx := ne_of_isDigit (h.isDigit x (by simp))
    rw [if_neg]
    rintro ⟨rfl | rfl, -⟩
    · exact hx.2.2.2.1 rfl
    · exact hx.2.2.2.2 rfl
  · rfl

/-- The digits are all that is left. -/
theorem strtol16_of_rest {rest : List Char}
    (hsign : readSign (text.dropWhile isspace) = (false, rest))
    (hnumeral : IsNumeral 16 (dropHexPrefix rest) n) : strtol16 text = some (n : ℤ) := by
  rw [strtol16, hsign]
  dsimp only
  have hne : (dropHexPrefix rest).isEmpty = false :=
    List.isEmpty_eq_false_iff.mpr hnumeral.ne_nil
  rw [hnumeral.takeWhile, hne, hnumeral.value_eq]
  rfl

/-- **`strtol` reads every hexadecimal number.** -/
theorem strtol16_of_isHexText (h : IsHexText text n) : strtol16 text = some (n : ℤ) := by
  rcases h with hnumeral | ⟨x, digits, rfl, hx, hdigits⟩
  · cases text with
    | nil => exact absurd rfl hnumeral.ne_nil
    | cons c rest =>
      refine strtol16_of_rest (readSign_of_isDigit (hnumeral.isDigit c (by simp)) rest) ?_
      rw [dropHexPrefix_of_isNumeral hnumeral]
      exact hnumeral
  · cases digits with
    | nil => exact absurd rfl hdigits.ne_nil
    | cons c rest =>
      have hdigit : isDigit 16 c = true := hdigits.isDigit c (by simp)
      refine strtol16_of_rest (readSign_of_isDigit (by decide) _) ?_
      rw [dropHexPrefix, if_pos ⟨hx, hdigit⟩]
      exact hdigits

/-- **`stoi` of a hexadecimal number**, which must fit an `int`. -/
theorem stoi16_of_isHexText (h : IsHexText text n) :
    stoi16 text = if n < 2 ^ 31 then .ok (Int32.ofNat n) else .error .outOfRange := by
  rw [stoi16, strtol16_of_isHexText h]
  dsimp only
  have hfits : (-2 ^ 31 ≤ (n : ℤ) ∧ (n : ℤ) < 2 ^ 31) ↔ n < 2 ^ 31 := by omega
  rw [if_congr hfits rfl rfl]
  rfl

/-! ### Writing decimal numbers -/

theorem isNumeral_to_string {x : Int32} (h : x.toInt = n) : IsNumeral 10 (to_string x) n := by
  have hdigits : to_string x = Nat.toDigits 10 n := by
    rw [to_string, h]
    exact Nat.toList_repr
  rw [hdigits]
  exact isNumeral_toDigits (by decide) (by decide) n

/-! ### Changing a bit -/

variable {feature : Feature} {bit mask : ℕ}

theorem mem_of_lookup (hbit : GESTURE_MAP.lookup feature = some bit) :
    (feature, bit) ∈ GESTURE_MAP := by
  obtain ⟨before, after, heq, -⟩ := List.lookup_eq_some_iff.mp hbit
  rw [heq]
  exact List.mem_append_right _ (List.mem_cons_self ..)

/-- The bits of the gestures are bits of an `int`. -/
theorem shiftLeft_bit (hbit : GESTURE_MAP.lookup feature = some bit) :
    bit < 31 ∧ (1 <<< Int32.ofNat bit : Int32).toBitVec = BitVec.twoPow 32 bit := by
  have hall : ∀ p ∈ GESTURE_MAP, p.2 < 31
      ∧ (1 <<< Int32.ofNat p.2 : Int32).toBitVec = BitVec.twoPow 32 p.2 := by decide
  exact hall (feature, bit) (mem_of_lookup hbit)

/-- No two gestures have the same bit. -/
theorem feature_eq_of_lookup {feature' : Feature} (hbit : GESTURE_MAP.lookup feature = some bit)
    (hbit' : GESTURE_MAP.lookup feature' = some bit) : feature = feature' := by
  have hall : ∀ p ∈ GESTURE_MAP, ∀ q ∈ GESTURE_MAP, p.2 = q.2 → p.1 = q.1 := by decide
  exact hall _ (mem_of_lookup hbit) _ (mem_of_lookup hbit') rfl

/-- Bit by bit. -/
theorem getLsbD_changeBit (hbit : GESTURE_MAP.lookup feature = some bit) (enabled : Bool)
    (contents : Int32) (b : ℕ) :
    (changeBit bit enabled contents).toBitVec.getLsbD b
      = if b = bit then enabled else contents.toBitVec.getLsbD b := by
  obtain ⟨hlt, hshift⟩ := shiftLeft_bit hbit
  have hwidth : bit < 32 := by omega
  unfold changeBit
  cases enabled with
  | true =>
    rw [if_pos rfl, Int32.toBitVec_or, hshift, BitVec.getLsbD_or, BitVec.getLsbD_twoPow]
    split_ifs with heq
    · simp [heq, hwidth]
    · simp [Ne.symm heq]
  | false =>
    rw [if_neg Bool.false_ne_true, Int32.toBitVec_and, Int32.toBitVec_not, hshift,
      BitVec.getLsbD_and, BitVec.getLsbD_not, BitVec.getLsbD_twoPow]
    split_ifs with heq
    · simp [heq, hwidth]
    · by_cases hb : b < 32
      · simp [Ne.symm heq, hb]
      · simp [BitVec.getLsbD_of_ge _ _ (not_lt.mp hb), hb]

/-- **A changed bit**, of a mask that fits an `int`: the number that is written. -/
theorem exists_changeBit (hbit : GESTURE_MAP.lookup feature = some bit) (enabled : Bool)
    (hmask : mask < 2 ^ 31) :
    ∃ n : ℕ, (changeBit bit enabled (Int32.ofNat mask)).toInt = n ∧ n < 2 ^ 31
      ∧ ∀ b, n.testBit b = if b = bit then enabled else mask.testBit b := by
  set x := (changeBit bit enabled (Int32.ofNat mask)).toBitVec with hx
  have hbits : ∀ b, x.toNat.testBit b = if b = bit then enabled else mask.testBit b := by
    intro b
    have hof : (Int32.ofNat mask).toBitVec.getLsbD b = mask.testBit b := by
      show (BitVec.ofNat 32 mask).getLsbD b = _
      rw [← BitVec.testBit_toNat, BitVec.toNat_ofNat, Nat.mod_eq_of_lt (by omega)]
    rw [BitVec.testBit_toNat, hx, getLsbD_changeBit hbit, hof]
  have hlt : x.toNat < 2 ^ 31 := by
    apply Nat.lt_pow_two_of_testBit _
    intro b hb
    have hne : b ≠ bit := by
      have := (shiftLeft_bit hbit).1
      omega
    rw [hbits, if_neg hne]
    exact Nat.testBit_lt_two_pow (hmask.trans_le (Nat.pow_le_pow_right (by decide) hb))
  refine ⟨x.toNat, ?_, hlt, hbits⟩
  show x.toInt = _
  rw [BitVec.toInt_eq_toNat_of_lt (by omega)]

/-! ### One call -/

/-- What a call has for the mask: 0 where the read fails. -/
def FeatureCall.seen (call : FeatureCall) (mask : ℕ) : ℕ := if call.readOk then mask else 0

/-- What a call can do. -/
inductive Outcome (call : FeatureCall) (mask : ℕ) : Except StdException Bool × ℕ → Prop
  /-- The feature is not in `GESTURE_MAP`. -/
  | unsupported (hnone : GESTURE_MAP.lookup call.feature = none) :
    Outcome call mask (.ok false, mask)
  /-- The mask does not fit an `int`. -/
  | thrown (hread : call.readOk = true) (hmask : 2 ^ 31 ≤ mask) :
    Outcome call mask (.error .outOfRange, mask)
  | notWritten (hwrite : call.writeOk = false) : Outcome call mask (.ok false, mask)
  | written (bit mask' : ℕ) (hbit : GESTURE_MAP.lookup call.feature = some bit)
      (hwrite : call.writeOk = true)
      (hbits : ∀ b, mask'.testBit b
        = if b = bit then call.enabled else (call.seen mask).testBit b) :
    Outcome call mask (.ok true, mask')

/-- **What a call does.** -/
theorem setDeviceSpecificFeature_cases (node : GestureNode) (call : FeatureCall) (mask : ℕ) :
    Outcome call mask (setDeviceSpecificFeature node call mask) := by
  unfold setDeviceSpecificFeature
  cases hbit : GESTURE_MAP.lookup call.feature with
  | none => exact .unsupported hbit
  | some bit =>
    dsimp only
    have hread : (if call.readOk then stoi16 (Trim (node.read mask)) else .ok 0)
        = if call.seen mask < 2 ^ 31 then .ok (Int32.ofNat (call.seen mask))
          else .error .outOfRange := by
      unfold FeatureCall.seen
      cases call.readOk with
      | true => exact stoi16_of_isHexText (node.read_hex mask)
      | false => rfl
    rw [hread]
    by_cases hlt : call.seen mask < 2 ^ 31
    · obtain ⟨n, hn, hfits, hbits⟩ := exists_changeBit hbit call.enabled hlt
      have hstored := node.write_decimal _ n (isNumeral_to_string hn) hfits
      rw [if_pos hlt]
      dsimp only
      rw [hstored]
      cases hwrite : call.writeOk with
      | true => exact .written bit n hbit hwrite hbits
      | false => exact .notWritten hwrite
    · rw [if_neg hlt]
      dsimp only
      unfold FeatureCall.seen at hlt
      cases hok : call.readOk with
      | true =>
        rw [hok, if_pos rfl] at hlt
        exact .thrown hok (not_lt.mp hlt)
      | false =>
        rw [hok, if_neg Bool.false_ne_true] at hlt
        exact absurd (by decide) hlt

/-! ### Sequences of calls -/

namespace TouchPanel

variable {node : GestureNode} {s t : TouchPanel} {call : FeatureCall} {calls : List FeatureCall}
  {initial : ℕ}

/-- The call changes no bit but the one of its feature. -/
def ChangesOwnBit (node : GestureNode) (s : TouchPanel) (call : FeatureCall) : Prop :=
  ∀ t, step node s call = some t →
    ∀ b, GESTURE_MAP.lookup call.feature ≠ some b → t.mask.testBit b = s.mask.testBit b

/-- A call whose read fails and whose write succeeds finds no other bit set. -/
def FindsNoOtherBit (s : TouchPanel) (call : FeatureCall) : Prop :=
  ∀ bit, GESTURE_MAP.lookup call.feature = some bit → call.readOk = false → call.writeOk = true →
    ∀ b, b ≠ bit → s.mask.testBit b = false

/-- Every bit of a gesture is what the last call for it that returned `true` made it. -/
def LastCallsHold (initial : ℕ) (s : TouchPanel) : Prop :=
  ∀ feature bit, GESTURE_MAP.lookup feature = some bit →
    s.mask.testBit bit = (s.returned.lookup feature).getD (initial.testBit bit)

/-- One call, by its outcome: it changes nothing, or its bit of the mask it has read. -/
theorem step_cases (hstep : step node s call = some t) :
    (t = s ∧ (GESTURE_MAP.lookup call.feature = none ∨ call.readOk = true ∨ call.writeOk = false))
      ∨ ∃ bit, GESTURE_MAP.lookup call.feature = some bit ∧ call.writeOk = true
        ∧ t.returned = (call.feature, call.enabled) :: s.returned
        ∧ ∀ b, t.mask.testBit b
          = if b = bit then call.enabled else (call.seen s.mask).testBit b := by
  have hcases := setDeviceSpecificFeature_cases node call s.mask
  rw [step] at hstep
  generalize setDeviceSpecificFeature node call s.mask = out at hstep hcases
  cases hcases with
  | unsupported hnone => exact Or.inl ⟨(Option.some.inj hstep).symm, Or.inl hnone⟩
  | thrown hread hmask =>
    exact Or.inl ⟨(Option.some.inj hstep).symm, Or.inr (Or.inl hread)⟩
  | notWritten hwrite =>
    exact Or.inl ⟨(Option.some.inj hstep).symm, Or.inr (Or.inr hwrite)⟩
  | written bit mask' hbit hwrite hbits =>
    obtain rfl := Option.some.inj hstep
    exact Or.inr ⟨bit, hbit, hwrite, rfl, hbits⟩

/-- **When a call changes its own bit only.** -/
theorem changesOwnBit_iff (hstep : step node s call = some t) :
    ChangesOwnBit node s call ↔ FindsNoOtherBit s call := by
  constructor
  · intro hown bit hbit hread hwrite b hne
    have hother : GESTURE_MAP.lookup call.feature ≠ some b := by
      rw [hbit]
      exact fun heq => hne (Option.some.inj heq).symm
    rw [← hown t hstep b hother]
    rcases step_cases hstep with ⟨-, hnone | hread' | hwrite'⟩ | ⟨bit', hbit', -, -, hbits⟩
    · exact nomatch hbit.symm.trans hnone
    · exact nomatch hread.symm.trans hread'
    · exact nomatch hwrite.symm.trans hwrite'
    · -- The mask that was read is 0.
      obtain rfl := Option.some.inj (hbit.symm.trans hbit')
      rw [hbits, if_neg hne, FeatureCall.seen, hread, if_neg Bool.false_ne_true]
      exact Nat.zero_testBit b
  · intro hfinds u hu b hother
    obtain rfl := Option.some.inj (hstep.symm.trans hu)
    rcases step_cases hstep with ⟨rfl, -⟩ | ⟨bit, hbit, hwrite, -, hbits⟩
    · rfl
    · have hne : b ≠ bit := by
        rintro rfl
        exact hother hbit
      rw [hbits, if_neg hne]
      unfold FeatureCall.seen
      cases hread : call.readOk with
      | true => rw [if_pos rfl]
      | false =>
        rw [if_neg Bool.false_ne_true, hfinds bit hbit hread hwrite b hne]
        exact Nat.zero_testBit b

/-- **The last calls hold** after one more, if it changes its own bit only. -/
theorem LastCallsHold.step (h : LastCallsHold initial s) (hown : ChangesOwnBit node s call)
    (hstep : TouchPanel.step node s call = some t) : LastCallsHold initial t := by
  intro feature bit hbit
  rcases step_cases hstep with ⟨rfl, -⟩ | ⟨bit', hbit', -, hreturned, hbits⟩
  · exact h feature bit hbit
  · rw [hreturned, List.lookup_cons]
    by_cases hsame : feature = call.feature
    · -- The feature of the call.
      subst hsame
      obtain rfl := Option.some.inj (hbit.symm.trans hbit')
      rw [hbits, if_pos rfl, BEq.rfl]
      rfl
    · have hother : GESTURE_MAP.lookup call.feature ≠ some bit := fun hlookup =>
        hsame (feature_eq_of_lookup hbit hlookup)
      have hne : (feature == call.feature) = false := beq_eq_false_iff_ne.mpr hsame
      rw [hown t hstep bit hother, hne]
      exact h feature bit hbit

/-- **When setting one gesture changes no other.**  For every driver, initial mask and sequence of
calls: each call changes its own bit only, and all along every bit of a gesture is what the last
call for it that returned `true` made it, if and only if no call whose read fails and whose write
succeeds finds another bit set. -/
theorem changes_own_bits_iff (node : GestureNode) (initial : ℕ) (calls : List FeatureCall) :
    ((machine node).Meets (ChangesOwnBit node) (start initial) calls
        ∧ ∀ t, (machine node).Visits (start initial) calls t → LastCallsHold initial t)
      ↔ (machine node).Meets FindsNoOtherBit (start initial) calls := by
  have hmeets : (machine node).Meets (ChangesOwnBit node) (start initial) calls
      ↔ (machine node).Meets FindsNoOtherBit (start initial) calls :=
    Machine.meets_congr (I := fun _ => True) (fun _ _ _ _ _ => trivial)
      (fun _ _ _ _ hstep => changesOwnBit_iff hstep) trivial
  rw [hmeets, and_iff_left_iff_imp]
  intro hfinds t hvisits
  refine Machine.invariant (fun s call t hs hown hstep => hs.step hown hstep) ?_
    (hmeets.mpr hfinds) hvisits
  intro feature bit hbit
  rfl

/-! ### A driver -/

/-- A newline is trimmed. -/
theorem Trim_newline {text : List Char} (hdigits : ∀ c ∈ text, isDigit 16 c = true)
    (hne : text ≠ []) : Trim (text ++ ['\n']) = text := by
  have hfront : (text ++ ['\n']).dropWhile isspace = text ++ ['\n'] := by
    cases text with
    | nil => exact absurd rfl hne
    | cons c rest => exact dropWhile_isspace (hdigits c (List.mem_cons_self ..)) _
  have hback : text.reverse.dropWhile isspace = text.reverse := by
    cases hreverse : text.reverse with
    | nil => exact absurd (List.reverse_eq_nil_iff.mp hreverse) hne
    | cons c rest =>
      have hmem : c ∈ text := by
        rw [← List.mem_reverse, hreverse]
        exact List.mem_cons_self ..
      exact dropWhile_isspace (hdigits c hmem) _
  rw [Trim, hfront, List.reverse_append, List.reverse_singleton, List.singleton_append,
    List.dropWhile_cons_of_pos (by decide), hback, List.reverse_reverse]

/-- A driver that prints the mask with a newline and takes the digits in front. -/
def sampleNode : GestureNode where
  read := fun mask => Nat.toDigits 16 mask ++ ['\n']
  write := fun text =>
    let digits := text.takeWhile (isDigit 10)
    if digits.isEmpty then none else some (value 10 digits)
  read_hex := by
    intro mask
    have hnumeral := isNumeral_toDigits (by decide : 1 < 16) (by decide) mask
    rw [Trim_newline hnumeral.isDigit hnumeral.ne_nil]
    exact Or.inl hnumeral
  write_decimal := by
    intro text n h _
    have hne : text.isEmpty = false := List.isEmpty_eq_false_iff.mpr h.ne_nil
    dsimp only
    rw [h.takeWhile, hne, h.value_eq]
    rfl

/-- `DRAW_V` is enabled, and a call enables `DRAW_O`; its read fails. -/
def enableDrawO : FeatureCall := ⟨.drawO, true, false, true⟩

/-- The call disables `DRAW_V`. -/
theorem exists_bit_lost :
    ¬(machine sampleNode).Meets (ChangesOwnBit sampleNode) (start 4) [enableDrawO] := by
  intro hmeets
  have hown := (hmeets _ rfl).1 _ rfl 2 (by decide)
  exact absurd hown (by decide)

end TouchPanel

end OnePlus9
