import OnePlus9.Library.Machine
import OnePlus9.Library.Numeral
import Mathlib.Algebra.Group.Int.Defs
import Mathlib.Algebra.Group.Nat.Defs

/-!
# Gestures of the touch panel (`power-feature.cpp`)

The touch panel has a mask of the gestures it recognizes, one bit for each, in a node of the proc
file system.  `setDeviceSpecificFeature` reads the mask, changes the bit of a feature, and writes
the mask back.  The node prints the mask in hexadecimal and takes it in decimal.

The driver is not part of the repository, so the node is a parameter (`GestureNode`); whether a read
or a write succeeds is the environment's choice.  What is used of the C++ library is here under the
library's names.
-/

namespace OnePlus9

open Numeral

/-- `aidl::vendor::aospa::power::Feature`: the features that `GESTURE_MAP` names, and all others. -/
inductive Feature where
  | drawV
  | drawInverseV
  | drawO
  | drawM
  | drawW
  | drawArrowLeft
  | drawArrowRight
  | oneFingerSwipeUp
  | oneFingerSwipeRight
  | oneFingerSwipeDown
  | oneFingerSwipeLeft
  | twoFingerSwipe
  | drawS
  | other (value : Int32)
  deriving DecidableEq, Repr

/-- The bit of each gesture, based on values in `touchpanel_common.h`. -/
def GESTURE_MAP : List (Feature × ℕ) :=
  [(.drawV, 2), (.drawInverseV, 3), (.drawO, 6), (.drawM, 12), (.drawW, 13), (.drawArrowLeft, 5),
    (.drawArrowRight, 4), (.oneFingerSwipeUp, 11), (.oneFingerSwipeRight, 8),
    (.oneFingerSwipeDown, 10), (.oneFingerSwipeLeft, 9), (.twoFingerSwipe, 7), (.drawS, 18)]

/-! ### The C++ library -/

/-- What `std::stoi` throws. -/
inductive StdException where
  | invalidArgument
  | outOfRange
  deriving DecidableEq, Repr

def isspace (c : Char) : Bool := c == ' ' || (9 ≤ c.toNat && c.toNat ≤ 13)

/-- `android::base::Trim`. -/
def Trim (text : List Char) : List Char :=
  ((text.dropWhile isspace).reverse.dropWhile isspace).reverse

/-- The sign that a number may begin with. -/
def readSign : List Char → Bool × List Char
  | '-' :: text => (true, text)
  | '+' :: text => (false, text)
  | text => (false, text)

/-- `0x` before a digit may begin a hexadecimal number. -/
def dropHexPrefix : List Char → List Char
  | '0' :: x :: c :: text =>
    if (x = 'x' ∨ x = 'X') ∧ isDigit 16 c then c :: text else '0' :: x :: c :: text
  | text => text

/-- `strtol` in base 16; `none` where there is no number.  What follows the number is ignored. -/
def strtol16 (text : List Char) : Option ℤ :=
  let (negative, text) := readSign (text.dropWhile isspace)
  let digits := (dropHexPrefix text).takeWhile (isDigit 16)
  if digits.isEmpty then none
  else some (if negative then -(value 16 digits : ℤ) else value 16 digits)

/-- `std::stoi(text, nullptr, 16)`. -/
def stoi16 (text : List Char) : Except StdException Int32 :=
  match strtol16 text with
  | none => .error .invalidArgument
  | some n =>
    if -2 ^ 31 ≤ n ∧ n < 2 ^ 31 then .ok (Int32.ofInt n) else .error .outOfRange

/-- `std::to_string`. -/
def to_string (n : Int32) : List Char := (toString n.toInt).toList

/-! ### The node -/

/-- The number `n` in hexadecimal, with or without `0x`. -/
def IsHexText (text : List Char) (n : ℕ) : Prop :=
  IsNumeral 16 text n ∨ ∃ x digits, text = '0' :: x :: digits ∧ (x = 'x' ∨ x = 'X')
    ∧ IsNumeral 16 digits n

/-- The node, as the driver of the touch panel defines it. -/
structure GestureNode where
  /-- What is read for a mask. -/
  read : ℕ → List Char
  /-- The mask that is set by a text, or `none` where the write fails. -/
  write : List Char → Option ℕ
  /-- A read prints the mask in hexadecimal, possibly with space around it. -/
  read_hex : ∀ mask, IsHexText (Trim (read mask)) mask
  /-- A write parses a decimal integer. -/
  write_decimal : ∀ text n, IsNumeral 10 text n → n < 2 ^ 31 → write text = some n

/-! ### `setDeviceSpecificFeature` -/

/-- A call, and whether its read and its write succeed. -/
structure FeatureCall where
  feature : Feature
  enabled : Bool
  readOk : Bool
  writeOk : Bool
  deriving DecidableEq, Repr

/-- The change of the mask, for the gesture at `bit`. -/
def changeBit (bit : ℕ) (enabled : Bool) (contents : Int32) : Int32 :=
  if enabled then contents ||| (1 <<< Int32.ofNat bit)
  else contents &&& ~~~(1 <<< Int32.ofNat bit)

/-- `setDeviceSpecificFeature`: what it returns or throws, and the mask it leaves. -/
def setDeviceSpecificFeature (node : GestureNode) (call : FeatureCall) (mask : ℕ) :
    Except StdException Bool × ℕ :=
  match GESTURE_MAP.lookup call.feature with
  -- Unsupported gesture
  | none => (.ok false, mask)
  | some bit =>
    -- Where the read fails, `contents` keeps its initial value.
    match if call.readOk then stoi16 (Trim (node.read mask)) else .ok 0 with
    | .error e => (.error e, mask)
    | .ok contents =>
      let contents := changeBit bit call.enabled contents
      if call.writeOk then
        match node.write (to_string contents) with
        | some mask => (.ok true, mask)
        | none => (.ok false, mask)
      else (.ok false, mask)

/-! ### Sequences of calls -/

/-- The node between two calls. -/
structure TouchPanel where
  mask : ℕ
  /-- The features of the calls that returned `true` and what they set them to, the last one
  first. -/
  returned : List (Feature × Bool)

namespace TouchPanel

/-- A node that no call has touched. -/
def start (mask : ℕ) : TouchPanel := ⟨mask, []⟩

/-- One call. -/
def step (node : GestureNode) (s : TouchPanel) (call : FeatureCall) : Option TouchPanel :=
  let (result, mask) := setDeviceSpecificFeature node call s.mask
  some
    { mask := mask
      returned :=
        match result with
        | .ok true => (call.feature, call.enabled) :: s.returned
        | _ => s.returned }

/-- The sequences of calls. -/
def machine (node : GestureNode) : Machine TouchPanel FeatureCall := ⟨step node⟩

end TouchPanel

end OnePlus9
