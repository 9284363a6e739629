import OnePlus9.Library.Numeral

/-!
# SHA-1

`sha1 message` is the SHA-1 digest of a list of bytes, and `hexdigest` writes a digest as 40
hexadecimal digits (`length_hexdigest`, `isDigit_of_mem_hexdigest`).  The message is padded to whole
blocks of 16 words, and each block is mixed into five words by 80 rounds.
-/

namespace Sha1

abbrev Word := BitVec 32

/-- The five words that are carried from block to block. -/
structure Digest where
  a : Word
  b : Word
  c : Word
  d : Word
  e : Word
  deriving DecidableEq, Repr

def Digest.initial : Digest where
  a := 0x67452301#32
  b := 0xefcdab89#32
  c := 0x98badcfe#32
  d := 0x10325476#32
  e := 0xc3d2e1f0#32

/-! ### Padding -/

/-- The last `count` bytes of a number, most significant first. -/
def bigEndian (count n : ℕ) : List UInt8 :=
  (List.range count).map fun i => UInt8.ofNat (n >>> (8 * (count - 1 - i)))

/-- A one bit, zeros up to 8 bytes before the end of a block, and the length in bits. -/
def pad (message : List UInt8) : List UInt8 :=
  message ++ 0x80 :: List.replicate ((119 - message.length % 64) % 64) 0
    ++ bigEndian 8 (8 * message.length)

def words : List UInt8 → List Word
  | b₀ :: b₁ :: b₂ :: b₃ :: rest =>
    (b₀.toBitVec ++ b₁.toBitVec ++ b₂.toBitVec ++ b₃.toBitVec) :: words rest
  | _ => []

/-! ### A block -/

/-- Adds `n` words to a message schedule.  The latest word comes first. -/
def extend : ℕ → List Word → List Word
  | 0, w => w
  | n + 1, w =>
    extend n ((w.getD 2 0 ^^^ w.getD 7 0 ^^^ w.getD 13 0 ^^^ w.getD 15 0).rotateLeft 1 :: w)

/-- The words of the 80 rounds. -/
def schedule (block : List Word) : List Word := (extend 64 block.reverse).reverse

/-- The function and the constant of the round `t`. -/
def mix (t : ℕ) (b c d : Word) : Word × Word :=
  if t < 20 then (b &&& c ||| ~~~b &&& d, 0x5a827999#32)
  else if t < 40 then (b ^^^ c ^^^ d, 0x6ed9eba1#32)
  else if t < 60 then (b &&& c ||| b &&& d ||| c &&& d, 0x8f1bbcdc#32)
  else (b ^^^ c ^^^ d, 0xca62c1d6#32)

def round (v : Digest) (wt : Word × ℕ) : Digest where
  a := v.a.rotateLeft 5 + (mix wt.2 v.b v.c v.d).1 + v.e + (mix wt.2 v.b v.c v.d).2 + wt.1
  b := v.a
  c := v.b.rotateLeft 30
  d := v.c
  e := v.d

def compress (h : Digest) (block : List Word) : Digest :=
  let v := (schedule block).zipIdx.foldl round h
  { a := h.a + v.a, b := h.b + v.b, c := h.c + v.c, d := h.d + v.d, e := h.e + v.e }

def hashBlocks : ℕ → Digest → List Word → Digest
  | 0, h, _ => h
  | n + 1, h, message => hashBlocks n (compress h (message.take 16)) (message.drop 16)

/-! ### The digest -/

def sha1 (message : List UInt8) : Digest :=
  let message := words (pad message)
  hashBlocks (message.length / 16) .initial message

/-- The eight hexadecimal digits of a word. -/
def hexWord (w : Word) : List Char :=
  (List.range 8).map fun i => ((w.toNat >>> (4 * (7 - i))) % 16).digitChar

def Digest.hexdigest (h : Digest) : List Char :=
  hexWord h.a ++ hexWord h.b ++ hexWord h.c ++ hexWord h.d ++ hexWord h.e

theorem length_hexWord (w : Word) : (hexWord w).length = 8 := by
  rw [hexWord, List.length_map, List.length_range]

theorem isDigit_of_mem_hexWord {w : Word} {c : Char} (h : c ∈ hexWord w) :
    Numeral.isDigit 16 c = true := by
  rw [hexWord, List.mem_map] at h
  obtain ⟨i, _, rfl⟩ := h
  exact Numeral.isDigit_digitChar le_rfl (Nat.mod_lt _ (by decide))

theorem Digest.length_hexdigest (h : Digest) : h.hexdigest.length = 40 := by
  simp only [hexdigest, List.length_append, length_hexWord]

theorem Digest.isDigit_of_mem_hexdigest {h : Digest} {c : Char} (hc : c ∈ h.hexdigest) :
    Numeral.isDigit 16 c = true := by
  simp only [hexdigest, List.mem_append] at hc
  rcases hc with (((ha | hb) | hc) | hd) | he
  · exact isDigit_of_mem_hexWord ha
  · exact isDigit_of_mem_hexWord hb
  · exact isDigit_of_mem_hexWord hc
  · exact isDigit_of_mem_hexWord hd
  · exact isDigit_of_mem_hexWord he

/-- The digest of `abc`. -/
example : (sha1 [0x61, 0x62, 0x63]).hexdigest
    = "a9993e364706816aba3e25717850c26c9cd0d89d".toList := by decide +kernel

end Sha1
