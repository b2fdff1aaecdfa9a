import ContextSnap.Lib.Blocks
import ContextSnap.Lib.Bytes
import ContextSnap.Lib.Positional
import Mathlib.Data.Nat.NthRoot.Defs

/-!
# SHA-256 as FIPS 180-4 has it

The functions and constants of section 4, the padding and the parsing of section 5, and the hash
computation of section 6. Words are `UInt32`, whose addition is the one modulo `2 ^ 32`, and a message
is a list of bytes.
-/

namespace ContextSnap.Fips180

/-! ### Functions and constants -/

def rotr (n : ℕ) (x : UInt32) : UInt32 := ⟨x.toBitVec.rotateRight n⟩

def shr (n : ℕ) (x : UInt32) : UInt32 := ⟨x.toBitVec >>> n⟩

def ch (x y z : UInt32) : UInt32 := (x &&& y) ^^^ (~~~x &&& z)

def maj (x y z : UInt32) : UInt32 := (x &&& y) ^^^ (x &&& z) ^^^ (y &&& z)

def bigSigma0 (x : UInt32) : UInt32 := rotr 2 x ^^^ rotr 13 x ^^^ rotr 22 x

def bigSigma1 (x : UInt32) : UInt32 := rotr 6 x ^^^ rotr 11 x ^^^ rotr 25 x

def smallSigma0 (x : UInt32) : UInt32 := rotr 7 x ^^^ rotr 18 x ^^^ shr 3 x

def smallSigma1 (x : UInt32) : UInt32 := rotr 17 x ^^^ rotr 19 x ^^^ shr 10 x

def primes (bound : ℕ) : List ℕ :=
  (List.range bound).filter fun n =>
    2 ≤ n && (List.range' 2 (n - 2)).all fun divisor => n % divisor ≠ 0

/-- The first 32 bits of the fractional part of the root of this degree. -/
def rootFraction (degree n : ℕ) : UInt32 :=
  UInt32.ofNat (Nat.nthRoot degree (n * 2 ^ (32 * degree)))

/-- The cube roots of the first 64 primes. -/
def constants : List UInt32 := (primes 312).map (rootFraction 3)

def K (t : ℕ) : UInt32 := constants.getD t 0

/-- The words `a` to `h` of the working variables, or the words of a hash value. -/
@[ext]
structure Words where
  a : UInt32
  b : UInt32
  c : UInt32
  d : UInt32
  e : UInt32
  f : UInt32
  g : UInt32
  h : UInt32
  deriving DecidableEq

def Words.ofList (words : List UInt32) : Words where
  a := words.getD 0 0
  b := words.getD 1 0
  c := words.getD 2 0
  d := words.getD 3 0
  e := words.getD 4 0
  f := words.getD 5 0
  g := words.getD 6 0
  h := words.getD 7 0

def Words.toList (words : Words) : List UInt32 :=
  [words.a, words.b, words.c, words.d, words.e, words.f, words.g, words.h]

/-- The square roots of the first eight primes. -/
def initialHash : Words := .ofList ((primes 20).map (rootFraction 2))

/-! ### Padding and parsing -/

def blockBytes : ℕ := 64

def bigEndian (count value : ℕ) : Bytes := (Positional.digits 256 count value).map UInt8.ofNat

/-- The fewest zeros that fill the last block. -/
def zeros (length : ℕ) : ℕ := (blockBytes - (length + 9) % blockBytes) % blockBytes

/-- A one, zeros, and the number of bits as a number of 64 bits. -/
def padding (length : ℕ) : Bytes :=
  0x80 :: List.replicate (zeros length) 0 ++ bigEndian 8 (8 * length)

def pad (message : Bytes) : Bytes := message ++ padding message.length

def word (block : Bytes) (t : ℕ) : UInt32 :=
  UInt32.ofNat
    (Positional.ofDigits 256 0 (((block.drop (4 * t)).take 4).map UInt8.toNat))

/-! ### Hash computation -/

/-- The message schedule. -/
def W (block : Bytes) (t : ℕ) : UInt32 :=
  if t < 16 then word block t
  else
    smallSigma1 (W block (t - 2)) + W block (t - 7) + smallSigma0 (W block (t - 15))
      + W block (t - 16)
termination_by t
decreasing_by all_goals omega

def T1 (block : Bytes) (t : ℕ) (v : Words) : UInt32 :=
  v.h + bigSigma1 v.e + ch v.e v.f v.g + K t + W block t

def T2 (v : Words) : UInt32 := bigSigma0 v.a + maj v.a v.b v.c

def round (block : Bytes) (v : Words) (t : ℕ) : Words where
  a := T1 block t v + T2 v
  b := v.a
  c := v.b
  d := v.c
  e := v.d + T1 block t v
  f := v.e
  g := v.f
  h := v.g

def Words.add (v w : Words) : Words where
  a := v.a + w.a
  b := v.b + w.b
  c := v.c + w.c
  d := v.d + w.d
  e := v.e + w.e
  f := v.f + w.f
  g := v.g + w.g
  h := v.h + w.h

/-- The hash value after a block. -/
def compress (H : Words) (block : Bytes) : Words :=
  ((List.range 64).foldl (round block) H).add H

def hash (message : Bytes) : Words :=
  Blocks.fold blockBytes compress initialHash (pad message)

def digest (message : Bytes) : Bytes :=
  (hash message).toList.flatMap fun word => bigEndian 4 word.toNat

/-! ### Sizes -/

theorem length_bigEndian (count value : ℕ) : (bigEndian count value).length = count := by
  rw [bigEndian, List.length_map, Positional.length_digits]

theorem length_padding (length : ℕ) : (padding length).length = zeros length + 9 := by
  simp [padding, length_bigEndian]

/-- A padded message fills its blocks. -/
theorem blocks_pad (message : Bytes) : (pad message).length % blockBytes = 0 := by
  rw [pad, List.length_append, length_padding, zeros, blockBytes]
  omega

end ContextSnap.Fips180
