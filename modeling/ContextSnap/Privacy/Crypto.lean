import ContextSnap.Core.Result
import ContextSnap.Lib.Buffer

/-!
# Digests and sealed blobs

The SHA-256 of the tree, which is fed piece by piece, and the bytes that a sealed blob is stored as.
-/

namespace ContextSnap.Privacy

/-! ### SHA-256 -/

/-- The state of the hash. There are `len` bytes in `buf`, which is never full between two calls. -/
structure Sha256 where
  h : Vector UInt32 8 :=
    #v[0x6a09e667, 0xbb67ae85, 0x3c6ef372, 0xa54ff53a, 0x510e527f, 0x9b05688c, 0x1f83d9ab,
      0x5be0cd19]
  buf : Vector UInt8 64 := .replicate 64 0
  len : Fin 64 := 0
  bits : UInt64 := 0

namespace Sha256

def k : Vector UInt32 64 :=
  #v[0x428a2f98, 0x71374491, 0xb5c0fbcf, 0xe9b5dba5, 0x3956c25b, 0x59f111f1,
    0x923f82a4, 0xab1c5ed5, 0xd807aa98, 0x12835b01, 0x243185be, 0x550c7dc3,
    0x72be5d74, 0x80deb1fe, 0x9bdc06a7, 0xc19bf174, 0xe49b69c1, 0xefbe4786,
    0x0fc19dc6, 0x240ca1cc, 0x2de92c6f, 0x4a7484aa, 0x5cb0a9dc, 0x76f988da,
    0x983e5152, 0xa831c66d, 0xb00327c8, 0xbf597fc7, 0xc6e00bf3, 0xd5a79147,
    0x06ca6351, 0x14292967, 0x27b70a85, 0x2e1b2138, 0x4d2c6dfc, 0x53380d13,
    0x650a7354, 0x766a0abb, 0x81c2c92e, 0x92722c85, 0xa2bfe8a1, 0xa81a664b,
    0xc24b8b70, 0xc76c51a3, 0xd192e819, 0xd6990624, 0xf40e3585, 0x106aa070,
    0x19a4c116, 0x1e376c08, 0x2748774c, 0x34b0bcb5, 0x391c0cb3, 0x4ed8aa4a,
    0x5b9cca4f, 0x682e6ff3, 0x748f82ee, 0x78a5636f, 0x84c87814, 0x8cc70208,
    0x90befffa, 0xa4506ceb, 0xbef9a3f7, 0xc67178f2]

def ror (v n : UInt32) : UInt32 := (v >>> n) ||| (v <<< (32 - n))

/-- The first loop of `block`: a word of the buffer. -/
def bufWord (buf : Vector UInt8 64) (i : Fin 16) : UInt32 :=
  (buf[i.val * 4].toUInt32 <<< 24) ||| (buf[i.val * 4 + 1].toUInt32 <<< 16)
    ||| (buf[i.val * 4 + 2].toUInt32 <<< 8) ||| buf[i.val * 4 + 3].toUInt32

/-- One round of the second loop, for the word behind the first `16 + i`. -/
def extend (w : Vector UInt32 64) (i : Fin 48) : Vector UInt32 64 :=
  let s0 := ror w[i.val + 1] 7 ^^^ ror w[i.val + 1] 18 ^^^ (w[i.val + 1] >>> 3)
  let s1 := ror w[i.val + 14] 17 ^^^ ror w[i.val + 14] 19 ^^^ (w[i.val + 14] >>> 10)
  w.set (i.val + 16) (w[i.val] + s0 + w[i.val + 9] + s1)

/-- The words `w` of a block. -/
def words (buf : Vector UInt8 64) : Vector UInt32 64 :=
  Fin.foldl 48 extend
    (Fin.foldl 16 (fun w i => w.set i.val (bufWord buf i)) (.replicate 64 0))

/-- One round of the third loop. -/
def mix (w : Vector UInt32 64) (v : Vector UInt32 8) (i : Fin 64) : Vector UInt32 8 :=
  let t1 := v[7] + (ror v[4] 6 ^^^ ror v[4] 11 ^^^ ror v[4] 25)
    + ((v[4] &&& v[5]) ^^^ (~~~v[4] &&& v[6])) + k[i] + w[i]
  let t2 := (ror v[0] 2 ^^^ ror v[0] 13 ^^^ ror v[0] 22)
    + ((v[0] &&& v[1]) ^^^ (v[0] &&& v[2]) ^^^ (v[1] &&& v[2]))
  #v[t1 + t2, v[0], v[1], v[2], v[3] + t1, v[4], v[5], v[6]]

/-- What `block` makes of `h`. -/
def block (h : Vector UInt32 8) (buf : Vector UInt8 64) : Vector UInt32 8 :=
  h.zipWith (· + ·) (Fin.foldl 64 (mix (words buf)) h)

/-- One round of the loop of `update`. -/
def append (s : Sha256) (c : UInt8) : Sha256 :=
  let buf := s.buf.set s.len c
  if hfull : s.len.val + 1 = 64 then { s with h := block s.h buf, buf, len := 0 }
  else { s with buf, len := ⟨s.len.val + 1, by omega⟩ }

def update (s : Sha256) (data : Bytes) : Sha256 :=
  data.foldl append { s with bits := s.bits + UInt64.ofNat data.length * 8 }

/-- `buf[len++] = c` for some bytes that there is room for. -/
def write (buf : Vector UInt8 64) (len : ℕ) : (bytes : Bytes) → len + bytes.length ≤ 64 →
    Vector UInt8 64
  | [], _ => buf
  | c :: rest, hroom =>
      have hroom : len + (rest.length + 1) ≤ 64 := hroom
      write (buf.set len c) (len + 1) rest (by omega)

/-- The bytes of `bits`, the high ones first. -/
def lengthBytes (bits : UInt64) : Bytes :=
  [7, 6, 5, 4, 3, 2, 1, 0].map fun (i : UInt64) => ((bits >>> (i * 8)) &&& 0xFF).toUInt8

/-- The block that is left when the padding has no room for the length. -/
def closeBlock (h : Vector UInt32 8) (buf : Vector UInt8 64) (len : ℕ) (hlen : len ≤ 64) :
    Vector UInt32 8 × Vector UInt8 64 × Fin 57 :=
  if hlong : len > 56 then
    let buf := write buf len (List.replicate (64 - len) 0) (by
      rw [List.length_replicate]
      omega)
    (block h buf, buf, 0)
  else
    (h, buf, ⟨len, by omega⟩)

/-- The value of `h` at the end of `finish`. -/
def finalHash (s : Sha256) : Vector UInt32 8 :=
  let (h, buf, len) := closeBlock s.h (s.buf.set s.len 0x80) (s.len.val + 1) s.len.isLt
  let buf := write buf len (List.replicate (56 - len.val) 0) (by
    rw [List.length_replicate]
    omega)
  block h (write buf 56 (lengthBytes s.bits) (Nat.le_refl 64))

def finish (s : Sha256) : Bytes :=
  s.finalHash.toList.flatMap fun (word : UInt32) =>
    [(word >>> 24).toUInt8, (word >>> 16).toUInt8, (word >>> 8).toUInt8, word.toUInt8]

end Sha256

def sha256 (data : Bytes) : Bytes := (({} : Sha256).update data).finish

/-! ### Sealed blobs -/

/-- An encrypted export. -/
structure SealedBlob where
  salt : Bytes := []
  nonce : Bytes := []
  ciphertext : Bytes := []
  tag : Bytes := []
  deriving DecidableEq

namespace SealedBlob

open Buffer (Fault read readMany)

def toBytes (blob : SealedBlob) : Bytes :=
  str "CSSB" ++ [1] ++ [blob.salt.length.toUInt8, blob.nonce.length.toUInt8, blob.tag.length.toUInt8]
    ++ blob.salt ++ blob.nonce ++ blob.tag ++ blob.ciphertext

/-- The test of the first four bytes. -/
def hasMagic (bytes : Bytes) : Except Fault Bool := do
  if bytes.length < 8 then
    return false
  else
    return (← read bytes 0) = 67 ∧ (← read bytes 1) = 83 ∧ (← read bytes 2) = 83
      ∧ (← read bytes 3) = 66

def fromBytes (bytes : Bytes) : Except Fault (Result SealedBlob) := do
  if !(← hasMagic bytes) then
    return .error (Err.invalid (str "not a ContextSnap sealed blob") (str "privacy.sealed_blob"))
  if (← read bytes 4) ≠ 1 then
    return .error (Err.unsupported (str "unsupported sealed blob version")
      (str "privacy.sealed_blob"))
  let saltLen := (← read bytes 5).toNat
  let nonceLen := (← read bytes 6).toNat
  let tagLen := (← read bytes 7).toNat
  if bytes.length < 8 + saltLen + nonceLen + tagLen then
    return .error (Err.invalid (str "truncated sealed blob") (str "privacy.sealed_blob"))
  let salt ← readMany bytes 8 saltLen
  let nonce ← readMany bytes (8 + saltLen) nonceLen
  let tag ← readMany bytes (8 + saltLen + nonceLen) tagLen
  let offset := 8 + saltLen + nonceLen + tagLen
  let ciphertext ← readMany bytes offset (bytes.length - offset)
  return .ok { salt, nonce, ciphertext, tag }

end SealedBlob

end ContextSnap.Privacy
