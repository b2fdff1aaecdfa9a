import ContextSnap.Lib.Fips180
import ContextSnap.Lib.Fold
import ContextSnap.Privacy.Crypto

/-!
# The digest of the tree

A hash that is fed in pieces keeps what a block-wise fold has made of the whole blocks, and the bytes
behind them. What it writes behind these at the end is the padding.
-/

namespace ContextSnap.Privacy.Sha256

open Fips180 (Words)

/-! ### Words -/

private theorem high_or_low {high low : ℕ} (k : ℕ) (hhigh : 2 ^ k ∣ high) (hlow : low < 2 ^ k) :
    high ||| low = high + low := by
  obtain ⟨m, rfl⟩ := hhigh
  exact (Nat.two_pow_add_eq_or_of_lt hlow m).symm

theorem bytes_word (a b c d : UInt8) :
    (a.toUInt32 <<< 24) ||| (b.toUInt32 <<< 16) ||| (c.toUInt32 <<< 8) ||| d.toUInt32
      = UInt32.ofNat (Positional.ofDigits 256 0 ([a, b, c, d].map UInt8.toNat)) := by
  have ha := a.toNat_lt
  have hb := b.toNat_lt
  have hc := c.toNat_lt
  have hd := d.toNat_lt
  have hab : a.toNat * 2 ^ 24 ||| b.toNat * 2 ^ 16 = a.toNat * 2 ^ 24 + b.toNat * 2 ^ 16 :=
    high_or_low 24 (by omega) (by omega)
  have habc : a.toNat * 2 ^ 24 + b.toNat * 2 ^ 16 ||| c.toNat * 2 ^ 8
      = a.toNat * 2 ^ 24 + b.toNat * 2 ^ 16 + c.toNat * 2 ^ 8 :=
    high_or_low 16 (by omega) (by omega)
  apply UInt32.toNat_inj.mp
  simp only [UInt32.toNat_or, UInt32.toNat_shiftLeft, UInt8.toNat_toUInt32, UInt32.reduceToNat,
    Nat.reduceMod, Nat.shiftLeft_eq, Positional.ofDigits, List.map_cons, List.map_nil,
    List.foldl_cons, List.foldl_nil, UInt32.toNat_ofNat']
  rw [Nat.mod_eq_of_lt (by omega), Nat.mod_eq_of_lt (by omega), Nat.mod_eq_of_lt (by omega),
    hab, habc, high_or_low 8 (by omega) (by omega), Nat.mod_eq_of_lt (by omega)]
  omega

theorem bufWord_eq (buf : Vector UInt8 64) (i : Fin 16) :
    bufWord buf i = Fips180.word buf.toList i := by
  have hlength : buf.toList.length = 64 := buf.length_toList
  have hfour : (buf.toList.drop (4 * i.val)).take 4
      = [buf[i.val * 4], buf[i.val * 4 + 1], buf[i.val * 4 + 2], buf[i.val * 4 + 3]] := by
    rw [Nat.mul_comm, List.drop_eq_getElem_cons (by omega), List.drop_eq_getElem_cons (by omega),
      List.drop_eq_getElem_cons (by omega), List.drop_eq_getElem_cons (by omega)]
    rfl
  rw [bufWord, bytes_word, Fips180.word, hfour]

theorem ror_eq {n : ℕ} (hpos : 0 < n) (hlt : n < 32) (x : UInt32) :
    ror x (UInt32.ofNat n) = Fips180.rotr n x := by
  have hn : (UInt32.ofNat n).toNat = n := UInt32.toNat_ofNat_of_lt' (by simp [UInt32.size]; omega)
  apply UInt32.toBitVec_inj.mp
  rw [ror, Fips180.rotr, BitVec.rotateRight_def, Nat.mod_eq_of_lt hlt]
  simp [Nat.mod_eq_of_lt hlt]
  congr 2
  omega

section Functions

variable (x : UInt32)

theorem smallSigma0_eq : ror x 7 ^^^ ror x 18 ^^^ (x >>> 3) = Fips180.smallSigma0 x := by
  rw [Fips180.smallSigma0, ← ror_eq (by decide) (by decide), ← ror_eq (by decide) (by decide)]
  rfl

theorem smallSigma1_eq : ror x 17 ^^^ ror x 19 ^^^ (x >>> 10) = Fips180.smallSigma1 x := by
  rw [Fips180.smallSigma1, ← ror_eq (by decide) (by decide), ← ror_eq (by decide) (by decide)]
  rfl

theorem bigSigma0_eq : ror x 2 ^^^ ror x 13 ^^^ ror x 22 = Fips180.bigSigma0 x := by
  rw [Fips180.bigSigma0, ← ror_eq (by decide) (by decide), ← ror_eq (by decide) (by decide),
    ← ror_eq (by decide) (by decide)]
  rfl

theorem bigSigma1_eq : ror x 6 ^^^ ror x 11 ^^^ ror x 25 = Fips180.bigSigma1 x := by
  rw [Fips180.bigSigma1, ← ror_eq (by decide) (by decide), ← ror_eq (by decide) (by decide),
    ← ror_eq (by decide) (by decide)]
  rfl

end Functions

theorem k_eq : k.toList = Fips180.constants := by decide +kernel

/-- The words of a hash value. -/
def toWords (v : Vector UInt32 8) : Words :=
  ⟨v.get 0, v.get 1, v.get 2, v.get 3, v.get 4, v.get 5, v.get 6, v.get 7⟩

theorem toWords_initial : toWords ({} : Sha256).h = Fips180.initialHash := by decide +kernel

theorem get_k (i : Fin 64) : k.get i = Fips180.K i := by
  have hlt : i.val < k.toList.length := by
    rw [Vector.length_toList]
    exact i.isLt
  rw [Fips180.K, ← k_eq, List.getD_eq_getElem?_getD, List.getElem?_eq_getElem hlt, Option.getD_some]
  rfl

/-! ### Blocks -/

section Block

variable (buf : Vector UInt8 64)

/-- The first words of the schedule are there. -/
def Scheduled (buf : Vector UInt8 64) (count : ℕ) (w : Vector UInt32 64) : Prop :=
  ∀ t (_h : t < 64), t < count → w[t] = Fips180.W buf.toList t

theorem W_of_lt {t : ℕ} (h : t < 16) (block : Bytes) :
    Fips180.W block t = Fips180.word block t := by
  rw [Fips180.W, if_pos h]

theorem W_add (block : Bytes) (t : ℕ) :
    Fips180.W block (t + 16) = Fips180.W block t + Fips180.smallSigma0 (Fips180.W block (t + 1))
      + Fips180.W block (t + 9) + Fips180.smallSigma1 (Fips180.W block (t + 14)) := by
  rw [Fips180.W, if_neg (by omega)]
  have h2 : t + 16 - 2 = t + 14 := rfl
  have h7 : t + 16 - 7 = t + 9 := rfl
  have h15 : t + 16 - 15 = t + 1 := rfl
  have h16 : t + 16 - 16 = t := Nat.add_sub_cancel ..
  rw [h2, h7, h15, h16]
  ac_rfl

theorem scheduled_words : Scheduled buf 64 (words buf) := by
  have hload : Scheduled buf 16
      (Fin.foldl 16 (fun w i => w.set i.val (bufWord buf i)) (.replicate 64 0)) := by
    apply Fold.fin_foldl (I := fun count w => Scheduled buf count w)
    · intro i w hw t ht hlt
      rw [Vector.getElem_set]
      split
      · rename_i heq
        rw [bufWord_eq, heq, W_of_lt (by omega)]
      · exact hw t ht (by omega)
    · exact fun t _ hlt => absurd hlt (Nat.not_lt_zero t)
  apply Fold.fin_foldl (n := 48) (I := fun count w => Scheduled buf (count + 16) w)
  · intro i w hw t ht hlt
    rw [extend, Vector.getElem_set]
    split
    · rename_i heq
      rw [smallSigma0_eq, smallSigma1_eq, hw _ _ (by omega), hw _ _ (by omega), hw _ _ (by omega),
        hw _ _ (by omega), ← heq, W_add]
    · exact hw t ht (by omega)
  · exact hload

theorem toWords_mix {w : Vector UInt32 64} (hw : Scheduled buf 64 w) (v : Vector UInt32 8)
    (i : Fin 64) : toWords (mix w v i) = Fips180.round buf.toList (toWords v) i := by
  have hword : w[i] = Fips180.W buf.toList i := hw i i.isLt i.isLt
  have hk : k[i] = Fips180.K i := get_k i
  have ht1 : v[7] + (ror v[4] 6 ^^^ ror v[4] 11 ^^^ ror v[4] 25)
      + ((v[4] &&& v[5]) ^^^ (~~~v[4] &&& v[6])) + k[i] + w[i]
      = Fips180.T1 buf.toList i (toWords v) := by
    rw [bigSigma1_eq, hk, hword]
    rfl
  have ht2 : (ror v[0] 2 ^^^ ror v[0] 13 ^^^ ror v[0] 22)
      + ((v[0] &&& v[1]) ^^^ (v[0] &&& v[2]) ^^^ (v[1] &&& v[2])) = Fips180.T2 (toWords v) := by
    rw [bigSigma0_eq]
    rfl
  rw [mix, ht1, ht2]
  rfl

theorem toWords_zipWith (h v : Vector UInt32 8) :
    toWords (h.zipWith (· + ·) v) = (toWords v).add (toWords h) := by
  have hget : ∀ i : Fin 8, (h.zipWith (· + ·) v).get i = v.get i + h.get i := by
    intro i
    rw [UInt32.add_comm]
    exact Vector.getElem_zipWith i.isLt
  simp only [toWords, Words.add, hget]

/-- **A block** is compressed. -/
theorem toWords_block (h : Vector UInt32 8) :
    toWords (block h buf) = Fips180.compress (toWords h) buf.toList := by
  have hmixed : toWords (Fin.foldl 64 (mix (words buf)) h)
      = (List.range 64).foldl (Fips180.round buf.toList) (toWords h) := by
    apply Fold.fin_foldl (I := fun t v => toWords v
      = (List.range t).foldl (Fips180.round buf.toList) (toWords h))
    · intro i v hv
      rw [toWords_mix buf (scheduled_words buf), hv, List.range_succ, List.foldl_concat]
    · rfl
  rw [block, toWords_zipWith, hmixed, Fips180.compress]

end Block

/-! ### Feeding -/

section Feeding

variable (s : Sha256)

/-- What the hash keeps: the words and the bytes that are not in them yet. -/
def kept : Words × Bytes := (toWords s.h, s.buf.toList.take s.len)

theorem length_kept : s.kept.2.length = s.len := by
  rw [kept, List.length_take, Vector.length_toList]
  exact Nat.min_eq_left s.len.isLt.le

theorem take_set (buf : Vector UInt8 64) {len : ℕ} (hlen : len < 64) (c : UInt8) :
    (buf.set len c).toList.take (len + 1) = buf.toList.take len ++ [c] := by
  have hlt : len < (buf.toList.set len c).length := by
    rw [List.length_set, Vector.length_toList]
    exact hlen
  rw [Vector.toList_set, List.take_succ_eq_append_getElem hlt, List.getElem_set_self,
    List.take_set_of_le (Nat.le_refl _)]

theorem kept_append (c : UInt8) :
    (s.append c).kept = Blocks.push Fips180.blockBytes Fips180.compress s.kept c := by
  have hset := take_set s.buf s.len.isLt c
  rw [Blocks.push, length_kept, append]
  by_cases hfull : s.len.val + 1 = 64
  · rw [dif_pos hfull, if_pos (show s.len.val + 1 = Fips180.blockBytes from hfull)]
    have hwhole : (s.buf.set s.len c).toList = s.buf.toList.take s.len ++ [c] := by
      rw [← hset, hfull, List.take_of_length_le Vector.length_toList.le]
    rw [kept, toWords_block, hwhole]
    rfl
  · rw [dif_neg hfull, if_neg (show ¬s.len.val + 1 = Fips180.blockBytes from hfull)]
    exact Prod.ext rfl hset

theorem kept_foldl (data : Bytes) :
    (data.foldl append s).kept
      = data.foldl (Blocks.push Fips180.blockBytes Fips180.compress) s.kept := by
  induction data generalizing s with
  | nil => rfl
  | cons c data ih => rw [List.foldl_cons, List.foldl_cons, ih, kept_append]

theorem bits_foldl (data : Bytes) : (data.foldl append s).bits = s.bits := by
  induction data generalizing s with
  | nil => rfl
  | cons c data ih =>
      rw [List.foldl_cons, ih, append]
      split <;> rfl

theorem kept_update (data : Bytes) :
    (s.update data).kept
      = data.foldl (Blocks.push Fips180.blockBytes Fips180.compress) s.kept :=
  kept_foldl _ data

theorem bits_update (data : Bytes) :
    (s.update data).bits = s.bits + UInt64.ofNat data.length * 8 :=
  bits_foldl _ data

/-- The pieces of a message. -/
theorem kept_updates (pieces : List Bytes) :
    (pieces.foldl update s).kept
      = pieces.flatten.foldl (Blocks.push Fips180.blockBytes Fips180.compress) s.kept := by
  induction pieces generalizing s with
  | nil => rfl
  | cons piece pieces ih =>
      rw [List.foldl_cons, ih, kept_update, List.flatten_cons, List.foldl_append]

theorem bits_updates (pieces : List Bytes) :
    (pieces.foldl update s).bits = s.bits + UInt64.ofNat pieces.flatten.length * 8 := by
  induction pieces generalizing s with
  | nil => exact (UInt64.add_zero _).symm
  | cons piece pieces ih =>
      rw [List.foldl_cons, ih, bits_update, List.flatten_cons, List.length_append,
        UInt64.ofNat_add, UInt64.add_mul, UInt64.add_assoc]

end Feeding

/-! ### The end of the message -/

theorem take_write (buf : Vector UInt8 64) {len : ℕ} {bytes : Bytes}
    (hroom : len + bytes.length ≤ 64) :
    (write buf len bytes hroom).toList.take (len + bytes.length)
      = buf.toList.take len ++ bytes := by
  induction bytes generalizing buf len with
  | nil => rw [write, List.length_nil, Nat.add_zero, List.append_nil]
  | cons c bytes ih =>
      rw [List.length_cons] at hroom
      have hrest : len + 1 + bytes.length ≤ 64 := by omega
      have hset := take_set buf (show len < 64 by omega) c
      rw [write, List.length_cons, ← Nat.add_assoc, Nat.add_right_comm, ih _ hrest, hset,
        List.append_assoc, List.singleton_append]

theorem toList_write (buf : Vector UInt8 64) {len : ℕ} {bytes : Bytes}
    (hfull : len + bytes.length = 64) :
    (write buf len bytes hfull.le).toList = buf.toList.take len ++ bytes := by
  have hall := take_write buf hfull.le
  rwa [List.take_of_length_le (by rw [Vector.length_toList, hfull])] at hall

theorem lengthBytes_eq (bits : UInt64) : lengthBytes bits = Fips180.bigEndian 8 bits.toNat := by
  have hmask : (0xFF : UInt64).toNat = 2 ^ 8 - 1 := rfl
  have hbyte : ∀ shift : UInt64, shift.toNat < 64 →
      ((bits >>> shift) &&& 0xFF).toUInt8 = UInt8.ofNat (bits.toNat / 2 ^ shift.toNat % 256) := by
    intro shift hshift
    apply UInt8.toNat_inj.mp
    rw [UInt64.toNat_toUInt8, UInt64.toNat_and, UInt64.toNat_shiftRight, hmask,
      Nat.and_two_pow_sub_one_eq_mod, Nat.mod_eq_of_lt hshift, Nat.shiftRight_eq_div_pow,
      UInt8.toNat_ofNat']
  simp only [lengthBytes, Fips180.bigEndian, Positional.digits, List.map_cons, List.map_nil,
    List.nil_append, List.cons_append, Nat.div_div_eq_div_mul, Nat.reduceMul]
  rw [hbyte _ (by decide), hbyte _ (by decide), hbyte _ (by decide), hbyte _ (by decide),
    hbyte _ (by decide), hbyte _ (by decide), hbyte _ (by decide), hbyte _ (by decide)]
  simp

theorem wordBytes_eq (word : UInt32) :
    [(word >>> 24).toUInt8, (word >>> 16).toUInt8, (word >>> 8).toUInt8, word.toUInt8]
      = Fips180.bigEndian 4 word.toNat := by
  have hbyte : ∀ shift : UInt32, shift.toNat < 32 →
      (word >>> shift).toUInt8 = UInt8.ofNat (word.toNat / 2 ^ shift.toNat % 256) := by
    intro shift hshift
    apply UInt8.toNat_inj.mp
    rw [UInt32.toNat_toUInt8, UInt32.toNat_shiftRight, Nat.mod_eq_of_lt hshift,
      Nat.shiftRight_eq_div_pow, UInt8.toNat_ofNat', Nat.mod_mod]
  have hlast : word.toUInt8 = UInt8.ofNat (word.toNat % 256) := by
    apply UInt8.toNat_inj.mp
    rw [UInt32.toNat_toUInt8, UInt8.toNat_ofNat', Nat.mod_mod]
  simp only [Fips180.bigEndian, Positional.digits, List.map_cons, List.map_nil,
    List.nil_append, List.cons_append, Nat.div_div_eq_div_mul, Nat.reduceMul]
  rw [hbyte _ (by decide), hbyte _ (by decide), hbyte _ (by decide), hlast]
  rfl

theorem toList_toWords (v : Vector UInt32 8) : (toWords v).toList = v.toList := by
  obtain ⟨⟨words⟩, hsize⟩ := v
  match words, hsize with
  | [a, b, c, d, e, f, g, h], _ => rfl

theorem finish_eq (s : Sha256) :
    s.finish = (toWords s.finalHash).toList.flatMap fun word => Fips180.bigEndian 4 word.toNat := by
  rw [finish, toList_toWords]
  simp only [wordBytes_eq]

/-- What is written behind a block that has room for the length. -/
theorem toWords_lastBlock (h : Vector UInt32 8) (buf : Vector UInt8 64) (len : Fin 57)
    (bits : UInt64) (hzeros : len + (List.replicate (56 - len.val) (0 : UInt8)).length ≤ 64) :
    toWords (block h (write (write buf len (List.replicate (56 - len.val) 0) hzeros) 56
        (lengthBytes bits) (Nat.le_refl 64)))
      = Fips180.compress (toWords h) (buf.toList.take len ++ List.replicate (56 - len.val) 0
        ++ Fips180.bigEndian 8 bits.toNat) := by
  have hlen := len.isLt
  have htake := take_write buf hzeros
  rw [List.length_replicate, Nat.add_sub_cancel' (by omega)] at htake
  rw [toWords_block, toList_write _ (by rfl), htake, lengthBytes_eq]

/-- A whole block is worth one step. -/
theorem fold_block {block : Bytes} (h : block.length = Fips180.blockBytes) (H : Words) :
    Blocks.fold Fips180.blockBytes Fips180.compress H block = Fips180.compress H block := by
  have hfold : Blocks.fold Fips180.blockBytes Fips180.compress H (block ++ [])
      = Blocks.fold Fips180.blockBytes Fips180.compress (Fips180.compress H block) [] :=
    Blocks.fold_block_append (by decide) h H []
  rw [List.append_nil] at hfold
  exact hfold.trans (Blocks.fold_of_lt (by decide) _)

/-- How many zeros stand behind `len` bytes, the length being the next eight. -/
def zerosBehind (len : ℕ) : ℕ := if len > 56 then 64 - len + 56 else 56 - len

theorem zerosBehind_eq (length : ℕ) : zerosBehind (length % 64 + 1) = Fips180.zeros length := by
  rw [zerosBehind, Fips180.zeros, Fips180.blockBytes]
  split <;> omega

/-- One block or two: the bytes in the buffer, the zeros and the length. -/
theorem fold_closeBlock (h : Vector UInt32 8) (buf : Vector UInt8 64) {len : ℕ} (hlen : len ≤ 64)
    {tail : Bytes} (htail : tail.length = 8) :
    Fips180.compress (toWords (closeBlock h buf len hlen).1)
        ((closeBlock h buf len hlen).2.1.toList.take (closeBlock h buf len hlen).2.2
          ++ List.replicate (56 - (closeBlock h buf len hlen).2.2.val) 0 ++ tail)
      = Blocks.fold Fips180.blockBytes Fips180.compress (toWords h)
        (buf.toList.take len ++ (List.replicate (zerosBehind len) 0 ++ tail)) := by
  have htake : (buf.toList.take len).length = len := by
    rw [List.length_take, Vector.length_toList, Nat.min_eq_left hlen]
  rw [closeBlock, zerosBehind]
  by_cases hlong : len > 56
  · have hfirst : (buf.toList.take len ++ List.replicate (64 - len) 0).length
        = Fips180.blockBytes := by
      rw [List.length_append, htake, List.length_replicate, Fips180.blockBytes]
      omega
    have hsecond : (List.replicate 56 0 ++ tail).length = Fips180.blockBytes := by
      rw [List.length_append, List.length_replicate, htail, Fips180.blockBytes]
    have hsplit : buf.toList.take len ++ (List.replicate (64 - len + 56) 0 ++ tail)
        = (buf.toList.take len ++ List.replicate (64 - len) 0)
          ++ (List.replicate 56 0 ++ tail) := by
      rw [List.replicate_add]
      simp only [List.append_assoc]
    rw [dif_pos hlong, if_pos hlong, hsplit, Blocks.fold_block_append (by decide) hfirst,
      fold_block hsecond, toWords_block, toList_write _ (by rw [List.length_replicate]; omega)]
    rfl
  · have hwhole : (buf.toList.take len ++ (List.replicate (56 - len) 0 ++ tail)).length
        = Fips180.blockBytes := by
      rw [List.length_append, List.length_append, htake, List.length_replicate, htail,
        Fips180.blockBytes]
      omega
    rw [dif_neg hlong, if_neg hlong, fold_block hwhole, List.append_assoc]

theorem toWords_finalHash (s : Sha256) {length : ℕ} (hlen : s.len.val = length % 64)
    (hbits : s.bits.toNat = 8 * length) :
    toWords s.finalHash
      = Blocks.fold Fips180.blockBytes Fips180.compress s.kept.1
        (s.kept.2 ++ Fips180.padding length) := by
  have hpadding : s.kept.2 ++ Fips180.padding length
      = (s.buf.set s.len 0x80).toList.take (s.len + 1)
        ++ (List.replicate (zerosBehind (s.len + 1)) 0
          ++ Fips180.bigEndian 8 (8 * length)) := by
    rw [take_set s.buf s.len.isLt, hlen, zerosBehind_eq, Fips180.padding, kept, hlen]
    simp only [List.append_assoc, List.cons_append, List.nil_append]
  rw [hpadding, kept, ← fold_closeBlock _ _ s.len.isLt (Fips180.length_bigEndian 8 _), ← hbits]
  exact toWords_lastBlock _ _ _ _ _

/-- A message in pieces. -/
theorem finish_of_flatten (message : Bytes) (hlength : message.length < 2 ^ 61) (pieces : List Bytes)
    (hpieces : pieces.flatten = message) :
    (pieces.foldl update ({} : Sha256)).finish = Fips180.digest message := by
  have hstart : ({} : Sha256).kept = (Fips180.initialHash, []) :=
    Prod.ext toWords_initial rfl
  have hkept := kept_updates {} pieces
  rw [hstart, hpieces] at hkept
  have hempty : (Fips180.initialHash, ([] : Bytes)).2.length < Fips180.blockBytes := by decide
  obtain ⟨-, hfold⟩ := Blocks.fold_feed hempty message (Fips180.padding message.length)
  rw [← hkept] at hfold
  have hlen : (pieces.foldl update ({} : Sha256)).len.val = message.length % 64 := by
    rw [← length_kept, hkept, Blocks.length_feed hempty, List.length_nil, Nat.zero_add]
    rfl
  have hbits : (pieces.foldl update ({} : Sha256)).bits.toNat = 8 * message.length := by
    rw [bits_updates, hpieces]
    change (0 + UInt64.ofNat message.length * 8).toNat = _
    rw [UInt64.zero_add, UInt64.toNat_mul, UInt64.toNat_ofNat']
    simp only [UInt64.reduceToNat]
    omega
  rw [finish_eq, toWords_finalHash _ hlen hbits, hfold]
  rfl

/-- **SHA-256.** However a message is cut into pieces, the digest is that of the standard. -/
theorem finish_updates (message : Bytes) (hlength : message.length < 2 ^ 61) :
    (∀ pieces : List Bytes, pieces.flatten = message →
        (pieces.foldl update ({} : Sha256)).finish = Fips180.digest message)
      ∧ sha256 message = Fips180.digest message :=
  ⟨fun pieces hpieces => finish_of_flatten message hlength pieces hpieces,
    finish_of_flatten message hlength [message] (List.append_nil message)⟩

theorem finish_updates_snapshot :
    ([str "snap", str "shot"].foldl update ({} : Sha256)).finish = Fips180.digest (str "snapshot")
      ∧ sha256 (str "snapshot") = Fips180.digest (str "snapshot") := by
  obtain ⟨hpieces, hwhole⟩ := finish_updates (str "snapshot") (by decide)
  exact ⟨hpieces [str "snap", str "shot"] (by decide), hwhole⟩

end ContextSnap.Privacy.Sha256
