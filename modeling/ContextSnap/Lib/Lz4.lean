import ContextSnap.Lib.Buffer

/-!
# The LZ4 block format

A block is a list of sequences and the literals behind the last of them. A sequence appends its
literals to the output and then a match, the last `offset` bytes of the output over and over again
until the match is long enough.
-/

namespace ContextSnap.Lz4

open Buffer

/-! ### Periodic continuation -/

section Repeated

variable {α : Type} {period : List α} {n i : Nat}

/-- The first `n` elements of `period` repeated for ever. -/
def repeated (period : List α) (n : Nat) : List α := (List.replicate n period).flatten.take n

theorem getElem?_flatten_replicate (h : i < n * period.length) :
    (List.replicate n period).flatten[i]? = period[i % period.length]? := by
  induction n generalizing i with
  | zero => simp at h
  | succ n ih =>
      rw [List.replicate_succ, List.flatten_cons]
      by_cases hfirst : i < period.length
      · rw [List.getElem?_append_left hfirst, Nat.mod_eq_of_lt hfirst]
      · rw [Nat.succ_mul] at h
        rw [List.getElem?_append_right (by omega), ih (by omega),
          ← Nat.mod_eq_sub_mod (Nat.not_lt.mp hfirst)]

theorem length_repeated (h : period ≠ []) (n : Nat) : (repeated period n).length = n := by
  have hpos := List.length_pos_iff.mpr h
  rw [repeated, List.length_take_of_le]
  rw [List.length_flatten, List.map_replicate, List.sum_replicate, smul_eq_mul]
  exact Nat.le_mul_of_pos_right n hpos

theorem getElem?_repeated (h : i < n) (hperiod : period ≠ []) :
    (repeated period n)[i]? = period[i % period.length]? := by
  have hpos := List.length_pos_iff.mpr hperiod
  have hroom : i < n * period.length := Nat.lt_of_lt_of_le h (Nat.le_mul_of_pos_right n hpos)
  rw [repeated, List.getElem?_take_of_lt h, getElem?_flatten_replicate hroom]

theorem repeated_succ (hperiod : period ≠ []) (n : Nat) :
    repeated period (n + 1) = repeated period n ++ (period[n % period.length]?).toList := by
  have hpos := List.length_pos_iff.mpr hperiod
  have hlt : n % period.length < period.length := Nat.mod_lt n hpos
  apply List.ext_getElem?
  intro i
  rcases Nat.lt_trichotomy i n with hi | rfl | hi
  · rw [getElem?_repeated (by omega) hperiod,
      List.getElem?_append_left (by rw [length_repeated hperiod]; exact hi),
      getElem?_repeated hi hperiod]
  · rw [getElem?_repeated (by omega) hperiod,
      List.getElem?_append_right (by rw [length_repeated hperiod]), length_repeated hperiod]
    simp [List.getElem?_eq_getElem hlt]
  · rw [List.getElem?_eq_none (by rw [length_repeated hperiod]; omega), List.getElem?_eq_none]
    rw [List.length_append, length_repeated hperiod, List.getElem?_eq_getElem hlt]
    simp
    omega

/-- Behind a text and a continuation of its end with a period, the period goes on. -/
theorem getElem?_append_repeated {out : List α} {start : Nat} (h : start < out.length) (n : Nat) :
    (out ++ repeated (out.drop start) n)[start + n]?
      = (out.drop start)[n % (out.drop start).length]? := by
  have hlength : (out.drop start).length = out.length - start := List.length_drop
  have hperiod : out.drop start ≠ [] := by
    rw [← List.length_pos_iff]
    omega
  by_cases hinside : start + n < out.length
  · rw [List.getElem?_append_left hinside, List.getElem?_drop, Nat.mod_eq_of_lt (by omega)]
  · rw [List.getElem?_append_right (by omega), getElem?_repeated (by omega) hperiod,
      show start + n - out.length = n - (out.drop start).length by omega,
      ← Nat.mod_eq_sub_mod (by omega)]

end Repeated

/-! ### Sequences -/

structure Sequence where
  literals : Bytes
  offset : Nat
  matchLength : Nat
  deriving DecidableEq

def Sequence.expand (out : Bytes) (sequence : Sequence) : Bytes :=
  let out := out ++ sequence.literals
  out ++ repeated (out.drop (out.length - sequence.offset)) sequence.matchLength

/-- The offset is not zero and no larger than the output is by then. -/
structure Sequence.Valid (out : Bytes) (sequence : Sequence) : Prop where
  positive : 1 ≤ sequence.offset
  bounded : sequence.offset ≤ 65535
  reaches : sequence.offset ≤ (out ++ sequence.literals).length
  minimal : 4 ≤ sequence.matchLength

def Valid : Bytes → List Sequence → Prop
  | _, [] => True
  | out, sequence :: sequences => sequence.Valid out ∧ Valid (sequence.expand out) sequences

def expand (sequences : List Sequence) (last : Bytes) : Bytes :=
  sequences.foldl Sequence.expand [] ++ last

/-! ### The encoding -/

/-- The two lengths of a sequence, as far as they fit in four bits. -/
def token (literals matched : Nat) : UInt8 := (16 * min literals 15 + min matched 15).toUInt8

/-- What is left of a length that does not fit. -/
def extension (length : Nat) : Bytes :=
  if length < 15 then []
  else List.replicate ((length - 15) / 255) 255 ++ [((length - 15) % 255).toUInt8]

def encodeLiterals (literals : Bytes) (matched : Nat) : Bytes :=
  token literals.length matched :: (extension literals.length ++ literals)

def Sequence.encode (sequence : Sequence) : Bytes :=
  encodeLiterals sequence.literals (sequence.matchLength - 4)
    ++ (bytes16 sequence.offset ++ extension (sequence.matchLength - 4))

def encodeSequences (sequences : List Sequence) : Bytes := sequences.flatMap Sequence.encode

def encode (sequences : List Sequence) (last : Bytes) : Bytes :=
  encodeSequences sequences ++ encodeLiterals last 0

theorem token_shiftRight (literals matched : Nat) :
    (token literals matched >>> 4).toNat = min literals 15 := by
  have hshift : (4 : UInt8).toNat % 8 = 4 := rfl
  rw [UInt8.toNat_shiftRight, hshift, Nat.shiftRight_eq_div_pow]
  simp only [token, Nat.toUInt8_eq, UInt8.toNat_ofNat']
  omega

theorem token_and (literals matched : Nat) :
    (token literals matched &&& 0x0F).toNat = min matched 15 := by
  have hmask : (0x0F : UInt8).toNat = 2 ^ 4 - 1 := rfl
  rw [UInt8.toNat_and, hmask, Nat.and_two_pow_sub_one_eq_mod]
  simp only [token, Nat.toUInt8_eq, UInt8.toNat_ofNat']
  omega

theorem extension_of_lt {length : Nat} (h : length < 15) : extension length = [] := if_pos h

theorem extension_of_le {length : Nat} (h : 15 ≤ length) :
    extension length
      = List.replicate ((length - 15) / 255) 255 ++ [((length - 15) % 255).toUInt8] :=
  if_neg (Nat.not_lt.mpr h)

/-! ### What is no block -/

/-- Input that ends too early or leads out of the output, when `out` is what came of the sequences
before it. -/
inductive Malformed (out : Bytes) : Bytes → Prop
  | literalLength {literals matched : Nat} (extra : Nat) (h : 15 ≤ literals) :
      Malformed out (token literals matched :: List.replicate extra 255)
  | literalRun {literals : Bytes} {length matched : Nat} (h : literals.length < length) :
      Malformed out (token length matched :: (extension length ++ literals))
  | offsetField (literals : Bytes) (matched : Nat) (low : UInt8) :
      Malformed out (encodeLiterals literals matched ++ [low])
  | offset {literals : Bytes} {matched : Nat} {low high : UInt8} {rest : Bytes}
      (h : littleEndian16 low high = 0 ∨ (out ++ literals).length < littleEndian16 low high) :
      Malformed out (encodeLiterals literals matched ++ low :: high :: rest)
  | matchLength {literals : Bytes} {matched : Nat} {low high : UInt8} (extra : Nat)
      (h : 15 ≤ matched) :
      Malformed out
        (encodeLiterals literals matched ++ low :: high :: List.replicate extra 255)

/-! ### Every input -/

/-- Every byte is the token of lengths whose four bits it has. -/
theorem eq_token {code : UInt8} {literals matched : Nat}
    (hliterals : min literals 15 = code.toNat / 16) (hmatched : min matched 15 = code.toNat % 16) : code = token literals matched := by
  have hcode := code.toNat_lt
  rw [← UInt8.toNat_inj, token, hliterals, hmatched]
  simp only [Nat.toUInt8_eq, UInt8.toNat_ofNat']
  omega

theorem full_cases (bytes : Bytes) :
    (∃ extra, bytes = List.replicate extra 255) ∨
      ∃ extra last rest, last ≠ 255 ∧ bytes = List.replicate extra 255 ++ last :: rest := by
  induction bytes with
  | nil => exact .inl ⟨0, rfl⟩
  | cons byte bytes ih =>
      by_cases hfull : byte = 255
      · subst hfull
        obtain ⟨extra, rfl⟩ | ⟨extra, last, rest, hlast, rfl⟩ := ih
        · exact .inl ⟨extra + 1, List.replicate_succ.symm⟩
        · exact .inr ⟨extra + 1, last, rest, hlast, by rw [List.replicate_succ, List.cons_append]⟩
      · exact .inr ⟨0, byte, bytes, hfull, rfl⟩

/-- Behind four bits of a length there is its extension, unless the input ends in it. -/
theorem extension_cases {nibble : Nat} (hnibble : nibble ≤ 15) (bytes : Bytes) :
    (nibble = 15 ∧ ∃ extra, bytes = List.replicate extra 255) ∨
      ∃ length rest, min length 15 = nibble ∧ bytes = extension length ++ rest := by
  by_cases hshort : nibble < 15
  · exact .inr ⟨nibble, bytes, by omega, by rw [extension_of_lt hshort, List.nil_append]⟩
  · obtain ⟨extra, rfl⟩ | ⟨extra, last, rest, hlast, rfl⟩ := full_cases bytes
    · exact .inl ⟨by omega, extra, rfl⟩
    · have hlt : last.toNat < 255 := by
        have hbyte := last.toNat_lt
        have hne : last.toNat ≠ 255 := fun h => hlast (UInt8.toNat_inj.mp h)
        omega
      refine .inr ⟨15 + 255 * extra + last.toNat, rest, by omega, ?_⟩
      have hdiv : (15 + 255 * extra + last.toNat - 15) / 255 = extra := by omega
      have hmod : (15 + 255 * extra + last.toNat - 15) % 255 = last.toNat := by omega
      rw [extension_of_le (by omega), hdiv, hmod, List.append_assoc, List.singleton_append,
        Nat.toUInt8_eq, UInt8.ofNat_toNat]

theorem front_cases (out : Bytes) (code : UInt8) (bytes : Bytes) :
    Malformed out (code :: bytes) ∨
      (∃ last matched, code :: bytes = encodeLiterals last matched) ∨
      ∃ (sequence : Sequence) (rest : Bytes), sequence.Valid out ∧
        code :: bytes = sequence.encode ++ rest := by
  have hcode := code.toNat_lt
  have hhigh : code.toNat / 16 ≤ 15 := by omega
  have hlow : code.toNat % 16 ≤ 15 := by omega
  obtain ⟨hfull, extra, rfl⟩ | ⟨length, run, hlength, rfl⟩ := extension_cases hhigh bytes
  · have htoken : code = token 15 (code.toNat % 16) := eq_token (by omega) (by omega)
    rw [htoken]
    exact .inl (.literalLength extra (Nat.le_refl 15))
  by_cases hrun : run.length < length
  · have htoken : code = token length (code.toNat % 16) := eq_token hlength (by omega)
    rw [htoken]
    exact .inl (.literalRun hrun)
  obtain ⟨literals, back, rfl, rfl⟩ : ∃ literals back, length = literals.length ∧
      run = literals ++ back :=
    ⟨run.take length, run.drop length, (List.length_take_of_le (by omega)).symm,
      (List.take_append_drop length run).symm⟩
  match back with
  | [] =>
      have htoken : code = token literals.length (code.toNat % 16) := eq_token hlength (by omega)
      rw [htoken, List.append_nil]
      exact .inr (.inl ⟨literals, _, rfl⟩)
  | [low] =>
      have htoken : code = token literals.length (code.toNat % 16) := eq_token hlength (by omega)
      rw [htoken, ← List.append_assoc, ← List.cons_append]
      exact .inl (.offsetField literals _ low)
  | low :: high :: more =>
      by_cases hoffset : littleEndian16 low high = 0 ∨
          (out ++ literals).length < littleEndian16 low high
      · have htoken : code = token literals.length (code.toNat % 16) := eq_token hlength (by omega)
        rw [htoken, ← List.append_assoc, ← List.cons_append]
        exact .inl (.offset hoffset)
      obtain ⟨hfull, extra, rfl⟩ | ⟨matched, rest, hmatched, rfl⟩ := extension_cases hlow more
      · have htoken : code = token literals.length 15 := eq_token hlength (by omega)
        rw [htoken, ← List.append_assoc, ← List.cons_append]
        exact .inl (.matchLength extra (Nat.le_refl 15))
      · have hbytes := bytes16_littleEndian16 low high
        have hbounded : littleEndian16 low high ≤ 65535 := by
          have hlowByte := low.toNat_lt
          have hhighByte := high.toNat_lt
          rw [littleEndian16_eq]
          omega
        refine .inr (.inr ⟨⟨literals, littleEndian16 low high, matched + 4⟩, rest,
          ⟨by simp only; omega, hbounded, by simp only; omega, Nat.le_add_left 4 matched⟩, ?_⟩)
        rw [eq_token hlength hmatched, Sequence.encode, encodeLiterals, hbytes]
        simp

/-- **The format.** Every input is a list of valid sequences and then nothing, last literals, or
what is malformed there. -/
theorem input_cases (out input : Bytes) :
    ∃ sequences rest, Valid out sequences ∧ input = encodeSequences sequences ++ rest ∧
      (rest = [] ∨ (∃ last matched, rest = encodeLiterals last matched) ∨
        Malformed (sequences.foldl Sequence.expand out) rest) := by
  induction hlength : input.length using Nat.strong_induction_on generalizing input out with
  | _ length ih =>
      subst hlength
      cases input with
      | nil => exact ⟨[], [], trivial, rfl, .inl rfl⟩
      | cons code bytes =>
          obtain hbad | hlast | ⟨sequence, rest, hvalid, hinput⟩ := front_cases out code bytes
          · exact ⟨[], _, trivial, rfl, .inr (.inr hbad)⟩
          · exact ⟨[], _, trivial, rfl, .inr (.inl hlast)⟩
          · have hshorter : rest.length < (code :: bytes).length := by
              rw [hinput, Sequence.encode, encodeLiterals]
              simp only [List.length_append, List.length_cons]
              omega
            obtain ⟨sequences, tail, hrest, rfl, hcases⟩ :=
              ih rest.length hshorter (sequence.expand out) rest rfl
            refine ⟨sequence :: sequences, tail, ⟨hvalid, hrest⟩, ?_, hcases⟩
            rw [hinput, encodeSequences, encodeSequences, List.flatMap_cons, List.append_assoc]

end ContextSnap.Lz4
