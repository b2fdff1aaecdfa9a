import ContextSnap.Browser.SessionFirefox
import ContextSnap.Lib.Lz4

/-!
# The block decoder

The decoder walks over the encoding sequence by sequence, and its output is the expansion of what it
has passed. The copy of a match is the periodic continuation of the output, as every byte it reads
is there when it is read. Whatever the input, no read is out of range, and what is malformed is
rejected.
-/

namespace ContextSnap.Browser.Session

open Buffer Lz4

/-! ### Lengths -/

section Lengths

variable {input front back : Bytes} {position length : Nat}

theorem extendLengthBody_cases (input : Bytes) (position length : Nat) :
    (input.length ≤ position ∧ extendLengthBody input (position, length) = .ok (.inr none)) ∨
      position < input.length ∧
        ((∃ length', extendLengthBody input (position, length)
            = .ok (.inl (position + 1, length'))) ∨
          ∃ length', extendLengthBody input (position, length)
            = .ok (.inr (some (position + 1, length')))) := by
  by_cases hend : position ≥ input.length
  · left
    refine ⟨hend, ?_⟩
    rw [extendLengthBody, if_pos hend]
    rfl
  · right
    refine ⟨by omega, ?_⟩
    rw [extendLengthBody, if_neg hend, read_of_lt (by omega)]
    simp only [bind, Except.bind, pure, Except.pure]
    split
    · exact .inl ⟨_, rfl⟩
    · exact .inr ⟨_, rfl⟩

def ahead {α : Type} (input : Bytes) (state : Nat × α) : Nat := input.length - state.1

theorem extendLengthBody_isOk (input : Bytes) (state : Nat × Nat) :
    ∃ next, extendLengthBody input state = .ok next := by
  obtain ⟨-, h⟩ | ⟨-, ⟨length', h⟩ | ⟨length', h⟩⟩ :=
    extendLengthBody_cases input state.1 state.2 <;> exact ⟨_, h⟩

theorem extendLengthBody_moves {state next : Nat × Nat}
    (h : extendLengthBody input state = .ok (.inl next)) : ahead input next < ahead input state := by
  obtain ⟨-, hbody⟩ | ⟨hlt, ⟨length', hbody⟩ | ⟨length', hbody⟩⟩ :=
    extendLengthBody_cases input state.1 state.2
  · rw [hbody] at h
    cases h
  · rw [hbody] at h
    cases h
    simp only [ahead]
    omega
  · rw [hbody] at h
    cases h

theorem extendLengthBody_full (hinput : input = front ++ 255 :: back) :
    extendLengthBody input (front.length, length)
      = .ok (.inl ((front ++ [255]).length, length + 255)) := by
  have hlt : front.length < input.length := by
    rw [hinput, List.length_append, List.length_cons]
    omega
  have hread : read input front.length = .ok 255 := by
    rw [hinput, read_append_length]
  rw [extendLengthBody, if_neg (by omega), hread]
  simp [bind, Except.bind, pure, Except.pure]

theorem extendLengthBody_last {extra : UInt8} (length : Nat) (hextra : extra ≠ 255)
    (hinput : input = front ++ extra :: back) :
    extendLengthBody input (front.length, length)
      = .ok (.inr (some (front.length + 1, length + extra.toNat))) := by
  have hlt : front.length < input.length := by
    rw [hinput, List.length_append, List.length_cons]
    omega
  have hread : read input front.length = .ok extra := by
    rw [hinput, read_append_length]
  rw [extendLengthBody, if_neg (by omega), hread]
  simp [bind, Except.bind, pure, Except.pure, hextra]

/-- The loop over bytes of 255, as the loop over what follows them. -/
theorem returns_extendLengthBody (full : Nat) {rounds : Nat} {result : Option (Nat × Nat)}
    (hinput : input = front ++ (List.replicate full 255 ++ back))
    (hrest : Loop.Returns (extendLengthBody input) rounds
      (front.length + full, length + 255 * full) result) :
    Loop.Returns (extendLengthBody input) (rounds + full) (front.length, length) result := by
  induction full generalizing front length with
  | zero => simpa using hrest
  | succ full ih =>
      rw [List.replicate_succ, List.cons_append] at hinput
      refine Loop.Returns.again (extendLengthBody_full hinput) (ih ?_ ?_)
      · rw [hinput, List.append_assoc, List.singleton_append]
      · rw [List.length_append, List.length_singleton]
        convert hrest using 2 <;> omega

theorem extendLength_eq {result : Option (Nat × Nat)} {rounds nibble : Nat} (hnibble : nibble = 15)
    (h : Loop.Returns (extendLengthBody input) rounds (position, nibble) result) :
    extendLength input position nibble = .ok result := by
  rw [extendLength, if_pos hnibble]
  exact h.run_of_lt (fun _ _ => extendLengthBody_moves)
    (Nat.lt_succ_self (ahead input (position, nibble)))

/-- A length is read back from its four bits and its extension. -/
theorem extendLength_extension (length : Nat)
    (hinput : input = front ++ (extension length ++ back)) :
    extendLength input front.length (min length 15)
      = .ok (some ((front ++ extension length).length, length)) := by
  by_cases hshort : length < 15
  · rw [extendLength, if_neg (by omega), extension_of_lt hshort, List.append_nil,
      Nat.min_eq_left (by omega)]
    rfl
  · rw [extension_of_le (by omega), List.append_assoc] at hinput
    have hsmall : (length - 15) % 255 < 255 := Nat.mod_lt _ (by decide)
    have hextra : ((length - 15) % 255).toUInt8.toNat = (length - 15) % 255 := by
      simp only [Nat.toUInt8_eq, UInt8.toNat_ofNat']
      omega
    have hne : ((length - 15) % 255).toUInt8 ≠ 255 := by
      intro h
      rw [h] at hextra
      simp at hextra
      omega
    have hlast : Loop.Returns (extendLengthBody input) 0
        (front.length + (length - 15) / 255, min length 15 + 255 * ((length - 15) / 255))
        (some ((front ++ extension length).length, length)) := by
      have hsplit : input = front ++ List.replicate ((length - 15) / 255) 255
          ++ ((length - 15) % 255).toUInt8 :: back := by
        rw [hinput, List.append_assoc, List.singleton_append]
      have hbody := extendLengthBody_last (min length 15 + 255 * ((length - 15) / 255)) hne hsplit
      rw [List.length_append, List.length_replicate] at hbody
      refine Loop.Returns.done (hbody.trans ?_) 0
      rw [extension_of_le (by omega), hextra]
      simp only [List.length_append, List.length_replicate, List.length_singleton]
      congr 4
      omega
    exact extendLength_eq (by omega) (returns_extendLengthBody _ hinput hlast)

theorem extendLength_truncated (extra : Nat) (hinput : input = front ++ List.replicate extra 255) :
    extendLength input front.length 15 = .ok none := by
  have hlast : Loop.Returns (extendLengthBody input) 0 (front.length + extra, 15 + 255 * extra)
      none := by
    refine Loop.Returns.done ?_ 0
    rw [extendLengthBody, if_pos (by simp [hinput])]
    rfl
  have hsplit : input = front ++ (List.replicate extra 255 ++ []) := by
    rw [hinput, List.append_nil]
  exact extendLength_eq rfl (returns_extendLengthBody extra hsplit hlast)

theorem extendLength_isOk (input : Bytes) (position nibble : Nat) :
    ∃ result, extendLength input position nibble = .ok result := by
  rw [extendLength]
  split
  · exact Loop.run_isOk (fun _ _ => extendLengthBody_moves) (extendLengthBody_isOk input)
      (Nat.lt_succ_self (ahead input (position, nibble)))
  · exact ⟨_, rfl⟩

theorem le_of_extendLength {position' nibble : Nat}
    (h : extendLength input position nibble = .ok (some (position', length))) :
    position ≤ position' := by
  rw [extendLength] at h
  split at h
  next =>
    refine Loop.run_ok (P := fun state result => ∀ position' length,
      result = some (position', length) → state.1 ≤ position') ?_ ?_ h position' length rfl
    · rintro ⟨at_, soFar⟩ result hbody position' length rfl
      obtain ⟨-, hcase⟩ | ⟨-, ⟨length', hcase⟩ | ⟨length', hcase⟩⟩ :=
        extendLengthBody_cases input at_ soFar
      · rw [hcase] at hbody
        cases hbody
      · rw [hcase] at hbody
        cases hbody
      · rw [hcase] at hbody
        cases hbody
        simp
    · rintro ⟨at_, soFar⟩ ⟨next, soFar'⟩ result hbody hnext position' length hresult
      have hle := hnext position' length hresult
      obtain ⟨-, hcase⟩ | ⟨-, ⟨length', hcase⟩ | ⟨length', hcase⟩⟩ :=
        extendLengthBody_cases input at_ soFar
      · rw [hcase] at hbody
        cases hbody
      · rw [hcase] at hbody
        cases hbody
        simp only at hle ⊢
        omega
      · rw [hcase] at hbody
        cases hbody
  next =>
    cases h
    exact Nat.le_refl _

end Lengths

/-! ### Matches -/

/-- The copy of a match continues the last `offset` bytes periodically. -/
theorem copyMatch_eq {out : Bytes} {offset : Nat} (hpositive : 1 ≤ offset)
    (hreaches : offset ≤ out.length) (length : Nat) :
    copyMatch out offset length
      = .ok (out ++ repeated (out.drop (out.length - offset)) length) := by
  rw [copyMatch]
  induction length with
  | zero => simp [repeated, pure, Except.pure]
  | succ length ih =>
      have hlt : out.length - offset < out.length := by omega
      have hlast := getElem?_append_repeated hlt length
      have hindex : length % (out.drop (out.length - offset)).length
          < (out.drop (out.length - offset)).length :=
        Nat.mod_lt _ (by rw [List.length_drop]; omega)
      have hne : out.drop (out.length - offset) ≠ [] := List.ne_nil_of_length_pos (by omega)
      rw [List.getElem?_eq_getElem hindex] at hlast
      rw [List.range_succ, List.foldlM_append, ih, repeated_succ hne,
        List.getElem?_eq_getElem hindex]
      simp only [bind, Except.bind, List.foldlM_cons, List.foldlM_nil, read_eq_ok.mpr hlast, pure,
        Except.pure, List.append_assoc, Option.toList_some]

theorem decompressMatch_cases (input : Bytes) (token : UInt8) (position : Nat) (out : Bytes) :
    (∃ result, decompressMatch input token position out = .ok (.inr result)) ∨
      ∃ position' out', decompressMatch input token position out = .ok (.inl (position', out')) ∧
        position < position' := by
  rw [decompressMatch]
  by_cases hlast : position = input.length
  · rw [if_pos hlast]
    exact .inl ⟨_, rfl⟩
  by_cases hshort : position + 2 > input.length
  · rw [if_neg hlast, if_pos hshort]
    exact .inl ⟨_, rfl⟩
  rw [if_neg hlast, if_neg hshort, read_of_lt (by omega), read_of_lt (by omega)]
  simp only [bind, Except.bind, pure, Except.pure]
  generalize littleEndian16 input[position] input[position + 1] = offset
  by_cases hoffset : offset = 0 ∨ offset > out.length
  · rw [if_pos hoffset]
    exact .inl ⟨_, rfl⟩
  rw [if_neg hoffset]
  obtain ⟨found, hfound⟩ := extendLength_isOk input (position + 2) (token &&& 0x0F).toNat
  rw [hfound]
  cases found with
  | none => exact .inl ⟨_, rfl⟩
  | some found =>
      have hle := le_of_extendLength hfound
      simp only
      rw [copyMatch_eq (by omega) (by omega)]
      exact .inr ⟨_, _, rfl, by omega⟩

/-! ### Rounds -/

section Round

variable {input front back out : Bytes} {matched : Nat}

theorem lz4BlockDecompressBody_cases (input : Bytes) (position : Nat) (out : Bytes) :
    (∃ result, lz4BlockDecompressBody input (position, out) = .ok (.inr result)) ∨
      position < input.length ∧ ∃ position' out', position < position' ∧
        lz4BlockDecompressBody input (position, out) = .ok (.inl (position', out')) := by
  rw [lz4BlockDecompressBody]
  by_cases hmore : position < input.length
  swap
  · rw [if_neg hmore]
    exact .inl ⟨_, rfl⟩
  rw [if_pos hmore, read_of_lt hmore]
  simp only [bind, Except.bind, pure, Except.pure]
  obtain ⟨found, hfound⟩ := extendLength_isOk input (position + 1) (input[position] >>> 4).toNat
  rw [hfound]
  cases found with
  | none => exact .inl ⟨_, rfl⟩
  | some found =>
      have hle := le_of_extendLength hfound
      simp only
      by_cases hlong : found.1 + found.2 > input.length
      · rw [if_pos hlong]
        exact .inl ⟨_, rfl⟩
      rw [if_neg hlong, readMany_of_le (by omega)]
      simp only
      obtain hdone | ⟨position', out', hagain, hlt⟩ := decompressMatch_cases input input[position]
        (found.1 + found.2) (out ++ (input.drop found.1).take found.2)
      · exact .inl hdone
      · exact .inr ⟨hmore, position', out', by omega, hagain⟩

theorem lz4BlockDecompressBody_isOk (input : Bytes) (state : Nat × Bytes) :
    ∃ next, lz4BlockDecompressBody input state = .ok next := by
  obtain ⟨result, h⟩ | ⟨-, position', out', -, h⟩ :=
    lz4BlockDecompressBody_cases input state.1 state.2 <;> exact ⟨_, h⟩

theorem lz4BlockDecompressBody_moves {state next : Nat × Bytes}
    (h : lz4BlockDecompressBody input state = .ok (.inl next)) :
    ahead input next < ahead input state := by
  obtain ⟨result, hbody⟩ | ⟨hmore, position', out', hlt, hbody⟩ :=
    lz4BlockDecompressBody_cases input state.1 state.2
  · rw [hbody] at h
    cases h
  · rw [hbody] at h
    cases h
    simp only [ahead]
    omega

/-- A token and its literals are read, whatever follows them. -/
theorem lz4BlockDecompressBody_literals (literals : Bytes)
    (hinput : input = front ++ (encodeLiterals literals matched ++ back)) :
    lz4BlockDecompressBody input (front.length, out)
      = decompressMatch input (token literals.length matched)
          (front ++ encodeLiterals literals matched).length (out ++ literals) := by
  have hcells : input = front ++ token literals.length matched
      :: (extension literals.length ++ (literals ++ back)) := by
    rw [hinput, encodeLiterals, List.cons_append, List.append_assoc]
  have htoken : input
      = front ++ [token literals.length matched] ++ (extension literals.length ++ (literals ++ back)) := by
    rw [hcells, List.append_assoc, List.singleton_append]
  have hmore : front.length < input.length := by
    rw [hcells, List.length_append, List.length_cons]
    omega
  have hread : read input front.length = .ok (token literals.length matched) := by
    rw [hcells, read_append_length]
  have hlength := extendLength_extension literals.length htoken
  rw [List.length_append, List.length_singleton] at hlength
  have hliterals : input = front ++ [token literals.length matched] ++ extension literals.length
      ++ (literals ++ back) := by
    rw [htoken, List.append_assoc (front ++ [token literals.length matched])]
  have hroom : (front ++ [token literals.length matched] ++ extension literals.length).length
      + literals.length ≤ input.length := by
    rw [hliterals]
    simp only [List.length_append]
    omega
  have hcopy : readMany input
      (front ++ [token literals.length matched] ++ extension literals.length).length literals.length
      = .ok literals := by
    rw [hliterals, readMany_append_length]
  have hend : (front ++ [token literals.length matched] ++ extension literals.length).length
      + literals.length = (front ++ encodeLiterals literals matched).length := by
    simp only [encodeLiterals, List.length_append, List.length_cons, List.length_nil]
    omega
  rw [lz4BlockDecompressBody, if_pos hmore, hread]
  simp only [bind, Except.bind, token_shiftRight, hlength]
  rw [if_neg (Nat.not_lt.mpr hroom), hcopy, hend]

theorem lz4BlockDecompressBody_truncatedLiterals {literals : Bytes} {length : Nat}
    (hcut : literals.length < length)
    (hinput : input = front ++ token length matched :: (extension length ++ literals)) :
    lz4BlockDecompressBody input (front.length, out) = .ok (.inr none) := by
  have htoken : input
      = front ++ [token length matched] ++ (extension length ++ literals) := by
    rw [hinput, List.append_assoc, List.singleton_append]
  have hmore : front.length < input.length := by
    rw [hinput, List.length_append, List.length_cons]
    omega
  have hread : read input front.length = .ok (token length matched) := by
    rw [hinput, read_append_length]
  have hlength := extendLength_extension length htoken
  rw [List.length_append, List.length_singleton] at hlength
  have hshort : (front ++ [token length matched] ++ extension length).length + length
      > input.length := by
    rw [htoken]
    simp only [List.length_append]
    omega
  rw [lz4BlockDecompressBody, if_pos hmore, hread]
  simp only [bind, Except.bind, token_shiftRight, hlength]
  rw [if_pos hshort]
  rfl

theorem lz4BlockDecompressBody_truncatedLength {literals : Nat} (extra : Nat) (h : 15 ≤ literals)
    (hinput : input = front ++ token literals matched :: List.replicate extra 255) :
    lz4BlockDecompressBody input (front.length, out) = .ok (.inr none) := by
  have htoken : input = front ++ [token literals matched] ++ List.replicate extra 255 := by
    rw [hinput, List.append_assoc, List.singleton_append]
  have hmore : front.length < input.length := by
    rw [hinput, List.length_append, List.length_cons]
    omega
  have hread : read input front.length = .ok (token literals matched) := by
    rw [hinput, read_append_length]
  have hlength := extendLength_truncated extra htoken
  rw [List.length_append, List.length_singleton] at hlength
  rw [lz4BlockDecompressBody, if_pos hmore, hread]
  simp only [bind, Except.bind, token_shiftRight, Nat.min_eq_right h, hlength]
  rfl

/-! ### Behind the literals -/

theorem decompressMatch_end (code : UInt8) :
    decompressMatch front code front.length out = .ok (.inr (some out)) := by
  rw [decompressMatch, if_pos rfl]
  rfl

theorem decompressMatch_truncatedOffset (code low : UInt8) :
    decompressMatch (front ++ [low]) code front.length out = .ok (.inr none) := by
  rw [decompressMatch, if_neg (by simp), if_pos (by simp)]
  rfl

theorem decompressMatch_offset (code low high : UInt8)
    (hinput : input = front ++ low :: high :: back) :
    decompressMatch input code front.length out
      = if littleEndian16 low high = 0 ∨ littleEndian16 low high > out.length then .ok (.inr none)
        else do
          match ← extendLength input (front.length + 2) (code &&& 0x0F).toNat with
          | none => return .inr none
          | some (position, matchLength) =>
              let out ← copyMatch out (littleEndian16 low high) (matchLength + 4)
              return .inl (position, out) := by
  have hlength : input.length = front.length + (back.length + 2) := by
    rw [hinput, List.length_append]
    rfl
  have hlow : read input front.length = .ok low := by
    rw [hinput, read_append_length]
  have hhigh : read input (front.length + 1) = .ok high := by
    rw [hinput, read_append_right, read_cons_succ, read_cons_zero]
  rw [decompressMatch, if_neg (by omega), if_neg (by omega), hlow, hhigh]
  rfl

theorem decompressMatch_badOffset {code low high : UInt8}
    (hinput : input = front ++ low :: high :: back)
    (h : littleEndian16 low high = 0 ∨ out.length < littleEndian16 low high) :
    decompressMatch input code front.length out = .ok (.inr none) := by
  rw [decompressMatch_offset code low high hinput, if_pos h]

theorem decompressMatch_truncatedLength {low high : UInt8} {literals : Nat} (extra : Nat)
    (h : 15 ≤ matched) (hinput : input = front ++ low :: high :: List.replicate extra 255) :
    decompressMatch input (token literals matched) front.length out = .ok (.inr none) := by
  have hfields : input = front ++ [low, high] ++ List.replicate extra 255 := by
    rw [hinput, List.append_assoc]
    rfl
  have hlength := extendLength_truncated extra hfields
  rw [decompressMatch_offset _ low high hinput]
  split
  next => rfl
  next =>
    rw [token_and, Nat.min_eq_right h]
    rw [List.length_append] at hlength
    simp only [List.length_cons, List.length_nil, Nat.zero_add] at hlength
    rw [hlength]
    rfl

theorem decompressMatch_match {offset literals : Nat} (hpositive : 1 ≤ offset)
    (hbounded : offset ≤ 65535) (hreaches : offset ≤ out.length)
    (hinput : input = front ++ (bytes16 offset ++ (extension matched ++ back))) :
    decompressMatch input (token literals matched) front.length out
      = .ok (.inl ((front ++ (bytes16 offset ++ extension matched)).length,
          out ++ repeated (out.drop (out.length - offset)) (matched + 4))) := by
  have hfields : input = front ++ bytes16 offset ++ (extension matched ++ back) := by
    rw [hinput, List.append_assoc]
  have hlength := extendLength_extension matched hfields
  have hend : (front ++ bytes16 offset).length = front.length + 2 := List.length_append
  rw [decompressMatch_offset _ _ _ hinput, littleEndian16_bytes16 (by omega), if_neg (by omega),
    token_and, ← hend, hlength]
  simp only [bind, Except.bind, pure, Except.pure]
  rw [copyMatch_eq hpositive hreaches, List.append_assoc]

/-- A sequence is read and expanded, whatever follows it. -/
theorem lz4BlockDecompressBody_sequence {sequence : Sequence} (hvalid : sequence.Valid out)
    (hinput : input = front ++ (sequence.encode ++ back)) :
    lz4BlockDecompressBody input (front.length, out)
      = .ok (.inl ((front ++ sequence.encode).length, sequence.expand out)) := by
  have hliterals : input = front ++ (encodeLiterals sequence.literals (sequence.matchLength - 4)
      ++ (bytes16 sequence.offset ++ (extension (sequence.matchLength - 4) ++ back))) := by
    rw [hinput, Sequence.encode]
    simp only [List.append_assoc]
  have hmatch : input = front ++ encodeLiterals sequence.literals (sequence.matchLength - 4)
      ++ (bytes16 sequence.offset ++ (extension (sequence.matchLength - 4) ++ back)) := by
    rw [hliterals, List.append_assoc]
  rw [lz4BlockDecompressBody_literals _ hliterals,
    decompressMatch_match hvalid.positive hvalid.bounded hvalid.reaches hmatch, Sequence.expand,
    Sequence.encode, List.append_assoc, Nat.sub_add_cancel hvalid.minimal]

theorem lz4BlockDecompressBody_last (last : Bytes)
    (hinput : input = front ++ encodeLiterals last matched) :
    lz4BlockDecompressBody input (front.length, out) = .ok (.inr (some (out ++ last))) := by
  have hliterals : input = front ++ (encodeLiterals last matched ++ []) := by
    rw [hinput, List.append_nil]
  rw [lz4BlockDecompressBody_literals last hliterals, ← hinput, decompressMatch_end]

theorem lz4BlockDecompressBody_end :
    lz4BlockDecompressBody input (input.length, out) = .ok (.inr (some out)) := by
  rw [lz4BlockDecompressBody, if_neg (Nat.lt_irrefl _)]
  rfl

theorem lz4BlockDecompressBody_malformed {tail : Bytes} (h : Malformed out tail)
    (hinput : input = front ++ tail) :
    lz4BlockDecompressBody input (front.length, out) = .ok (.inr none) := by
  cases h with
  | literalLength extra h => exact lz4BlockDecompressBody_truncatedLength extra h hinput
  | literalRun h => exact lz4BlockDecompressBody_truncatedLiterals h hinput
  | offsetField literals matched low =>
      rw [lz4BlockDecompressBody_literals literals hinput, hinput, ← List.append_assoc,
        decompressMatch_truncatedOffset]
  | offset h =>
      rw [← List.append_assoc] at hinput
      rw [lz4BlockDecompressBody_literals _ (by rw [hinput, List.append_assoc]),
        decompressMatch_badOffset hinput h]
  | matchLength extra h =>
      rw [← List.append_assoc] at hinput
      rw [lz4BlockDecompressBody_literals _ (by rw [hinput, List.append_assoc]),
        decompressMatch_truncatedLength extra h hinput]

end Round

/-! ### Blocks -/

/-- The loop over valid sequences, as the round behind them. -/
theorem returns_lz4BlockDecompressBody {input front tail out : Bytes} {sequences : List Sequence}
    {result : Option Bytes} (hvalid : Valid out sequences)
    (hinput : input = front ++ (encodeSequences sequences ++ tail))
    (hlast : lz4BlockDecompressBody input
      ((front ++ encodeSequences sequences).length, sequences.foldl Sequence.expand out)
      = .ok (.inr result)) :
    Loop.Returns (lz4BlockDecompressBody input) sequences.length (front.length, out) result := by
  induction sequences generalizing front out with
  | nil =>
      refine Loop.Returns.done ?_ 0
      rw [encodeSequences, List.flatMap_nil, List.append_nil] at hlast
      exact hlast
  | cons sequence sequences ih =>
      rw [encodeSequences, List.flatMap_cons, ← encodeSequences] at hinput hlast
      rw [List.append_assoc] at hinput
      refine Loop.Returns.again (lz4BlockDecompressBody_sequence hvalid.1 hinput)
        (ih hvalid.2 ?_ ?_)
      · rw [hinput, List.append_assoc]
      · rw [List.append_assoc]
        exact hlast

theorem lz4BlockDecompress_eq {sequences : List Sequence} {result : Option Bytes} (tail : Bytes)
    (hvalid : Valid [] sequences)
    (hlast : lz4BlockDecompressBody (encodeSequences sequences ++ tail)
      ((encodeSequences sequences).length, sequences.foldl Sequence.expand []) = .ok (.inr result)) :
    lz4BlockDecompress (encodeSequences sequences ++ tail) = .ok result := by
  have hreturns : Loop.Returns (lz4BlockDecompressBody (encodeSequences sequences ++ tail))
      sequences.length (([] : Bytes).length, []) result :=
    returns_lz4BlockDecompressBody hvalid rfl hlast
  exact hreturns.run_of_lt (fun _ _ => lz4BlockDecompressBody_moves)
    (Nat.lt_succ_self (ahead (encodeSequences sequences ++ tail) (0, ([] : Bytes))))

theorem lz4BlockDecompress_isOk (input : Bytes) :
    ∃ result, lz4BlockDecompress input = .ok result :=
  Loop.run_isOk (fun _ _ => lz4BlockDecompressBody_moves) (lz4BlockDecompressBody_isOk input)
    (Nat.lt_succ_self (ahead input (0, ([] : Bytes))))

theorem lz4BlockDecompress_encode {sequences : List Sequence} (hvalid : Valid [] sequences)
    (last : Bytes) : lz4BlockDecompress (encode sequences last) = .ok (some (expand sequences last)) :=
  lz4BlockDecompress_eq _ hvalid (lz4BlockDecompressBody_last last rfl)

/-- An input is rejected exactly if something behind its valid sequences is malformed. -/
theorem lz4BlockDecompress_eq_none_iff (input : Bytes) :
    lz4BlockDecompress input = .ok none ↔
      ∃ sequences tail, Valid [] sequences ∧ input = encodeSequences sequences ++ tail ∧
        Malformed (sequences.foldl Sequence.expand []) tail := by
  constructor
  · intro h
    obtain ⟨sequences, rest, hvalid, rfl, rfl | ⟨last, matched, rfl⟩ | hmalformed⟩ :=
      input_cases [] input
    · have hend := lz4BlockDecompress_eq [] hvalid
        (by rw [List.append_nil]; exact lz4BlockDecompressBody_end)
      rw [h] at hend
      cases hend
    · have hlast := lz4BlockDecompress_eq (encodeLiterals last matched) hvalid
        (lz4BlockDecompressBody_last last rfl)
      rw [h] at hlast
      cases hlast
    · exact ⟨sequences, rest, hvalid, rfl, hmalformed⟩
  · rintro ⟨sequences, tail, hvalid, rfl, hmalformed⟩
    exact lz4BlockDecompress_eq _ hvalid (lz4BlockDecompressBody_malformed hmalformed rfl)

theorem decompressMozlz4_isOk (input : Bytes) : ∃ result, decompressMozlz4 input = .ok result := by
  rw [decompressMozlz4]
  split
  · exact ⟨_, rfl⟩
  · rename_i hheader
    rw [read_of_lt (by omega), read_of_lt (by omega), read_of_lt (by omega), read_of_lt (by omega)]
    obtain ⟨out, hout⟩ := lz4BlockDecompress_isOk (input.drop 12)
    simp only [bind, Except.bind, pure, Except.pure, hout]
    cases out with
    | none => exact ⟨_, rfl⟩
    | some out =>
        simp only
        split <;> exact ⟨_, rfl⟩

/-- A file whose header declares a size other than zero decompresses to that size, if at all. -/
theorem length_of_decompressMozlz4 {input out : Bytes} {b0 b1 b2 b3 : UInt8}
    (hheader : (input.drop 8).take 4 = [b0, b1, b2, b3]) (hdeclared : declaredSize b0 b1 b2 b3 ≠ 0)
    (h : decompressMozlz4 input = .ok (.ok out)) : out.length = declaredSize b0 b1 b2 b3 := by
  have hbyte (i : Nat) (hi : i < 4) : input[8 + i]? = [b0, b1, b2, b3][i]? := by
    rw [← hheader, List.getElem?_take_of_lt hi, List.getElem?_drop]
  rw [decompressMozlz4] at h
  split at h
  next => cases h
  next =>
    rw [read_eq_ok.mpr (hbyte 0 (by decide)), read_eq_ok.mpr (hbyte 1 (by decide)),
      read_eq_ok.mpr (hbyte 2 (by decide)), read_eq_ok.mpr (hbyte 3 (by decide))] at h
    obtain ⟨result, hresult⟩ := lz4BlockDecompress_isOk (input.drop 12)
    simp only [bind, Except.bind, pure, Except.pure, hresult] at h
    cases result with
    | none => cases h
    | some decompressed =>
        simp only at h
        split at h
        next => cases h
        next hsize =>
          cases h
          exact not_not.mp fun hne => hsize ⟨hdeclared, hne⟩

/-- **The block decoder.** Encodings are expanded, an input is rejected exactly where it is
malformed, no input leads to a read out of range or to an endless loop, and the declared size of a
file is the size of its output. -/
theorem lz4_decoder :
    (∀ sequences last, Valid [] sequences →
      lz4BlockDecompress (encode sequences last) = .ok (some (expand sequences last))) ∧
    (∀ input, lz4BlockDecompress input = .ok none ↔
      ∃ sequences tail, Valid [] sequences ∧ input = encodeSequences sequences ++ tail ∧
        Malformed (sequences.foldl Sequence.expand []) tail) ∧
    (∀ input, (∃ result, lz4BlockDecompress input = .ok result) ∧
      ∃ result, decompressMozlz4 input = .ok result) ∧
    ∀ input out b0 b1 b2 b3, (input.drop 8).take 4 = [b0, b1, b2, b3] →
      declaredSize b0 b1 b2 b3 ≠ 0 → decompressMozlz4 input = .ok (.ok out) →
      out.length = declaredSize b0 b1 b2 b3 :=
  ⟨fun _ last hvalid => lz4BlockDecompress_encode hvalid last, lz4BlockDecompress_eq_none_iff,
    fun input => ⟨lz4BlockDecompress_isOk input, decompressMozlz4_isOk input⟩,
    fun _ _ _ _ _ _ hheader hdeclared h => length_of_decompressMozlz4 hheader hdeclared h⟩

/-- A run of one byte: a literal and an overlapping match of ten bytes. -/
theorem lz4_decoder_run :
    lz4BlockDecompress (encode [⟨[97], 1, 10⟩] [98])
      = .ok (some [97, 97, 97, 97, 97, 97, 97, 97, 97, 97, 97, 98]) :=
  (lz4_decoder.1 [⟨[97], 1, 10⟩] [98]
    ⟨⟨by decide, by decide, by decide, by decide⟩, trivial⟩).trans rfl

end ContextSnap.Browser.Session
