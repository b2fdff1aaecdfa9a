import ContextSnap.Ipc.Frame
import ContextSnap.Lib.Incremental

/-!
# The frame reader reassembles the stream

`decodeFrame` is an incremental decoder: four bytes of length, then that many bytes of payload, and
nothing that follows a complete frame can change it. The chunk invariance of `FrameReader` is
therefore an instance of the one of `Incremental`. What is left to show here is that an encoded
frame is read back from the front of any continuation and that a proper prefix of one is not.
-/

namespace ContextSnap.Ipc

open Incremental (Call fed items)

/-! ### The length prefix -/

private theorem or_shiftLeft (low high k : Nat) (hlow : low < 2 ^ k) :
    low ||| high <<< k = low + 2 ^ k * high := by
  rw [Nat.or_comm, ← Nat.shiftLeft_add_eq_or_of_lt hlow, Nat.shiftLeft_eq, Nat.mul_comm,
    Nat.add_comm]

private theorem shiftLeft_byte_mod (b : UInt8) {k : Nat} (hk : k ≤ 24) :
    (b.toNat <<< k) % 2 ^ 32 = b.toNat <<< k := by
  apply Nat.mod_eq_of_lt
  have hb := b.toNat_lt
  have hpow : 2 ^ k ≤ 2 ^ 24 := Nat.pow_le_pow_right (by decide) hk
  rw [Nat.shiftLeft_eq]
  calc b.toNat * 2 ^ k ≤ 255 * 2 ^ 24 := Nat.mul_le_mul (by omega) hpow
    _ < 2 ^ 32 := by decide

theorem frameLength_toNat (b0 b1 b2 b3 : UInt8) :
    (frameLength b0 b1 b2 b3).toNat
      = b0.toNat + 2 ^ 8 * b1.toNat + 2 ^ 16 * b2.toNat + 2 ^ 24 * b3.toNat := by
  have h0 := b0.toNat_lt
  have h1 := b1.toNat_lt
  have h2 := b2.toNat_lt
  have h3 := b3.toNat_lt
  have e8 : (8 : UInt32).toNat % 32 = 8 := rfl
  have e16 : (16 : UInt32).toNat % 32 = 16 := rfl
  have e24 : (24 : UInt32).toNat % 32 = 24 := rfl
  simp only [frameLength, UInt32.toNat_or, UInt32.toNat_shiftLeft, UInt8.toNat_toUInt32]
  rw [e8, e16, e24, shiftLeft_byte_mod b1 (by omega), shiftLeft_byte_mod b2 (by omega),
    shiftLeft_byte_mod b3 (by omega), or_shiftLeft _ _ 8 (by omega),
    or_shiftLeft _ _ 16 (by omega), or_shiftLeft _ _ 24 (by omega)]

private theorem lowByte_toNat (length : UInt32) {k : Nat} (hk : k < 32) :
    ((length >>> k.toUInt32) &&& 0xFF).toUInt8.toNat = length.toNat / 2 ^ k % 2 ^ 8 := by
  have hmask : (0xFF : UInt32).toNat = 2 ^ 8 - 1 := rfl
  have hshift : k.toUInt32.toNat % 32 = k := by
    simp [Nat.mod_eq_of_lt hk]
  rw [UInt32.toNat_toUInt8, UInt32.toNat_and, UInt32.toNat_shiftRight, hmask, hshift,
    Nat.and_two_pow_sub_one_eq_mod, Nat.mod_mod, Nat.shiftRight_eq_div_pow]

/-- The decoder reads the length the encoder wrote. -/
theorem frameLength_bytes (length : UInt32) :
    frameLength (length &&& 0xFF).toUInt8 ((length >>> 8) &&& 0xFF).toUInt8
      ((length >>> 16) &&& 0xFF).toUInt8 ((length >>> 24) &&& 0xFF).toUInt8 = length := by
  have h0 := lowByte_toNat length (show 0 < 32 by omega)
  have h1 := lowByte_toNat length (show 8 < 32 by omega)
  have h2 := lowByte_toNat length (show 16 < 32 by omega)
  have h3 := lowByte_toNat length (show 24 < 32 by omega)
  have hlt := length.toNat_lt
  apply UInt32.toNat_inj.mp
  rw [frameLength_toNat]
  simp at h0 h1 h2 h3 ⊢
  omega

/-! ### One frame -/

/-- The error every poll of a reader answers once a length prefix is above the limit. -/
def overLimit : Error :=
  Err.protocol (str "frame length exceeds the limit") (str "ipc.decode_frame")

/-- `decodeFrame` with the payload and the consumed bytes as a pair. -/
def takeFrame (maxBytes : UInt32) (buffer : Bytes) : Result (Option (Bytes × Nat)) :=
  (decodeFrame buffer maxBytes).map (·.map fun frame => (frame.payload, frame.consumed))

/-- A frame at the front of the buffer is decoded, whatever follows it. -/
theorem takeFrame_of_front {b0 b1 b2 b3 : UInt8} {rest : Bytes} {maxBytes : UInt32}
    (hmax : frameLength b0 b1 b2 b3 ≤ maxBytes)
    (hlen : (frameLength b0 b1 b2 b3).toNat ≤ rest.length) :
    takeFrame maxBytes (b0 :: b1 :: b2 :: b3 :: rest)
      = .ok (some (rest.take (frameLength b0 b1 b2 b3).toNat,
          lengthPrefixBytes + (frameLength b0 b1 b2 b3).toNat)) := by
  have hnot : ¬ (b0 :: b1 :: b2 :: b3 :: rest).length
      < lengthPrefixBytes + (frameLength b0 b1 b2 b3).toNat := by
    simp only [List.length_cons, lengthPrefixBytes]
    omega
  simp only [takeFrame, decodeFrame]
  rw [if_neg (UInt32.not_lt.mpr hmax), if_neg hnot]
  rfl

/-- A frame that has not arrived in full is waited for. -/
theorem takeFrame_of_short {b0 b1 b2 b3 : UInt8} {rest : Bytes} {maxBytes : UInt32}
    (hmax : frameLength b0 b1 b2 b3 ≤ maxBytes)
    (hlen : rest.length < (frameLength b0 b1 b2 b3).toNat) :
    takeFrame maxBytes (b0 :: b1 :: b2 :: b3 :: rest) = .ok none := by
  have hshort : (b0 :: b1 :: b2 :: b3 :: rest).length
      < lengthPrefixBytes + (frameLength b0 b1 b2 b3).toNat := by
    simp only [List.length_cons, lengthPrefixBytes]
    omega
  simp only [takeFrame, decodeFrame]
  rw [if_neg (UInt32.not_lt.mpr hmax), if_pos hshort]
  rfl

theorem takeFrame_of_overLimit {b0 b1 b2 b3 : UInt8} {maxBytes : UInt32}
    (h : maxBytes < frameLength b0 b1 b2 b3) (rest : Bytes) :
    takeFrame maxBytes (b0 :: b1 :: b2 :: b3 :: rest) = .error overLimit := by
  simp only [takeFrame, decodeFrame]
  rw [if_pos h]
  rfl

/-- What an item of the decoder looks like: its frame lies at the front of the buffer. -/
theorem takeFrame_item {buffer : Bytes} {maxBytes : UInt32} {payload : Bytes} {n : Nat}
    (h : takeFrame maxBytes buffer = .ok (some (payload, n))) :
    ∃ b0 b1 b2 b3 rest, buffer = b0 :: b1 :: b2 :: b3 :: rest
      ∧ frameLength b0 b1 b2 b3 ≤ maxBytes
      ∧ (frameLength b0 b1 b2 b3).toNat ≤ rest.length
      ∧ payload = rest.take (frameLength b0 b1 b2 b3).toNat
      ∧ n = lengthPrefixBytes + (frameLength b0 b1 b2 b3).toNat := by
  match buffer with
  | b0 :: b1 :: b2 :: b3 :: rest =>
      rcases UInt32.lt_or_le maxBytes (frameLength b0 b1 b2 b3) with hgt | hmax
      · simp [takeFrame_of_overLimit hgt] at h
      rcases Nat.lt_or_ge rest.length (frameLength b0 b1 b2 b3).toNat with hshort | hlen
      · simp [takeFrame_of_short hmax hshort] at h
      rw [takeFrame_of_front hmax hlen] at h
      simp only [Except.ok.injEq, Option.some.injEq, Prod.mk.injEq] at h
      exact ⟨b0, b1, b2, b3, rest, rfl, hmax, hlen, h.1.symm, h.2.symm⟩
  | [] | [_] | [_, _] | [_, _, _] => simp [takeFrame, decodeFrame, Except.map] at h

theorem takeFrame_error {buffer : Bytes} {maxBytes : UInt32} {e : Error}
    (h : takeFrame maxBytes buffer = .error e) :
    e = overLimit ∧ ∃ b0 b1 b2 b3 rest, buffer = b0 :: b1 :: b2 :: b3 :: rest
      ∧ maxBytes < frameLength b0 b1 b2 b3 := by
  match buffer with
  | b0 :: b1 :: b2 :: b3 :: rest =>
      rcases UInt32.lt_or_le maxBytes (frameLength b0 b1 b2 b3) with hgt | hmax
      · rw [takeFrame_of_overLimit hgt] at h
        exact ⟨by simpa using h.symm, b0, b1, b2, b3, rest, rfl, hgt⟩
      rcases Nat.lt_or_ge rest.length (frameLength b0 b1 b2 b3).toNat with hshort | hlen
      · simp [takeFrame_of_short hmax hshort] at h
      · simp [takeFrame_of_front hmax hlen] at h
  | [] | [_] | [_, _] | [_, _, _] => simp [takeFrame, decodeFrame, Except.map] at h

/-- `decodeFrame` as an incremental decoder. -/
def frameDecoder (maxBytes : UInt32) : Incremental.Decoder UInt8 Bytes Error where
  decode := takeFrame maxBytes
  take_pos := by
    intro input payload n h
    obtain ⟨b0, b1, b2, b3, rest, rfl, -, -, -, rfl⟩ := takeFrame_item h
    simp only [lengthPrefixBytes]
    omega
  take_le := by
    intro input payload n h
    obtain ⟨b0, b1, b2, b3, rest, rfl, -, hlen, -, rfl⟩ := takeFrame_item h
    simp only [List.length_cons, lengthPrefixBytes]
    omega
  stable_item := by
    intro input payload n more h
    obtain ⟨b0, b1, b2, b3, rest, rfl, hmax, hlen, rfl, rfl⟩ := takeFrame_item h
    have hmore : (frameLength b0 b1 b2 b3).toNat ≤ (rest ++ more).length := by
      simp only [List.length_append]
      omega
    simp only [List.cons_append, takeFrame_of_front hmax hmore,
      List.take_append_of_le_length hlen]
  stable_error := by
    intro input e more h
    obtain ⟨rfl, b0, b1, b2, b3, rest, rfl, hgt⟩ := takeFrame_error h
    exact takeFrame_of_overLimit hgt (rest ++ more)

@[simp]
theorem frameDecoder_decode (maxBytes : UInt32) :
    (frameDecoder maxBytes).decode = takeFrame maxBytes := rfl

/-! ### The encoded stream -/

theorem encodeFrame_ok {payload : Bytes} {maxBytes : UInt32}
    (h : payload.length ≤ maxBytes.toNat) : ∃ frame, encodeFrame payload maxBytes = .ok frame := by
  rw [encodeFrame, if_neg (Nat.not_lt.mpr h)]
  exact ⟨_, rfl⟩

/-- An encoded frame: its prefix is within the limit and spells the length of its payload. -/
theorem encodeFrame_shape {payload frame : Bytes} {maxBytes : UInt32}
    (h : encodeFrame payload maxBytes = .ok frame) :
    ∃ b0 b1 b2 b3, frame = b0 :: b1 :: b2 :: b3 :: payload
      ∧ frameLength b0 b1 b2 b3 ≤ maxBytes
      ∧ (frameLength b0 b1 b2 b3).toNat = payload.length := by
  rw [encodeFrame] at h
  split at h
  · simp at h
  · rename_i hle
    have hlt := maxBytes.toNat_lt
    have hlen : payload.length.toUInt32.toNat = payload.length := by
      simp only [Nat.toUInt32, UInt32.toNat_ofNat']
      exact Nat.mod_eq_of_lt (by omega)
    refine ⟨_, _, _, _, (Except.ok.inj h).symm, ?_, ?_⟩
    · rw [frameLength_bytes, UInt32.le_iff_toNat_le]
      omega
    · rw [frameLength_bytes, hlen]

/-- An encoded frame is read back from the front of any continuation. -/
theorem takeFrame_encodeFrame {payload frame : Bytes} {maxBytes : UInt32}
    (h : encodeFrame payload maxBytes = .ok frame) (more : Bytes) :
    takeFrame maxBytes (frame ++ more) = .ok (some (payload, frame.length)) := by
  obtain ⟨b0, b1, b2, b3, rfl, hmax, hlen⟩ := encodeFrame_shape h
  have hfront : (frameLength b0 b1 b2 b3).toNat ≤ (payload ++ more).length := by
    simp only [List.length_append]
    omega
  have hsize : (b0 :: b1 :: b2 :: b3 :: payload).length = lengthPrefixBytes + payload.length := by
    simp only [List.length_cons, lengthPrefixBytes]
    omega
  simp only [List.cons_append, takeFrame_of_front hmax hfront, hlen, List.take_left, hsize]

/-- A frame cut off anywhere is waited for. -/
theorem takeFrame_cut {payload frame tail : Bytes} {maxBytes : UInt32}
    (h : encodeFrame payload maxBytes = .ok frame) (hfront : tail <+: frame)
    (hcut : tail ≠ frame) : takeFrame maxBytes tail = .ok none := by
  obtain ⟨b0, b1, b2, b3, rfl, hmax, hlen⟩ := encodeFrame_shape h
  obtain ⟨missing, hmissing⟩ := hfront
  match tail with
  | c0 :: c1 :: c2 :: c3 :: rest =>
      simp only [List.cons_append, List.cons.injEq] at hmissing
      obtain ⟨rfl, rfl, rfl, rfl, rfl⟩ := hmissing
      refine takeFrame_of_short hmax ?_
      have hpos : 0 < missing.length := List.length_pos_iff.mpr (by rintro rfl; simp at hcut)
      simp only [hlen, List.length_append]
      omega
  | [] | [_] | [_, _] | [_, _, _] => rfl

/-- The frames at the front of a stream are split off one by one. -/
theorem split_frames {payloads frames : List Bytes} {maxBytes : UInt32}
    (hframes : List.Forall₂ (fun payload frame => encodeFrame payload maxBytes = .ok frame)
      payloads frames) (rest : Bytes) :
    (frameDecoder maxBytes).split (frames.flatten ++ rest)
      = (payloads ++ ((frameDecoder maxBytes).split rest).1,
          ((frameDecoder maxBytes).split rest).2) := by
  induction hframes with
  | nil => rfl
  | @cons payload frame payloads frames hframe _ ih =>
      have hitem := takeFrame_encodeFrame hframe (frames.flatten ++ rest)
      rw [List.flatten_cons, List.append_assoc,
        (frameDecoder maxBytes).split_of_item hitem, List.drop_left, ih]
      rfl

/-- A frame that is cut off is all remainder. -/
theorem split_of_cut {payload frame tail : Bytes} {maxBytes : UInt32}
    (h : encodeFrame payload maxBytes = .ok frame) (hfront : tail <+: frame)
    (hcut : tail ≠ frame) : (frameDecoder maxBytes).split tail = ([], tail) :=
  (frameDecoder maxBytes).split_of_not_item fun _ _ => by
    simp [takeFrame_cut h hfront hcut]

/-- So is everything from a length prefix above the limit on. -/
theorem split_of_overLimit {b0 b1 b2 b3 : UInt8} {maxBytes : UInt32}
    (h : maxBytes < frameLength b0 b1 b2 b3) (rest : Bytes) :
    (frameDecoder maxBytes).split (b0 :: b1 :: b2 :: b3 :: rest)
      = ([], b0 :: b1 :: b2 :: b3 :: rest) :=
  (frameDecoder maxBytes).split_of_not_item fun _ _ => by
    simp [takeFrame_of_overLimit h]

/-! ### Runs of the reader -/

/-- The answers of the polls among the calls, in order, and the reader at the end. -/
def FrameReader.run :
    List (Call UInt8) → FrameReader → List (Result (Option Bytes)) × FrameReader
  | [], reader => ([], reader)
  | .feed chunk :: calls, reader => run calls (reader.feed chunk)
  | .next :: calls, reader =>
      let answer := reader.next
      let rest := run calls answer.2
      (answer.1 :: rest.1, rest.2)

/-- A poll of the reader is a poll of the decoder on its buffer. -/
theorem FrameReader.next_eq (reader : FrameReader) :
    reader.next = (((frameDecoder reader.maxBytes).next reader.buffer).1,
      { reader with buffer := ((frameDecoder reader.maxBytes).next reader.buffer).2 }) := by
  simp only [FrameReader.next, Incremental.Decoder.next, frameDecoder_decode, takeFrame]
  cases hdecode : decodeFrame reader.buffer reader.maxBytes with
  | error e => rfl
  | ok found => cases found <;> rfl

theorem FrameReader.run_eq (calls : List (Call UInt8)) (reader : FrameReader) :
    reader.run calls
      = ((Incremental.run (frameDecoder reader.maxBytes) calls reader.buffer).1,
          { reader with
            buffer := (Incremental.run (frameDecoder reader.maxBytes) calls reader.buffer).2 }) := by
  induction calls generalizing reader with
  | nil => rfl
  | cons call calls ih =>
      cases call with
      | feed chunk => exact ih (reader.feed chunk)
      | next => simp [FrameReader.run, Incremental.run, FrameReader.next_eq, ih]

theorem exists_frames {payloads : List Bytes} {maxBytes : UInt32}
    (hpayloads : ∀ payload ∈ payloads, payload.length ≤ maxBytes.toNat) :
    ∃ frames, payloads.mapM (encodeFrame · maxBytes) = .ok frames
      ∧ List.Forall₂ (fun payload frame => encodeFrame payload maxBytes = .ok frame)
        payloads frames := by
  induction payloads with
  | nil => exact ⟨[], rfl, .nil⟩
  | cons payload payloads ih =>
      obtain ⟨frame, hframe⟩ := encodeFrame_ok (hpayloads payload (by simp))
      obtain ⟨frames, hmap, hall⟩ := ih fun p hp => hpayloads p (by simp [hp])
      refine ⟨frame :: frames, ?_, .cons hframe hall⟩
      simp [List.mapM_cons, hframe, hmap, bind, Except.bind, pure, Except.pure]

/-- A reader that was fed frames and then something that is not a frame has, once a poll finds no
further frame, returned the payloads and kept the rest. -/
theorem FrameReader.run_stream {payloads frames : List Bytes} {maxBytes : UInt32}
    (hframes : List.Forall₂ (fun payload frame => encodeFrame payload maxBytes = .ok frame)
      payloads frames)
    {rest : Bytes} (hrest : (frameDecoder maxBytes).split rest = ([], rest))
    {calls : List (Call UInt8)} (hfed : fed calls = frames.flatten ++ rest)
    (hdrained : ∀ payload,
      (FrameReader.run calls { maxBytes }).2.next.1 ≠ .ok (some payload)) :
    items (FrameReader.run calls { maxBytes }).1 = payloads
      ∧ (FrameReader.run calls { maxBytes }).2.buffer = rest := by
  simp only [run_eq, next_eq] at hdrained ⊢
  have hnone : ∀ payload n,
      takeFrame maxBytes (Incremental.run (frameDecoder maxBytes) calls []).2
        ≠ .ok (some (payload, n)) := by
    intro payload n hitem
    exact hdrained payload (by rw [(frameDecoder maxBytes).next_of_item hitem])
  have hitems := Incremental.run_items (frameDecoder maxBytes) calls [] hnone
  rw [List.nil_append, hfed, split_frames hframes, hrest] at hitems
  simpa using hitems

/-- **Chunk invariance of the frame reader.** The stream is the encoding of the payloads followed
either by a frame that is cut off or by a length prefix above the limit. However it is fed, and
however often the reader is polled in between, once a poll finds no further frame the payloads
returned are those of the stream. A cut-off frame stays in the buffer; behind a prefix above the
limit every poll fails and leaves the buffer alone. -/
theorem FrameReader.reassembles (maxBytes : UInt32) (payloads : List Bytes)
    (hpayloads : ∀ payload ∈ payloads, payload.length ≤ maxBytes.toNat) :
    ∃ frames, payloads.mapM (encodeFrame · maxBytes) = .ok frames
      ∧ (∀ (last frame tail : Bytes) (calls : List (Call UInt8)),
          encodeFrame last maxBytes = .ok frame → tail <+: frame → tail ≠ frame →
          fed calls = frames.flatten ++ tail →
          let final := FrameReader.run calls { maxBytes }
          final.2.next.1 = .ok none →
          items final.1 = payloads
            ∧ (∀ answer ∈ final.1, ∃ found, answer = .ok found)
            ∧ final.2.buffer = tail)
      ∧ (∀ (b0 b1 b2 b3 : UInt8) (rest : Bytes) (calls : List (Call UInt8)),
          maxBytes < frameLength b0 b1 b2 b3 →
          fed calls = frames.flatten ++ b0 :: b1 :: b2 :: b3 :: rest →
          let final := FrameReader.run calls { maxBytes }
          (∀ payload, final.2.next.1 ≠ .ok (some payload)) →
          items final.1 = payloads
            ∧ (∃ good bad, final.1 = good ++ bad ∧ (∀ answer ∈ good, ∃ found, answer = .ok found)
                ∧ ∀ answer ∈ bad, ∃ e, answer = .error e)
            ∧ final.2.buffer = b0 :: b1 :: b2 :: b3 :: rest
            ∧ final.2.next = (.error overLimit, final.2)
            ∧ ∀ later, (∀ answer ∈ (final.2.run later).1, answer = .error overLimit)
                ∧ (final.2.run later).2.buffer = final.2.buffer ++ fed later) := by
  obtain ⟨frames, hmap, hframes⟩ := exists_frames hpayloads
  refine ⟨frames, hmap, ?_, ?_⟩
  · intro last frame tail calls hlast hfront hcut hfed final hdrained
    have hstream := run_stream hframes (split_of_cut hlast hfront hcut) hfed
      fun payload => by rw [hdrained]; simp
    obtain ⟨good, bad, hrun, hgood, hbad, hend⟩ :=
      Incremental.run_answers (frameDecoder maxBytes) calls []
    have hnil : bad = [] := by
      rcases hend with hnil | ⟨e, herror⟩
      · exact hnil
      · simp [final, run_eq, next_eq, (frameDecoder maxBytes).next_of_error herror] at hdrained
    refine ⟨hstream.1, ?_, hstream.2⟩
    rw [show final.1 = good by simpa [final, run_eq, hnil] using hrun]
    exact hgood
  · intro b0 b1 b2 b3 rest calls hgt hfed final hdrained
    obtain ⟨hitems, hbuffer⟩ := run_stream hframes (split_of_overLimit hgt rest) hfed hdrained
    obtain ⟨good, bad, hrun, hgood, hbad, -⟩ :=
      Incremental.run_answers (frameDecoder maxBytes) calls []
    have herror : takeFrame maxBytes final.2.buffer = .error overLimit := by
      rw [hbuffer]
      exact takeFrame_of_overLimit hgt rest
    have hmax : final.2.maxBytes = maxBytes := by simp [final, run_eq]
    refine ⟨hitems, ⟨good, bad, by simpa [final, run_eq] using hrun, hgood, hbad⟩, hbuffer, ?_, ?_⟩
    · simp only [next_eq, hmax, (frameDecoder maxBytes).next_of_error herror, Prod.mk.injEq,
        true_and]
      rw [← hmax]
    · intro later
      rw [run_eq, hmax]
      exact Incremental.run_of_error (frameDecoder maxBytes) herror later

/-- Two frames cut inside a prefix and polled twice, and one frame before a prefix of 256. -/
theorem FrameReader.reassembles_cut_and_overLimit :
    (let final := FrameReader.run
        [.feed [2, 0], .next, .feed [0, 0, 7, 8, 0, 0, 0, 0, 1, 0], .next, .next, .next]
        { maxBytes := 2 }
     items final.1 = [[7, 8], []] ∧ final.2.buffer = [1, 0])
    ∧ (let final := FrameReader.run
        [.feed [2, 0, 0, 0, 7, 8, 0, 0, 0, 0, 0, 1, 0, 0, 9], .next, .next, .next]
        { maxBytes := 2 }
       items final.1 = [[7, 8], []] ∧ final.2.next = (.error overLimit, final.2)) := by
  obtain ⟨frames, hframes, hcut, hover⟩ := FrameReader.reassembles 2 [[7, 8], []] (by decide)
  obtain rfl : [[2, 0, 0, 0, 7, 8], [0, 0, 0, 0]] = frames := Except.ok.inj hframes
  have h := hcut [5] [1, 0, 0, 0, 5] [1, 0]
    [.feed [2, 0], .next, .feed [0, 0, 7, 8, 0, 0, 0, 0, 1, 0], .next, .next, .next]
    rfl (by decide) (by decide) rfl rfl
  have h' := hover 0 1 0 0 [9]
    [.feed [2, 0, 0, 0, 7, 8, 0, 0, 0, 0, 0, 1, 0, 0, 9], .next, .next, .next]
    (by decide) rfl fun payload hitem => by
      have herror : (.error overLimit : Result (Option Bytes)) = .ok (some payload) := hitem
      simp at herror
  exact ⟨⟨h.1, h.2.2⟩, ⟨h'.1, h'.2.2.2.1⟩⟩

end ContextSnap.Ipc
