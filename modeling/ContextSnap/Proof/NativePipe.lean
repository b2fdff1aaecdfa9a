import ContextSnap.Browser.NativeHost
import ContextSnap.Proof.FrameStream

/-!
# The relay of the native messaging host

The bytes that a direction wrote and those that it still holds make up what it read, frame by frame.
A frame that is longer than the daemon's limit is read, but not written again.
-/

namespace ContextSnap.Browser

open Ipc

/-- The payloads and their frames, one after the other. -/
abbrev Encodes (limit : UInt32) : List Bytes → List Bytes → Prop :=
  List.Forall₂ fun payload frame => encodeFrame payload limit = .ok frame

/-- The daemon's socket takes a payload of this length. -/
def WithinLimit (payload : Bytes) : Prop := payload.length ≤ kMaxFrameBytes.toNat

/-- The chunks that the calls of `read_some` return. -/
def chunks (reads : List (Result Bytes)) : List Bytes := reads.filterMap Except.toOption

variable {limit : UInt32} {payloads frames : List Bytes} {payload frame bytes rest : Bytes}
  {pipe : Pipe} {takes : Takes} {running : Nat → Bool} {reads : List (Result Bytes)}

/-! ### Writing -/

/-- What a loop of writes leaves behind. -/
structure Wrote (bytes : Bytes) (pipe : Pipe) (result : Bool × Pipe) : Prop where
  reader : result.2.reader = pipe.reader
  part : result.2.written <+: pipe.written ++ bytes
  whole : result.1 = true → result.2.written = pipe.written ++ bytes
  unfailed : result.1 = true → result.2.failed = pipe.failed
  failed : result.1 = false → result.2.failed = true

theorem wrote_writeBytes (rounds : Nat) (bytes : Bytes) (pipe : Pipe)
    (hrounds : bytes.length ≤ rounds) : Wrote bytes pipe (writeBytes takes rounds bytes pipe) := by
  induction rounds generalizing bytes pipe with
  | zero =>
      obtain rfl := List.length_eq_zero_iff.mp (Nat.le_zero.mp hrounds)
      exact ⟨rfl, by simp [writeBytes], by simp [writeBytes], fun _ => rfl, by simp [writeBytes]⟩
  | succ rounds ih =>
      cases bytes with
      | nil =>
          exact ⟨rfl, by simp [writeBytes], by simp [writeBytes], fun _ => rfl,
            by simp [writeBytes]⟩
      | cons byte bytes =>
          cases htakes : takes pipe.writes with
          | none => simp only [writeBytes, htakes]; exact ⟨rfl, by simp, by simp, by simp, by simp⟩
          | some count =>
              cases count with
              | zero =>
                  simp only [writeBytes, htakes]
                  exact ⟨rfl, by simp, by simp, by simp, by simp⟩
              | succ count =>
                  have hlength : ((byte :: bytes).drop (count + 1)).length ≤ rounds := by
                    simp only [List.length_drop, List.length_cons] at hrounds ⊢
                    omega
                  have h := ih ((byte :: bytes).drop (count + 1))
                    { pipe with
                      written := pipe.written ++ (byte :: bytes).take (count + 1)
                      writes := pipe.writes + 1 } hlength
                  simp only [writeBytes, htakes]
                  have hsplit : pipe.written ++ (byte :: bytes).take (count + 1)
                      ++ (byte :: bytes).drop (count + 1) = pipe.written ++ (byte :: bytes) := by
                    rw [List.append_assoc, List.take_append_drop]
                  exact ⟨h.reader, hsplit ▸ h.part, fun hok => hsplit ▸ h.whole hok, h.unfailed,
                    h.failed⟩

theorem encodeFrame_within (h : encodeFrame payload limit = .ok frame) (hfits : WithinLimit payload) :
    encodeFrame payload kMaxFrameBytes = .ok frame := by
  unfold encodeFrame at h ⊢
  rw [if_neg (Nat.not_lt.mpr hfits)]
  split_ifs at h with hlong
  exact h

/-- A payload leaves as the frame that it came in, if it fits. -/
theorem wrote_writePayload (h : encodeFrame payload limit = .ok frame) (hfits : WithinLimit payload)
    (pipe : Pipe) : Wrote frame pipe (writePayload takes payload pipe) := by
  rw [writePayload, encodeFrame_within h hfits]
  exact wrote_writeBytes _ _ _ le_rfl

theorem writePayload_too_long (hlong : ¬WithinLimit payload) (pipe : Pipe) :
    writePayload takes payload pipe = (false, pipe) := by
  have herror : ∃ e, encodeFrame payload kMaxFrameBytes = .error e := by
    rw [encodeFrame, if_pos (Nat.not_le.mp hlong)]
    exact ⟨_, rfl⟩
  obtain ⟨e, herror⟩ := herror
  rw [writePayload, herror]

/-! ### Relaying -/

/-- What is in the reader and what is still to come are the frames of these payloads. -/
structure Relaying (limit : UInt32) (payloads frames : List Bytes) (rest : Bytes) (pipe : Pipe) :
    Prop where
  encodes : Encodes limit payloads frames
  limit : pipe.reader.maxBytes = limit
  stream : pipe.reader.buffer ++ rest = frames.flatten

theorem takeFrame_frames (hframes : Encodes limit payloads frames) :
    takeFrame limit frames.flatten = .ok none ∧ payloads = [] ∧ frames = []
      ∨ ∃ payload left frame leftFrames, payloads = payload :: left ∧ frames = frame :: leftFrames
        ∧ encodeFrame payload limit = .ok frame ∧ Encodes limit left leftFrames
        ∧ takeFrame limit frames.flatten = .ok (some (payload, frame.length)) := by
  cases hframes with
  | nil => exact .inl ⟨rfl, rfl, rfl⟩
  | @cons payload frame left leftFrames hframe hleft =>
      exact .inr ⟨payload, left, frame, leftFrames, rfl, rfl, hframe, hleft,
        takeFrame_encodeFrame hframe leftFrames.flatten⟩

/-- The reader waits, or hands out the next payload. -/
theorem Relaying.next (h : Relaying limit payloads frames rest pipe) :
    pipe.reader.next = (.ok none, pipe.reader)
        ∧ takeFrame limit pipe.reader.buffer = .ok none
      ∨ ∃ payload left frame leftFrames reader, payloads = payload :: left
        ∧ frames = frame :: leftFrames ∧ encodeFrame payload limit = .ok frame
        ∧ pipe.reader.next = (.ok (some payload), reader)
        ∧ reader.buffer.length < pipe.reader.buffer.length
        ∧ Relaying limit left leftFrames rest { pipe with reader } := by
  obtain rfl := h.limit
  have hnext := FrameReader.next_eq pipe.reader
  cases hdecode : takeFrame pipe.reader.maxBytes pipe.reader.buffer with
  | error e =>
      have herror := (frameDecoder pipe.reader.maxBytes).stable_error rest hdecode
      rw [frameDecoder_decode, h.stream] at herror
      obtain ⟨hnone, -⟩ | ⟨_, _, _, _, -, -, -, -, hsome⟩ := takeFrame_frames h.encodes
      · rw [herror] at hnone
        cases hnone
      · rw [herror] at hsome
        cases hsome
  | ok found =>
      cases found with
      | none =>
          rw [(frameDecoder pipe.reader.maxBytes).next_of_more hdecode] at hnext
          exact .inl ⟨hnext, rfl⟩
      | some item =>
          obtain ⟨payload, n⟩ := item
          have hitem := (frameDecoder pipe.reader.maxBytes).stable_item rest hdecode
          have hpos := (frameDecoder pipe.reader.maxBytes).take_pos hdecode
          have hle := (frameDecoder pipe.reader.maxBytes).take_le hdecode
          rw [frameDecoder_decode, h.stream] at hitem
          obtain ⟨hnone, -⟩ | ⟨payload', left, frame, leftFrames, rfl, rfl, hframe, hleft, hsome⟩ :=
            takeFrame_frames h.encodes
          · rw [hitem] at hnone
            cases hnone
          · rw [hitem] at hsome
            cases hsome
            rw [(frameDecoder pipe.reader.maxBytes).next_of_item hdecode] at hnext
            refine .inr ⟨payload, left, frame, leftFrames, _, rfl, rfl, hframe, hnext, ?_, hleft,
              rfl, ?_⟩
            · simp only [List.length_drop]
              omega
            · have hstream := congrArg (List.drop frame.length) h.stream
              rw [List.drop_append_of_le_length hle, List.flatten_cons, List.drop_left] at hstream
              exact hstream

/-- How far the inner loop comes: it waits for more, or a payload is not written. -/
inductive Relayed (limit : UInt32) (payloads frames : List Bytes) (rest : Bytes) (pipe : Pipe) :
    Option PumpEnd × Pipe → Prop
  | waits {left leftFrames : List Bytes} {pipe' : Pipe}
      (relaying : Relaying limit left leftFrames rest pipe')
      (idle : takeFrame limit pipe'.reader.buffer = .ok none)
      (written : pipe'.written ++ leftFrames.flatten = pipe.written ++ frames.flatten)
      (fits : (∀ payload ∈ payloads, WithinLimit payload) ↔ ∀ payload ∈ left, WithinLimit payload) :
      Relayed limit payloads frames rest pipe (none, pipe')
  | ends {pipe' : Pipe} (written : pipe'.written <+: pipe.written ++ frames.flatten)
      (failed : pipe'.failed = true ∨ ∃ payload ∈ payloads, ¬WithinLimit payload) :
      Relayed limit payloads frames rest pipe (some .unwritten, pipe')

theorem relayed_relayFrames (rounds : Nat) (h : Relaying limit payloads frames rest pipe)
    (hrounds : pipe.reader.buffer.length < rounds) :
    Relayed limit payloads frames rest pipe (relayFrames takes rounds pipe) := by
  induction rounds generalizing payloads frames pipe with
  | zero => omega
  | succ rounds ih =>
      obtain ⟨hnext, hidle⟩ | ⟨payload, left, frame, leftFrames, reader, rfl, rfl, hframe, hnext,
        hshorter, hleft⟩ := h.next
      · simp only [relayFrames, hnext]
        exact .waits h hidle rfl Iff.rfl
      · simp only [relayFrames, hnext]
        by_cases hfits : WithinLimit payload
        · have hwrote : Wrote frame { pipe with reader }
              (writePayload takes payload { pipe with reader }) :=
            wrote_writePayload hframe hfits _
          cases hresult : writePayload takes payload { pipe with reader } with
          | mk ok pipe' =>
              rw [hresult] at hwrote
              have hpart : pipe.written ++ frame <+: pipe.written ++ (frame :: leftFrames).flatten :=
                ⟨leftFrames.flatten, by simp⟩
              cases ok with
              | false => exact .ends (hwrote.part.trans hpart) (.inl (hwrote.failed rfl))
              | true =>
                  have hreader : pipe'.reader = reader := hwrote.reader
                  have hwritten : pipe'.written ++ leftFrames.flatten
                      = pipe.written ++ (frame :: leftFrames).flatten := by
                    rw [hwrote.whole rfl, List.flatten_cons, List.append_assoc]
                  have hrelaying : Relaying limit left leftFrames rest pipe' :=
                    ⟨hleft.encodes, hreader ▸ hleft.limit, hreader ▸ hleft.stream⟩
                  have hrest := ih hrelaying (by rw [hreader]; omega)
                  have hall : (∀ payload' ∈ payload :: left, WithinLimit payload')
                      ↔ ∀ payload' ∈ left, WithinLimit payload' := by
                    simp [hfits]
                  change Relayed limit _ _ rest pipe (relayFrames takes rounds pipe')
                  generalize relayFrames takes rounds pipe' = result at hrest ⊢
                  cases hrest with
                  | waits relaying idle written fits =>
                      exact .waits relaying idle (written.trans hwritten) (hall.trans fits)
                  | ends written failed =>
                      refine .ends (hwritten ▸ written) (failed.imp_right ?_)
                      exact fun ⟨p, hp, hlong⟩ => ⟨p, List.mem_cons_of_mem _ hp, hlong⟩
        · rw [writePayload_too_long hfits]
          exact .ends (List.prefix_append _ _) (.inr ⟨payload, by simp, hfits⟩)

/-! ### Whole runs -/

/-- What the relay takes for granted: payloads that fit, calls of `read_some` that do not fail, and
the flag that is not cleared as long as something is to come. -/
structure Relayable (running : Nat → Bool) (round : Nat) (reads : List (Result Bytes))
    (payloads : List Bytes) : Prop where
  fits : ∀ payload ∈ payloads, WithinLimit payload
  running : ∀ n ≤ reads.length, running (round + n) = true
  reads : ∀ answer ∈ reads, ∃ chunk, answer = .ok chunk

structure Pumped (running : Nat → Bool) (round : Nat) (reads : List (Result Bytes))
    (payloads frames : List Bytes) (pipe : Pipe) (result : PumpEnd × Pipe) : Prop where
  written : result.2.written <+: pipe.written ++ frames.flatten
  whole : result.1 = .endOfInput → result.2.written = pipe.written ++ frames.flatten
  relayable : result.1 = .endOfInput → Relayable running round reads payloads
  onward : Relayable running round reads payloads →
    result.1 = .endOfInput ∨ result.2.failed = true

/-- A direction that stops early without a failed write. -/
theorem Pumped.early {round : Nat} {result : PumpEnd × Pipe} (hend : result.1 ≠ .endOfInput)
    (hwritten : result.2.written <+: pipe.written ++ frames.flatten)
    (hnot : ¬Relayable running round reads payloads) :
    Pumped running round reads payloads frames pipe result :=
  ⟨hwritten, fun h => absurd h hend, fun h => absurd h hend, fun h => absurd h hnot⟩

theorem not_relayable_of_stopped {round : Nat} (h : running round ≠ true) :
    ¬Relayable running round reads payloads :=
  fun hall => h (hall.running 0 (Nat.zero_le _))

theorem relayable_cons {round : Nat} {chunk : Bytes} {left : List Bytes}
    (hround : running round = true)
    (hfits : (∀ payload ∈ payloads, WithinLimit payload) ↔ ∀ payload ∈ left, WithinLimit payload) :
    Relayable running round (.ok chunk :: reads) payloads
      ↔ Relayable running (round + 1) reads left := by
  constructor
  · intro h
    refine ⟨hfits.mp h.fits, ?_, fun answer hmem => h.reads answer (List.mem_cons_of_mem _ hmem)⟩
    intro n hn
    rw [Nat.add_assoc, Nat.add_comm 1 n]
    exact h.running (n + 1) (Nat.succ_le_succ hn)
  · intro h
    refine ⟨hfits.mpr h.fits, ?_, List.forall_mem_cons.mpr ⟨⟨chunk, rfl⟩, h.reads⟩⟩
    intro n hn
    cases n with
    | zero => exact hround
    | succ n =>
        rw [Nat.add_comm n 1, ← Nat.add_assoc]
        exact h.running n (Nat.le_of_succ_le_succ hn)

/-- With nothing to come and nothing complete in the reader, all is written. -/
theorem Relaying.drained (h : Relaying limit payloads frames [] pipe)
    (hidle : takeFrame limit pipe.reader.buffer = .ok none) : payloads = [] ∧ frames = [] := by
  have hstream := h.stream
  rw [List.append_nil] at hstream
  obtain ⟨-, hpayloads, hframes⟩ | ⟨_, _, _, _, -, -, -, -, hsome⟩ := takeFrame_frames h.encodes
  · exact ⟨hpayloads, hframes⟩
  · rw [← hstream, hidle] at hsome
    cases hsome

theorem pumped_pump (round : Nat)
    (h : Relaying limit payloads frames (chunks reads).flatten pipe)
    (hidle : takeFrame limit pipe.reader.buffer = .ok none) (hchunks : [] ∉ chunks reads) :
    Pumped running round reads payloads frames pipe (pump takes running reads round pipe) := by
  induction reads generalizing payloads frames pipe round with
  | nil =>
      obtain ⟨rfl, rfl⟩ := h.drained hidle
      by_cases hround : running round = true
      · rw [pump, if_pos hround]
        refine ⟨by simp, by simp, fun _ => ⟨by simp, ?_, by simp⟩, fun _ => .inl rfl⟩
        intro n hn
        obtain rfl := Nat.le_zero.mp hn
        exact hround
      · rw [pump, if_neg hround]
        refine .early ?_ (List.prefix_append _ _) (not_relayable_of_stopped hround)
        exact PumpEnd.noConfusion
  | cons answer reads ih =>
      by_cases hround : running round = true
      · rw [pump, if_pos hround]
        cases answer with
        | error e =>
            refine .early ?_ (List.prefix_append _ _) fun hall => ?_
            · exact PumpEnd.noConfusion
            obtain ⟨chunk, hchunk⟩ := hall.reads (.error e) (by simp)
            cases hchunk
        | ok chunk =>
            cases chunk with
            | nil => exact absurd (by simp [chunks, Except.toOption]) hchunks
            | cons byte chunk =>
                have hpumped : pumpChunk takes pipe (.ok (byte :: chunk))
                    = relayFrames takes _ { pipe with reader := pipe.reader.feed (byte :: chunk) } :=
                  rfl
                have hfed : Relaying limit payloads frames (chunks reads).flatten
                    { pipe with reader := pipe.reader.feed (byte :: chunk) } := by
                  refine ⟨h.encodes, h.limit, ?_⟩
                  rw [← h.stream, FrameReader.feed, List.append_assoc]
                  rfl
                have hrelayed := @relayed_relayFrames _ _ _ _ _ takes _ hfed (Nat.lt_succ_self _)
                rw [hpumped]
                generalize relayFrames takes _ _ = result at hrelayed ⊢
                cases hrelayed with
                | waits relaying idle written fits =>
                    have hrest := ih (round + 1) relaying idle
                      fun hmem => hchunks (List.mem_cons_of_mem _ hmem)
                    have hiff : Relayable running round (.ok (byte :: chunk) :: reads) payloads
                        ↔ _ := relayable_cons hround fits
                    exact ⟨written ▸ hrest.written, fun hend => written ▸ hrest.whole hend,
                      fun hend => hiff.mpr (hrest.relayable hend),
                      fun hall => hrest.onward (hiff.mp hall)⟩
                | ends written failed =>
                    refine ⟨written, by simp, by simp, fun hall => .inr (failed.resolve_right ?_)⟩
                    exact fun ⟨p, hp, hlong⟩ => hlong (hall.fits p hp)
      · rw [pump, if_neg hround]
        refine .early ?_ (List.prefix_append _ _) (not_relayable_of_stopped hround)
        exact PumpEnd.noConfusion

/-! ### Writes that never fail -/

section Unfailing

variable (hnever : ∀ n, ∃ count, takes n = some (count + 1))

include hnever in
theorem failed_writeBytes (rounds : Nat) (bytes : Bytes) (pipe : Pipe) :
    (writeBytes takes rounds bytes pipe).2.failed = pipe.failed := by
  induction rounds generalizing bytes pipe with
  | zero => cases bytes <;> rfl
  | succ rounds ih =>
      cases bytes with
      | nil => rfl
      | cons byte bytes =>
          obtain ⟨count, htakes⟩ := hnever pipe.writes
          simp only [writeBytes, htakes, ih]

include hnever in
theorem failed_writePayload (payload : Bytes) (pipe : Pipe) :
    (writePayload takes payload pipe).2.failed = pipe.failed := by
  rw [writePayload]
  split
  · rfl
  · exact failed_writeBytes hnever _ _ _

include hnever in
theorem failed_relayFrames (rounds : Nat) (pipe : Pipe) :
    (relayFrames takes rounds pipe).2.failed = pipe.failed := by
  induction rounds generalizing pipe with
  | zero => rfl
  | succ rounds ih =>
      rw [relayFrames]
      split
      · rfl
      · rfl
      · rename_i payload reader _
        have hwrite := failed_writePayload hnever payload { pipe with reader }
        split
        · rename_i hresult
          rw [hresult] at hwrite
          exact hwrite
        · rename_i hresult
          rw [hresult] at hwrite
          exact (ih _).trans hwrite

include hnever in
theorem failed_pump (round : Nat) (pipe : Pipe) :
    (pump takes running reads round pipe).2.failed = pipe.failed := by
  induction reads generalizing round pipe with
  | nil => rfl
  | cons answer reads ih =>
      have hchunk : (pumpChunk takes pipe answer).2.failed = pipe.failed := by
        match answer with
        | .error _ => rfl
        | .ok [] => rfl
        | .ok (byte :: chunk) => exact failed_relayFrames hnever _ _
      rw [pump]
      split
      · split
        · rename_i hresult
          rw [hresult] at hchunk
          exact hchunk
        · rename_i hresult
          rw [hresult] at hchunk
          exact (ih _ _).trans hchunk
      · rfl

end Unfailing

/-! ### The pipe -/

/-- What comes out is what went in, unless a write fails, and nothing else ends the loop early. -/
structure Transparent (stream : Bytes) (result : PumpEnd × Pipe) : Prop where
  written : result.2.written <+: stream
  whole : result.2.failed = false → result.2.written = stream
  ends : result.1 = .endOfInput ∨ result.2.failed = true

/-- A direction with nothing read yet. -/
def freshPipe (limit : UInt32) : Pipe := { reader := { maxBytes := limit } }

theorem relaying_freshPipe (hencodes : Encodes limit payloads frames)
    (hstream : (chunks reads).flatten = frames.flatten) :
    Relaying limit payloads frames (chunks reads).flatten (freshPipe limit) :=
  ⟨hencodes, rfl, hstream⟩

theorem relayable_of_transparent (hencodes : Encodes limit payloads frames)
    (hchunks : [] ∉ chunks reads) (hstream : (chunks reads).flatten = frames.flatten)
    (h : Transparent frames.flatten
      (pump (fun _ => some 1) running reads 0 (freshPipe limit))) :
    Relayable running 0 reads payloads := by
  have hpumped : Pumped running 0 reads payloads frames (freshPipe limit)
      (pump (fun _ => some 1) running reads 0 (freshPipe limit)) :=
    pumped_pump 0 (relaying_freshPipe hencodes hstream) rfl hchunks
  apply hpumped.relayable
  apply h.ends.resolve_right
  rw [failed_pump fun _ => ⟨0, rfl⟩]
  simp [freshPipe]

/-- **The transparent pipe.** The relay hands on exactly the streams whose payloads fit the
daemon's limit, as long as no `read_some` fails and the other direction goes on. -/
theorem pump_transparent_iff (hencodes : Encodes limit payloads frames)
    (hchunks : [] ∉ chunks reads) (hstream : (chunks reads).flatten = frames.flatten) :
    (∀ takes : Takes,
        Transparent frames.flatten (pump takes running reads 0 (freshPipe limit)))
      ↔ (∀ payload ∈ payloads, payload.length ≤ kMaxFrameBytes.toNat)
        ∧ (∀ answer ∈ reads, ∃ chunk, answer = .ok chunk)
        ∧ ∀ n ≤ reads.length, running n = true := by
  constructor
  · intro h
    obtain ⟨hfits, hrunning, hreads⟩ := relayable_of_transparent hencodes hchunks hstream (h _)
    exact ⟨hfits, hreads, fun n hn => Nat.zero_add n ▸ hrunning n hn⟩
  · rintro ⟨hfits, hreads, hrunning⟩ takes
    have hpumped : Pumped running 0 reads payloads frames (freshPipe limit)
        (pump takes running reads 0 (freshPipe limit)) :=
      pumped_pump 0 (relaying_freshPipe hencodes hstream) rfl hchunks
    have hends := hpumped.onward ⟨hfits, fun n hn => (Nat.zero_add n).symm ▸ hrunning n hn, hreads⟩
    refine ⟨hpumped.written, fun hunfailed => hpumped.whole (hends.resolve_right ?_), hends⟩
    simp [hunfailed]

/-- A frame that comes in two chunks and leaves byte by byte. -/
theorem pump_transparent_chunks :
    Transparent [1, 0, 0, 0, 7]
      (pump (fun _ => some 1) (fun _ => true) [.ok [1, 0], .ok [0, 0, 7]] 0
        (freshPipe kMaxNativeMessageBytes)) := by
  have hencodes : Encodes kMaxNativeMessageBytes [[7]] [[1, 0, 0, 0, 7]] := .cons rfl .nil
  refine (pump_transparent_iff hencodes (by decide) rfl).mpr ⟨by decide, ?_, fun _ _ => rfl⟩ _
  simp

/-- A message of the browser that is one byte longer than what the daemon takes. -/
theorem not_transparent :
    ¬∀ (payloads frames : List Bytes) (reads : List (Result Bytes)) (takes : Takes),
      Encodes kMaxNativeMessageBytes payloads frames → [] ∉ chunks reads →
      (chunks reads).flatten = frames.flatten → (∀ answer ∈ reads, ∃ chunk, answer = .ok chunk) →
      Transparent frames.flatten
        (pump takes (fun _ => true) reads 0 (freshPipe kMaxNativeMessageBytes)) := by
  intro htransparent
  obtain ⟨n, hn⟩ : ∃ n, n = kMaxFrameBytes.toNat + 1 := ⟨_, rfl⟩
  have hlimit : n ≤ kMaxNativeMessageBytes.toNat := by
    rw [hn]
    decide
  have hlength : (List.replicate n (0 : UInt8)).length ≤ kMaxNativeMessageBytes.toNat := by
    rwa [List.length_replicate]
  obtain ⟨frame, hframe⟩ := encodeFrame_ok hlength
  have hencodes : Encodes kMaxNativeMessageBytes [List.replicate n 0] [frame] :=
    .cons hframe .nil
  have hframes : frame ≠ [] := by
    obtain ⟨_, _, _, _, rfl, -⟩ := encodeFrame_shape hframe
    exact List.cons_ne_nil _ _
  have hnonempty : [] ∉ chunks [.ok frame] := by
    simpa [chunks, Except.toOption] using hframes.symm
  have hstream : (chunks [.ok frame]).flatten = [frame].flatten := by
    simp [chunks, Except.toOption]
  have hrelayable := relayable_of_transparent hencodes hnonempty hstream
    (htransparent _ _ _ _ hencodes hnonempty hstream (by simp))
  have hfits : WithinLimit (List.replicate n 0) := hrelayable.fits _ (List.mem_singleton_self _)
  rw [WithinLimit, List.length_replicate, hn] at hfits
  omega

end ContextSnap.Browser
