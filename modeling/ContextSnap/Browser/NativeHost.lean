import ContextSnap.Ipc.Protocol

/-!
# The native messaging host

The process that a browser starts relays frames between the browser and the daemon. A frame is read
with the limit of native messages and written with that of the daemon's socket.
-/

namespace ContextSnap.Browser

open Ipc (FrameReader encodeFrame kMaxFrameBytes)

def kMaxNativeMessageBytes : UInt32 := 64 * 1024 * 1024

/-- One direction of the relay: the reader of the one connection, and what the other one took. -/
structure Pipe where
  reader : FrameReader
  written : Bytes := []
  /-- The calls of `write`. -/
  writes : Nat := 0
  /-- A call of `write` failed or took nothing. -/
  failed : Bool := false

/-- What ends the loop of `pump`. -/
inductive PumpEnd where
  | endOfInput | readFailed | malformed | unwritten | stopped
  deriving DecidableEq, Repr

/-- How much a `write` takes at most, call by call; `none` is an error. -/
abbrev Takes := Nat → Option Nat

section Relay

variable (takes : Takes)

/-- Every call of `write` but the last takes something, so that the number of bytes bounds the
rounds. -/
def writeBytes : Nat → Bytes → Pipe → Bool × Pipe
  | _, [], pipe => (true, pipe)
  | 0, _, pipe => (true, pipe)
  | rounds + 1, bytes, pipe =>
      match takes pipe.writes with
      | none | some 0 => (false, { pipe with writes := pipe.writes + 1, failed := true })
      | some count =>
          writeBytes rounds (bytes.drop count)
            { pipe with written := pipe.written ++ bytes.take count, writes := pipe.writes + 1 }

def writePayload (payload : Bytes) (pipe : Pipe) : Bool × Pipe :=
  match encodeFrame payload kMaxFrameBytes with
  | .error _ => (false, pipe)
  | .ok frame => writeBytes takes frame.length frame pipe

/-- The inner loop of `pump`. A frame is no shorter than its length prefix, so that the number of
bytes in the reader bounds the rounds. -/
def relayFrames : Nat → Pipe → Option PumpEnd × Pipe
  | 0, pipe => (none, pipe)
  | rounds + 1, pipe =>
      match pipe.reader.next with
      | (.error _, reader) => (some .malformed, { pipe with reader })
      | (.ok none, reader) => (none, { pipe with reader })
      | (.ok (some payload), reader) =>
          match writePayload takes payload { pipe with reader } with
          | (false, pipe) => (some .unwritten, pipe)
          | (true, pipe) => relayFrames rounds pipe

/-- A round of `pump` behind its `read_some`. -/
def pumpChunk (pipe : Pipe) : Result Bytes → Option PumpEnd × Pipe
  | .error _ => (some .readFailed, pipe)
  | .ok [] => (some .endOfInput, pipe)
  | .ok chunk =>
      let reader := pipe.reader.feed chunk
      relayFrames takes (reader.buffer.length + 1) { pipe with reader }

/-- What `read_some` returns, call by call, with the end of the input behind it, and the flag that
the two directions share, at each reading. -/
def pump (running : Nat → Bool) : List (Result Bytes) → Nat → Pipe → PumpEnd × Pipe
  | [], round, pipe => (if running round then .endOfInput else .stopped, pipe)
  | answer :: reads, round, pipe =>
      if running round then
        match pumpChunk takes pipe answer with
        | (some ending, pipe) => (ending, pipe)
        | (none, pipe) => pump running reads (round + 1) pipe
      else (.stopped, pipe)

end Relay

end ContextSnap.Browser
