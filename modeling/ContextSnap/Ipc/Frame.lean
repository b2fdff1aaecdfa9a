import ContextSnap.Core.Result

/-!
# The frame codec

A frame is a four-byte little-endian length followed by the payload. The daemon socket and the
native messaging host share this codec and the reader that reassembles frames from a stream.
-/

namespace ContextSnap.Ipc

def lengthPrefixBytes : Nat := 4

/-- `encode_frame`. -/
def encodeFrame (payload : Bytes) (maxBytes : UInt32) : Result Bytes :=
  if payload.length > maxBytes.toNat then
    .error (Err.protocol (str "payload exceeds the frame limit") (str "ipc.encode_frame"))
  else
    let length := payload.length.toUInt32
    .ok ([(length &&& 0xFF).toUInt8, ((length >>> 8) &&& 0xFF).toUInt8,
      ((length >>> 16) &&& 0xFF).toUInt8, ((length >>> 24) &&& 0xFF).toUInt8] ++ payload)

structure DecodedFrame where
  payload : Bytes
  consumed : Nat
  deriving DecidableEq

/-- The length field of a buffer that holds at least the four bytes of a prefix. -/
def frameLength (b0 b1 b2 b3 : UInt8) : UInt32 :=
  b0.toUInt32 ||| (b1.toUInt32 <<< 8) ||| (b2.toUInt32 <<< 16) ||| (b3.toUInt32 <<< 24)

/-- `decode_frame`. `none` asks for more bytes and is not an error. -/
def decodeFrame (buffer : Bytes) (maxBytes : UInt32) : Result (Option DecodedFrame) :=
  match buffer with
  | b0 :: b1 :: b2 :: b3 :: rest =>
      let length := frameLength b0 b1 b2 b3
      if length > maxBytes then
        .error (Err.protocol (str "frame length exceeds the limit") (str "ipc.decode_frame"))
      else if buffer.length < lengthPrefixBytes + length.toNat then
        .ok none
      else
        .ok (some { payload := rest.take length.toNat,
                    consumed := lengthPrefixBytes + length.toNat })
  | _ => .ok none

structure FrameReader where
  buffer : Bytes := []
  maxBytes : UInt32
  deriving DecidableEq

namespace FrameReader

def feed (reader : FrameReader) (bytes : Bytes) : FrameReader :=
  { reader with buffer := reader.buffer ++ bytes }

/-- `FrameReader::next`: pops the next complete frame, or `none` when none is buffered yet. -/
def next (reader : FrameReader) : Result (Option Bytes) × FrameReader :=
  match decodeFrame reader.buffer reader.maxBytes with
  | .error e => (.error e, reader)
  | .ok none => (.ok none, reader)
  | .ok (some frame) =>
      (.ok (some frame.payload), { reader with buffer := reader.buffer.drop frame.consumed })

end FrameReader

end ContextSnap.Ipc
