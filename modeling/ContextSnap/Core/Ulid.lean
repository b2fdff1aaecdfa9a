import ContextSnap.Core.Types

/-!
# ULID identifiers

Crockford base32: ten characters of a 48-bit millisecond time and sixteen of randomness.
-/

namespace ContextSnap

def kAlphabet : Bytes := str "0123456789ABCDEFGHJKMNPQRSTVWXYZ"

def kTimestampChars : Nat := 10

def kUlidLength : Nat := 26

/-- `decode_char`, where `none` is the negative result. -/
def decodeChar (c : UInt8) : Option UInt64 :=
  if isDigit c then some (c - 48).toUInt64
  else if c = 105 ∨ c = 73 ∨ c = 108 ∨ c = 76 then some 1
  else if c = 111 ∨ c = 79 then some 0
  else ((List.range' 10 22).find? fun i => kAlphabet.getD i 0 = toUpper c).map UInt64.ofNat

def isValidUlid (text : Bytes) : Bool :=
  text.length == kUlidLength && text.all (fun c => (decodeChar c).isSome)
    && ((text.head?.bind decodeChar).all fun value => value ≤ 7)

/-- The low `5 * count` bits as `count` characters, the most significant first. -/
def base32 : Nat → UInt64 → Bytes
  | 0, _ => []
  | count + 1, value =>
      base32 count (value >>> 5) ++ [kAlphabet.getD (value &&& 0x1F).toNat 0]

def generateUlid (time : Timestamp) (randomHi randomLo : UInt64) : Bytes :=
  let millis := time / 1000000
  let timestamp := (if millis < 0 then 0 else millis).toUInt64 &&& 0x0000FFFFFFFFFFFF
  base32 kTimestampChars timestamp ++ base32 8 (randomHi &&& 0x000000FFFFFFFFFF)
    ++ base32 8 (randomLo &&& 0x000000FFFFFFFFFF)

/-- The epoch when the text is too short or has a character outside the alphabet. -/
def ulidTimestamp (text : Bytes) : Timestamp :=
  if text.length < kTimestampChars then
    0
  else
    match (text.take kTimestampChars).mapM decodeChar with
    | none => 0
    | some values =>
        let millis := values.foldl (fun (millis value : UInt64) => (millis <<< 5) ||| value) 0
        millis.toInt64 * 1000000

def shortId (ulid : Bytes) (length : Nat) : Bytes :=
  ulid.drop (ulid.length - min length ulid.length)

end ContextSnap
