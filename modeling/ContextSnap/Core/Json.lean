import ContextSnap.Core.Result
import ContextSnap.Lib.Loop
import ContextSnap.Lib.Numeric

/-!
# JSON

The value type, the recursive-descent parser and the serializer. The parser of the source is a text
with a cursor; here a parsing function maps the text from the cursor on to its result and the text
from the new cursor on, so that the cursor of an error message is the size of the whole text less
what is left.
-/

namespace ContextSnap.Json

inductive Value where
  | null
  | bool (b : Bool)
  | int (i : Int64)
  | double (d : Float)
  | string (s : Bytes)
  | array (items : List Value)
  | object (members : List (Bytes × Value))

instance : Inhabited Value := ⟨.null⟩

abbrev Object := List (Bytes × Value)

abbrev Array := List Value

namespace Value

def isNull : Value → Bool
  | .null => true
  | _ => false

def isObject : Value → Bool
  | .object _ => true
  | _ => false

def isArray : Value → Bool
  | .array _ => true
  | _ => false

def asBool (fallback : Bool) : Value → Bool
  | .bool b => b
  | .int i => i != 0
  | _ => fallback

def asInt (fallback : Int64) : Value → Int64
  | .int i => i
  | .double d => d.toInt64
  | .bool b => if b then 1 else 0
  | _ => fallback

def asDouble (fallback : Float) : Value → Float
  | .double d => d
  | .int i => Float.ofInt i.toInt
  | _ => fallback

def asString (fallback : Bytes) : Value → Bytes
  | .string s => s
  | _ => fallback

@[simp]
theorem asBool_bool (fallback b : Bool) : (bool b).asBool fallback = b := rfl

@[simp]
theorem asInt_int (fallback i : Int64) : (int i).asInt fallback = i := rfl

@[simp]
theorem asString_string (fallback s : Bytes) : (string s).asString fallback = s := rfl

def asArray : Value → Array
  | .array items => items
  | _ => []

def asObject : Value → Object
  | .object members => members
  | _ => []

def find (key : Bytes) : Value → Option Value
  | .object members => (members.find? (·.1 == key)).map (·.2)
  | _ => none

def contains (key : Bytes) (value : Value) : Bool := (value.find key).isSome

/-- An existing key keeps its place, a new one goes to the end. -/
def setMember (key : Bytes) (value : Value) : Object → Object
  | [] => [(key, value)]
  | member :: members =>
      if member.1 = key then (key, value) :: members else member :: setMember key value members

def set (object : Value) (key : Bytes) (value : Value) : Value :=
  .object (setMember key value object.asObject)

def pushBack (array : Value) (value : Value) : Value :=
  .array (array.asArray ++ [value])

end Value

/-! ### Text encoding -/

/-- `append_utf8`, as the bytes it appends. -/
def appendUtf8 (codePoint : UInt32) : Bytes :=
  let lead (mark : UInt32) (shift : UInt32) := (mark ||| (codePoint >>> shift)).toUInt8
  let tail (shift : UInt32) := ((0x80 : UInt32) ||| ((codePoint >>> shift) &&& 0x3F)).toUInt8
  if codePoint ≤ 0x7F then [codePoint.toUInt8]
  else if codePoint ≤ 0x7FF then [lead 0xC0 6, tail 0]
  else if codePoint ≤ 0xFFFF then [lead 0xE0 12, tail 6, tail 0]
  else [lead 0xF0 18, tail 12, tail 6, tail 0]

/-- The shortest `%g` rendering that reads back, with `%.17g` as the last resort. -/
def formatDouble (value : Float) : Bytes :=
  if value.isNaN || value.isInf then
    str "null"
  else
    match (List.range' 1 16).find? fun precision => strtod (formatG precision value) == value with
    | some precision => formatG precision value
    | none => formatG 17 value

/-! ### Parser -/

def kMaxDepth : Nat := 128

/-- `Parser::fail` at the cursor `rest` of a text of `size` bytes. -/
def fail (size : Nat) (message : String) (rest : Bytes) : Error :=
  Err.invalid (str message ++ str " at offset " ++ decimal (size - rest.length)) (str "json.parse")

def isWhitespace (c : UInt8) : Bool := c == 32 || c == 9 || c == 10 || c == 13

def skipWhitespace (rest : Bytes) : Bytes := rest.dropWhile isWhitespace

def consume (expected : UInt8) : Bytes → Option Bytes
  | c :: rest => if c = expected then some rest else none
  | [] => none

/-- The text behind a literal at the cursor. -/
def afterLiteral (literal : Bytes) (rest : Bytes) : Option Bytes :=
  if rest.take literal.length = literal then some (rest.drop literal.length) else none

def hexDigitValue (c : UInt8) : Option UInt32 :=
  if 48 ≤ c ∧ c ≤ 57 then some (c - 48).toUInt32
  else if 97 ≤ c ∧ c ≤ 102 then some (c - 97 + 10).toUInt32
  else if 65 ≤ c ∧ c ≤ 70 then some (c - 65 + 10).toUInt32
  else none

section Parser

variable (size : Nat)

/-- The digits still to read by `parse_hex4` and the value of those read. -/
def parseHexDigits : Nat → UInt32 → Bytes → Result (UInt32 × Bytes)
  | 0, value, rest => .ok (value, rest)
  | _ + 1, _, [] => .error (fail size "truncated \\u escape" [])
  | digits + 1, value, c :: rest =>
      match hexDigitValue c with
      | none => .error (fail size "invalid hex digit in \\u escape" rest)
      | some digit => parseHexDigits digits ((value <<< 4) ||| digit) rest

def parseHex4 (rest : Bytes) : Result (UInt32 × Bytes) :=
  if rest.length < 4 then
    .error (fail size "truncated \\u escape" rest)
  else
    parseHexDigits size 4 0 rest

/-- The low half of a surrogate pair, when one follows the high half. -/
def parseLowSurrogate : Bytes → Option (UInt32 × Bytes)
  | 92 :: 117 :: rest =>
      match parseHex4 size rest with
      | .ok (low, rest) => if 0xDC00 ≤ low ∧ low ≤ 0xDFFF then some (low, rest) else none
      | .error _ => none
  | _ => none

/-- The `\u` branch: the bytes the escape stands for. Without a low half the cursor stays behind the
first escape. -/
def parseUnicodeEscape (rest : Bytes) : Result (Bytes × Bytes) := do
  let (codePoint, rest) ← parseHex4 size rest
  if 0xD800 ≤ codePoint ∧ codePoint ≤ 0xDBFF then
    match parseLowSurrogate size rest with
    | some (low, rest) =>
        let codePoint := (0x10000 : UInt32) + ((codePoint - 0xD800) <<< 10) + (low - 0xDC00)
        return (appendUtf8 codePoint, rest)
    | none => return (appendUtf8 codePoint, rest)
  else
    return (appendUtf8 codePoint, rest)

/-- What follows a backslash. -/
def parseEscape : Bytes → Result (Bytes × Bytes)
  | [] => .error (fail size "unterminated escape sequence" [])
  | 34 :: rest => .ok ([34], rest)
  | 92 :: rest => .ok ([92], rest)
  | 47 :: rest => .ok ([47], rest)
  | 98 :: rest => .ok ([8], rest)
  | 102 :: rest => .ok ([12], rest)
  | 110 :: rest => .ok ([10], rest)
  | 114 :: rest => .ok ([13], rest)
  | 116 :: rest => .ok ([9], rest)
  | 117 :: rest => parseUnicodeEscape size rest
  | _ :: rest => .error (fail size "invalid escape character" rest)

/-- One round of the loop of `parse_string`: what was read so far and the cursor. -/
def parseStringBody : Bytes × Bytes → Result ((Bytes × Bytes) ⊕ (Bytes × Bytes))
  | (_, []) => .error (fail size "unterminated string" [])
  | (out, c :: rest) =>
      if c = 34 then
        .ok (.inr (out, rest))
      else if c = 92 then do
        let (bytes, rest) ← parseEscape size rest
        return .inl (out ++ bytes, rest)
      else if c < 0x20 then
        .error (fail size "unescaped control character in string" (c :: rest))
      else
        .ok (.inl (out ++ [c], rest))

/-- A loop that runs on a cursor makes at most as many rounds as there are bytes left. -/
def cursorLoop {σ α : Type} (body : σ × Bytes → Result ((σ × Bytes) ⊕ α)) (state : σ × Bytes) :
    Result α :=
  Loop.run body (fail size "unterminated loop" state.2) (state.2.length + 1) state

def parseString (rest : Bytes) : Result (Bytes × Bytes) :=
  cursorLoop size (parseStringBody size) ([], rest.drop 1)

def isNumberByte (c : UInt8) : Bool :=
  isDigit c || c == 46 || c == 101 || c == 69 || c == 43 || c == 45

/-- The value of a number literal, where `none` is an exception of the C++ library. -/
def numberValue (literal : Bytes) (isInteger : Bool) : Option Value :=
  if isInteger then
    match stoll literal with
    | none => none
    | some (parsed, consumed) =>
        if consumed = literal.length then some (.int parsed) else (stod literal).map .double
  else
    (stod literal).map .double

def parseNumber (rest : Bytes) : Result (Value × Bytes) :=
  let sign := signPrefix rest
  let body := (rest.drop sign.length).takeWhile isNumberByte
  let literal := sign ++ body
  let after := rest.drop literal.length
  if literal = [] then
    .error (fail size "invalid number" after)
  else
    match numberValue literal (body.all isDigit) with
    | some value => .ok (value, after)
    | none => .error (fail size "number out of range" after)

/-- One round of the loop of `parse_object`. -/
def parseObjectBody (parseValue : Bytes → Result (Value × Bytes)) :
    Object × Bytes → Result ((Object × Bytes) ⊕ (Value × Bytes))
  | (object, rest) => do
      let rest := skipWhitespace rest
      if rest.head? ≠ some 34 then
        throw (fail size "expected object key" rest)
      let (key, rest) ← parseString size rest
      let rest := skipWhitespace rest
      match consume 58 rest with
      | none => throw (fail size "expected ':' after object key" rest)
      | some rest =>
          let (value, rest) ← parseValue rest
          let object := object ++ [(key, value)]
          let rest := skipWhitespace rest
          match consume 44 rest with
          | some rest => return .inl (object, rest)
          | none =>
              match consume 125 rest with
              | some rest => return .inr (.object object, rest)
              | none => throw (fail size "expected ',' or '\x7d' in object" rest)

def parseObject (parseValue : Bytes → Result (Value × Bytes)) (rest : Bytes) :
    Result (Value × Bytes) :=
  let rest := skipWhitespace (rest.drop 1)
  match consume 125 rest with
  | some rest => .ok (.object [], rest)
  | none => cursorLoop size (parseObjectBody size parseValue) ([], rest)

/-- One round of the loop of `parse_array`. -/
def parseArrayBody (parseValue : Bytes → Result (Value × Bytes)) :
    Array × Bytes → Result ((Array × Bytes) ⊕ (Value × Bytes))
  | (array, rest) => do
      let (value, rest) ← parseValue rest
      let array := array ++ [value]
      let rest := skipWhitespace rest
      match consume 44 rest with
      | some rest => return .inl (array, rest)
      | none =>
          match consume 93 rest with
          | some rest => return .inr (.array array, rest)
          | none => throw (fail size "expected ',' or ']' in array" rest)

def parseArray (parseValue : Bytes → Result (Value × Bytes)) (rest : Bytes) :
    Result (Value × Bytes) :=
  let rest := skipWhitespace (rest.drop 1)
  match consume 93 rest with
  | some rest => .ok (.array [], rest)
  | none => cursorLoop size (parseArrayBody size parseValue) ([], rest)

/-- A literal name at the cursor. -/
def parseLiteral (literal : String) (value : Value) (rest : Bytes) : Result (Value × Bytes) :=
  match afterLiteral (str literal) rest with
  | some rest => .ok (value, rest)
  | none => .error (fail size "invalid literal" rest)

/-- `parse_value`. The first argument counts the levels still allowed, `kMaxDepth + 1 - depth`. -/
def parseValue : Nat → Bytes → Result (Value × Bytes)
  | 0, rest => .error (fail size "maximum nesting depth exceeded" rest)
  | levels + 1, rest =>
      let rest := skipWhitespace rest
      match rest with
      | [] => .error (fail size "unexpected end of input" [])
      | c :: _ =>
          if c = 123 then parseObject size (parseValue levels) rest
          else if c = 91 then parseArray size (parseValue levels) rest
          else if c = 34 then (parseString size rest).map fun (text, rest) => (.string text, rest)
          else if c = 116 then parseLiteral size "true" (.bool true) rest
          else if c = 102 then parseLiteral size "false" (.bool false) rest
          else if c = 110 then parseLiteral size "null" .null rest
          else parseNumber size rest

end Parser

/-- `Parser::parse`. -/
def Parser.parse (text : Bytes) : Result Value := do
  let (value, rest) ← parseValue text.length (kMaxDepth + 1) (skipWhitespace text)
  let rest := skipWhitespace rest
  if rest = [] then
    return value
  else
    throw (fail text.length "trailing characters after top-level value" rest)

/-- The text behind a byte order mark, if it starts with one. -/
def dropBom : Bytes → Bytes
  | 0xEF :: 0xBB :: 0xBF :: rest => rest
  | text => text

def parse (text : Bytes) : Result Value :=
  if text = [] then
    .error (Err.invalid (str "empty JSON document") (str "json.parse"))
  else
    Parser.parse (dropBom text)

/-! ### Serializer -/

/-- A digit of `%x`. -/
def hexLetter (d : UInt8) : UInt8 := if d < 10 then 48 + d else 87 + d

/-- `snprintf("\\u%04x")` of a control character. -/
def escapeControl (c : UInt8) : Bytes :=
  str "\\u00" ++ [hexLetter (c >>> 4), hexLetter (c &&& 0x0F)]

def escapeByte (c : UInt8) : Bytes :=
  if c = 34 then str "\\\""
  else if c = 92 then str "\\\\"
  else if c = 8 then str "\\b"
  else if c = 12 then str "\\f"
  else if c = 10 then str "\\n"
  else if c = 13 then str "\\r"
  else if c = 9 then str "\\t"
  else if c < 0x20 then escapeControl c
  else [c]

def escape (input : Bytes) : Bytes := input.flatMap escapeByte

/-- The line break of a pretty-printed document. The width is an `int` in the source. -/
def writeIndent (indent : Int) (depth : Nat) : Bytes :=
  if indent < 0 then [] else 10 :: List.replicate (indent.toNat * depth) 32

/-- The opening of a member: its escaped key and the separator. -/
def serializeKey (indent : Int) (key : Bytes) : Bytes :=
  34 :: escape key ++ if indent < 0 then str "\":" else str "\": "

mutual

def serializeInto (indent : Int) : Value → Nat → Bytes
  | .null, _ => str "null"
  | .bool b, _ => if b then str "true" else str "false"
  | .int i, _ => decimalInt i.toInt
  | .double d, _ => formatDouble d
  | .string s, _ => 34 :: escape s ++ [34]
  | .array [], _ => str "[]"
  | .array (item :: items), depth =>
      91 :: writeIndent indent (depth + 1) ++ serializeInto indent item (depth + 1)
        ++ serializeItems indent items (depth + 1) ++ writeIndent indent depth ++ [93]
  | .object [], _ => str "\x7b\x7d"
  | .object ((key, member) :: members), depth =>
      123 :: writeIndent indent (depth + 1) ++ serializeKey indent key
        ++ serializeInto indent member (depth + 1)
        ++ serializeMembers indent members (depth + 1) ++ writeIndent indent depth ++ [125]

/-- The items after the first, each behind a comma. -/
def serializeItems (indent : Int) : List Value → Nat → Bytes
  | [], _ => []
  | item :: items, depth =>
      44 :: writeIndent indent depth ++ serializeInto indent item depth
        ++ serializeItems indent items depth

/-- The members after the first, each behind a comma. -/
def serializeMembers (indent : Int) : List (Bytes × Value) → Nat → Bytes
  | [], _ => []
  | (key, member) :: members, depth =>
      44 :: writeIndent indent depth ++ serializeKey indent key
        ++ serializeInto indent member depth ++ serializeMembers indent members depth

end

def serialize (value : Value) (indent : Int) : Bytes := serializeInto indent value 0

namespace Value

/-- `Value::dump`. -/
def dump (value : Value) (indent : Int) : Bytes := serialize value indent

/-! ### Paths -/

/-- The index that a numeric segment spells, computed in `size_t`. -/
def segmentIndex (segment : Bytes) : Option UInt64 :=
  segment.foldlM (fun index c =>
    if c < 48 ∨ c > 57 then none else some (index * 10 + (c - 48).toUInt64)) 0

/-- One round of the loop from a segment that is not empty. -/
def child (segment : Bytes) (current : Value) : Option Value :=
  if current.isArray then
    (segmentIndex segment).bind fun index =>
      if index.toNat < current.asArray.length then current.asArray[index.toNat]? else none
  else current.find segment

/-- The loop from a value and what is left of the path. A round that goes round again takes a dot
off the path, whose length bounds the rounds. -/
def atPathFrom : Nat → Value → Bytes → Option Value
  | 0, _, _ => none
  | rounds + 1, current, rest =>
      let segment := rest.takeWhile (· ≠ 46)
      if segment = [] then none
      else
        match current.child segment with
        | none => none
        | some next =>
            match rest.drop segment.length with
            | [] => some next
            | _ :: rest => atPathFrom rounds next rest

def atPath (dottedPath : Bytes) (value : Value) : Option Value :=
  atPathFrom (dottedPath.length + 1) value dottedPath

end Value

end ContextSnap.Json
