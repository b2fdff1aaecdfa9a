import ContextSnap.Lib.Bytes

/-!
# JSON texts

The grammar of RFC 8259 as concrete syntax trees: a tree keeps the whitespace, the spelling of every
string character and of every number, so that a text is derivable exactly when it is the text of a
tree. An unescaped string character is any byte from `0x20` on other than the quote and the
backslash. The type of number spellings is a parameter, which lets a looser number syntax share the
rest of the grammar.
-/

namespace ContextSnap.JsonText

/-! ### Whitespace -/

inductive Space where
  | space | tab | lineFeed | carriageReturn
  deriving DecidableEq

def Space.byte : Space → UInt8
  | .space => 32
  | .tab => 9
  | .lineFeed => 10
  | .carriageReturn => 13

abbrev Whitespace := List Space

def Whitespace.text (ws : Whitespace) : Bytes := ws.map Space.byte

/-! ### Strings -/

/-- The letters of the short escapes. -/
inductive EscapeLetter where
  | quote | backslash | slash | b | f | n | r | t
  deriving DecidableEq

def EscapeLetter.byte : EscapeLetter → UInt8
  | .quote => 34
  | .backslash => 92
  | .slash => 47
  | .b => 98
  | .f => 102
  | .n => 110
  | .r => 114
  | .t => 116

/-- The character a short escape stands for. -/
def EscapeLetter.denotes : EscapeLetter → UInt8
  | .quote => 34
  | .backslash => 92
  | .slash => 47
  | .b => 8
  | .f => 12
  | .n => 10
  | .r => 13
  | .t => 9

def IsHexDigit (c : UInt8) : Prop := (48 ≤ c ∧ c ≤ 57) ∨ (65 ≤ c ∧ c ≤ 70) ∨ (97 ≤ c ∧ c ≤ 102)

instance (c : UInt8) : Decidable (IsHexDigit c) := inferInstanceAs (Decidable (_ ∨ _))

structure HexDigit where
  byte : UInt8
  valid : IsHexDigit byte

def HexDigit.value (d : HexDigit) : Nat :=
  if d.byte ≤ 57 then d.byte.toNat - 48
  else if d.byte ≤ 70 then d.byte.toNat - 55
  else d.byte.toNat - 87

/-- The four digits of a `\u` escape. -/
structure CodeUnit where
  d3 : HexDigit
  d2 : HexDigit
  d1 : HexDigit
  d0 : HexDigit

namespace CodeUnit

def text (u : CodeUnit) : Bytes := [u.d3.byte, u.d2.byte, u.d1.byte, u.d0.byte]

def value (u : CodeUnit) : Nat :=
  16 * (16 * (16 * u.d3.value + u.d2.value) + u.d1.value) + u.d0.value

def IsHigh (u : CodeUnit) : Prop := 0xD800 ≤ u.value ∧ u.value ≤ 0xDBFF

def IsLow (u : CodeUnit) : Prop := 0xDC00 ≤ u.value ∧ u.value ≤ 0xDFFF

instance (u : CodeUnit) : Decidable u.IsHigh := inferInstanceAs (Decidable (_ ∧ _))

instance (u : CodeUnit) : Decidable u.IsLow := inferInstanceAs (Decidable (_ ∧ _))

end CodeUnit

inductive StringChar where
  | plain (c : UInt8) (valid : 0x20 ≤ c ∧ c ≠ 34 ∧ c ≠ 92)
  | escape (letter : EscapeLetter)
  | unicode (unit : CodeUnit)

def StringChar.text : StringChar → Bytes
  | .plain c _ => [c]
  | .escape letter => [92, letter.byte]
  | .unicode unit => 92 :: 117 :: unit.text

/-- The text between the quotes. -/
def charsText (chars : List StringChar) : Bytes := chars.flatMap StringChar.text

/-- A string literal with its quotes. -/
def stringText (chars : List StringChar) : Bytes := 34 :: charsText chars ++ [34]

/-- UTF-8, extended to surrogates by the three-byte form. -/
def utf8 (codePoint : Nat) : Bytes :=
  if codePoint.isValidChar then
    String.utf8EncodeChar (Char.ofNat codePoint)
  else
    [UInt8.ofNat (0xE0 + codePoint / 2 ^ 12), UInt8.ofNat (0x80 + codePoint / 2 ^ 6 % 2 ^ 6),
      UInt8.ofNat (0x80 + codePoint % 2 ^ 6)]

theorem char_val_ofNat {n : Nat} (h : n.isValidChar) : (Char.ofNat n).val.toNat = n := by
  rw [Char.ofNat, dif_pos h]
  rfl

/-- The code point of a surrogate pair. -/
def pairValue (high low : CodeUnit) : Nat :=
  0x10000 + 0x400 * (high.value - 0xD800) + (low.value - 0xDC00)

/-- The bytes a string stands for: a high surrogate combines with a low one right behind it. -/
def charsDenote : List StringChar → Bytes
  | [] => []
  | .plain c _ :: chars => c :: charsDenote chars
  | .escape letter :: chars => letter.denotes :: charsDenote chars
  | .unicode high :: .unicode low :: chars =>
      if high.IsHigh ∧ low.IsLow then
        utf8 (pairValue high low) ++ charsDenote chars
      else
        utf8 high.value ++ charsDenote (.unicode low :: chars)
  | .unicode unit :: chars => utf8 unit.value ++ charsDenote chars

/-! ### Numbers -/

abbrev Digit := Fin 10

def Digit.byte (d : Digit) : UInt8 := UInt8.ofNat (48 + d.val)

def digitsText (digits : List Digit) : Bytes := digits.map Digit.byte

/-- The `int` production: a zero, or digits that do not start with one. -/
inductive Whole where
  | zero
  | nonzero (first : Fin 9) (rest : List Digit)

def Whole.digits : Whole → List Digit
  | .zero => [0]
  | .nonzero first rest => first.succ :: rest

def Whole.value (whole : Whole) : Nat := whole.digits.foldl (fun value d => 10 * value + d.val) 0

/-- One digit or more. -/
structure Digits1 where
  first : Digit
  rest : List Digit

def Digits1.text (digits : Digits1) : Bytes := digitsText (digits.first :: digits.rest)

inductive ExponentSign where
  | none | plus | minus

def ExponentSign.text : ExponentSign → Bytes
  | .none => []
  | .plus => [43]
  | .minus => [45]

structure Exponent where
  capital : Bool
  sign : ExponentSign
  digits : Digits1

def Exponent.text (e : Exponent) : Bytes :=
  (if e.capital then 69 else 101) :: e.sign.text ++ e.digits.text

/-- The `number` production: `-? int frac? exp?`. -/
structure Number where
  negative : Bool
  whole : Whole
  fraction : Option Digits1
  exponent : Option Exponent

def Number.text (n : Number) : Bytes :=
  (if n.negative then [45] else []) ++ digitsText n.whole.digits
    ++ (match n.fraction with
      | some digits => 46 :: digits.text
      | none => [])
    ++ (match n.exponent with
      | some e => e.text
      | none => [])

/-- A number without fraction and exponent. -/
structure Integer where
  negative : Bool
  whole : Whole

namespace Integer

def toNumber (n : Integer) : Number :=
  { negative := n.negative, whole := n.whole, fraction := none, exponent := none }

def text (n : Integer) : Bytes := n.toNumber.text

def value (n : Integer) : Int := if n.negative then -n.whole.value else n.whole.value

end Integer

/-! ### Values -/

/-- A value that is neither a string nor a container. -/
inductive Word (ν : Type) where
  | null
  | bool (b : Bool)
  | number (n : ν)

def Word.text {ν : Type} (spell : ν → Bytes) : Word ν → Bytes
  | .null => str "null"
  | .bool true => str "true"
  | .bool false => str "false"
  | .number n => spell n

mutual

inductive SyntaxTree (ν : Type) where
  | word (w : Word ν)
  | string (chars : List StringChar)
  | emptyArray (inner : Whitespace)
  | array (items : Items ν)
  | emptyObject (inner : Whitespace)
  | object (members : Members ν)

/-- The values of an array that is not empty, each with the whitespace around it. -/
inductive Items (ν : Type) where
  | last (before : Whitespace) (value : SyntaxTree ν) (after : Whitespace)
  | cons (before : Whitespace) (value : SyntaxTree ν) (after : Whitespace) (rest : Items ν)

/-- The members of an object that is not empty. -/
inductive Members (ν : Type) where
  | last (beforeKey : Whitespace) (key : List StringChar) (afterKey before : Whitespace)
      (value : SyntaxTree ν) (after : Whitespace)
  | cons (beforeKey : Whitespace) (key : List StringChar) (afterKey before : Whitespace)
      (value : SyntaxTree ν) (after : Whitespace) (rest : Members ν)

end

/-- The opening of a member, up to its value. -/
def keyText (beforeKey : Whitespace) (key : List StringChar) (afterKey before : Whitespace) :
    Bytes :=
  beforeKey.text ++ stringText key ++ afterKey.text ++ 58 :: before.text

section Text

variable {ν : Type} (spell : ν → Bytes)

mutual

def SyntaxTree.text : SyntaxTree ν → Bytes
  | .word w => w.text spell
  | .string chars => stringText chars
  | .emptyArray inner => 91 :: inner.text ++ [93]
  | .array items => 91 :: items.text ++ [93]
  | .emptyObject inner => 123 :: inner.text ++ [125]
  | .object members => 123 :: members.text ++ [125]

def Items.text : Items ν → Bytes
  | .last before value after => before.text ++ value.text ++ after.text
  | .cons before value after rest => before.text ++ value.text ++ after.text ++ 44 :: rest.text

def Members.text : Members ν → Bytes
  | .last beforeKey key afterKey before value after =>
      keyText beforeKey key afterKey before ++ value.text ++ after.text
  | .cons beforeKey key afterKey before value after rest =>
      keyText beforeKey key afterKey before ++ value.text ++ after.text ++ 44 :: rest.text

end

end Text

section Measures

variable {ν : Type}

mutual

/-- The nesting of containers, less an innermost one that is empty. -/
def SyntaxTree.depth : SyntaxTree ν → Nat
  | .word _ | .string _ | .emptyArray _ | .emptyObject _ => 0
  | .array items => items.depth + 1
  | .object members => members.depth + 1

def Items.depth : Items ν → Nat
  | .last _ value _ => value.depth
  | .cons _ value _ rest => max value.depth rest.depth

def Members.depth : Members ν → Nat
  | .last _ _ _ _ value _ => value.depth
  | .cons _ _ _ _ value _ rest => max value.depth rest.depth

end

mutual

/-- The words of a tree from left to right. -/
def SyntaxTree.words : SyntaxTree ν → List (Word ν)
  | .word w => [w]
  | .string _ | .emptyArray _ | .emptyObject _ => []
  | .array items => items.words
  | .object members => members.words

def Items.words : Items ν → List (Word ν)
  | .last _ value _ => value.words
  | .cons _ value _ rest => value.words ++ rest.words

def Members.words : Members ν → List (Word ν)
  | .last _ _ _ _ value _ => value.words
  | .cons _ _ _ _ value _ rest => value.words ++ rest.words

end

end Measures

/-- The `JSON-text` production. -/
structure Document (ν : Type) where
  before : Whitespace
  value : SyntaxTree ν
  after : Whitespace

def Document.text {ν : Type} (spell : ν → Bytes) (document : Document ν) : Bytes :=
  document.before.text ++ document.value.text spell ++ document.after.text

/-- The text is a JSON text of RFC 8259. -/
def Derivable (text : Bytes) : Prop := ∃ document : Document Number, document.text Number.text = text

/-! ### Bare words -/

/-- Bytes that separate words: whitespace and the structural characters. -/
def isDelimiter (c : UInt8) : Bool :=
  [32, 9, 10, 13, 91, 93, 123, 125, 44, 58].contains c

/-- Where a scan for words is: in a word, in a string, or behind a backslash in a string. -/
inductive ScanState where
  | word (read : Bytes)
  | string
  | escaped

def finishWord (word : Bytes) : List Bytes := if word = [] then [] else [word]

/-- The words from a state on: the runs of bytes outside string literals that are neither
delimiters nor quotes. -/
def scanWords : ScanState → Bytes → List Bytes
  | .word read, [] => finishWord read
  | .word read, c :: rest =>
      if c = 34 then finishWord read ++ scanWords .string rest
      else if isDelimiter c then finishWord read ++ scanWords (.word []) rest
      else scanWords (.word (read ++ [c])) rest
  | .string, [] => []
  | .string, c :: rest =>
      if c = 92 then scanWords .escaped rest
      else if c = 34 then scanWords (.word []) rest
      else scanWords .string rest
  | .escaped, [] => []
  | .escaped, _ :: rest => scanWords .string rest

def bareWords (text : Bytes) : List Bytes := scanWords (.word []) text

/-- The word is a literal name or a number of the grammar. -/
def IsWord (word : Bytes) : Prop := ∃ w : Word Number, w.text Number.text = word

end ContextSnap.JsonText
