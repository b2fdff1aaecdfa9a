import ContextSnap.Core.Json
import ContextSnap.Lib.JsonText

/-!
# What a JSON text denotes

The value of a syntax tree, given the values of its numbers, and the number literals of the parser.
`parse_number` collects more than the number production and leaves the decision to the C++ library,
so a `Literal` is any run of its bytes to which the library gives a value.
-/

namespace ContextSnap.JsonText

open Json (Value)

section Denote

variable {ν : Type} (value : ν → Value)

def Word.denote : Word ν → Value
  | .null => .null
  | .bool b => .bool b
  | .number n => value n

mutual

def SyntaxTree.denote : SyntaxTree ν → Value
  | .word w => w.denote value
  | .string chars => .string (charsDenote chars)
  | .emptyArray _ => .array []
  | .array items => .array items.denote
  | .emptyObject _ => .object []
  | .object members => .object members.denote

def Items.denote : Items ν → List Value
  | .last _ tree _ => [tree.denote]
  | .cons _ tree _ rest => tree.denote :: rest.denote

def Members.denote : Members ν → List (Bytes × Value)
  | .last _ key _ _ tree _ => [(charsDenote key, tree.denote)]
  | .cons _ key _ _ tree _ rest => (charsDenote key, tree.denote) :: rest.denote

end

end Denote

end ContextSnap.JsonText

namespace ContextSnap.Json

/-- Whether `parse_number` sees digits only behind the sign. -/
def isIntegerLiteral (text : Bytes) : Bool := (text.drop (signPrefix text).length).all isDigit

/-- A number literal that `parse_number` accepts. -/
structure Literal where
  text : Bytes
  value : Value
  nonempty : text ≠ []
  bytes : ∀ c ∈ text, isNumberByte c = true
  reads : numberValue text (isIntegerLiteral text) = some value

end ContextSnap.Json
