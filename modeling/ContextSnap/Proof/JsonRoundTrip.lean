import ContextSnap.Proof.JsonParser

/-!
# Serializing and parsing

`serialize` writes the text of a document whose tree mirrors the value, so the parser reads it back.
A `double` is written by `format_double` and comes back as whatever the parser makes of that text;
`Value.mapDoubles` records the difference, and there is none for a value without them.
-/

namespace ContextSnap.Json

open JsonText

/-! ### Measures of a value -/

mutual

/-- The nesting of containers. -/
def Value.depth : Value → Nat
  | .array items => depthOfItems items + 1
  | .object members => depthOfMembers members + 1
  | _ => 0

def depthOfItems : List Value → Nat
  | [] => 0
  | item :: items => max item.depth (depthOfItems items)

def depthOfMembers : List (Bytes × Value) → Nat
  | [] => 0
  | (_, member) :: members => max member.depth (depthOfMembers members)

end

mutual

/-- The numbers of a value that are not integers. -/
def Value.doubles : Value → List Float
  | .double d => [d]
  | .array items => doublesOfItems items
  | .object members => doublesOfMembers members
  | _ => []

def doublesOfItems : List Value → List Float
  | [] => []
  | item :: items => item.doubles ++ doublesOfItems items

def doublesOfMembers : List (Bytes × Value) → List Float
  | [] => []
  | (_, member) :: members => member.doubles ++ doublesOfMembers members

end

section MapDoubles

variable (f : Float → Value)

mutual

def Value.mapDoubles : Value → Value
  | .null => .null
  | .bool b => .bool b
  | .int i => .int i
  | .double d => f d
  | .string s => .string s
  | .array items => .array (mapDoublesOfItems items)
  | .object members => .object (mapDoublesOfMembers members)

def mapDoublesOfItems : List Value → List Value
  | [] => []
  | item :: items => item.mapDoubles :: mapDoublesOfItems items

def mapDoublesOfMembers : List (Bytes × Value) → List (Bytes × Value)
  | [] => []
  | (key, member) :: members => (key, member.mapDoubles) :: mapDoublesOfMembers members

end

mutual

theorem mapDoubles_of_doubles_nil (v : Value) (h : v.doubles = []) : v.mapDoubles f = v := by
  match v with
  | .null | .bool _ | .int _ | .string _ => rfl
  | .double d => simp [Value.doubles] at h
  | .array items =>
      rw [Value.mapDoubles, mapDoublesOfItems_of_nil items h]
  | .object members =>
      rw [Value.mapDoubles, mapDoublesOfMembers_of_nil members h]

theorem mapDoublesOfItems_of_nil (items : List Value) (h : doublesOfItems items = []) :
    mapDoublesOfItems f items = items := by
  match items with
  | [] => rfl
  | item :: items =>
      simp only [doublesOfItems, List.append_eq_nil_iff] at h
      rw [mapDoublesOfItems, mapDoubles_of_doubles_nil item h.1, mapDoublesOfItems_of_nil items h.2]

theorem mapDoublesOfMembers_of_nil (members : List (Bytes × Value))
    (h : doublesOfMembers members = []) : mapDoublesOfMembers f members = members := by
  match members with
  | [] => rfl
  | (key, member) :: members =>
      simp only [doublesOfMembers, List.append_eq_nil_iff] at h
      rw [mapDoublesOfMembers, mapDoubles_of_doubles_nil member h.1,
        mapDoublesOfMembers_of_nil members h.2]

end

end MapDoubles

/-! ### Integers -/

theorem decimalInt_eq (i : Int) :
    decimalInt i = minus (decide (i < 0)) ++ decimal i.natAbs := by
  by_cases h : i < 0
  · simp [decimalInt, minus, h]
    rfl
  · simp [decimalInt, minus, h]

theorem signed_natAbs (i : Int) : signed (decide (i < 0)) i.natAbs = i := by
  by_cases h : i < 0
  · simp only [signed, h, decide_true, if_true]
    omega
  · simp only [signed, h, decide_false, Bool.false_eq_true, if_false]
    omega

theorem isNumberByte_of_isDigit {c : UInt8} (h : isDigit c = true) : isNumberByte c = true := by
  simp [isNumberByte, h]

/-- An optional minus and digits within the range of `int64`. -/
def digitsLiteral (negative : Bool) (digits : Bytes) (hnonempty : digits ≠ [])
    (hdigits : ∀ c ∈ digits, isDigit c = true)
    (hfits : FitsInt64 (signed negative (digitsValue digits))) : Literal where
  text := minus negative ++ digits
  value := .int (Int64.ofInt (signed negative (digitsValue digits)))
  nonempty := by simp [hnonempty]
  bytes := by
    intro c hc
    rcases List.mem_append.mp hc with hc | hc
    · cases negative with
      | true =>
          obtain rfl := List.mem_singleton.mp hc
          rfl
      | false => simp [minus] at hc
    · exact isNumberByte_of_isDigit (hdigits c hc)
  reads := by
    have hinteger : isIntegerLiteral (minus negative ++ digits) = true := by
      rw [isIntegerLiteral, signPrefix_digits negative hnonempty hdigits, List.drop_left]
      exact List.all_eq_true.mpr hdigits
    simp only [numberValue, hinteger, if_true, stoll_digits negative hnonempty hdigits hfits]

theorem fitsInt64_toInt (i : Int64) : FitsInt64 i.toInt :=
  ⟨i.le_toInt, i.toInt_lt⟩

/-- The literal `std::to_string` writes. -/
def intLiteral (i : Int64) : Literal :=
  digitsLiteral (decide (i.toInt < 0)) (decimal i.toInt.natAbs) (decimal_ne_nil _)
    (fun _ => isDigit_of_mem_decimal)
    (by rw [digitsValue_decimal, signed_natAbs]; exact fitsInt64_toInt i)

theorem intLiteral_text (i : Int64) : (intLiteral i).text = decimalInt i.toInt :=
  (decimalInt_eq i.toInt).symm

theorem intLiteral_value (i : Int64) : (intLiteral i).value = .int i := by
  simp only [intLiteral, digitsLiteral, digitsValue_decimal, signed_natAbs, Int64.ofInt_toInt]

/-! ### Strings -/

theorem isHexDigit_hexLetter :
    ∀ n : Fin 32, IsHexDigit (hexLetter (UInt8.ofNat n.val >>> 4))
      ∧ IsHexDigit (hexLetter (UInt8.ofNat n.val &&& 0x0F)) := by
  decide

/-- The escape of a control character. -/
def controlUnit (n : Fin 32) : CodeUnit where
  d3 := ⟨48, by decide⟩
  d2 := ⟨48, by decide⟩
  d1 := ⟨hexLetter (UInt8.ofNat n.val >>> 4), (isHexDigit_hexLetter n).1⟩
  d0 := ⟨hexLetter (UInt8.ofNat n.val &&& 0x0F), (isHexDigit_hexLetter n).2⟩

theorem controlUnit_value : ∀ n : Fin 32, (controlUnit n).value = n.val := by
  decide

/-- The character that `escape` writes for a byte. -/
def charOf (c : UInt8) : StringChar :=
  if hquote : c = 34 then .escape .quote
  else if hbackslash : c = 92 then .escape .backslash
  else if c = 8 then .escape .b
  else if c = 12 then .escape .f
  else if c = 10 then .escape .n
  else if c = 13 then .escape .r
  else if c = 9 then .escape .t
  else if hcontrol : c < 0x20 then .unicode (controlUnit ⟨c.toNat, UInt8.lt_iff_toNat_lt.mp hcontrol⟩)
  else .plain c ⟨UInt8.not_lt.mp hcontrol, hquote, hbackslash⟩

theorem charOf_text (c : UInt8) : (charOf c).text = escapeByte c := by
  simp only [charOf, escapeByte]
  split
  · rfl
  split
  · rfl
  split
  · rfl
  split
  · rfl
  split
  · rfl
  split
  · rfl
  split
  · rfl
  split
  · simp [StringChar.text, CodeUnit.text, controlUnit, escapeControl]
    rfl
  · rfl

private theorem utf8_ascii {c : UInt8} (h : c.toNat < 0x80) : utf8 c.toNat = [c] := by
  have hvalid : c.toNat.isValidChar := Or.inl (by omega)
  rw [utf8, if_pos hvalid]
  simp only [String.utf8EncodeChar, char_val_ofNat hvalid]
  rw [if_pos (by omega), UInt8.ofNat_toNat]

private theorem charsDenote_unicode {u : CodeUnit} (hlow : u.value < 0x80) (chars : List StringChar) :
    charsDenote (.unicode u :: chars) = utf8 u.value ++ charsDenote chars := by
  have hhigh : ¬ u.IsHigh := by
    intro hhigh
    have hge := hhigh.1
    omega
  match chars with
  | .unicode low :: chars => rw [charsDenote, if_neg fun h => hhigh h.1]
  | [] | .plain _ _ :: _ | .escape _ :: _ => rfl

theorem charOf_denote (c : UInt8) (chars : List StringChar) :
    charsDenote (charOf c :: chars) = c :: charsDenote chars := by
  simp only [charOf]
  split
  · rename_i h; rw [h]; rfl
  split
  · rename_i h; rw [h]; rfl
  split
  · rename_i h; rw [h]; rfl
  split
  · rename_i h; rw [h]; rfl
  split
  · rename_i h; rw [h]; rfl
  split
  · rename_i h; rw [h]; rfl
  split
  · rename_i h; rw [h]; rfl
  split
  · rename_i hcontrol
    have hlt : c.toNat < 32 := UInt8.lt_iff_toNat_lt.mp hcontrol
    have hvalue := controlUnit_value ⟨c.toNat, hlt⟩
    simp only at hvalue
    rw [charsDenote_unicode (by rw [hvalue]; omega), hvalue, utf8_ascii (by omega)]
    rfl
  · rfl

theorem escape_eq (s : Bytes) : escape s = charsText (s.map charOf) := by
  induction s with
  | nil => rfl
  | cons c s ih => simp_all [escape, charsText, charOf_text]

theorem charsDenote_charOf (s : Bytes) : charsDenote (s.map charOf) = s := by
  induction s with
  | nil => rfl
  | cons c s ih => rw [List.map_cons, charOf_denote, ih]

/-! ### Values -/

/-- The whitespace of `write_indent`. -/
def indentSpace (indent : Int) (depth : Nat) : Whitespace :=
  if indent < 0 then [] else .lineFeed :: List.replicate (indent.toNat * depth) .space

theorem writeIndent_eq (indent : Int) (depth : Nat) :
    writeIndent indent depth = (indentSpace indent depth).text := by
  unfold writeIndent indentSpace
  split
  · rfl
  · simp [Whitespace.text, Space.byte]

/-- The whitespace between the colon of a member and its value. -/
def colonSpace (indent : Int) : Whitespace := if indent < 0 then [] else [.space]

theorem serializeKey_eq (indent : Int) (key : Bytes) (beforeKey : Whitespace) :
    beforeKey.text ++ serializeKey indent key
      = keyText beforeKey (key.map charOf) [] (colonSpace indent) := by
  unfold serializeKey keyText colonSpace
  rw [escape_eq]
  split <;> simp [stringText, Whitespace.text, str, Space.byte] <;> rfl

/-- The text is a document that denotes the value, nested no deeper than the bound. -/
def Renders (text : Bytes) (value : Value) (depth : Nat) : Prop :=
  ∃ document : Document Literal, document.text Literal.text = text
    ∧ document.value.denote Literal.value = value ∧ document.value.depth ≤ depth

theorem renders_tree (t : SyntaxTree Literal) {depth : Nat} (hdepth : t.depth ≤ depth) :
    Renders (t.text Literal.text) (t.denote Literal.value) depth :=
  ⟨⟨[], t, []⟩, by simp [Document.text, Whitespace.text], rfl, hdepth⟩

/-! ### Doubles -/

theorem fractionText_bytes {digits : Bytes} (h : ∀ c ∈ digits, isNumberByte c = true) :
    ∀ c ∈ fractionText digits, isNumberByte c = true := by
  intro c hc
  simp only [fractionText] at hc
  split at hc
  · simp at hc
  · rcases List.mem_cons.mp hc with rfl | hc
    · rfl
    · exact h c (by simpa using List.mem_reverse.mp ((List.dropWhile_sublist _).mem
        (List.mem_reverse.mp hc)))

set_option maxRecDepth 10000 in
theorem formatG_bytes (precision : Nat) (value : Float) :
    ∀ c ∈ formatG precision value, isNumberByte c = true := by
  have hdecimal : ∀ n, ∀ c ∈ decimal n, isNumberByte c = true :=
    fun n c hc => isNumberByte_of_isDigit (isDigit_of_mem_decimal hc)
  have htake : ∀ n k, ∀ c ∈ (decimal n).take k, isNumberByte c = true :=
    fun n k c hc => hdecimal n c (List.mem_of_mem_take hc)
  have hdrop : ∀ n k, ∀ c ∈ fractionText ((decimal n).drop k), isNumberByte c = true :=
    fun n k => fractionText_bytes fun c hc => hdecimal n c (List.mem_of_mem_drop hc)
  have hpadded : ∀ n k, ∀ c ∈ fractionText (List.replicate k 48 ++ decimal n),
      isNumberByte c = true := by
    refine fun n k => fractionText_bytes (List.forall_mem_append.mpr ⟨fun c hc => ?_, hdecimal n⟩)
    rw [List.eq_of_mem_replicate hc]
    rfl
  have hsign : ∀ c ∈ (if 2 ^ 63 ≤ value.toBits.toNat then str "-" else []),
      isNumberByte c = true := by
    split <;> decide
  have hmark : ∀ exponent : Int, ∀ c ∈ (if exponent < 0 then str "e-" else str "e+"),
      isNumberByte c = true := by
    intro exponent
    split <;> decide
  have hpower : ∀ power : Bytes, (∀ c ∈ power, isNumberByte c = true) →
      ∀ c ∈ (if power.length < 2 then 48 :: power else power), isNumberByte c = true := by
    intro power h
    split
    · exact List.forall_mem_cons.mpr ⟨rfl, h⟩
    · exact h
  simp only [formatG]
  split
  · exact List.forall_mem_append.mpr ⟨hsign, by decide⟩
  split
  · split
    · exact List.forall_mem_append.mpr ⟨List.forall_mem_append.mpr ⟨hsign, htake _ _⟩, hdrop _ _⟩
    · exact List.forall_mem_append.mpr
        ⟨List.forall_mem_append.mpr ⟨hsign, by decide⟩, hpadded _ _⟩
  · simp only [List.forall_mem_append]
    exact ⟨⟨⟨⟨hsign, htake _ _⟩, hdrop _ _⟩, hmark _⟩, hpower _ (hdecimal _)⟩

theorem formatDouble_bytes (value : Float) :
    formatDouble value = str "null" ∨ ∀ c ∈ formatDouble value, isNumberByte c = true := by
  unfold formatDouble
  split
  · exact .inl rfl
  · refine .inr ?_
    split <;> exact formatG_bytes _ value

/-- A text of number bytes that is accepted is a number literal. -/
theorem literal_of_parse {text : Bytes} {value : Value}
    (hbytes : ∀ c ∈ text, isNumberByte c = true) (h : Parser.parse text = .ok value) :
    ∃ literal : Literal, literal.text = text ∧ literal.value = value := by
  obtain ⟨⟨before, t, after⟩, rfl, -, hvalue⟩ := Parser.parse_ok h
  have hspace : ∀ sp : Space, isNumberByte sp.byte = false := by rintro (_ | _ | _ | _) <;> rfl
  have hnone : ∀ ws : Whitespace, (∀ c ∈ ws.text, isNumberByte c = true) → ws = [] := by
    intro ws hws
    cases ws with
    | nil => rfl
    | cons sp ws => simpa [hspace] using hws sp.byte (by simp [Whitespace.text])
  obtain rfl := hnone before fun c hc => hbytes c (by simp [Document.text, hc])
  obtain rfl := hnone after fun c hc => hbytes c (by simp [Document.text, hc])
  have htree : ∀ c ∈ t.text Literal.text, isNumberByte c = true :=
    fun c hc => hbytes c (by simp [Document.text, hc])
  have hhead : ∀ c more, t.text Literal.text = c :: more → isNumberByte c = false → False := by
    intro c more hcons hc
    have hbyte := htree c (by rw [hcons]; exact List.mem_cons_self)
    simp [hc] at hbyte
  cases t with
  | word w =>
      cases w with
      | null => exact (hhead _ _ rfl rfl).elim
      | bool b => cases b <;> exact (hhead _ _ rfl rfl).elim
      | number literal =>
          exact ⟨literal, by simp [Document.text, Whitespace.text, SyntaxTree.text, Word.text], hvalue.symm⟩
  | string chars => exact (hhead _ _ rfl rfl).elim
  | emptyArray inner => exact (hhead _ _ rfl rfl).elim
  | array items => exact (hhead _ _ rfl rfl).elim
  | emptyObject inner => exact (hhead _ _ rfl rfl).elim
  | object members => exact (hhead _ _ rfl rfl).elim

section Serialize

variable (indent : Int) (read : Float → Value)

/-- The parser makes `read d` of the text of every listed `double`. -/
def ReadsBack (doubles : List Float) : Prop :=
  ∀ d ∈ doubles, Parser.parse (formatDouble d) = .ok (read d)

mutual

theorem serializeInto_renders (v : Value) (depth : Nat) (hread : ReadsBack read v.doubles) :
    Renders (serializeInto indent v depth) (v.mapDoubles read) v.depth := by
  match v with
  | .null => exact renders_tree (.word .null) (Nat.le_refl 0)
  | .bool true => exact renders_tree (.word (.bool true)) (Nat.le_refl 0)
  | .bool false => exact renders_tree (.word (.bool false)) (Nat.le_refl 0)
  | .int i =>
      have h := renders_tree (.word (.number (intLiteral i))) (Nat.le_refl 0)
      simp only [SyntaxTree.text, Word.text, SyntaxTree.denote, Word.denote, intLiteral_text,
        intLiteral_value] at h
      exact h
  | .double d =>
      have hparse : Parser.parse (formatDouble d) = .ok (read d) := hread d (by simp [Value.doubles])
      rw [serializeInto, Value.mapDoubles]
      rcases formatDouble_bytes d with hnull | hbytes
      · rw [hnull] at hparse ⊢
        have hvalue : read d = .null := (Except.ok.inj hparse).symm
        rw [hvalue]
        exact renders_tree (.word .null) (Nat.le_refl 0)
      · obtain ⟨literal, htext, hvalue⟩ := literal_of_parse hbytes hparse
        rw [← htext, ← hvalue]
        exact renders_tree (.word (.number literal)) (Nat.le_refl 0)
  | .string s =>
      have h := renders_tree (.string (s.map charOf)) (Nat.le_refl 0)
      rwa [SyntaxTree.text, SyntaxTree.denote, charsDenote_charOf, stringText, ← escape_eq] at h
  | .array [] => exact renders_tree (.emptyArray []) (Nat.zero_le _)
  | .array (item :: items) =>
      simp only [Value.doubles, doublesOfItems] at hread
      obtain ⟨first, htext, hdenote, hdepth⟩ := serializeInto_renders item (depth + 1)
        fun d hd => hread d (List.mem_append_left _ hd)
      obtain ⟨its, hitems, hvalues, hnesting⟩ := serializeItems_renders items (depth + 1)
        (fun d hd => hread d (List.mem_append_right _ hd))
        ⟨indentSpace indent (depth + 1) ++ first.before, first.value, first.after⟩
        (indentSpace indent depth)
      have h : Renders _ _ (Value.array (item :: items)).depth := renders_tree (.array its) (by
        simp only [SyntaxTree.depth, Value.depth, depthOfItems] at hnesting ⊢
        omega)
      rw [SyntaxTree.text, SyntaxTree.denote, hitems, hvalues, hdenote] at h
      rw [serializeInto, ← htext, Value.mapDoubles, mapDoublesOfItems, writeIndent_eq, writeIndent_eq]
      simpa [Document.text, Whitespace.text] using h
  | .object [] => exact renders_tree (.emptyObject []) (Nat.zero_le _)
  | .object ((key, member) :: members) =>
      simp only [Value.doubles, doublesOfMembers] at hread
      obtain ⟨first, htext, hdenote, hdepth⟩ := serializeInto_renders member (depth + 1)
        fun d hd => hread d (List.mem_append_left _ hd)
      obtain ⟨ms, hmembers, hvalues, hnesting⟩ := serializeMembers_renders members (depth + 1)
        (fun d hd => hread d (List.mem_append_right _ hd)) (indentSpace indent (depth + 1)) key
        first (indentSpace indent depth)
      have h : Renders _ _ (Value.object ((key, member) :: members)).depth :=
        renders_tree (.object ms) (by
          simp only [SyntaxTree.depth, Value.depth, depthOfMembers] at hnesting ⊢
          omega)
      rw [SyntaxTree.text, SyntaxTree.denote, hmembers, hvalues, hdenote] at h
      rw [serializeInto, ← htext, Value.mapDoubles, mapDoublesOfMembers, writeIndent_eq,
        writeIndent_eq]
      simpa using h

/-- The items behind the first, which is given as a document, and the whitespace that closes the
array. -/
theorem serializeItems_renders (items : List Value) (depth : Nat)
    (hread : ReadsBack read (doublesOfItems items)) (first : Document Literal) (close : Whitespace) :
    ∃ its : Items Literal,
      its.text Literal.text
          = first.text Literal.text ++ serializeItems indent items depth ++ close.text
        ∧ its.denote Literal.value = first.value.denote Literal.value :: mapDoublesOfItems read items
        ∧ its.depth ≤ max first.value.depth (depthOfItems items) := by
  match items with
  | [] =>
      refine ⟨.last first.before first.value (first.after ++ close), ?_, rfl, ?_⟩
      · simp [Items.text, Document.text, serializeItems, Whitespace.text]
      · exact Nat.le_max_left _ _
  | item :: items =>
      simp only [doublesOfItems] at hread
      obtain ⟨next, htext, hdenote, hdepth⟩ := serializeInto_renders item depth
        fun d hd => hread d (List.mem_append_left _ hd)
      obtain ⟨its, hitems, hvalues, hnesting⟩ := serializeItems_renders items depth
        (fun d hd => hread d (List.mem_append_right _ hd))
        ⟨indentSpace indent depth ++ next.before, next.value, next.after⟩ close
      refine ⟨.cons first.before first.value first.after its, ?_, ?_, ?_⟩
      · rw [Items.text, hitems, serializeItems, ← htext, writeIndent_eq]
        simp [Document.text, Whitespace.text]
      · rw [Items.denote, hvalues, hdenote, mapDoublesOfItems]
      · simp only [Items.depth, depthOfItems] at hnesting ⊢
        omega

theorem serializeMembers_renders (members : List (Bytes × Value)) (depth : Nat)
    (hread : ReadsBack read (doublesOfMembers members)) (beforeKey : Whitespace) (key : Bytes)
    (first : Document Literal) (close : Whitespace) :
    ∃ ms : Members Literal,
      ms.text Literal.text
          = beforeKey.text ++ serializeKey indent key ++ first.text Literal.text
            ++ serializeMembers indent members depth ++ close.text
        ∧ ms.denote Literal.value
          = (key, first.value.denote Literal.value) :: mapDoublesOfMembers read members
        ∧ ms.depth ≤ max first.value.depth (depthOfMembers members) := by
  match members with
  | [] =>
      refine ⟨.last beforeKey (key.map charOf) [] (colonSpace indent ++ first.before) first.value
        (first.after ++ close), ?_, ?_, ?_⟩
      · rw [serializeKey_eq]
        simp [Members.text, keyText, Document.text, serializeMembers, Whitespace.text]
      · rw [Members.denote, charsDenote_charOf, mapDoublesOfMembers]
      · exact Nat.le_max_left _ _
  | (nextKey, member) :: members =>
      simp only [doublesOfMembers] at hread
      obtain ⟨next, htext, hdenote, hdepth⟩ := serializeInto_renders member depth
        fun d hd => hread d (List.mem_append_left _ hd)
      obtain ⟨ms, hmembers, hvalues, hnesting⟩ := serializeMembers_renders members depth
        (fun d hd => hread d (List.mem_append_right _ hd)) (indentSpace indent depth) nextKey next
        close
      refine ⟨.cons beforeKey (key.map charOf) [] (colonSpace indent ++ first.before) first.value
        first.after ms, ?_, ?_, ?_⟩
      · rw [serializeKey_eq, Members.text, hmembers, serializeMembers, ← htext, writeIndent_eq]
        simp [keyText, Document.text, Whitespace.text]
      · rw [Members.denote, charsDenote_charOf, hvalues, hdenote, mapDoublesOfMembers]
      · simp only [Members.depth, depthOfMembers] at hnesting ⊢
        omega

end

end Serialize

/-- What the parser makes of a serialized value. -/
theorem parse_serialize_mapDoubles (v : Value) (indent : Int) (read : Float → Value)
    (hdepth : v.depth ≤ kMaxDepth) (hread : ReadsBack read v.doubles) :
    parse (serialize v indent) = .ok (v.mapDoubles read) := by
  obtain ⟨document, htext, hdenote, hnesting⟩ := serializeInto_renders indent read v 0 hread
  have h := (parse_document id document (Nat.le_trans hnesting hdepth)).1
  rw [serialize, ← htext, ← hdenote]
  exact h

/-- **Round trip.** A value without `double`s is parsed back from its text, whatever the
indentation. -/
theorem parse_serialize (v : Value) (indent : Int) (hdepth : v.depth ≤ 128)
    (hdoubles : v.doubles = []) : parse (serialize v indent) = .ok v := by
  have h := parse_serialize_mapDoubles v indent .double hdepth (by simp [ReadsBack, hdoubles])
  rwa [mapDoubles_of_doubles_nil _ v hdoubles] at h

/-- An object with an empty key, a repeated key, a control character and the least `int64`. -/
theorem parse_serialize_object :
    parse (serialize (.object [([], .int (-9223372036854775808)), (str "a", .string [0, 34, 0xFF]),
        (str "a", .array [.null, .array []])]) 2)
      = .ok (.object [([], .int (-9223372036854775808)), (str "a", .string [0, 34, 0xFF]),
        (str "a", .array [.null, .array []])]) :=
  parse_serialize _ 2 (by decide) rfl

end ContextSnap.Json
