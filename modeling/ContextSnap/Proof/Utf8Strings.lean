import ContextSnap.Lib.Utf8
import ContextSnap.Proof.JsonRoundTrip

/-!
# Strings of a parsed document

`parse_string` copies what is not escaped and hands every other code point to `append_utf8`, which
encodes a surrogate like any other number of its size. So of a text that is UTF-8 the strings are
UTF-8 exactly when no `\u` escape stands for a surrogate outside of a pair.
-/

namespace ContextSnap.JsonText

open Json (Value)

/-! ### Characters of a string -/

/-- No escape of a string stands for a surrogate by itself. -/
def Paired : List StringChar → Prop
  | [] => True
  | .plain _ _ :: chars => Paired chars
  | .escape _ :: chars => Paired chars
  | .unicode high :: .unicode low :: chars =>
      if high.IsHigh ∧ low.IsLow then Paired chars
      else ¬ high.IsHigh ∧ ¬ high.IsLow ∧ Paired (.unicode low :: chars)
  | .unicode unit :: chars => ¬ unit.IsHigh ∧ ¬ unit.IsLow ∧ Paired chars

theorem escape_ascii : ∀ letter : EscapeLetter, letter.byte < 0x80 ∧ letter.denotes < 0x80 := by
  intro letter
  cases letter <;> exact ⟨by decide, by decide⟩

theorem hexDigit_ascii (d : HexDigit) : d.byte < 0x80 := by
  obtain ⟨byte, hbyte⟩ := d
  simp only [IsHexDigit] at hbyte
  simp only
  grind

theorem unicode_ascii (unit : CodeUnit) : ∀ c ∈ (StringChar.unicode unit).text, c < 0x80 := by
  intro c hc
  simp only [StringChar.text, CodeUnit.text, List.mem_cons, List.not_mem_nil, or_false] at hc
  rcases hc with rfl | rfl | rfl | rfl | rfl | rfl
  · decide
  · decide
  all_goals exact hexDigit_ascii _

theorem pairValue_valid {high low : CodeUnit} (hhigh : high.IsHigh) (hlow : low.IsLow) :
    (pairValue high low).isValidChar := by
  obtain ⟨_, hhigh⟩ := hhigh
  obtain ⟨_, hlow⟩ := hlow
  right
  unfold pairValue
  omega

theorem isUtf8_utf8_append {value : Nat} (h : value.isValidChar) (rest : Bytes) :
    IsUtf8 (utf8 value ++ rest) ↔ IsUtf8 rest := by
  rw [utf8, if_pos h]
  exact isUtf8_char_append _ _

/-- A code unit in front of a text stands for a character unless it is a surrogate. -/
theorem isUtf8_unit_append (unit : CodeUnit) (rest : Bytes) :
    IsUtf8 (utf8 unit.value ++ rest) ↔ ¬ unit.IsHigh ∧ ¬ unit.IsLow ∧ IsUtf8 rest := by
  have hlt := Json.codeUnit_value_lt unit
  by_cases hvalid : unit.value.isValidChar
  · rw [isUtf8_utf8_append hvalid]
    have hhigh : ¬ unit.IsHigh := fun h => by
      simp only [CodeUnit.IsHigh, Nat.isValidChar] at h hvalid
      omega
    have hlow : ¬ unit.IsLow := fun h => by
      simp only [CodeUnit.IsLow, Nat.isValidChar] at h hvalid
      omega
    simp [hhigh, hlow]
  · have hsurrogate : 0xD800 ≤ unit.value ∧ unit.value ≤ 0xDFFF := by
      simp only [Nat.isValidChar] at hvalid
      omega
    rw [utf8, if_neg hvalid]
    refine iff_of_false (not_isUtf8_surrogate hsurrogate.1 hsurrogate.2 _) ?_
    rintro ⟨hhigh, hlow, -⟩
    simp only [CodeUnit.IsHigh, CodeUnit.IsLow] at hhigh hlow
    omega

theorem charsText_cons (char : StringChar) (chars : List StringChar) :
    charsText (char :: chars) = char.text ++ charsText chars := rfl

theorem isUtf8_behind {front rest : Bytes} {char : StringChar} (hchar : ∀ c ∈ char.text, c < 0x80)
    (h : IsUtf8 (front ++ (char.text ++ rest))) : IsUtf8 front ∧ IsUtf8 rest := by
  have hnonempty : char.text ≠ [] := by
    cases char <;> simp [StringChar.text]
  obtain ⟨c, more, htext⟩ := List.exists_cons_of_ne_nil hnonempty
  have hc := hchar c (htext ▸ List.mem_cons_self ..)
  have hcut : IsUtf8 (front ++ c :: (more ++ rest)) := by
    rwa [htext, List.cons_append] at h
  obtain ⟨hfront, hback⟩ := isUtf8_cut (isUTF8FirstByte_of_ascii c hc) hcut
  rw [← List.cons_append, ← htext] at hback
  exact ⟨hfront, (isUtf8_ascii_append hchar rest).mp hback⟩

/-- The plain bytes read so far are kept in front, since a character may have several of them. -/
theorem isUtf8_denote_iff (chars : List StringChar) (front : Bytes)
    (h : IsUtf8 (front ++ charsText chars)) :
    IsUtf8 (front ++ charsDenote chars) ↔ Paired chars := by
  induction chars using charsDenote.induct generalizing front with
  | case1 => exact iff_of_true (by simpa [charsText, charsDenote] using h) trivial
  | case2 c valid chars ih =>
      rw [charsDenote, Paired, List.append_cons]
      apply ih
      rwa [charsText_cons, StringChar.text, List.singleton_append, List.append_cons] at h
  | case3 letter chars ih =>
      obtain ⟨hbyte, hdenotes⟩ := escape_ascii letter
      have hescaped : ∀ c ∈ (StringChar.escape letter).text, c < 0x80 :=
        List.forall_mem_cons.mpr ⟨by decide, List.forall_mem_singleton.mpr hbyte⟩
      obtain ⟨hfront, hrest⟩ := isUtf8_behind hescaped h
      rw [charsDenote, Paired, isUtf8_append hfront, isUtf8_ascii hdenotes]
      exact ih [] hrest
  | case4 high low chars hpair ih =>
      rw [charsText_cons, charsText_cons] at h
      obtain ⟨hfront, hback⟩ := isUtf8_behind (unicode_ascii high) h
      obtain ⟨-, hrest⟩ := @isUtf8_behind [] _ _ (unicode_ascii low) hback
      have hvalid := pairValue_valid hpair.1 hpair.2
      rw [charsDenote, if_pos hpair, Paired, if_pos hpair, isUtf8_append hfront,
        isUtf8_utf8_append hvalid]
      exact ih [] hrest
  | case5 high low chars hpair ih =>
      rw [charsText_cons] at h
      obtain ⟨hfront, hrest⟩ := isUtf8_behind (unicode_ascii high) h
      rw [charsDenote, if_neg hpair, Paired, if_neg hpair, isUtf8_append hfront,
        isUtf8_unit_append]
      exact and_congr_right fun _ => and_congr_right fun _ => ih [] hrest
  | case6 unit chars hnext ih =>
      rw [charsText_cons] at h
      obtain ⟨hfront, hrest⟩ := isUtf8_behind (unicode_ascii unit) h
      rw [charsDenote.eq_5 _ _ hnext, Paired.eq_5 _ _ hnext, isUtf8_append hfront,
        isUtf8_unit_append]
      exact and_congr_right fun _ => and_congr_right fun _ => ih [] hrest

/-! ### Strings of a tree -/

section Strings

variable {ν : Type}

mutual

/-- The strings of a tree, among them the keys, from left to right. -/
def SyntaxTree.strings : SyntaxTree ν → List (List StringChar)
  | .word _ | .emptyArray _ | .emptyObject _ => []
  | .string chars => [chars]
  | .array items => items.strings
  | .object members => members.strings

def Items.strings : Items ν → List (List StringChar)
  | .last _ value _ => value.strings
  | .cons _ value _ rest => value.strings ++ rest.strings

def Members.strings : Members ν → List (List StringChar)
  | .last _ key _ _ value _ => key :: value.strings
  | .cons _ key _ _ value _ rest => key :: (value.strings ++ rest.strings)

end

variable (spell : ν → Bytes)

theorem infix_append_left {text front : Bytes} (h : text <:+: front) (back : Bytes) :
    text <:+: front ++ back :=
  h.trans (List.prefix_append front back).isInfix

theorem infix_append_right {text back : Bytes} (front : Bytes) (h : text <:+: back) :
    text <:+: front ++ back :=
  h.trans (List.suffix_append front back).isInfix

theorem infix_keyText (beforeKey : Whitespace) (key : List StringChar)
    (afterKey before : Whitespace) : stringText key <:+: keyText beforeKey key afterKey before := by
  simp only [keyText, List.append_assoc]
  exact infix_append_right _ (List.prefix_append _ _).isInfix

mutual

theorem SyntaxTree.infix_text (t : SyntaxTree ν) :
    ∀ chars ∈ t.strings, stringText chars <:+: t.text spell := by
  intro chars hchars
  match t with
  | .word _ | .emptyArray _ | .emptyObject _ => cases hchars
  | .string chars =>
      rw [List.mem_singleton.mp hchars]
      exact List.infix_refl _
  | .array items =>
      exact infix_append_left
        ((items.infix_text chars hchars).trans (List.suffix_cons _ _).isInfix) _
  | .object members =>
      exact infix_append_left
        ((members.infix_text chars hchars).trans (List.suffix_cons _ _).isInfix) _

theorem Items.infix_text (items : Items ν) :
    ∀ chars ∈ items.strings, stringText chars <:+: items.text spell := by
  intro chars hchars
  match items with
  | .last before value after =>
      exact infix_append_left (infix_append_right _ (value.infix_text chars hchars)) _
  | .cons before value after rest =>
      simp only [Items.text, List.append_assoc]
      rcases List.mem_append.mp hchars with hchars | hchars
      · exact infix_append_right _ (infix_append_left (value.infix_text chars hchars) _)
      · exact infix_append_right _ (infix_append_right _ (infix_append_right _
          ((rest.infix_text chars hchars).trans (List.suffix_cons _ _).isInfix)))

theorem Members.infix_text (members : Members ν) :
    ∀ chars ∈ members.strings, stringText chars <:+: members.text spell := by
  intro chars hchars
  match members with
  | .last beforeKey key afterKey before value after =>
      simp only [Members.text, List.append_assoc]
      rcases List.mem_cons.mp hchars with rfl | hchars
      · exact infix_append_left (infix_keyText ..) _
      · exact infix_append_right _ (infix_append_left (value.infix_text chars hchars) _)
  | .cons beforeKey key afterKey before value after rest =>
      simp only [Members.text, List.append_assoc]
      rcases List.mem_cons.mp hchars with rfl | hchars
      · exact infix_append_left (infix_keyText ..) _
      rcases List.mem_append.mp hchars with hchars | hchars
      · exact infix_append_right _ (infix_append_left (value.infix_text chars hchars) _)
      · exact infix_append_right _ (infix_append_right _ (infix_append_right _
          ((rest.infix_text chars hchars).trans (List.suffix_cons _ _).isInfix)))

end

theorem isUtf8_charsText {text : Bytes} (h : IsUtf8 text) {chars : List StringChar}
    (hchars : stringText chars <:+: text) : IsUtf8 (charsText chars) := by
  obtain ⟨front, back, rfl⟩ := hchars
  simp only [stringText, List.append_assoc, List.cons_append, List.nil_append] at h
  exact isUtf8_between (by decide) (by decide) h

end Strings

end ContextSnap.JsonText

namespace ContextSnap.Json

open JsonText

/-! ### Strings of a value -/

mutual

/-- The strings of a value, among them the keys, from left to right. -/
def Value.strings : Value → List Bytes
  | .null | .bool _ | .int _ | .double _ => []
  | .string s => [s]
  | .array items => stringsOfItems items
  | .object members => stringsOfMembers members

def stringsOfItems : List Value → List Bytes
  | [] => []
  | item :: items => item.strings ++ stringsOfItems items

def stringsOfMembers : List (Bytes × Value) → List Bytes
  | [] => []
  | (key, member) :: members => key :: (member.strings ++ stringsOfMembers members)

end

theorem strings_numberValue {text : Bytes} {isInteger : Bool} {value : Value}
    (h : numberValue text isInteger = some value) : value.strings = [] := by
  have hdouble : (stod text).map Value.double = some value → value.strings = [] := by
    intro h
    obtain ⟨d, -, rfl⟩ := Option.map_eq_some_iff.mp h
    rfl
  rw [numberValue] at h
  split at h
  · split at h
    · cases h
    · split at h
      · obtain rfl := Option.some.inj h
        rfl
      · exact hdouble h
  · exact hdouble h

mutual

theorem strings_denote (t : SyntaxTree Literal) :
    (t.denote Literal.value).strings = t.strings.map charsDenote := by
  match t with
  | .word w =>
      cases w with
      | number literal => exact strings_numberValue literal.reads
      | _ => rfl
  | .string _ | .emptyArray _ | .emptyObject _ => rfl
  | .array items => exact strings_denoteItems items
  | .object members => exact strings_denoteMembers members

theorem strings_denoteItems (items : Items Literal) :
    stringsOfItems (items.denote Literal.value) = items.strings.map charsDenote := by
  match items with
  | .last _ value _ =>
      rw [Items.denote, stringsOfItems, stringsOfItems, List.append_nil, strings_denote value]
      rfl
  | .cons _ value _ rest =>
      rw [Items.denote, stringsOfItems, strings_denote value, strings_denoteItems rest,
        ← List.map_append]
      rfl

theorem strings_denoteMembers (members : Members Literal) :
    stringsOfMembers (members.denote Literal.value) = members.strings.map charsDenote := by
  match members with
  | .last _ key _ _ value _ =>
      rw [Members.denote, stringsOfMembers, stringsOfMembers, List.append_nil, strings_denote value]
      rfl
  | .cons _ key _ _ value _ rest =>
      rw [Members.denote, stringsOfMembers, strings_denote value, strings_denoteMembers rest,
        ← List.map_append]
      rfl

end

def Value.Utf8Strings (value : Value) : Prop := ∀ s ∈ value.strings, IsUtf8 s

/-- The text is one of a document without a surrogate outside of a pair. -/
def SurrogatesPaired (text : Bytes) : Prop :=
  ∃ document : Document Literal, document.text Literal.text = dropBom text
    ∧ document.value.depth ≤ kMaxDepth ∧ ∀ chars ∈ document.value.strings, Paired chars

theorem utf8Strings_denote_iff {document : Document Literal}
    (h : IsUtf8 (document.text Literal.text)) :
    (document.value.denote Literal.value).Utf8Strings
      ↔ ∀ chars ∈ document.value.strings, Paired chars := by
  rw [Value.Utf8Strings, strings_denote, List.forall_mem_map]
  refine forall₂_congr fun chars hchars => ?_
  have hspelled := (document.value.infix_text Literal.text chars hchars).trans
    ⟨document.before.text, document.after.text, rfl⟩
  exact isUtf8_denote_iff chars [] (isUtf8_charsText h hspelled)

/-! ### Texts of a value -/

theorem isUtf8_append_of {first second : Bytes} (hfirst : IsUtf8 first) (hsecond : IsUtf8 second) :
    IsUtf8 (first ++ second) :=
  (isUtf8_append hfirst second).mpr hsecond

theorem escapeByte_cases : ∀ c : UInt8,
    if c < 0x80 then (escapeByte c).all (· < 0x80) = true else escapeByte c = [c] := by
  have hall : ∀ n < 256, if UInt8.ofNat n < 0x80 then
      (escapeByte (UInt8.ofNat n)).all (· < 0x80) = true
      else escapeByte (UInt8.ofNat n) = [UInt8.ofNat n] := by decide +kernel
  intro c
  have h := hall c.toNat c.toNat_lt
  rwa [UInt8.ofNat_toNat] at h

theorem isUtf8_escape {s : Bytes} (h : IsUtf8 s) : IsUtf8 (escape s) := by
  obtain ⟨chars, rfl⟩ := h
  induction chars with
  | nil => exact isUtf8_nil
  | cons c chars ih =>
      rw [List.flatMap_cons, escape, List.flatMap_append, ← escape, ← escape]
      refine isUtf8_append_of ?_ ih
      rcases utf8EncodeChar_cases c with ⟨byte, hbyte, hchar⟩ | hbytes
      · have hescaped := escapeByte_cases byte
        rw [if_pos hbyte, List.all_eq_true] at hescaped
        rw [hchar, escape, List.flatMap_singleton]
        exact isUtf8_of_ascii fun c hc => of_decide_eq_true (hescaped c hc)
      · have hkept : escape (String.utf8EncodeChar c) = String.utf8EncodeChar c := by
          rw [escape]
          conv_rhs => rw [← List.flatMap_singleton' (String.utf8EncodeChar c)]
          refine List.flatMap_congr fun byte hbyte => ?_
          have hcase := escapeByte_cases byte
          rwa [if_neg (UInt8.not_lt.mpr (hbytes byte hbyte))] at hcase
        rw [hkept]
        exact ⟨[c], by simp⟩

theorem isUtf8_decimalInt (i : Int) : IsUtf8 (decimalInt i) := by
  have hdecimal : ∀ n : Nat, ∀ c ∈ decimal n, c < 0x80 := by
    intro n c hc
    have hdigit := isDigit_of_mem_decimal hc
    simp only [isDigit, Bool.and_eq_true, decide_eq_true_eq] at hdigit
    grind
  rw [decimalInt]
  split
  · exact isUtf8_append_of (isUtf8_of_all (by decide)) (isUtf8_of_ascii (hdecimal _))
  · exact isUtf8_of_ascii (hdecimal _)

theorem isUtf8_formatDouble (value : Float) : IsUtf8 (formatDouble value) := by
  rcases formatDouble_bytes value with hnull | hbytes
  · rw [hnull]
    exact isUtf8_of_all (by decide)
  · apply isUtf8_of_ascii
    intro c hc
    have hbyte := hbytes c hc
    simp only [isNumberByte, isDigit, Bool.or_eq_true, Bool.and_eq_true, decide_eq_true_eq,
      beq_iff_eq] at hbyte
    grind

theorem isUtf8_writeIndent (indent : Int) (depth : Nat) : IsUtf8 (writeIndent indent depth) := by
  rw [writeIndent]
  split
  · exact isUtf8_nil
  · apply isUtf8_of_ascii
    intro c hc
    rcases List.mem_cons.mp hc with rfl | hc
    · decide
    · rw [List.eq_of_mem_replicate hc]
      decide

theorem isUtf8_quoted {s : Bytes} (h : IsUtf8 s) {back : Bytes} (hback : IsUtf8 back) :
    IsUtf8 (34 :: escape s ++ back) :=
  isUtf8_append_of ((isUtf8_ascii (by decide) _).mpr (isUtf8_escape h)) hback

theorem isUtf8_serializeKey (indent : Int) {key : Bytes} (h : IsUtf8 key) :
    IsUtf8 (serializeKey indent key) := by
  rw [serializeKey]
  split
  · exact isUtf8_quoted h (isUtf8_of_all (by decide))
  · exact isUtf8_quoted h (isUtf8_of_all (by decide))

section Serialize

variable (indent : Int)

mutual

theorem isUtf8_serializeInto (value : Value) (depth : Nat) (h : value.Utf8Strings) :
    IsUtf8 (serializeInto indent value depth) := by
  match value with
  | .null => exact @isUtf8_of_all (str "null") (by decide)
  | .bool true => exact @isUtf8_of_all (str "true") (by decide)
  | .bool false => exact @isUtf8_of_all (str "false") (by decide)
  | .int i => exact isUtf8_decimalInt i.toInt
  | .double d => exact isUtf8_formatDouble d
  | .string s =>
      exact isUtf8_quoted (h s (List.mem_singleton_self s)) (isUtf8_of_all (by decide))
  | .array [] => exact @isUtf8_of_all (str "[]") (by decide)
  | .array (item :: items) =>
      have hitem : item.Utf8Strings := fun s hs => h s (List.mem_append_left _ hs)
      have hitems : ∀ s ∈ stringsOfItems items, IsUtf8 s := fun s hs =>
        h s (List.mem_append_right _ hs)
      exact isUtf8_append_of (isUtf8_append_of (isUtf8_append_of (isUtf8_append_of
        ((isUtf8_ascii (by decide) _).mpr (isUtf8_writeIndent indent _))
        (isUtf8_serializeInto item _ hitem)) (isUtf8_serializeItems items _ hitems))
        (isUtf8_writeIndent indent _)) (isUtf8_of_all (by decide))
  | .object [] => exact @isUtf8_of_all (str "\x7b\x7d") (by decide)
  | .object ((key, member) :: members) =>
      have hkey : IsUtf8 key := h key (List.mem_cons_self ..)
      have hmember : member.Utf8Strings := fun s hs =>
        h s (List.mem_cons_of_mem _ (List.mem_append_left _ hs))
      have hmembers : ∀ s ∈ stringsOfMembers members, IsUtf8 s := fun s hs =>
        h s (List.mem_cons_of_mem _ (List.mem_append_right _ hs))
      exact isUtf8_append_of (isUtf8_append_of (isUtf8_append_of (isUtf8_append_of
        (isUtf8_append_of ((isUtf8_ascii (by decide) _).mpr (isUtf8_writeIndent indent _))
        (isUtf8_serializeKey indent hkey)) (isUtf8_serializeInto member _ hmember))
        (isUtf8_serializeMembers members _ hmembers)) (isUtf8_writeIndent indent _))
        (isUtf8_of_all (by decide))

theorem isUtf8_serializeItems (items : List Value) (depth : Nat)
    (h : ∀ s ∈ stringsOfItems items, IsUtf8 s) : IsUtf8 (serializeItems indent items depth) := by
  match items with
  | [] => exact isUtf8_nil
  | item :: items =>
      have hitem : item.Utf8Strings := fun s hs => h s (List.mem_append_left _ hs)
      have hitems : ∀ s ∈ stringsOfItems items, IsUtf8 s := fun s hs =>
        h s (List.mem_append_right _ hs)
      exact isUtf8_append_of (isUtf8_append_of
        ((isUtf8_ascii (by decide) _).mpr (isUtf8_writeIndent indent _))
        (isUtf8_serializeInto item _ hitem)) (isUtf8_serializeItems items _ hitems)

theorem isUtf8_serializeMembers (members : List (Bytes × Value)) (depth : Nat)
    (h : ∀ s ∈ stringsOfMembers members, IsUtf8 s) :
    IsUtf8 (serializeMembers indent members depth) := by
  match members with
  | [] => exact isUtf8_nil
  | (key, member) :: members =>
      have hkey : IsUtf8 key := h key (List.mem_cons_self ..)
      have hmember : member.Utf8Strings := fun s hs =>
        h s (List.mem_cons_of_mem _ (List.mem_append_left _ hs))
      have hmembers : ∀ s ∈ stringsOfMembers members, IsUtf8 s := fun s hs =>
        h s (List.mem_cons_of_mem _ (List.mem_append_right _ hs))
      exact isUtf8_append_of (isUtf8_append_of (isUtf8_append_of
        ((isUtf8_ascii (by decide) _).mpr (isUtf8_writeIndent indent _))
        (isUtf8_serializeKey indent hkey)) (isUtf8_serializeInto member _ hmember))
        (isUtf8_serializeMembers members _ hmembers)

end

end Serialize

/-! ### Parsed documents -/

/-- The strings of a value and every text of it are UTF-8. -/
def Utf8Throughout (value : Value) : Prop :=
  value.Utf8Strings ∧ ∀ indent, IsUtf8 (serialize value indent)

theorem utf8Throughout_iff (value : Value) : Utf8Throughout value ↔ value.Utf8Strings :=
  ⟨And.left, fun h => ⟨h, fun indent => isUtf8_serializeInto indent value 0 h⟩⟩

theorem isUtf8_dropBom {text : Bytes} (h : IsUtf8 text) : IsUtf8 (dropBom text) := by
  unfold dropBom
  split
  · rename_i rest
    have hbom : String.utf8EncodeChar (Char.ofNat 0xFEFF) = [0xEF, 0xBB, 0xBF] := by decide
    have hsplit : (0xEF : UInt8) :: 0xBB :: 0xBF :: rest
        = String.utf8EncodeChar (Char.ofNat 0xFEFF) ++ rest := by
      rw [hbom]
      rfl
    rwa [hsplit, isUtf8_char_append] at h
  · exact h

/-- **UTF-8.** Of an accepted text that is UTF-8 the strings and the texts written again are UTF-8
exactly when no escape of it stands for a surrogate outside of a pair. -/
theorem utf8Throughout_parse_iff {text : Bytes} {value : Value} (htext : IsUtf8 text)
    (h : parse text = .ok value) : Utf8Throughout value ↔ SurrogatesPaired text := by
  have hparse : Parser.parse (dropBom text) = .ok value := by
    rw [parse] at h
    split at h
    · cases h
    · exact h
  have hutf8 := isUtf8_dropBom htext
  rw [utf8Throughout_iff]
  constructor
  · intro hstrings
    obtain ⟨document, hdocument, hdepth, rfl⟩ := Parser.parse_ok hparse
    rw [← hdocument] at hutf8
    exact ⟨document, hdocument, hdepth, (utf8Strings_denote_iff hutf8).mp hstrings⟩
  · rintro ⟨document, hdocument, hdepth, hpaired⟩
    have hdenote : Parser.parse (document.text Literal.text)
      = .ok (document.value.denote Literal.value) := Parser.parse_document id document hdepth
    rw [hdocument, hparse] at hdenote
    rw [← hdocument] at hutf8
    rw [Except.ok.inj hdenote]
    exact (utf8Strings_denote_iff hutf8).mpr hpaired

/-- A key with a pair. -/
theorem utf8Throughout_parse_pair :
    IsUtf8 (str "[\"\\ud83d\\ude00\"]")
      ∧ (Utf8Throughout (.array [.string [0xF0, 0x9F, 0x98, 0x80]])
        ↔ SurrogatesPaired (str "[\"\\ud83d\\ude00\"]")) := by
  have htext : IsUtf8 (str "[\"\\ud83d\\ude00\"]") := isUtf8_of_all (by decide)
  exact ⟨htext, utf8Throughout_parse_iff htext (by rfl)⟩

/-- An escape of a lone high surrogate. -/
theorem not_utf8Throughout_parse :
    ¬ ∀ text value, IsUtf8 text → parse text = .ok value → Utf8Throughout value := by
  intro h
  have hparse : parse (str "\"\\ud800\"") = .ok (.string [0xED, 0xA0, 0x80]) := by rfl
  have hstrings := (h _ _ (isUtf8_of_all (by decide)) hparse).1
  have hutf8 := hstrings [0xED, 0xA0, 0x80] (List.mem_singleton_self _)
  exact @not_isUtf8_surrogate 0xD800 (by decide) (by decide) [0x80] hutf8

end ContextSnap.Json
