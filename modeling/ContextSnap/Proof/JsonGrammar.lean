import ContextSnap.Proof.JsonRoundTrip
import ContextSnap.Proof.JsonWords

/-!
# The parser and RFC 8259

On a text of the grammar whose numbers are integers within `int64` the parser returns what the text
denotes. In the other direction the only gap is the number syntax: an accepted text is one of the
grammar exactly when its bare words are.
-/

namespace ContextSnap.Json

open JsonText

/-! ### Completeness -/

theorem digitsText_isDigit (digits : List Digit) : ∀ c ∈ digitsText digits, isDigit c = true := by
  intro c hc
  obtain ⟨d, -, rfl⟩ := List.mem_map.mp hc
  have hdigit : ∀ d : Digit, isDigit d.byte = true := by decide
  exact hdigit d

theorem digitsValue_digitsText (digits : List Digit) :
    digitsValue (digitsText digits) = digits.foldl (fun value d => 10 * value + d.val) 0 := by
  have hbyte : ∀ d : Digit, d.byte.toNat - 48 = d.val := by decide
  rw [digitsValue, digitsText, List.foldl_map]
  simp only [hbyte]

/-- An integer of the grammar within `int64`, as a literal of the parser. -/
def integerLiteral (n : { n : Integer // FitsInt64 n.value }) : Literal :=
  digitsLiteral n.val.negative (digitsText n.val.whole.digits)
    (by cases n.val.whole <;> simp [Whole.digits, digitsText]) (digitsText_isDigit _)
    (by
      rw [digitsValue_digitsText]
      exact n.property)

theorem integerLiteral_text (n : { n : Integer // FitsInt64 n.value }) :
    (integerLiteral n).text = n.val.text := by
  simp [integerLiteral, digitsLiteral, Integer.text, Integer.toNumber, Number.text, minus]
  rfl

theorem integerLiteral_value (n : { n : Integer // FitsInt64 n.value }) :
    (integerLiteral n).value = .int (Int64.ofInt n.val.value) := by
  simp only [integerLiteral, digitsLiteral, digitsValue_digitsText]
  rfl

/-- **Completeness.** A JSON text whose numbers are integers within `int64`, nested at most 128 deep,
is parsed to the value it denotes, with or without a byte order mark. -/
theorem parse_text (document : Document { n : Integer // FitsInt64 n.value })
    (hdepth : document.value.depth ≤ 128) :
    parse (document.text fun n => n.val.text)
        = .ok (document.value.denote fun n => .int (Int64.ofInt n.val.value))
      ∧ parse (bom ++ document.text fun n => n.val.text)
        = .ok (document.value.denote fun n => .int (Int64.ofInt n.val.value)) := by
  have htext : spell integerLiteral = fun n => n.val.text := funext integerLiteral_text
  have hvalue : numberDenote integerLiteral = fun n => .int (Int64.ofInt n.val.value) :=
    funext integerLiteral_value
  rw [← htext, ← hvalue]
  exact parse_document integerLiteral document hdepth

/-- An escaped surrogate pair and a negative number behind a byte order mark. -/
theorem parse_text_surrogates :
    parse (bom ++ str "[\"\\ud83d\\ude00\", -7]")
      = .ok (.array [.string [0xF0, 0x9F, 0x98, 0x80], .int (-7)]) := by
  let chars : List StringChar :=
    [.unicode ⟨⟨100, by decide⟩, ⟨56, by decide⟩, ⟨51, by decide⟩, ⟨100, by decide⟩⟩,
      .unicode ⟨⟨100, by decide⟩, ⟨101, by decide⟩, ⟨48, by decide⟩, ⟨48, by decide⟩⟩]
  have hchars : charsDenote chars = [0xF0, 0x9F, 0x98, 0x80] := by decide
  have h := (parse_text ⟨[], .array (.cons [] (.string chars) []
    (.last [.space] (.word (.number ⟨⟨true, .nonzero 6 []⟩, by decide⟩)) [])), []⟩ (by decide)).2
  simp only [SyntaxTree.denote, Items.denote, Word.denote, hchars] at h
  exact h

/-! ### Soundness -/

theorem spellsWords_literal : SpellsWords Literal.text := by
  refine fun literal => ⟨literal.nonempty, fun c hc => ?_⟩
  have hbyte := literal.bytes c hc
  simp only [isNumberByte, isDigit, Bool.or_eq_true, Bool.and_eq_true, decide_eq_true_eq,
    beq_iff_eq] at hbyte
  obtain ((((hdigit | rfl) | rfl) | rfl) | rfl) | rfl := hbyte
  · simp only [InWord, isDelimiter, List.contains_cons, List.contains_nil, Bool.or_false,
      Bool.or_eq_false_iff, beq_eq_false_iff_ne]
    and_intros <;> rintro rfl <;> revert hdigit <;> decide
  all_goals decide

/-- **Soundness up to numbers.** An accepted text is a JSON text exactly when every bare word of it
is a literal name or a number of the grammar. -/
theorem derivable_iff_of_parse {text : Bytes} {value : Value} (h : parse text = .ok value) :
    Derivable (dropBom text) ↔ ∀ word ∈ bareWords (dropBom text), IsWord word := by
  refine ⟨isWord_of_derivable, fun hwords => ?_⟩
  have hparse : Parser.parse (dropBom text) = .ok value := by
    rw [parse] at h
    split at h
    · simp at h
    · exact h
  obtain ⟨document, htext, -, -⟩ := Parser.parse_ok hparse
  rw [← htext] at hwords ⊢
  exact derivable_of_isWord spellsWords_literal document hwords

set_option maxRecDepth 10000 in
/-- The double path of `parse_number` does not check that the literal was consumed in full. -/
theorem parse_two_points :
    (∃ value, parse (str "1.2.3") = .ok value) ∧ ¬ Derivable (dropBom (str "1.2.3")) := by
  constructor
  · have hok : (parse (str "1.2.3")).toOption.isSome = true := by decide
    cases hparse : parse (str "1.2.3") with
    | error e => simp [hparse, Except.toOption] at hok
    | ok value => exact ⟨value, rfl⟩
  · intro hderivable
    obtain ⟨w, hw⟩ := isWord_of_derivable hderivable (str "1.2.3") (by decide)
    cases w with
    | null => exact absurd hw (by decide)
    | bool b => cases b <;> exact absurd hw (by decide)
    | number n =>
        have hcount := number_text_count_point n
        rw [show n.text = str "1.2.3" from hw] at hcount
        exact absurd hcount (by decide)

/-- An accepted text whose two numbers are those of the grammar. -/
theorem derivable_of_parse_numbers : Derivable (str "[-0, 15]") := by
  have hparse : parse (str "[-0, 15]") = .ok (.array [.int 0, .int 15]) := by rfl
  refine (derivable_iff_of_parse hparse).mpr fun word hword => ?_
  have hwords : bareWords (dropBom (str "[-0, 15]")) = [str "-0", str "15"] := by decide
  rw [hwords] at hword
  rcases List.mem_cons.mp hword with rfl | hword
  · exact ⟨.number ⟨true, .zero, none, none⟩, by decide⟩
  · obtain rfl := List.mem_singleton.mp hword
    exact ⟨.number ⟨false, .nonzero 0 [5], none, none⟩, by decide⟩

end ContextSnap.Json
