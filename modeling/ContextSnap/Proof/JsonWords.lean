import ContextSnap.Lib.JsonText

/-!
# The bare words of a text

The words of a syntax tree are the runs of its text outside string literals that are neither
delimiters nor quotes. A text is therefore derivable only if each of its words is a literal name or
a number of the grammar, and a tree with looser numbers becomes one of the grammar when they are.
-/

namespace ContextSnap.JsonText

/-! ### Scanning -/

theorem scanWords_whitespace (ws : Whitespace) (rest : Bytes) :
    scanWords (.word []) (ws.text ++ rest) = scanWords (.word []) rest := by
  induction ws with
  | nil => rfl
  | cons sp ws ih =>
      simp only [Whitespace.text, List.map_cons, List.cons_append] at ih ⊢
      cases sp <;> simpa [scanWords, Space.byte, isDelimiter, finishWord] using ih

theorem scanWords_delimiter {c : UInt8} (hc : isDelimiter c = true) (rest : Bytes) :
    scanWords (.word []) (c :: rest) = scanWords (.word []) rest := by
  have hquote : c ≠ 34 := by rintro rfl; simp [isDelimiter] at hc
  simp [scanWords, hquote, hc, finishWord]

private theorem scanWords_hexDigit (d : HexDigit) (rest : Bytes) :
    scanWords .string (d.byte :: rest) = scanWords .string rest := by
  have hvalid := d.valid
  have hbackslash : d.byte ≠ 92 := by intro h; simp [IsHexDigit, h] at hvalid
  have hquote : d.byte ≠ 34 := by intro h; simp [IsHexDigit, h] at hvalid
  simp [scanWords, hbackslash, hquote]

theorem scanWords_chars (chars : List StringChar) (rest : Bytes) :
    scanWords .string (charsText chars ++ 34 :: rest) = scanWords (.word []) rest := by
  induction chars with
  | nil => simp [charsText, scanWords]
  | cons char chars ih =>
      have hcons : charsText (char :: chars) = char.text ++ charsText chars := by simp [charsText]
      rw [hcons]
      cases char with
      | plain c hvalid =>
          simpa [StringChar.text, scanWords, hvalid.2.1, hvalid.2.2] using ih
      | escape letter => simpa [StringChar.text, scanWords] using ih
      | unicode unit =>
          simp only [StringChar.text, CodeUnit.text, List.cons_append, List.nil_append]
          have hopen : ∀ tail, scanWords .string (92 :: 117 :: tail) = scanWords .string tail :=
            fun tail => rfl
          rw [hopen, scanWords_hexDigit, scanWords_hexDigit, scanWords_hexDigit,
            scanWords_hexDigit, ih]

theorem scanWords_string (chars : List StringChar) (rest : Bytes) :
    scanWords (.word []) (stringText chars ++ rest) = scanWords (.word []) rest := by
  simp only [stringText, List.cons_append, List.append_assoc, List.nil_append]
  rw [← scanWords_chars chars rest]
  rfl

/-- A byte that a word can contain. -/
def InWord (c : UInt8) : Prop := isDelimiter c = false ∧ c ≠ 34

instance (c : UInt8) : Decidable (InWord c) := inferInstanceAs (Decidable (_ ∧ _))

/-- The text is at its end or goes on with a delimiter. -/
def AtDelimiter (rest : Bytes) : Prop := ∀ c ∈ rest.head?, isDelimiter c = true

theorem atDelimiter_whitespace (ws : Whitespace) {rest : Bytes} (hrest : AtDelimiter rest) :
    AtDelimiter (ws.text ++ rest) := by
  cases ws with
  | nil => exact hrest
  | cons sp ws =>
      simp only [AtDelimiter, Whitespace.text, List.map_cons, List.cons_append, List.head?_cons,
        Option.mem_def, Option.some.injEq, forall_eq']
      cases sp <;> rfl

theorem atDelimiter_cons {c : UInt8} (hc : isDelimiter c = true) (rest : Bytes) :
    AtDelimiter (c :: rest) := by
  simpa [AtDelimiter] using hc

theorem scanWords_word {word rest : Bytes} (hnonempty : word ≠ []) (hword : ∀ c ∈ word, InWord c)
    (hrest : AtDelimiter rest) :
    scanWords (.word []) (word ++ rest) = word :: scanWords (.word []) rest := by
  have hread : ∀ read, scanWords (.word read) (word ++ rest)
      = scanWords (.word (read ++ word)) rest := by
    clear hnonempty
    induction word with
    | nil => simp
    | cons c word ih =>
        intro read
        have hc := hword c (by simp)
        rw [List.cons_append, scanWords, if_neg hc.2, hc.1, if_neg (by simp),
          ih fun d hd => hword d (by simp [hd])]
        simp
  rw [hread, List.nil_append]
  cases rest with
  | nil => simp [scanWords, finishWord, hnonempty]
  | cons c rest =>
      have hc : isDelimiter c = true := hrest c rfl
      have hquote : c ≠ 34 := by rintro rfl; simp [isDelimiter] at hc
      simp [scanWords, finishWord, hnonempty, hquote, hc]

/-! ### Words of a tree -/

section SyntaxTree

variable {ν : Type} {spell : ν → Bytes}

/-- The spelling of a number is a word. -/
def SpellsWords (spell : ν → Bytes) : Prop := ∀ n, spell n ≠ [] ∧ ∀ c ∈ spell n, InWord c

set_option maxRecDepth 10000 in
theorem scanWords_wordText (hspell : SpellsWords spell) (w : Word ν) {rest : Bytes}
    (hrest : AtDelimiter rest) :
    scanWords (.word []) (w.text spell ++ rest) = w.text spell :: scanWords (.word []) rest := by
  cases w with
  | null => exact @scanWords_word (str "null") rest (by decide) (by decide) hrest
  | bool b =>
      cases b with
      | true => exact @scanWords_word (str "true") rest (by decide) (by decide) hrest
      | false => exact @scanWords_word (str "false") rest (by decide) (by decide) hrest
  | number n => exact scanWords_word (hspell n).1 (hspell n).2 hrest

mutual

theorem scanWords_tree (hspell : SpellsWords spell) (t : SyntaxTree ν) {rest : Bytes}
    (hrest : AtDelimiter rest) :
    scanWords (.word []) (t.text spell ++ rest)
      = t.words.map (Word.text spell) ++ scanWords (.word []) rest := by
  match t with
  | .word w => exact scanWords_wordText hspell w hrest
  | .string chars => exact scanWords_string chars rest
  | .emptyArray inner =>
      simp only [SyntaxTree.text, SyntaxTree.words, List.cons_append, List.append_assoc, List.nil_append,
        List.map_nil]
      rw [scanWords_delimiter rfl, scanWords_whitespace, scanWords_delimiter rfl]
  | .array items =>
      simp only [SyntaxTree.text, SyntaxTree.words, List.cons_append, List.append_assoc, List.nil_append]
      rw [scanWords_delimiter rfl, scanWords_items hspell items (atDelimiter_cons rfl rest),
        scanWords_delimiter rfl]
  | .emptyObject inner =>
      simp only [SyntaxTree.text, SyntaxTree.words, List.cons_append, List.append_assoc, List.nil_append,
        List.map_nil]
      rw [scanWords_delimiter rfl, scanWords_whitespace, scanWords_delimiter rfl]
  | .object members =>
      simp only [SyntaxTree.text, SyntaxTree.words, List.cons_append, List.append_assoc, List.nil_append]
      rw [scanWords_delimiter rfl, scanWords_members hspell members (atDelimiter_cons rfl rest),
        scanWords_delimiter rfl]

theorem scanWords_items (hspell : SpellsWords spell) (items : Items ν) {rest : Bytes}
    (hrest : AtDelimiter rest) :
    scanWords (.word []) (items.text spell ++ rest)
      = items.words.map (Word.text spell) ++ scanWords (.word []) rest := by
  match items with
  | .last before t after =>
      simp only [Items.text, Items.words, List.append_assoc]
      rw [scanWords_whitespace, scanWords_tree hspell t (atDelimiter_whitespace after hrest),
        scanWords_whitespace]
  | .cons before t after more =>
      simp only [Items.text, Items.words, List.append_assoc, List.cons_append, List.map_append]
      rw [scanWords_whitespace,
        scanWords_tree hspell t (atDelimiter_whitespace after (atDelimiter_cons rfl _)),
        scanWords_whitespace, scanWords_delimiter rfl, scanWords_items hspell more hrest]

theorem scanWords_members (hspell : SpellsWords spell) (members : Members ν) {rest : Bytes}
    (hrest : AtDelimiter rest) :
    scanWords (.word []) (members.text spell ++ rest)
      = members.words.map (Word.text spell) ++ scanWords (.word []) rest := by
  match members with
  | .last beforeKey key afterKey before t after =>
      simp only [Members.text, Members.words, keyText, List.append_assoc, List.cons_append]
      rw [scanWords_whitespace, scanWords_string, scanWords_whitespace, scanWords_delimiter rfl,
        scanWords_whitespace, scanWords_tree hspell t (atDelimiter_whitespace after hrest),
        scanWords_whitespace]
  | .cons beforeKey key afterKey before t after more =>
      simp only [Members.text, Members.words, keyText, List.append_assoc, List.cons_append,
        List.map_append]
      rw [scanWords_whitespace, scanWords_string, scanWords_whitespace, scanWords_delimiter rfl,
        scanWords_whitespace,
        scanWords_tree hspell t (atDelimiter_whitespace after (atDelimiter_cons rfl _)),
        scanWords_whitespace, scanWords_delimiter rfl, scanWords_members hspell more hrest]

end

/-- The bare words of a document are the words of its tree. -/
theorem bareWords_document (hspell : SpellsWords spell) (document : Document ν) :
    bareWords (document.text spell) = document.value.words.map (Word.text spell) := by
  obtain ⟨before, t, after⟩ := document
  have hend : AtDelimiter (Whitespace.text after) := by
    simpa using @atDelimiter_whitespace after [] (by simp [AtDelimiter])
  have hafter : scanWords (.word []) (Whitespace.text after) = [] := by
    simpa [scanWords, finishWord] using scanWords_whitespace after []
  rw [bareWords, Document.text, List.append_assoc, scanWords_whitespace,
    scanWords_tree hspell t hend, hafter, List.append_nil]

/-! ### Respelling -/

variable {μ : Type} {spell' : μ → Bytes}

mutual

/-- A tree whose words have another spelling of the same text can be respelt. -/
theorem exists_tree (t : SyntaxTree ν)
    (hwords : ∀ w ∈ t.words, ∃ w' : Word μ, w'.text spell' = w.text spell) :
    ∃ t' : SyntaxTree μ, t'.text spell' = t.text spell := by
  match t with
  | .word w =>
      obtain ⟨w', hw'⟩ := hwords w (by simp [SyntaxTree.words])
      exact ⟨.word w', hw'⟩
  | .string chars => exact ⟨.string chars, rfl⟩
  | .emptyArray inner => exact ⟨.emptyArray inner, rfl⟩
  | .array items =>
      obtain ⟨items', hitems⟩ := exists_items items hwords
      exact ⟨.array items', by rw [SyntaxTree.text, SyntaxTree.text, hitems]⟩
  | .emptyObject inner => exact ⟨.emptyObject inner, rfl⟩
  | .object members =>
      obtain ⟨members', hmembers⟩ := exists_members members hwords
      exact ⟨.object members', by rw [SyntaxTree.text, SyntaxTree.text, hmembers]⟩

theorem exists_items (items : Items ν)
    (hwords : ∀ w ∈ items.words, ∃ w' : Word μ, w'.text spell' = w.text spell) :
    ∃ items' : Items μ, items'.text spell' = items.text spell := by
  match items with
  | .last before t after =>
      obtain ⟨t', ht⟩ := exists_tree t hwords
      exact ⟨.last before t' after, by rw [Items.text, Items.text, ht]⟩
  | .cons before t after more =>
      obtain ⟨t', ht⟩ := exists_tree t fun w hw => hwords w (List.mem_append_left _ hw)
      obtain ⟨more', hmore⟩ := exists_items more fun w hw => hwords w (List.mem_append_right _ hw)
      exact ⟨.cons before t' after more', by rw [Items.text, Items.text, ht, hmore]⟩

theorem exists_members (members : Members ν)
    (hwords : ∀ w ∈ members.words, ∃ w' : Word μ, w'.text spell' = w.text spell) :
    ∃ members' : Members μ, members'.text spell' = members.text spell := by
  match members with
  | .last beforeKey key afterKey before t after =>
      obtain ⟨t', ht⟩ := exists_tree t hwords
      exact ⟨.last beforeKey key afterKey before t' after, by rw [Members.text, Members.text, ht]⟩
  | .cons beforeKey key afterKey before t after more =>
      obtain ⟨t', ht⟩ := exists_tree t fun w hw => hwords w (List.mem_append_left _ hw)
      obtain ⟨more', hmore⟩ := exists_members more fun w hw => hwords w (List.mem_append_right _ hw)
      exact ⟨.cons beforeKey key afterKey before t' after more',
        by rw [Members.text, Members.text, ht, hmore]⟩

end

end SyntaxTree

/-! ### Numbers of the grammar -/

theorem digit_byte : ∀ d : Digit, InWord d.byte ∧ d.byte ≠ 46 := by
  decide

theorem digitsText_inWord (digits : List Digit) : ∀ c ∈ digitsText digits, InWord c := by
  intro c hc
  obtain ⟨d, -, rfl⟩ := List.mem_map.mp hc
  exact (digit_byte d).1

theorem digitsText_count_point (digits : List Digit) : (digitsText digits).count 46 = 0 := by
  refine List.count_eq_zero.mpr fun hmem => ?_
  obtain ⟨d, -, hd⟩ := List.mem_map.mp hmem
  exact (digit_byte d).2 hd

/-- The text of a fraction, if there is one. -/
def fractionPart : Option Digits1 → Bytes
  | some digits => 46 :: digits.text
  | none => []

/-- The text of an exponent, if there is one. -/
def exponentPart : Option Exponent → Bytes
  | some e => e.text
  | none => []

theorem number_text (n : Number) :
    n.text = (if n.negative then [45] else []) ++ digitsText n.whole.digits
      ++ fractionPart n.fraction ++ exponentPart n.exponent := by
  obtain ⟨negative, whole, fraction, exponent⟩ := n
  cases fraction <;> cases exponent <;> rfl

set_option maxRecDepth 10000 in
theorem exponent_text_inWord (e : Exponent) : ∀ c ∈ e.text, InWord c := by
  obtain ⟨capital, sign, digits⟩ := e
  simp only [Exponent.text, Digits1.text, List.cons_append, List.forall_mem_cons,
    List.forall_mem_append]
  exact ⟨by split <;> decide, by cases sign <;> decide, digitsText_inWord _⟩

set_option maxRecDepth 10000 in
theorem number_text_inWord (n : Number) : ∀ c ∈ n.text, InWord c := by
  rw [number_text]
  simp only [List.forall_mem_append]
  refine ⟨⟨⟨by cases n.negative <;> decide, digitsText_inWord _⟩, ?_⟩, ?_⟩
  · cases n.fraction with
    | none => simp [fractionPart]
    | some digits => exact List.forall_mem_cons.mpr ⟨by decide, digitsText_inWord _⟩
  · cases n.exponent with
    | none => simp [exponentPart]
    | some e => exact exponent_text_inWord e

/-- A number of the grammar has at most one point. -/
theorem number_text_count_point (n : Number) : n.text.count 46 ≤ 1 := by
  have hsign : (if n.negative then [45] else [] : Bytes).count 46 = 0 := by
    cases n.negative <;> rfl
  have hfraction : (fractionPart n.fraction).count 46 ≤ 1 := by
    cases n.fraction with
    | none => simp [fractionPart]
    | some digits => simp [fractionPart, Digits1.text, digitsText_count_point]
  have hexponent : (exponentPart n.exponent).count 46 = 0 := by
    cases n.exponent with
    | none => rfl
    | some e =>
        obtain ⟨capital, sign, digits⟩ := e
        cases capital <;> cases sign <;>
          simp [exponentPart, Exponent.text, ExponentSign.text, Digits1.text,
            digitsText_count_point]
  rw [number_text, List.count_append, List.count_append, List.count_append, hsign,
    digitsText_count_point, hexponent]
  omega

theorem spellsWords_number : SpellsWords Number.text := by
  intro n
  refine ⟨?_, number_text_inWord n⟩
  have hdigits : digitsText n.whole.digits ≠ [] := by cases n.whole <;> simp [Whole.digits, digitsText]
  rw [number_text]
  simp [hdigits]

/-- Every word of a derivable text is a literal name or a number of the grammar. -/
theorem isWord_of_derivable {text : Bytes} (h : Derivable text) :
    ∀ word ∈ bareWords text, IsWord word := by
  obtain ⟨document, rfl⟩ := h
  intro word hword
  rw [bareWords_document spellsWords_number] at hword
  obtain ⟨w, -, rfl⟩ := List.mem_map.mp hword
  exact ⟨w, rfl⟩

/-- A document with a looser number syntax is derivable once its words are those of the grammar. -/
theorem derivable_of_isWord {ν : Type} {spell : ν → Bytes} (hspell : SpellsWords spell)
    (document : Document ν) (h : ∀ word ∈ bareWords (document.text spell), IsWord word) :
    Derivable (document.text spell) := by
  rw [bareWords_document hspell] at h
  obtain ⟨t, ht⟩ := @exists_tree _ spell _ Number.text document.value
    fun w hw => h (w.text spell) (List.mem_map.mpr ⟨w, hw, rfl⟩)
  exact ⟨⟨document.before, t, document.after⟩, by rw [Document.text, Document.text, ht]⟩

end ContextSnap.JsonText
