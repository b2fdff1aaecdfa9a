import ContextSnap.Core.JsonDenote
import ContextSnap.Proof.JsonString

/-!
# The parser reads the grammar

On the text of a tree, followed by anything that cannot continue a number, `parse_value` returns what
the tree denotes; whatever it accepts is the text of a tree. Both go by the nesting: the loops of
`parse_array` and `parse_object` follow the list of items, with the level below as the parser of
values.
-/

namespace ContextSnap.Json

open JsonText

/-! ### Whitespace -/

theorem isWhitespace_byte (sp : Space) : isWhitespace sp.byte = true := by
  cases sp <;> rfl

/-- The text does not start with whitespace. -/
def NoSpace (rest : Bytes) : Prop := ∀ c ∈ rest.head?, isWhitespace c = false

theorem skipWhitespace_of_noSpace {rest : Bytes} (h : NoSpace rest) : skipWhitespace rest = rest := by
  cases rest with
  | nil => rfl
  | cons c rest =>
      have hc : isWhitespace c = false := h c rfl
      simp [skipWhitespace, hc]

theorem skipWhitespace_text (ws : Whitespace) {rest : Bytes} (h : NoSpace rest) :
    skipWhitespace (ws.text ++ rest) = rest := by
  induction ws with
  | nil => exact skipWhitespace_of_noSpace h
  | cons sp ws ih =>
      simp only [skipWhitespace, Whitespace.text, List.map_cons, List.cons_append] at ih ⊢
      rw [List.dropWhile_cons_of_pos (isWhitespace_byte sp), ih]

/-- What `skip_whitespace` skips is whitespace. -/
theorem exists_whitespace (rest : Bytes) : ∃ ws : Whitespace, rest = ws.text ++ skipWhitespace rest := by
  induction rest with
  | nil => exact ⟨[], rfl⟩
  | cons c rest ih =>
      by_cases hc : isWhitespace c = true
      · obtain ⟨ws, hws⟩ := ih
        have hspace : ∃ sp : Space, sp.byte = c := by
          simp only [isWhitespace, Bool.or_eq_true, beq_iff_eq] at hc
          obtain ((rfl | rfl) | rfl) | rfl := hc
          · exact ⟨.space, rfl⟩
          · exact ⟨.tab, rfl⟩
          · exact ⟨.lineFeed, rfl⟩
          · exact ⟨.carriageReturn, rfl⟩
        obtain ⟨sp, rfl⟩ := hspace
        refine ⟨sp :: ws, ?_⟩
        rw [skipWhitespace, List.dropWhile_cons_of_pos hc]
        simpa [Whitespace.text, skipWhitespace] using hws
      · refine ⟨[], ?_⟩
        rw [skipWhitespace, List.dropWhile_cons_of_neg hc]
        rfl

/-! ### Numbers -/

/-- The text does not continue a number. -/
def EndsNumber (rest : Bytes) : Prop := ∀ c ∈ rest.head?, isNumberByte c = false

theorem signPrefix_append {text : Bytes} (h : text ≠ []) (rest : Bytes) :
    signPrefix (text ++ rest) = signPrefix text := by
  cases text with
  | nil => exact (h rfl).elim
  | cons c text => rfl

theorem signPrefix_append_drop (text : Bytes) :
    signPrefix text ++ text.drop (signPrefix text).length = text := by
  cases text with
  | nil => rfl
  | cons c text =>
      simp only [signPrefix]
      split <;> rfl

section Parser

variable (size : Nat)

theorem parseNumber_literal (literal : Literal) {rest : Bytes} (hrest : EndsNumber rest) :
    parseNumber size (literal.text ++ rest) = .ok (literal.value, rest) := by
  have hsplit := signPrefix_append_drop literal.text
  have hle : (signPrefix literal.text).length ≤ literal.text.length := by
    have hlength := congrArg List.length hsplit
    simp only [List.length_append] at hlength
    omega
  have hbody : ∀ c ∈ literal.text.drop (signPrefix literal.text).length, isNumberByte c = true :=
    fun c hc => literal.bytes c (List.mem_of_mem_drop hc)
  have hrest' : rest.takeWhile isNumberByte = [] := by
    cases rest with
    | nil => rfl
    | cons c rest => exact List.takeWhile_cons_of_neg (by simp [hrest c rfl])
  have hreads := literal.reads
  rw [isIntegerLiteral] at hreads
  simp only [parseNumber, signPrefix_append literal.nonempty, List.drop_append_of_le_length hle]
  rw [List.takeWhile_append_of_pos hbody, hrest', List.append_nil, hsplit, hreads,
    if_neg literal.nonempty, List.drop_left]

/-- The sign of the text is the sign of the literal at its front. -/
theorem signPrefix_literal (rest : Bytes) (p : UInt8 → Bool) :
    signPrefix (signPrefix rest ++ (rest.drop (signPrefix rest).length).takeWhile p)
      = signPrefix rest := by
  cases rest with
  | nil => rfl
  | cons c rest =>
      by_cases hc : c = 45 ∨ c = 43
      · simp [signPrefix, hc]
      · have hnil : signPrefix (c :: rest) = [] := by simp [signPrefix, hc]
        rw [hnil, List.nil_append, List.length_nil, List.drop_zero, List.takeWhile_cons]
        split
        · simp [signPrefix, hc]
        · rfl

theorem isNumberByte_signPrefix {rest : Bytes} {c : UInt8} (h : c ∈ signPrefix rest) :
    isNumberByte c = true := by
  cases rest with
  | nil => simp [signPrefix] at h
  | cons d rest =>
      simp only [signPrefix] at h
      split at h
      · rename_i hd
        obtain rfl := List.mem_singleton.mp h
        rcases hd with rfl | rfl <;> rfl
      · simp at h

theorem parseNumber_ok {rest rest' : Bytes} {value : Value}
    (h : parseNumber size rest = .ok (value, rest')) :
    ∃ literal : Literal, rest = literal.text ++ rest' := by
  have hsplit := signPrefix_append_drop rest
  have htail := List.takeWhile_append_dropWhile
    (p := isNumberByte) (l := rest.drop (signPrefix rest).length)
  have hsign := signPrefix_literal rest isNumberByte
  simp only [parseNumber] at h
  generalize hbody : (rest.drop (signPrefix rest).length).takeWhile isNumberByte = body at h hsign htail
  split at h
  · simp at h
  rename_i hnonempty
  split at h
  · rename_i found hreads
    simp only [Except.ok.injEq, Prod.mk.injEq] at h
    have hinteger : isIntegerLiteral (signPrefix rest ++ body) = body.all isDigit := by
      rw [isIntegerLiteral, hsign, List.drop_left]
    refine ⟨⟨signPrefix rest ++ body, found, hnonempty, ?_, by rw [hinteger, hreads]⟩, ?_⟩
    · intro c hc
      rcases List.mem_append.mp hc with hc | hc
      · exact isNumberByte_signPrefix hc
      · rw [← hbody] at hc
        exact List.all_eq_true.mp List.all_takeWhile c hc
    · rw [← h.2]
      have hfront : signPrefix rest ++ body <+: rest := by
        refine ⟨(rest.drop (signPrefix rest).length).dropWhile isNumberByte, ?_⟩
        rw [List.append_assoc, htail, hsplit]
      exact (List.prefix_iff_eq_append.mp hfront).symm
  · simp at h

end Parser

/-! ### The front of a value -/

section Front

variable {ν : Type}

/-- The ASCII bytes that can start a value: neither whitespace nor the end of an array. -/
def StartsValue (c : UInt8) : Prop := isWhitespace c = false ∧ c ≠ 93 ∧ c < 0x80

instance (c : UInt8) : Decidable (StartsValue c) := inferInstanceAs (Decidable (_ ∧ _))

theorem startsValue_of_isNumberByte {c : UInt8} (h : isNumberByte c = true) : StartsValue c := by
  simp only [isNumberByte, isDigit, Bool.or_eq_true, Bool.and_eq_true, decide_eq_true_eq,
    beq_iff_eq] at h
  obtain ((((hdigit | rfl) | rfl) | rfl) | rfl) | rfl := h
  · simp only [StartsValue, isWhitespace, Bool.or_eq_false_iff, beq_eq_false_iff_ne]
    grind
  all_goals decide

variable (literal : ν → Literal)

/-- The spelling of numbers by their literals. -/
def spell (n : ν) : Bytes := (literal n).text

def numberDenote (n : ν) : Value := (literal n).value

theorem tree_front (t : SyntaxTree ν) :
    ∃ c more, t.text (spell literal) = c :: more ∧ StartsValue c := by
  cases t with
  | word w =>
      cases w with
      | null => exact ⟨_, _, rfl, by decide⟩
      | bool b => cases b <;> exact ⟨_, _, rfl, by decide⟩
      | number n =>
          obtain ⟨c, more, hcons⟩ := List.exists_cons_of_ne_nil (literal n).nonempty
          refine ⟨c, more, hcons, startsValue_of_isNumberByte ((literal n).bytes c ?_)⟩
          rw [hcons]
          exact List.mem_cons_self
  | string chars => exact ⟨_, _, rfl, by decide⟩
  | emptyArray inner => exact ⟨_, _, rfl, by decide⟩
  | array items => exact ⟨_, _, rfl, by decide⟩
  | emptyObject inner => exact ⟨_, _, rfl, by decide⟩
  | object members => exact ⟨_, _, rfl, by decide⟩

theorem noSpace_tree (t : SyntaxTree ν) (rest : Bytes) : NoSpace (t.text (spell literal) ++ rest) := by
  obtain ⟨c, more, htext, hc⟩ := tree_front literal t
  rw [htext]
  simpa [NoSpace] using hc.1

/-- The items with other whitespace before the first. -/
def Items.mapBefore (f : Whitespace → Whitespace) : Items ν → Items ν
  | .last before tree after => .last (f before) tree after
  | .cons before tree after rest => .cons (f before) tree after rest

def Members.mapBefore (f : Whitespace → Whitespace) : Members ν → Members ν
  | .last beforeKey key afterKey before tree after =>
      .last (f beforeKey) key afterKey before tree after
  | .cons beforeKey key afterKey before tree after rest =>
      .cons (f beforeKey) key afterKey before tree after rest

theorem items_mapBefore_id (items : Items ν) : Items.mapBefore id items = items := by
  cases items <;> rfl

theorem members_mapBefore_id (members : Members ν) : Members.mapBefore id members = members := by
  cases members <;> rfl

@[simp]
theorem items_mapBefore_denote (f : Whitespace → Whitespace) (items : Items ν) :
    (Items.mapBefore f items).denote (numberDenote literal) = items.denote (numberDenote literal) := by
  cases items <;> rfl

@[simp]
theorem items_mapBefore_depth (f : Whitespace → Whitespace) (items : Items ν) :
    (Items.mapBefore f items).depth = items.depth := by
  cases items <;> rfl

@[simp]
theorem members_mapBefore_denote (f : Whitespace → Whitespace) (members : Members ν) :
    (Members.mapBefore f members).denote (numberDenote literal)
      = members.denote (numberDenote literal) := by
  cases members <;> rfl

@[simp]
theorem members_mapBefore_depth (f : Whitespace → Whitespace) (members : Members ν) :
    (Members.mapBefore f members).depth = members.depth := by
  cases members <;> rfl

theorem items_prepend (ws : Whitespace) (items : Items ν) :
    (Items.mapBefore (ws ++ ·) items).text (spell literal) = ws.text ++ items.text (spell literal) := by
  cases items <;> simp [Items.mapBefore, Items.text, Whitespace.text]

theorem members_prepend (ws : Whitespace) (members : Members ν) :
    (Members.mapBefore (ws ++ ·) members).text (spell literal)
      = ws.text ++ members.text (spell literal) := by
  cases members <;> simp [Members.mapBefore, Members.text, keyText, Whitespace.text]

/-- Skipping whitespace in front of the items strips it from the first; what is left does not close
the array. -/
theorem items_trim (items : Items ν) (rest : Bytes) :
    skipWhitespace (items.text (spell literal) ++ rest)
        = (Items.mapBefore (fun _ => []) items).text (spell literal) ++ rest
      ∧ consume 93 (skipWhitespace (items.text (spell literal) ++ rest)) = none := by
  have hfront : ∃ (before : Whitespace) (tree : SyntaxTree ν) (tail : Bytes),
      items.text (spell literal) = before.text ++ (tree.text (spell literal) ++ tail)
      ∧ (Items.mapBefore (fun _ => []) items).text (spell literal)
        = tree.text (spell literal) ++ tail := by
    cases items with
    | last before tree after =>
        exact ⟨before, tree, after.text, by simp [Items.text],
          by simp [Items.mapBefore, Items.text, Whitespace.text]⟩
    | cons before tree after more =>
        exact ⟨before, tree, after.text ++ 44 :: more.text (spell literal), by simp [Items.text],
          by simp [Items.mapBefore, Items.text, Whitespace.text]⟩
  obtain ⟨before, tree, tail, htext, htrim⟩ := hfront
  obtain ⟨c, more, hcons, hc⟩ := tree_front literal tree
  have hskip : skipWhitespace (items.text (spell literal) ++ rest)
      = tree.text (spell literal) ++ tail ++ rest := by
    rw [htext, List.append_assoc, List.append_assoc,
      skipWhitespace_text before (noSpace_tree literal tree (tail ++ rest))]
  refine ⟨by rw [hskip, htrim], ?_⟩
  rw [hskip, hcons]
  simp [consume, hc.2.1]

theorem members_trim (members : Members ν) (rest : Bytes) :
    skipWhitespace (members.text (spell literal) ++ rest)
        = (Members.mapBefore (fun _ => []) members).text (spell literal) ++ rest
      ∧ consume 125 (skipWhitespace (members.text (spell literal) ++ rest)) = none := by
  have hfront : ∃ (beforeKey : Whitespace) (key : List StringChar) (tail : Bytes),
      members.text (spell literal) = beforeKey.text ++ (stringText key ++ tail)
      ∧ (Members.mapBefore (fun _ => []) members).text (spell literal)
        = stringText key ++ tail := by
    cases members with
    | last beforeKey key afterKey before tree after =>
        exact ⟨beforeKey, key, afterKey.text ++ 58 :: before.text ++ tree.text (spell literal)
          ++ after.text, by simp [Members.text, keyText],
          by simp [Members.mapBefore, Members.text, keyText, Whitespace.text]⟩
    | cons beforeKey key afterKey before tree after more =>
        exact ⟨beforeKey, key, afterKey.text ++ 58 :: before.text ++ tree.text (spell literal)
          ++ after.text ++ 44 :: more.text (spell literal), by simp [Members.text, keyText],
          by simp [Members.mapBefore, Members.text, keyText, Whitespace.text]⟩
  obtain ⟨beforeKey, key, tail, htext, htrim⟩ := hfront
  have hquote : NoSpace (stringText key ++ (tail ++ rest)) := by
    simp [NoSpace, stringText, isWhitespace]
  have hskip : skipWhitespace (members.text (spell literal) ++ rest)
      = stringText key ++ tail ++ rest := by
    rw [htext, List.append_assoc, List.append_assoc, skipWhitespace_text beforeKey hquote]
  refine ⟨by rw [hskip, htrim], ?_⟩
  rw [hskip]
  simp [consume, stringText]

end Front

/-! ### Completeness -/

theorem noSpace_cons {c : UInt8} (hc : isWhitespace c = false) (rest : Bytes) : NoSpace (c :: rest) := by
  simpa [NoSpace] using hc

theorem endsNumber_whitespace (ws : Whitespace) {rest : Bytes} (hrest : EndsNumber rest) :
    EndsNumber (ws.text ++ rest) := by
  cases ws with
  | nil => exact hrest
  | cons sp ws =>
      simp only [EndsNumber, Whitespace.text, List.map_cons, List.cons_append, List.head?_cons,
        Option.mem_def, Option.some.injEq, forall_eq']
      cases sp <;> rfl

theorem endsNumber_cons {c : UInt8} (hc : isNumberByte c = false) (rest : Bytes) :
    EndsNumber (c :: rest) := by
  simpa [EndsNumber] using hc

section Complete

variable (size : Nat) {ν : Type} (literal : ν → Literal)

theorem parseArrayBody_again {parse : Bytes → Result (Value × Bytes)} {array : List Value}
    {rest rest' rest'' : Bytes} {value : Value} (hvalue : parse rest = .ok (value, rest'))
    (hcomma : skipWhitespace rest' = 44 :: rest'') :
    parseArrayBody size parse (array, rest) = .ok (.inl (array ++ [value], rest'')) := by
  simp [parseArrayBody, hvalue, hcomma, consume, bind, Except.bind, pure, Except.pure]

theorem parseArrayBody_done {parse : Bytes → Result (Value × Bytes)} {array : List Value}
    {rest rest' rest'' : Bytes} {value : Value} (hvalue : parse rest = .ok (value, rest'))
    (hclose : skipWhitespace rest' = 93 :: rest'') :
    parseArrayBody size parse (array, rest) = .ok (.inr (.array (array ++ [value]), rest'')) := by
  simp [parseArrayBody, hvalue, hclose, consume, bind, Except.bind, pure, Except.pure]

/-- The key of a member and its colon, up to the value. -/
theorem parseObjectBody_key {parse : Bytes → Result (Value × Bytes)} {object : Object}
    {rest rest' : Bytes} {value : Value} (beforeKey : Whitespace) (key : List StringChar)
    (afterKey : Whitespace) (hvalue : parse rest = .ok (value, rest')) :
    parseObjectBody size parse
        (object, beforeKey.text ++ (stringText key ++ (afterKey.text ++ 58 :: rest)))
      = match consume 44 (skipWhitespace rest') with
        | some rest'' => .ok (.inl (object ++ [(charsDenote key, value)], rest''))
        | none =>
            match consume 125 (skipWhitespace rest') with
            | some rest'' => .ok (.inr (.object (object ++ [(charsDenote key, value)]), rest''))
            | none =>
                .error (fail size "expected ',' or '\x7d' in object" (skipWhitespace rest')) := by
  have hskip : skipWhitespace (beforeKey.text ++ (stringText key ++ (afterKey.text ++ 58 :: rest)))
      = stringText key ++ (afterKey.text ++ 58 :: rest) :=
    skipWhitespace_text beforeKey (noSpace_cons (by decide) _)
  have hcolon : skipWhitespace (afterKey.text ++ 58 :: rest) = 58 :: rest :=
    skipWhitespace_text afterKey (noSpace_cons (by decide) rest)
  have hquote : (stringText key ++ (afterKey.text ++ 58 :: rest)).head? = some 34 := rfl
  simp only [parseObjectBody, hskip, hquote, parseString_text, hcolon, hvalue, consume, bind,
    Except.bind, pure, Except.pure, ne_eq, not_true_eq_false, if_true, if_false]
  rfl

theorem parseObjectBody_again {parse : Bytes → Result (Value × Bytes)} {object : Object}
    {rest rest' rest'' : Bytes} {value : Value} (beforeKey : Whitespace) (key : List StringChar)
    (afterKey : Whitespace) (hvalue : parse rest = .ok (value, rest'))
    (hcomma : skipWhitespace rest' = 44 :: rest'') :
    parseObjectBody size parse
        (object, beforeKey.text ++ (stringText key ++ (afterKey.text ++ 58 :: rest)))
      = .ok (.inl (object ++ [(charsDenote key, value)], rest'')) := by
  rw [parseObjectBody_key size beforeKey key afterKey hvalue, hcomma]
  rfl

theorem parseObjectBody_done {parse : Bytes → Result (Value × Bytes)} {object : Object}
    {rest rest' rest'' : Bytes} {value : Value} (beforeKey : Whitespace) (key : List StringChar)
    (afterKey : Whitespace) (hvalue : parse rest = .ok (value, rest'))
    (hclose : skipWhitespace rest' = 125 :: rest'') :
    parseObjectBody size parse
        (object, beforeKey.text ++ (stringText key ++ (afterKey.text ++ 58 :: rest)))
      = .ok (.inr (.object (object ++ [(charsDenote key, value)]), rest'')) := by
  rw [parseObjectBody_key size beforeKey key afterKey hvalue, hclose]
  rfl

theorem parseValue_word (w : Word ν) (levels : Nat) (before : Whitespace) {rest : Bytes}
    (hrest : EndsNumber rest) :
    parseValue size (levels + 1) (before.text ++ (w.text (spell literal) ++ rest))
      = .ok (w.denote (numberDenote literal), rest) := by
  have hskip := skipWhitespace_text before (noSpace_tree literal (.word w) rest)
  simp only [SyntaxTree.text] at hskip
  simp only [parseValue, hskip]
  cases w with
  | null => rfl
  | bool b => cases b <;> rfl
  | number n =>
      have hparse := parseNumber_literal size (literal n) hrest
      obtain ⟨c, more, hcons⟩ := List.exists_cons_of_ne_nil (literal n).nonempty
      have hc : isNumberByte c = true := (literal n).bytes c (by rw [hcons]; exact List.mem_cons_self)
      simp only [Word.text, Word.denote, spell, numberDenote]
      rw [hcons] at hparse ⊢
      simp only [List.cons_append] at hparse ⊢
      have hne : ∀ d : UInt8, isNumberByte d = false → c ≠ d := by
        rintro d hd rfl
        simp [hc] at hd
      rw [if_neg (hne 123 rfl), if_neg (hne 91 rfl), if_neg (hne 34 rfl), if_neg (hne 116 rfl),
        if_neg (hne 102 rfl), if_neg (hne 110 rfl), hparse]

section Dispatch

variable {levels : Nat} {rest more : Bytes}

theorem parseValue_object (hskip : skipWhitespace rest = 123 :: more) :
    parseValue size (levels + 1) rest = parseObject size (parseValue size levels) (123 :: more) := by
  simp [parseValue, hskip]

theorem parseValue_array (hskip : skipWhitespace rest = 91 :: more) :
    parseValue size (levels + 1) rest = parseArray size (parseValue size levels) (91 :: more) := by
  simp [parseValue, hskip]

theorem parseValue_string (hskip : skipWhitespace rest = 34 :: more) :
    parseValue size (levels + 1) rest
      = (parseString size (34 :: more)).map fun (text, rest) => (.string text, rest) := by
  simp [parseValue, hskip]

end Dispatch

mutual

/-- **Completeness.** The parser reads a tree off its text, if the levels allow its nesting and
nothing that follows continues a number. -/
theorem parseValue_text (t : SyntaxTree ν) (levels : Nat) (hdepth : t.depth < levels)
    (before : Whitespace) (rest : Bytes) (hrest : EndsNumber rest) :
    parseValue size levels (before.text ++ (t.text (spell literal) ++ rest))
      = .ok (t.denote (numberDenote literal), rest) := by
  obtain ⟨levels, rfl⟩ : ∃ l, levels = l + 1 := ⟨levels - 1, by omega⟩
  have hskip := skipWhitespace_text before (noSpace_tree literal t rest)
  match t with
  | .word w => exact parseValue_word size literal w levels before hrest
  | .string chars =>
      simp only [SyntaxTree.text, stringText, List.cons_append] at hskip ⊢
      rw [parseValue_string size hskip, ← List.cons_append, ← List.cons_append, ← stringText,
        parseString_text]
      rfl
  | .emptyArray inner =>
      have hclose : skipWhitespace (inner.text ++ 93 :: rest) = 93 :: rest :=
        skipWhitespace_text inner (noSpace_cons (by decide) rest)
      simp only [SyntaxTree.text, List.cons_append, List.append_assoc, List.nil_append] at hskip ⊢
      rw [parseValue_array size hskip]
      simp [parseArray, hclose, consume, SyntaxTree.denote]
  | .array items =>
      obtain ⟨htrim, hopen⟩ := items_trim literal items (93 :: rest)
      rw [htrim] at hopen
      have hitems := parseItems_text items levels (Nat.lt_of_succ_lt_succ hdepth)
        (fun _ => []) [] rest
      simp only [SyntaxTree.text, List.cons_append, List.append_assoc, List.nil_append] at hskip ⊢
      rw [parseValue_array size hskip]
      simp only [parseArray, List.drop_succ_cons, List.drop_zero, hopen, htrim]
      refine hitems _ _ ?_
      simp only [List.length_append]
      omega
  | .emptyObject inner =>
      have hclose : skipWhitespace (inner.text ++ 125 :: rest) = 125 :: rest :=
        skipWhitespace_text inner (noSpace_cons (by decide) rest)
      simp only [SyntaxTree.text, List.cons_append, List.append_assoc, List.nil_append] at hskip ⊢
      rw [parseValue_object size hskip]
      simp [parseObject, hclose, consume, SyntaxTree.denote]
  | .object members =>
      obtain ⟨htrim, hopen⟩ := members_trim literal members (125 :: rest)
      rw [htrim] at hopen
      have hmembers := parseMembers_text members levels (Nat.lt_of_succ_lt_succ hdepth)
        (fun _ => []) [] rest
      simp only [SyntaxTree.text, List.cons_append, List.append_assoc, List.nil_append] at hskip ⊢
      rw [parseValue_object size hskip]
      simp only [parseObject, List.drop_succ_cons, List.drop_zero, hopen, htrim]
      refine hmembers _ _ ?_
      simp only [List.length_append]
      omega

theorem parseItems_text (items : Items ν) (levels : Nat) (hdepth : items.depth < levels)
    (f : Whitespace → Whitespace) (array : List Value) (rest : Bytes) :
    Loop.Returns (parseArrayBody size (parseValue size levels))
      ((Items.mapBefore f items).text (spell literal)).length
      (array, (Items.mapBefore f items).text (spell literal) ++ 93 :: rest)
      (.array (array ++ items.denote (numberDenote literal)), rest) := by
  match items with
  | .last before t after =>
      have hends := endsNumber_whitespace after (endsNumber_cons (c := 93) rfl rest)
      have hvalue := parseValue_text t levels hdepth (f before) _ hends
      have hclose := skipWhitespace_text after (noSpace_cons (c := 93) rfl rest)
      simp only [Items.mapBefore, Items.text, Items.denote, List.append_assoc]
      exact .done (parseArrayBody_done size hvalue hclose) _
  | .cons before t after more =>
      simp only [Items.depth] at hdepth
      have hends := endsNumber_whitespace after
        (endsNumber_cons (c := 44) rfl (more.text (spell literal) ++ 93 :: rest))
      have hvalue := parseValue_text t levels (by omega) (f before) _ hends
      have hcomma := skipWhitespace_text after
        (noSpace_cons (c := 44) rfl (more.text (spell literal) ++ 93 :: rest))
      have hmore := parseItems_text more levels (by omega) id
        (array ++ [t.denote (numberDenote literal)]) rest
      rw [items_mapBefore_id, List.append_assoc, List.singleton_append] at hmore
      simp only [Items.mapBefore, Items.text, Items.denote, List.append_assoc, List.cons_append]
      refine (Loop.Returns.again (parseArrayBody_again size hvalue hcomma) hmore).mono ?_
      simp only [List.length_append, List.length_cons]
      omega

theorem parseMembers_text (members : Members ν) (levels : Nat) (hdepth : members.depth < levels)
    (f : Whitespace → Whitespace) (object : Object) (rest : Bytes) :
    Loop.Returns (parseObjectBody size (parseValue size levels))
      ((Members.mapBefore f members).text (spell literal)).length
      (object, (Members.mapBefore f members).text (spell literal) ++ 125 :: rest)
      (.object (object ++ members.denote (numberDenote literal)), rest) := by
  match members with
  | .last beforeKey key afterKey before t after =>
      have hends := endsNumber_whitespace after (endsNumber_cons (c := 125) rfl rest)
      have hvalue := parseValue_text t levels hdepth before _ hends
      have hclose := skipWhitespace_text after (noSpace_cons (c := 125) rfl rest)
      simp only [Members.mapBefore, Members.text, Members.denote, keyText, List.append_assoc,
        List.cons_append]
      exact .done (parseObjectBody_done size (f beforeKey) key afterKey hvalue hclose) _
  | .cons beforeKey key afterKey before t after more =>
      simp only [Members.depth] at hdepth
      have hends := endsNumber_whitespace after
        (endsNumber_cons (c := 44) rfl (more.text (spell literal) ++ 125 :: rest))
      have hvalue := parseValue_text t levels (by omega) before _ hends
      have hcomma := skipWhitespace_text after
        (noSpace_cons (c := 44) rfl (more.text (spell literal) ++ 125 :: rest))
      have hmore := parseMembers_text more levels (by omega) id
        (object ++ [(charsDenote key, t.denote (numberDenote literal))]) rest
      rw [members_mapBefore_id, List.append_assoc, List.singleton_append] at hmore
      have hround := @parseObjectBody_again size _ object _ _ _ _ (f beforeKey) key afterKey hvalue
        hcomma
      simp only [Members.mapBefore, Members.text, Members.denote, keyText, List.append_assoc,
        List.cons_append]
      refine (Loop.Returns.again hround hmore).mono ?_
      simp only [List.length_append, List.length_cons]
      omega

end

end Complete

/-! ### Soundness -/

section Sound

variable (size : Nat)

theorem consume_eq_some {c : UInt8} {rest rest' : Bytes} (h : consume c rest = some rest') :
    rest = c :: rest' := by
  cases rest with
  | nil => simp [consume] at h
  | cons d rest =>
      simp only [consume, Option.ite_none_right_eq_some, Option.some.injEq] at h
      rw [h.1, h.2]

/-- The step of `parse_array`, read backwards. -/
theorem parseArrayBody_ok {parse : Bytes → Result (Value × Bytes)} {array : Array} {rest : Bytes}
    {next : (Array × Bytes) ⊕ (Value × Bytes)}
    (h : parseArrayBody size parse (array, rest) = .ok next) :
    ∃ value rest' rest'', parse rest = .ok (value, rest')
      ∧ ((skipWhitespace rest' = 44 :: rest'' ∧ next = .inl (array ++ [value], rest''))
        ∨ (skipWhitespace rest' = 93 :: rest'' ∧ next = .inr (.array (array ++ [value]), rest''))) := by
  cases hvalue : parse rest with
  | error e => simp [parseArrayBody, hvalue, bind, Except.bind] at h
  | ok read =>
      obtain ⟨value, rest'⟩ := read
      simp only [parseArrayBody, hvalue, bind, Except.bind, pure, Except.pure] at h
      refine ⟨value, rest', ?_⟩
      split at h
      · rename_i rest'' hcomma
        exact ⟨rest'', rfl, .inl ⟨consume_eq_some hcomma, (Except.ok.inj h).symm⟩⟩
      split at h
      · rename_i rest'' hclose
        exact ⟨rest'', rfl, .inr ⟨consume_eq_some hclose, (Except.ok.inj h).symm⟩⟩
      · simp [throw, throwThe, MonadExceptOf.throw] at h

/-- The step of `parse_object`, read backwards. -/
theorem parseObjectBody_ok {parse : Bytes → Result (Value × Bytes)} {object : Object}
    {rest : Bytes} {next : (Object × Bytes) ⊕ (Value × Bytes)}
    (h : parseObjectBody size parse (object, rest) = .ok next) :
    ∃ (beforeKey : Whitespace) (key : List StringChar) (afterKey : Whitespace) (member : Bytes × Value)
      (rest₁ rest₂ rest₃ : Bytes),
      rest = beforeKey.text ++ (stringText key ++ (afterKey.text ++ 58 :: rest₁))
      ∧ parse rest₁ = .ok (member.2, rest₂)
      ∧ ((skipWhitespace rest₂ = 44 :: rest₃ ∧ next = .inl (object ++ [member], rest₃))
        ∨ (skipWhitespace rest₂ = 125 :: rest₃ ∧ next = .inr (.object (object ++ [member]), rest₃))) := by
  obtain ⟨beforeKey, hbefore⟩ := exists_whitespace rest
  simp only [parseObjectBody, bind, Except.bind, pure, Except.pure] at h
  split at h
  · simp at h
  rename_i hquote
  obtain ⟨tail, htail⟩ : ∃ tail, skipWhitespace rest = 34 :: tail := by
    cases hskip : skipWhitespace rest with
    | nil => simp [hskip] at hquote
    | cons c tail =>
        by_cases hc : c = 34
        · exact ⟨tail, by rw [hc]⟩
        · simp [hskip, hc] at hquote
  rw [htail] at h hbefore
  cases hkey : parseString size (34 :: tail) with
  | error e => simp [hkey] at h
  | ok read =>
      obtain ⟨key, rest₀⟩ := read
      obtain ⟨chars, hchars⟩ := parseString_ok size hkey
      obtain ⟨afterKey, hafter⟩ := exists_whitespace rest₀
      simp only [hkey] at h
      split at h
      · simp [throw, throwThe, MonadExceptOf.throw] at h
      rename_i rest₁ hcolon
      rw [consume_eq_some hcolon] at hafter
      cases hvalue : parse rest₁ with
      | error e => simp [hvalue] at h
      | ok read =>
          obtain ⟨value, rest₂⟩ := read
          have htext : rest
              = beforeKey.text ++ (stringText chars ++ (afterKey.text ++ 58 :: rest₁)) := by
            rw [hbefore, hchars, ← hafter]
          simp only [hvalue] at h
          split at h
          · rename_i rest₃ hcomma
            exact ⟨beforeKey, chars, afterKey, (key, value), rest₁, rest₂, rest₃, htext, hvalue,
              .inl ⟨consume_eq_some hcomma, (Except.ok.inj h).symm⟩⟩
          split at h
          · rename_i rest₃ hclose
            exact ⟨beforeKey, chars, afterKey, (key, value), rest₁, rest₂, rest₃, htext, hvalue,
              .inr ⟨consume_eq_some hclose, (Except.ok.inj h).symm⟩⟩
          · simp [throw, throwThe, MonadExceptOf.throw] at h

theorem parseLiteral_ok {literal : String} {value result : Value} {rest rest' : Bytes}
    (h : parseLiteral size literal value rest = .ok (result, rest')) :
    rest = str literal ++ rest' := by
  simp only [parseLiteral, afterLiteral] at h
  split at h
  · rename_i after hafter
    simp only [Option.ite_none_right_eq_some, Option.some.injEq] at hafter
    simp only [Except.ok.injEq, Prod.mk.injEq] at h
    rw [← h.2, ← hafter.2]
    conv_lhs => rw [← List.take_append_drop (str literal).length rest, hafter.1]
  · simp at h

/-- A parser of values that accepts nothing but texts of trees up to a depth. -/
def ReadsTrees (parse : Bytes → Result (Value × Bytes)) (levels : Nat) : Prop :=
  ∀ rest rest' value, parse rest = .ok (value, rest') →
    ∃ (before : Whitespace) (t : SyntaxTree Literal),
      rest = before.text ++ (t.text Literal.text ++ rest') ∧ t.depth < levels

section Containers

variable {parse : Bytes → Result (Value × Bytes)} {levels : Nat} (hparse : ReadsTrees parse levels)

include hparse

theorem parseArray_ok {rest rest' : Bytes} {value : Value}
    (h : parseArray size parse (91 :: rest) = .ok (value, rest')) :
    ∃ t : SyntaxTree Literal, 91 :: rest = t.text Literal.text ++ rest' ∧ t.depth < levels + 1 := by
  obtain ⟨inner, hinner⟩ := exists_whitespace rest
  simp only [parseArray, List.drop_succ_cons, List.drop_zero] at h
  split at h
  · rename_i after hclose
    simp only [Except.ok.injEq, Prod.mk.injEq] at h
    refine ⟨.emptyArray inner, ?_, Nat.succ_pos levels⟩
    rw [hinner, consume_eq_some hclose, h.2]
    simp [SyntaxTree.text]
  have hitems : ∃ items : Items Literal,
      skipWhitespace rest = items.text Literal.text ++ 93 :: rest' ∧ items.depth < levels := by
    refine Loop.run_ok (P := fun s a => ∃ items : Items Literal,
      s.2 = items.text Literal.text ++ 93 :: a.2 ∧ items.depth < levels) ?_ ?_ h
    · intro s a hdone
      obtain ⟨value, rest₁, rest₂, hvalue, ⟨-, hnext⟩ | ⟨hclose, hnext⟩⟩ := parseArrayBody_ok size hdone
      · simp at hnext
      obtain ⟨before, t, htext, hdepth⟩ := hparse _ _ _ hvalue
      obtain ⟨after, hafter⟩ := exists_whitespace rest₁
      simp only [Sum.inr.injEq] at hnext
      refine ⟨.last before t after, ?_, hdepth⟩
      rw [htext, hafter, hclose, hnext]
      simp [Items.text]
    · intro s s' a hagain ⟨items, hitems, hrest⟩
      obtain ⟨value, rest₁, rest₂, hvalue, ⟨hcomma, hnext⟩ | ⟨-, hnext⟩⟩ := parseArrayBody_ok size hagain
      · obtain ⟨before, t, htext, hdepth⟩ := hparse _ _ _ hvalue
        obtain ⟨after, hafter⟩ := exists_whitespace rest₁
        simp only [Sum.inl.injEq] at hnext
        refine ⟨.cons before t after items, ?_, by simp only [Items.depth]; omega⟩
        rw [hnext] at hitems
        simp only at hitems
        rw [htext, hafter, hcomma, hitems]
        simp [Items.text]
      · simp at hnext
  obtain ⟨items, htext, hdepth⟩ := hitems
  refine ⟨.array (Items.mapBefore (inner ++ ·) items), ?_, by simp [SyntaxTree.depth, hdepth]⟩
  have hprepend : (Items.mapBefore (inner ++ ·) items).text Literal.text
      = inner.text ++ items.text Literal.text := items_prepend id inner items
  rw [hinner, htext, SyntaxTree.text, hprepend]
  simp

theorem parseObject_ok {rest rest' : Bytes} {value : Value}
    (h : parseObject size parse (123 :: rest) = .ok (value, rest')) :
    ∃ t : SyntaxTree Literal, 123 :: rest = t.text Literal.text ++ rest' ∧ t.depth < levels + 1 := by
  obtain ⟨inner, hinner⟩ := exists_whitespace rest
  simp only [parseObject, List.drop_succ_cons, List.drop_zero] at h
  split at h
  · rename_i after hclose
    simp only [Except.ok.injEq, Prod.mk.injEq] at h
    refine ⟨.emptyObject inner, ?_, Nat.succ_pos levels⟩
    rw [hinner, consume_eq_some hclose, h.2]
    simp [SyntaxTree.text]
  have hmembers : ∃ members : Members Literal,
      skipWhitespace rest = members.text Literal.text ++ 125 :: rest'
        ∧ members.depth < levels := by
    refine Loop.run_ok (P := fun s a => ∃ members : Members Literal,
      s.2 = members.text Literal.text ++ 125 :: a.2 ∧ members.depth < levels) ?_ ?_ h
    · intro s a hdone
      obtain ⟨beforeKey, key, afterKey, member, rest₁, rest₂, rest₃, hkey, hvalue,
        ⟨-, hnext⟩ | ⟨hclose, hnext⟩⟩ := parseObjectBody_ok size hdone
      · simp at hnext
      obtain ⟨before, t, htext, hdepth⟩ := hparse _ _ _ hvalue
      obtain ⟨after, hafter⟩ := exists_whitespace rest₂
      simp only [Sum.inr.injEq] at hnext
      refine ⟨.last beforeKey key afterKey before t after, ?_, hdepth⟩
      rw [hkey, htext, hafter, hclose, hnext]
      simp [Members.text, keyText]
    · intro s s' a hagain ⟨members, hmembers, hrest⟩
      obtain ⟨beforeKey, key, afterKey, member, rest₁, rest₂, rest₃, hkey, hvalue,
        ⟨hcomma, hnext⟩ | ⟨-, hnext⟩⟩ := parseObjectBody_ok size hagain
      · obtain ⟨before, t, htext, hdepth⟩ := hparse _ _ _ hvalue
        obtain ⟨after, hafter⟩ := exists_whitespace rest₂
        simp only [Sum.inl.injEq] at hnext
        refine ⟨.cons beforeKey key afterKey before t after members, ?_,
          by simp only [Members.depth]; omega⟩
        rw [hnext] at hmembers
        simp only at hmembers
        rw [hkey, htext, hafter, hcomma, hmembers]
        simp [Members.text, keyText]
      · simp at hnext
  obtain ⟨members, htext, hdepth⟩ := hmembers
  refine ⟨.object (Members.mapBefore (inner ++ ·) members), ?_, by simp [SyntaxTree.depth, hdepth]⟩
  have hprepend : (Members.mapBefore (inner ++ ·) members).text Literal.text
      = inner.text ++ members.text Literal.text := members_prepend id inner members
  rw [hinner, htext, SyntaxTree.text, hprepend]
  simp

end Containers

/-- **Soundness.** What the parser accepts is the text of a tree within the levels. -/
theorem parseValue_ok (levels : Nat) : ReadsTrees (parseValue size levels) levels := by
  induction levels with
  | zero => intro rest rest' value h; simp [parseValue] at h
  | succ levels ih =>
      intro rest rest' value h
      obtain ⟨before, hbefore⟩ := exists_whitespace rest
      rw [hbefore]
      cases hskip : skipWhitespace rest with
      | nil => simp [parseValue, hskip] at h
      | cons c more =>
          simp only [parseValue, hskip] at h
          split at h
          · rename_i hc
            rw [hc] at h ⊢
            obtain ⟨t, htext, hdepth⟩ := parseObject_ok size ih h
            exact ⟨before, t, by rw [htext], hdepth⟩
          split at h
          · rename_i hc
            rw [hc] at h ⊢
            obtain ⟨t, htext, hdepth⟩ := parseArray_ok size ih h
            exact ⟨before, t, by rw [htext], hdepth⟩
          split at h
          · rename_i hc
            rw [hc] at h ⊢
            cases hstring : parseString size (34 :: more) with
            | error e => simp [hstring, Except.map] at h
            | ok read =>
                obtain ⟨chars, hchars⟩ := parseString_ok size hstring
                simp only [hstring, Except.map, Except.ok.injEq, Prod.mk.injEq] at h
                exact ⟨before, .string chars, by rw [hchars, ← h.2]; rfl, Nat.succ_pos levels⟩
          split at h
          · exact ⟨before, .word (.bool true), by rw [parseLiteral_ok size h]; rfl,
              Nat.succ_pos levels⟩
          split at h
          · exact ⟨before, .word (.bool false), by rw [parseLiteral_ok size h]; rfl,
              Nat.succ_pos levels⟩
          split at h
          · exact ⟨before, .word .null, by rw [parseLiteral_ok size h]; rfl, Nat.succ_pos levels⟩
          · obtain ⟨literal, hliteral⟩ := parseNumber_ok size h
            exact ⟨before, .word (.number literal), by rw [hliteral]; rfl, Nat.succ_pos levels⟩

end Sound

/-! ### The loops are unbounded -/

section Loops

variable (size : Nat)

/-- The budget of a loop is never felt when every round takes something off the text. -/
theorem cursorLoop_eq {σ α : Type} {body : σ × Bytes → Result ((σ × Bytes) ⊕ α)}
    (hshrinks : ∀ s s', body s = .ok (.inl s') → s'.2.length < s.2.length) (s : σ × Bytes) :
    cursorLoop size body s = match body s with
      | .error e => .error e
      | .ok (.inl s') => cursorLoop size body s'
      | .ok (.inr a) => .ok a := by
  rw [cursorLoop, Loop.run_eq hshrinks fun s => fail size "unterminated loop" s.2]
  cases body s with
  | error e => rfl
  | ok next => cases next <;> rfl

private theorem shrinks_of_tree {rest rest' rest'' : Bytes} {before : Whitespace} {t : SyntaxTree Literal}
    {c : UInt8} (htext : rest = before.text ++ (t.text Literal.text ++ rest'))
    (hnext : skipWhitespace rest' = c :: rest'') : rest''.length < rest.length := by
  obtain ⟨ws, hws⟩ := exists_whitespace rest'
  rw [htext, hws, hnext]
  simp only [List.length_append, List.length_cons]
  omega

theorem parseArrayBody_shrinks (levels : Nat) (s s' : Array × Bytes)
    (h : parseArrayBody size (parseValue size levels) s = .ok (.inl s')) :
    s'.2.length < s.2.length := by
  obtain ⟨value, rest₁, rest₂, hvalue, ⟨hcomma, hnext⟩ | ⟨-, hnext⟩⟩ := parseArrayBody_ok size h
  · obtain ⟨before, t, htext, -⟩ := parseValue_ok size levels _ _ _ hvalue
    obtain rfl : s' = _ := Sum.inl.inj hnext
    exact shrinks_of_tree htext hcomma
  · simp at hnext

theorem parseObjectBody_shrinks (levels : Nat) (s s' : Object × Bytes)
    (h : parseObjectBody size (parseValue size levels) s = .ok (.inl s')) :
    s'.2.length < s.2.length := by
  obtain ⟨beforeKey, key, afterKey, member, rest₁, rest₂, rest₃, hkey, hvalue,
    ⟨hcomma, hnext⟩ | ⟨-, hnext⟩⟩ := parseObjectBody_ok size h
  · obtain ⟨before, t, htext, -⟩ := parseValue_ok size levels _ _ _ hvalue
    obtain rfl : s' = _ := Sum.inl.inj hnext
    have hlt := shrinks_of_tree htext hcomma
    rw [hkey]
    simp only [List.length_append, List.length_cons]
    omega
  · simp at hnext

end Loops

/-! ### Documents -/

theorem Parser.parse_document {ν : Type} (literal : ν → Literal) (document : Document ν)
    (hdepth : document.value.depth ≤ kMaxDepth) :
    Parser.parse (document.text (spell literal))
      = .ok (document.value.denote (numberDenote literal)) := by
  obtain ⟨before, t, after⟩ := document
  have hskip := skipWhitespace_text before (noSpace_tree literal t after.text)
  have hafter : skipWhitespace after.text = [] := by
    simpa using @skipWhitespace_text after [] (by simp [NoSpace])
  have hends : EndsNumber after.text := by
    simpa using @endsNumber_whitespace after [] (by simp [EndsNumber])
  simp only [Document.text, List.append_assoc]
  generalize hsize : (before.text ++ (t.text (spell literal) ++ after.text)).length = size
  have hvalue := parseValue_text size literal t (kMaxDepth + 1) (Nat.lt_succ_of_le hdepth) []
    after.text hends
  simp only [Whitespace.text, List.map_nil, List.nil_append] at hvalue hafter
  simp only [Parser.parse, Whitespace.text, bind, Except.bind] at hskip hsize ⊢
  rw [hsize, hskip, hvalue]
  simp [hafter, pure, Except.pure]

/-- Whatever is accepted is the text of a document, and its value is what the document denotes. -/
theorem Parser.parse_ok {text : Bytes} {value : Value} (h : Parser.parse text = .ok value) :
    ∃ document : Document Literal, document.text Literal.text = text
      ∧ document.value.depth ≤ kMaxDepth
      ∧ value = document.value.denote Literal.value := by
  have hdocument : ∃ document : Document Literal, document.text Literal.text = text
      ∧ document.value.depth ≤ kMaxDepth := by
    obtain ⟨ws, hws⟩ := exists_whitespace text
    cases hvalue : parseValue text.length (kMaxDepth + 1) (skipWhitespace text) with
    | error e => simp [Parser.parse, hvalue, bind, Except.bind] at h
    | ok read =>
        obtain ⟨found, rest⟩ := read
        simp only [Parser.parse, hvalue, bind, Except.bind, pure, Except.pure] at h
        split at h
        · rename_i hend
          obtain ⟨before, t, htext, hdepth⟩ := parseValue_ok _ _ _ _ _ hvalue
          obtain ⟨after, hafter⟩ := exists_whitespace rest
          rw [hend, List.append_nil] at hafter
          refine ⟨⟨ws ++ before, t, after⟩, ?_, Nat.le_of_lt_succ hdepth⟩
          rw [hws, htext, hafter]
          simp [Document.text, Whitespace.text]
        · simp [throw, throwThe, MonadExceptOf.throw] at h
  obtain ⟨document, rfl, hdepth⟩ := hdocument
  have hparse : Parser.parse (document.text Literal.text) = .ok _ :=
    Parser.parse_document id document hdepth
  rw [h] at hparse
  exact ⟨document, rfl, hdepth, Except.ok.inj hparse⟩

/-- The UTF-8 byte order mark. -/
def bom : Bytes := [0xEF, 0xBB, 0xBF]

theorem dropBom_cons {c : UInt8} (hc : c < 0x80) (rest : Bytes) : dropBom (c :: rest) = c :: rest := by
  unfold dropBom
  split
  · rename_i h
    simp only [List.cons.injEq] at h
    rw [h.1] at hc
    exact absurd hc (by decide)
  · rfl

theorem document_front {ν : Type} (literal : ν → Literal) (document : Document ν) :
    ∃ c rest, document.text (spell literal) = c :: rest ∧ c < 0x80 := by
  obtain ⟨before, t, after⟩ := document
  cases before with
  | nil =>
      obtain ⟨c, more, htext, hc⟩ := tree_front literal t
      exact ⟨c, more ++ after.text, by simp [Document.text, Whitespace.text, htext], hc.2.2⟩
  | cons sp before =>
      exact ⟨sp.byte, Whitespace.text before ++ (t.text (spell literal) ++ after.text),
        by simp [Document.text, Whitespace.text], by cases sp <;> decide⟩

/-- `json::parse` reads a document, with or without a byte order mark. -/
theorem parse_document {ν : Type} (literal : ν → Literal) (document : Document ν)
    (hdepth : document.value.depth ≤ kMaxDepth) :
    parse (document.text (spell literal)) = .ok (document.value.denote (numberDenote literal))
      ∧ parse (bom ++ document.text (spell literal))
        = .ok (document.value.denote (numberDenote literal)) := by
  have hparse := Parser.parse_document literal document hdepth
  obtain ⟨c, rest, htext, hc⟩ := document_front literal document
  rw [htext] at hparse ⊢
  refine ⟨?_, by simpa [parse, bom, dropBom] using hparse⟩
  rw [parse, if_neg (by simp), dropBom_cons hc, hparse]

end ContextSnap.Json
