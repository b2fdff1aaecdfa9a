import ContextSnap.Lib.Bytes

/-!
# Lines of keys and values

How a line `head key=value key="some value"` is read: a word, and then pairs with a space in front
of each. A value with a space in it stands between quotes, where a backslash says how the next byte
is meant. What a reader makes of a written value does not depend on what follows it.
-/

namespace ContextSnap.Logfmt

/-- What a byte behind a backslash stands for. -/
def unescape (c : UInt8) : UInt8 := if c = 110 then 10 else c

/-- What is behind an opening quote: the value up to the quote that ends it, and what follows. -/
def readQuoted : Bytes → Option (Bytes × Bytes)
  | [] => none
  | [c] => if c = 34 then some ([], []) else none
  | c :: e :: text =>
      if c = 34 then some ([], e :: text)
      else if c = 92 then (readQuoted text).map fun read => (unescape e :: read.1, read.2)
      else (readQuoted (e :: text)).map fun read => (c :: read.1, read.2)

/-- A value, and what follows it. -/
def readValue (text : Bytes) : Option (Bytes × Bytes) :=
  if text.head? = some 34 then readQuoted text.tail
  else some (text.takeWhile (· ≠ 32), text.dropWhile (· ≠ 32))

/-- One pair and the space in front of it, and what follows. -/
def readPair (text : Bytes) : Option ((Bytes × Bytes) × Bytes) :=
  if text.head? = some 32 then
    let behind := text.tail.dropWhile (· ≠ 61)
    if behind = [] then none
    else (readValue behind.tail).map fun read =>
      ((text.tail.takeWhile (· ≠ 61), read.1), read.2)
  else none

/-- The pairs up to the end, where there are at most so many. -/
def readPairs : ℕ → Bytes → Option (List (Bytes × Bytes))
  | 0, text => if text = [] then some [] else none
  | count + 1, text =>
      if text = [] then some []
      else (readPair text).bind fun read => (readPairs count read.2).map (read.1 :: ·)

/-- The head of a line and its pairs. -/
def readLine (line : Bytes) : Option (Bytes × List (Bytes × Bytes)) :=
  (readPairs line.length (line.dropWhile (· ≠ 32))).map fun pairs =>
    (line.takeWhile (· ≠ 32), pairs)

/-! ### What is read of a written value -/

/-- A text that ends a word. -/
def Ends (rest : Bytes) : Prop := rest.head?.all (· = 32)

variable {rest text value : Bytes} {c : UInt8}

theorem span_of_ends {stop : UInt8} (hvalue : stop ∉ value) (hrest : rest.head?.all (· = stop)) :
    (value ++ rest).takeWhile (· ≠ stop) = value ∧ (value ++ rest).dropWhile (· ≠ stop) = rest := by
  have hall : ∀ c ∈ value, decide (c ≠ stop) = true := fun c hc =>
    decide_eq_true fun heq => hvalue (heq ▸ hc)
  rw [List.takeWhile_append_of_pos hall, List.dropWhile_append_of_pos hall]
  cases rest with
  | nil => simp
  | cons c rest =>
      have hc : c = stop := by simpa using hrest
      simp [hc]

theorem readValue_bare (hquote : value.head? ≠ some 34) (hvalue : 32 ∉ value) (hne : value ≠ [])
    (hrest : Ends rest) : readValue (value ++ rest) = some (value, rest) := by
  have hhead : (value ++ rest).head? = value.head? := by
    cases value with
    | nil => exact absurd rfl hne
    | cons c value => rfl
  rw [readValue, hhead, if_neg hquote, (span_of_ends hvalue hrest).1,
    (span_of_ends hvalue hrest).2]

theorem readValue_quote (text : Bytes) : readValue (34 :: text) = readQuoted text := rfl

theorem readQuoted_quote (rest : Bytes) : readQuoted (34 :: rest) = some ([], rest) := by
  cases rest <;> rfl

theorem readQuoted_escape (e : UInt8) (text : Bytes) :
    readQuoted (92 :: e :: text)
      = (readQuoted text).map fun read => (unescape e :: read.1, read.2) := rfl

theorem readQuoted_plain (hquote : c ≠ 34) (hescape : c ≠ 92) (text : Bytes) :
    readQuoted (c :: text) = (readQuoted text).map fun read => (c :: read.1, read.2) := by
  cases text with
  | nil => simp [readQuoted, hquote]
  | cons e text => rw [readQuoted, if_neg hquote, if_neg hescape]

/-! ### What is read of a written line -/

theorem readPair_append {key : Bytes} (hkey : 61 ∉ key) (h : readValue text = some (value, rest)) :
    readPair (32 :: (key ++ 61 :: text)) = some ((key, value), rest) := by
  have hspan : (key ++ 61 :: text).takeWhile (· ≠ 61) = key ∧
      (key ++ 61 :: text).dropWhile (· ≠ 61) = 61 :: text := span_of_ends hkey rfl
  rw [readPair, if_pos List.head?_cons, List.tail_cons, hspan.1, hspan.2]
  simp only [List.cons_ne_nil, if_false, List.tail_cons, h, Option.map_some]

theorem readPairs_cons {count : ℕ} {pair : Bytes × Bytes} {pairs : List (Bytes × Bytes)}
    (hpair : readPair text = some (pair, rest)) (hpairs : readPairs count rest = some pairs) :
    readPairs (count + 1) text = some (pair :: pairs) := by
  have hne : text ≠ [] := by
    rintro rfl
    cases hpair
  rw [readPairs, if_neg hne, hpair, Option.bind_some, hpairs, Option.map_some]

/-- A bound on the number of pairs may be larger. -/
theorem readPairs_mono {count more : ℕ} (hle : count ≤ more) {pairs : List (Bytes × Bytes)}
    (h : readPairs count text = some pairs) : readPairs more text = some pairs := by
  induction count generalizing more text pairs with
  | zero =>
      by_cases hnil : text = []
      · cases more <;> simpa [readPairs, hnil] using h
      · simp [readPairs, hnil] at h
  | succ count ih =>
      obtain ⟨more, rfl⟩ : ∃ further, more = further + 1 := ⟨more - 1, by omega⟩
      by_cases hnil : text = []
      · simpa [readPairs, hnil] using h
      · rw [readPairs, if_neg hnil] at h ⊢
        obtain ⟨read, hread, hrest⟩ := Option.bind_eq_some_iff.mp h
        obtain ⟨later, hlater, rfl⟩ := Option.map_eq_some_iff.mp hrest
        rw [hread, Option.bind_some, ih (by omega) hlater, Option.map_some]

end ContextSnap.Logfmt
