import Mathlib.Tactic

/-!
# Quoted literals

A literal stands between two marks, and a mark inside it is written twice. What is between two marks
of a longer text may be a literal or what happens to lie between two of them.
-/

namespace ContextSnap.Quotation

variable {α : Type} [DecidableEq α] (mark : α)

/-! ### Literals -/

/-- A content with its marks written twice. -/
def doubled : List α → List α
  | [] => []
  | a :: content => if a = mark then mark :: mark :: doubled content else a :: doubled content

/-- The literal of a content. -/
def literal (content : List α) : List α := mark :: (doubled mark content ++ [mark])

/-- What is behind an opening mark: the content up to the mark that ends it, and what follows. -/
def readContent : List α → Option (List α × List α)
  | [] => none
  | [a] => if a = mark then some ([], []) else none
  | a :: b :: text =>
      if a ≠ mark then (readContent (b :: text)).map fun read => (a :: read.1, read.2)
      else if b = mark then (readContent text).map fun read => (mark :: read.1, read.2)
      else some ([], b :: text)

/-- The content of the literal that a text starts with, and what follows it. -/
def readLiteral : List α → Option (List α × List α)
  | [] => none
  | a :: text => if a = mark then readContent mark text else none

variable {mark} {content rest text stretch : List α} {a b : α}

theorem readContent_of_ne (h : a ≠ mark) :
    readContent mark (a :: text)
      = (readContent mark text).map fun read => (a :: read.1, read.2) := by
  cases text with
  | nil => simp [readContent, h]
  | cons b text => rw [readContent, if_pos h]

theorem readContent_mark_mark :
    readContent mark (mark :: mark :: text)
      = (readContent mark text).map fun read => (mark :: read.1, read.2) := by
  rw [readContent, if_neg (not_not.mpr rfl), if_pos rfl]

theorem readContent_mark (h : rest.head? ≠ some mark) :
    readContent mark (mark :: rest) = some ([], rest) := by
  cases rest with
  | nil => simp [readContent]
  | cons b rest =>
      have hb : b ≠ mark := fun heq => h (by rw [heq]; rfl)
      rw [readContent, if_neg (not_not.mpr rfl), if_neg hb]

theorem doubled_of_ne (h : a ≠ mark) : doubled mark (a :: content) = a :: doubled mark content :=
  if_neg h

theorem doubled_mark : doubled mark (mark :: content) = mark :: mark :: doubled mark content :=
  if_pos rfl

/-- A written content is read back. -/
theorem readContent_doubled (content : List α) (h : rest.head? ≠ some mark) :
    readContent mark (doubled mark content ++ mark :: rest) = some (content, rest) := by
  induction content with
  | nil => exact readContent_mark h
  | cons a content ih =>
      by_cases ha : a = mark
      · subst ha
        rw [doubled_mark, List.cons_append, List.cons_append, readContent_mark_mark, ih]
        rfl
      · rw [doubled_of_ne ha, List.cons_append, readContent_of_ne ha, ih]
        rfl

/-- What is read as a content was written as one. -/
theorem eq_of_readContent (text : List α) {content rest : List α}
    (h : readContent mark text = some (content, rest)) :
    text = doubled mark content ++ mark :: rest ∧ rest.head? ≠ some mark := by
  induction text using readContent.induct mark generalizing content rest with
  | case1 => cases h
  | case2 =>
      rw [readContent, if_pos rfl] at h
      cases h
      exact ⟨rfl, by simp⟩
  | case3 a hne =>
      rw [readContent, if_neg hne] at h
      cases h
  | case4 a b text hne ih =>
      rw [readContent, if_pos hne] at h
      obtain ⟨⟨content', rest'⟩, hread, heq⟩ := Option.map_eq_some_iff.mp h
      cases heq
      obtain ⟨htext, hrest⟩ := ih hread
      exact ⟨by rw [doubled_of_ne hne, List.cons_append, ← htext], hrest⟩
  | case5 a text hmark ih =>
      obtain rfl := not_not.mp hmark
      rw [readContent_mark_mark] at h
      obtain ⟨⟨content', rest'⟩, hread, heq⟩ := Option.map_eq_some_iff.mp h
      cases heq
      obtain ⟨htext, hrest⟩ := ih hread
      exact ⟨by rw [doubled_mark, List.cons_append, List.cons_append, ← htext], hrest⟩
  | case6 a b text hmark hb =>
      obtain rfl := not_not.mp hmark
      rw [readContent, if_neg hmark, if_neg hb] at h
      cases h
      exact ⟨rfl, fun heq => hb (Option.some.inj heq)⟩

/-- A text starts with a literal exactly if the literal is there and no mark follows it. -/
theorem readLiteral_eq_some_iff :
    readLiteral mark text = some (content, rest)
      ↔ text = literal mark content ++ rest ∧ rest.head? ≠ some mark := by
  constructor
  · intro h
    cases text with
    | nil => cases h
    | cons a text =>
        rw [readLiteral] at h
        split at h
        case isTrue ha =>
          obtain ⟨htext, hrest⟩ := eq_of_readContent text h
          exact ⟨by simp [literal, ha, htext], hrest⟩
        case isFalse => cases h
  · rintro ⟨rfl, hrest⟩
    have hread := readContent_doubled content hrest
    simpa [readLiteral, literal] using hread

/-! ### Marks in a content -/

theorem length_le_doubled (content : List α) : content.length ≤ (doubled mark content).length := by
  induction content with
  | nil => exact Nat.le_refl _
  | cons a content ih =>
      rw [doubled]
      split <;> simp only [List.length_cons] <;> omega

/-- Without marks nothing is written twice. -/
theorem doubled_of_notMem (h : mark ∉ content) : doubled mark content = content := by
  induction content with
  | nil => rfl
  | cons a content ih =>
      have hparts := List.ne_and_not_mem_of_not_mem_cons h
      rw [doubled_of_ne (Ne.symm hparts.1), ih hparts.2]

theorem length_lt_doubled (h : mark ∈ content) :
    content.length < (doubled mark content).length := by
  induction content with
  | nil => cases h
  | cons a content ih =>
      have hle : content.length ≤ (doubled mark content).length := length_le_doubled content
      by_cases ha : a = mark
      · rw [ha, doubled_mark]
        simp only [List.length_cons]
        omega
      · have hlt := ih ((List.mem_cons.mp h).resolve_left (Ne.symm ha))
        rw [doubled_of_ne ha]
        simp only [List.length_cons]
        omega

theorem doubled_eq_self_iff : doubled mark content = content ↔ mark ∉ content := by
  constructor
  · intro heq hmem
    have hlt := length_lt_doubled hmem
    rw [heq] at hlt
    exact Nat.lt_irrefl _ hlt
  · exact doubled_of_notMem

/-! ### Between two marks -/

variable (mark) in
omit [DecidableEq α] in
/-- A stretch of a text from one mark to another. -/
def Encloses (text stretch : List α) : Prop :=
  ∃ before after, text = before ++ mark :: (stretch ++ mark :: after)

omit [DecidableEq α] in
theorem append_mark_inj {s t u v : List α} (hs : mark ∉ s) (ht : mark ∉ t) :
    s ++ mark :: u = t ++ mark :: v ↔ s = t ∧ u = v := by
  constructor
  · intro h
    induction s generalizing t with
    | nil =>
        cases t with
        | nil => exact ⟨rfl, (List.cons.inj h).2⟩
        | cons b t => exact absurd (List.cons.inj h).1 (List.ne_of_not_mem_cons ht)
    | cons a s ih =>
        cases t with
        | nil => exact absurd (List.cons.inj h).1.symm (List.ne_of_not_mem_cons hs)
        | cons b t =>
            obtain ⟨rfl, htail⟩ := List.cons.inj h
            obtain ⟨rfl, hrest⟩ :=
              ih (List.not_mem_of_not_mem_cons hs) (List.not_mem_of_not_mem_cons ht) htail
            exact ⟨rfl, hrest⟩
  · rintro ⟨rfl, rfl⟩
    rfl

omit [DecidableEq α] in
theorem not_encloses_of_notMem (h : mark ∉ text) : ¬ Encloses mark text stretch := by
  rintro ⟨before, after, rfl⟩
  simp at h

omit [DecidableEq α] in
/-- A stretch starts at the first mark or behind it. -/
theorem encloses_append_iff {front : List α} (hfront : mark ∉ front) :
    Encloses mark (front ++ mark :: rest) stretch
      ↔ (∃ after, rest = stretch ++ mark :: after) ∨ Encloses mark rest stretch := by
  constructor
  · rintro ⟨before, after, heq⟩
    by_cases hbefore : mark ∈ before
    · obtain ⟨first, more, rfl, hfirst⟩ := List.eq_append_cons_of_mem hbefore
      rw [List.append_assoc, List.cons_append, append_mark_inj hfront hfirst] at heq
      exact .inr ⟨more, after, heq.2⟩
    · rw [append_mark_inj hfront hbefore] at heq
      exact .inl ⟨after, heq.2⟩
  · rintro (⟨after, rfl⟩ | ⟨before, after, rfl⟩)
    · exact ⟨front, after, rfl⟩
    · exact ⟨front ++ mark :: before, after, by simp⟩

end ContextSnap.Quotation
