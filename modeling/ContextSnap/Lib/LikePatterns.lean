import ContextSnap.Lib.Sql

/-!
# LIKE patterns

What a pattern matches, symbol by symbol. A character that is no wildcard splits the pattern, and
the text with it.
-/

namespace ContextSnap.Sql

variable {pattern more text : Bytes} {c : UInt8}

theorem like_nil_iff : like [] text = true ↔ text = [] := by
  rw [like]
  exact List.isEmpty_iff

theorem like_percent_iff :
    like (37 :: pattern) text = true
      ↔ ∃ skipped rest, text = skipped ++ rest ∧ like pattern rest = true := by
  rw [like, List.any_eq_true]
  simp only [List.mem_tails]
  constructor
  · rintro ⟨rest, ⟨skipped, rfl⟩, hrest⟩
    exact ⟨skipped, rest, rfl, hrest⟩
  · rintro ⟨skipped, rest, rfl, hrest⟩
    exact ⟨rest, List.suffix_append skipped rest, hrest⟩

theorem like_underscore_iff :
    like (95 :: pattern) text = true
      ↔ ∃ d rest, text = d :: rest ∧ like pattern (rest.dropWhile isContinuation) = true := by
  cases text with
  | nil => simp [like]
  | cons d rest => simp [like]

/-- What is left without the first elements of a kind is split by an element that is not of it. -/
theorem dropWhile_eq_append_cons_iff {α : Type} {p : α → Bool} {a : α} (ha : p a = false)
    {values front rest : List α} :
    values.dropWhile p = front ++ a :: rest
      ↔ ∃ before, values = before ++ a :: rest ∧ before.dropWhile p = front := by
  constructor
  · intro hdrop
    refine ⟨values.takeWhile p ++ front, ?_, ?_⟩
    · rw [List.append_assoc, ← hdrop, List.takeWhile_append_dropWhile]
    · rw [List.dropWhile_append_of_pos (List.all_eq_true.mp List.all_takeWhile)]
      cases front with
      | nil => rfl
      | cons b front =>
          have hb : p b = false := by
            have hhead := List.head?_dropWhile_not p values
            rw [hdrop] at hhead
            simpa using hhead
          exact List.dropWhile_cons_of_neg (by simp [hb])
  · rintro ⟨before, rfl, rfl⟩
    rw [List.dropWhile_append]
    split
    case isTrue hall =>
      rw [List.isEmpty_iff.mp hall, List.nil_append]
      exact List.dropWhile_cons_of_neg (by simp [ha])
    case isFalse => rfl

section Ordinary

variable (hpercent : c ≠ 37) (hunderscore : c ≠ 95)

include hpercent hunderscore

theorem like_cons_iff :
    like (c :: pattern) text = true
      ↔ ∃ d rest, text = d :: rest ∧ toLower c = toLower d ∧ like pattern rest = true := by
  cases text with
  | nil =>
      rw [like]
      · simp
      · exact hpercent
      · exact hunderscore
  | cons d rest =>
      rw [like]
      · simp
      · exact hpercent
      · exact hunderscore

/-- A character that only matches itself, and does not continue another one, stands between what the
two halves of the pattern match. -/
theorem like_append_cons_iff (hcase : ∀ d, toLower c = toLower d → d = c)
    (hstart : isContinuation c = false) :
    like (pattern ++ c :: more) text = true
      ↔ ∃ front rest, text = front ++ c :: rest ∧ like pattern front = true
        ∧ like more rest = true := by
  induction pattern generalizing text with
  | nil =>
      rw [List.nil_append, like_cons_iff hpercent hunderscore]
      constructor
      · rintro ⟨d, rest, rfl, hlower, hmore⟩
        rw [hcase d hlower]
        exact ⟨[], rest, rfl, rfl, hmore⟩
      · rintro ⟨front, rest, rfl, hfront, hmore⟩
        rw [like_nil_iff.mp hfront]
        exact ⟨c, rest, rfl, rfl, hmore⟩
  | cons a pattern ih =>
      rw [List.cons_append]
      by_cases ha : a = 37
      · subst ha
        simp only [like_percent_iff, ih]
        constructor
        · rintro ⟨skipped, -, rfl, front, rest, rfl, hfront, hmore⟩
          exact ⟨skipped ++ front, rest, by simp, ⟨skipped, front, rfl, hfront⟩, hmore⟩
        · rintro ⟨-, rest, rfl, ⟨skipped, front, rfl, hfront⟩, hmore⟩
          exact ⟨skipped, front ++ c :: rest, by simp, front, rest, rfl, hfront, hmore⟩
      by_cases ha' : a = 95
      · subst ha'
        simp only [like_underscore_iff, ih, dropWhile_eq_append_cons_iff hstart]
        constructor
        · rintro ⟨d, -, rfl, -, rest, ⟨before, rfl, rfl⟩, hfront, hmore⟩
          exact ⟨d :: before, rest, rfl, ⟨d, before, rfl, hfront⟩, hmore⟩
        · rintro ⟨-, rest, rfl, ⟨d, before, rfl, hfront⟩, hmore⟩
          exact ⟨d, before ++ c :: rest, rfl, _, rest, ⟨before, rfl, rfl⟩, hfront, hmore⟩
      simp only [like_cons_iff ha ha', ih]
      constructor
      · rintro ⟨d, -, rfl, hlower, front, rest, rfl, hfront, hmore⟩
        exact ⟨d :: front, rest, rfl, ⟨d, front, rfl, hlower, hfront⟩, hmore⟩
      · rintro ⟨-, rest, rfl, ⟨d, front, rfl, hlower, hfront⟩, hmore⟩
        exact ⟨d, front ++ c :: rest, rfl, hlower, front, rest, rfl, hfront, hmore⟩

end Ordinary

/-- Without wildcards a pattern matches what it is but for the case of letters. -/
theorem like_iff_lower_eq (h : ∀ c ∈ pattern, c ≠ 37 ∧ c ≠ 95) :
    like pattern text = true ↔ lower pattern = lower text := by
  induction pattern generalizing text with
  | nil =>
      rw [like_nil_iff]
      simp [lower, eq_comm]
  | cons c pattern ih =>
      obtain ⟨⟨hpercent, hunderscore⟩, hrest⟩ := List.forall_mem_cons.mp h
      simp only [like_cons_iff hpercent hunderscore, ih hrest]
      cases text with
      | nil => simp [lower]
      | cons d text => simp [lower]

end ContextSnap.Sql
