import Mathlib.Tactic

/-!
# Wildcard patterns

A pattern is a list of symbols that each take one symbol of the text, and of stars that each take
any stretch of it. A matcher that tries whether a symbol fits before it looks for a star treats a
star of the pattern in front of a star of the text as a symbol. What it then accepts is a part of
what the pattern stands for, and all of it only where stars cannot meet.
-/

namespace ContextSnap.Wildcard

variable {α : Type} [DecidableEq α] (star : α) (fits : α → α → Bool)

/-- What a pattern stands for. -/
def wild : List α → List α → Bool
  | [], text => text.isEmpty
  | a :: pattern, text =>
      if a = star then text.tails.any (wild pattern)
      else text.head?.any (fits a) && wild pattern text.tail

/-- A pattern where a symbol that fits, be it a star, always takes just what it fits. -/
def wildFitsFirst : List α → List α → Bool
  | [], text => text.isEmpty
  | a :: pattern, [] => decide (a = star) && wildFitsFirst pattern []
  | a :: pattern, c :: rest =>
      if fits a c then wildFitsFirst pattern rest
      else decide (a = star) && (c :: rest).tails.any (wildFitsFirst pattern)

variable {star fits} {pattern text u v q : List α} {a c : α}

omit [DecidableEq α] in
theorem any_tails_iff {p : List α → Bool} :
    text.tails.any p = true ↔ ∃ rest, rest <:+ text ∧ p rest = true := by
  simp [List.any_eq_true, List.mem_tails]

theorem wild_star :
    wild star fits (star :: pattern) text = true
      ↔ ∃ rest, rest <:+ text ∧ wild star fits pattern rest = true := by
  rw [wild, if_pos rfl, any_tails_iff]

theorem wild_of_ne (h : a ≠ star) :
    wild star fits (a :: pattern) text = true
      ↔ ∃ c rest, text = c :: rest ∧ fits a c = true ∧ wild star fits pattern rest = true := by
  rw [wild, if_neg h]
  cases text with
  | nil => simp
  | cons c rest => simp

theorem wildFitsFirst_of_fits (h : fits a c = true) :
    wildFitsFirst star fits (a :: pattern) (c :: text) = wildFitsFirst star fits pattern text := by
  rw [wildFitsFirst, if_pos h]

/-- A star in front of what it does not fit takes any stretch. -/
theorem wildFitsFirst_star (h : fits star c = false) :
    wildFitsFirst star fits (star :: pattern) (c :: text) = true
      ↔ ∃ rest, rest <:+ c :: text ∧ wildFitsFirst star fits pattern rest = true := by
  rw [wildFitsFirst, if_neg (by simp [h]), ← any_tails_iff]
  simp

theorem wildFitsFirst_of_misfit (h : fits a c = false) (hne : a ≠ star) :
    wildFitsFirst star fits (a :: pattern) (c :: text) = false := by
  rw [wildFitsFirst, if_neg (by simp [h])]
  simp [hne]

theorem wildFitsFirst_nil_iff :
    wildFitsFirst star fits pattern [] = true ↔ ∀ a ∈ pattern, a = star := by
  induction pattern with
  | nil => simp [wildFitsFirst]
  | cons a pattern ih => simp [wildFitsFirst, ih]

/-- **Soundness.** Whatever is accepted is what the pattern stands for. -/
theorem wild_of_wildFitsFirst (h : wildFitsFirst star fits pattern text = true) :
    wild star fits pattern text = true := by
  induction pattern generalizing text with
  | nil => simpa [wildFitsFirst, wild] using h
  | cons a pattern ih =>
      by_cases hstar : a = star
      · subst hstar
        rw [wild_star]
        cases text with
        | nil =>
            rw [wildFitsFirst] at h
            exact ⟨[], List.suffix_refl _, ih (by simpa using h)⟩
        | cons c rest =>
            cases hfits : fits a c with
            | true =>
                rw [wildFitsFirst_of_fits hfits] at h
                exact ⟨rest, List.suffix_cons c rest, ih h⟩
            | false =>
                obtain ⟨rest', hsuffix, hrest⟩ := (wildFitsFirst_star hfits).mp h
                exact ⟨rest', hsuffix, ih hrest⟩
      · rw [wild_of_ne hstar]
        cases text with
        | nil => simp [wildFitsFirst, hstar] at h
        | cons c rest =>
            cases hfits : fits a c with
            | true =>
                rw [wildFitsFirst_of_fits hfits] at h
                exact ⟨c, rest, rfl, hfits, ih h⟩
            | false =>
                rw [wildFitsFirst_of_misfit hfits hstar] at h
                cases h

/-- **Completeness.** Where no star of the pattern can meet a star of the text, nothing is missed. -/
theorem wildFitsFirst_of_wild (hfits : ∀ c, fits star c = true → c = star)
    (hfree : star ∉ pattern ∨ star ∉ text) (h : wild star fits pattern text = true) :
    wildFitsFirst star fits pattern text = true := by
  induction pattern generalizing text with
  | nil => simpa [wildFitsFirst, wild] using h
  | cons a pattern ih =>
      have hrest : ∀ rest, rest <:+ text → star ∉ pattern ∨ star ∉ rest := by
        intro rest hsuffix
        rcases hfree with hpattern | htext
        · exact .inl fun hmem => hpattern (List.mem_cons_of_mem _ hmem)
        · exact .inr fun hmem => htext (hsuffix.subset hmem)
      by_cases hstar : a = star
      · subst hstar
        have htext : a ∉ text := hfree.resolve_left fun hnot => hnot List.mem_cons_self
        obtain ⟨rest, hsuffix, hm⟩ := wild_star.mp h
        have hfound := ih (hrest rest hsuffix) hm
        cases text with
        | nil =>
            rw [List.suffix_nil.mp hsuffix] at hfound
            simpa [wildFitsFirst] using hfound
        | cons c text =>
            have hmisfit : fits a c = false := by
              by_contra hc
              exact htext (hfits c (by simpa using hc) ▸ List.mem_cons_self)
            exact (wildFitsFirst_star hmisfit).mpr ⟨rest, hsuffix, hfound⟩
      · obtain ⟨c, rest, rfl, hc, hm⟩ := (wild_of_ne hstar).mp h
        rw [wildFitsFirst_of_fits hc]
        exact ih (hrest rest (List.suffix_cons c rest)) hm

/-! ### Why the last star is enough -/

/-- Whatever a star takes, the rest of the pattern takes the rest of the text. -/
theorem exists_suffix_of_star (h : wildFitsFirst star fits (star :: pattern) text = true) :
    ∃ rest, rest <:+ text ∧ wildFitsFirst star fits pattern rest = true := by
  cases text with
  | nil =>
      rw [wildFitsFirst] at h
      exact ⟨[], List.suffix_refl _, (Bool.and_eq_true_iff.mp h).2⟩
  | cons c text =>
      cases hfits : fits star c with
      | true =>
          rw [wildFitsFirst_of_fits hfits] at h
          exact ⟨text, List.suffix_cons c text, h⟩
      | false => exact (wildFitsFirst_star hfits).mp h

omit [DecidableEq α] in
theorem suffix_iff_eq_or_tail {rest : List α} : rest <:+ text ↔ rest = text ∨ rest <:+ text.tail := by
  cases text with
  | nil => simp
  | cons c text => exact List.suffix_cons_iff

/-- What stands behind a part of the pattern that has already taken a stretch of the text symbol by
symbol never has to begin earlier. -/
theorem exists_suffix_of_aligned (h : List.Forall₂ (fun a c => fits a c = true) u v)
    {text' : List α} (hsuffix : text' <:+ v ++ text)
    (hm : wildFitsFirst star fits (u ++ q) text' = true) :
    ∃ rest, rest <:+ text ∧ wildFitsFirst star fits q rest = true := by
  induction h generalizing text' with
  | nil => exact ⟨text', hsuffix, hm⟩
  | @cons a c u v hac h ih =>
      rcases List.suffix_cons_iff.mp hsuffix with rfl | hsuffix
      · rw [List.cons_append, wildFitsFirst_of_fits hac] at hm
        exact ih (List.suffix_refl _) hm
      · cases text' with
        | nil =>
            rw [List.cons_append, wildFitsFirst] at hm
            exact ih hsuffix (by simpa using (Bool.and_eq_true_iff.mp hm).2)
        | cons d rest =>
            rw [List.cons_append, wildFitsFirst] at hm
            by_cases hfits : fits a d = true
            · rw [if_pos hfits] at hm
              exact ih ((List.suffix_cons d rest).trans hsuffix) hm
            · rw [if_neg hfits] at hm
              obtain ⟨rest', hrest, hm'⟩ := any_tails_iff.mp (Bool.and_eq_true_iff.mp hm).2
              exact ih (hrest.trans hsuffix) hm'

/-! ### What is missed -/

section Missed

theorem wild_append (huv : List.Forall₂ (fun a c => fits a c = true) u v)
    (h : wild star fits pattern text = true) :
    wild star fits (u ++ pattern) (v ++ text) = true := by
  induction huv with
  | nil => exact h
  | @cons a c u v hac huv ih =>
      rw [List.cons_append, List.cons_append]
      by_cases hstar : a = star
      · subst hstar
        exact wild_star.mpr ⟨v ++ text, List.suffix_cons c _, ih⟩
      · exact (wild_of_ne hstar).mpr ⟨c, _, rfl, hac, ih⟩

theorem wildFitsFirst_append (huv : List.Forall₂ (fun a c => fits a c = true) u v) :
    wildFitsFirst star fits (u ++ pattern) (v ++ text) = wildFitsFirst star fits pattern text := by
  induction huv with
  | nil => rfl
  | cons hac huv ih =>
      rw [List.cons_append, List.cons_append, wildFitsFirst_of_fits hac]
      exact ih

omit [DecidableEq α] in
theorem forall₂_self (hfits : ∀ a, fits a a = true) (u : List α) :
    List.Forall₂ (fun a c => fits a c = true) u u :=
  List.forall₂_same.mpr fun a _ => hfits a

omit [DecidableEq α] in
theorem forall₂_replicate {any : α} (hany : ∀ c, fits any c = true) (v : List α) :
    List.Forall₂ (fun a c => fits a c = true) (List.replicate v.length any) v := by
  induction v with
  | nil => exact .nil
  | cons c v ih => exact .cons (hany c) ih

/-- Every pattern with a star misses some text: one that repeats the pattern and goes on. -/
theorem exists_missed_text (hfits : ∀ a, fits a a = true) (hstar : star ∈ pattern) :
    ∃ text, wild star fits pattern text = true ∧ wildFitsFirst star fits pattern text = false := by
  obtain ⟨u, w, rfl⟩ := List.append_of_mem hstar
  have hmissed : ∀ more, more ≠ [] →
      wildFitsFirst star fits (u ++ star :: w) ((u ++ star :: w) ++ more) = false := by
    intro more hmore
    have hrepeat : wildFitsFirst star fits ((u ++ star :: w) ++ []) ((u ++ star :: w) ++ more)
        = wildFitsFirst star fits [] more :=
      wildFitsFirst_append (forall₂_self hfits (u ++ star :: w))
    rw [List.append_nil] at hrepeat
    rw [hrepeat]
    simpa [wildFitsFirst] using hmore
  cases w with
  | nil =>
      refine ⟨(u ++ [star]) ++ [star], ?_, hmissed [star] (by simp)⟩
      rw [List.append_assoc]
      apply wild_append (forall₂_self hfits u)
      exact wild_star.mpr ⟨[], List.nil_suffix, rfl⟩
  | cons a w =>
      refine ⟨(u ++ star :: a :: w) ++ a :: w, ?_, hmissed (a :: w) (by simp)⟩
      rw [List.append_assoc]
      apply wild_append (forall₂_self hfits u)
      refine wild_star.mpr ⟨a :: w, List.suffix_append (star :: a :: w) (a :: w), ?_⟩
      have hself := wild_append (forall₂_self hfits (a :: w))
        (show wild star fits [] [] = true from rfl)
      simpa using hself

/-- Every text with a star is missed by some pattern: one whose star has nothing left to take. -/
theorem exists_missing_pattern {any : α} (hany : ∀ c, fits any c = true) (hne : any ≠ star)
    (hfits : fits star star = true) (hstar : star ∈ text) :
    ∃ pattern, wild star fits pattern text = true
      ∧ wildFitsFirst star fits pattern text = false := by
  obtain ⟨v, z, rfl⟩ := List.append_of_mem hstar
  refine ⟨List.replicate v.length any ++ star :: List.replicate (z.length + 1) any, ?_, ?_⟩
  · apply wild_append (forall₂_replicate hany v)
    refine wild_star.mpr ⟨star :: z, List.suffix_refl _, ?_⟩
    have hall := wild_append (forall₂_replicate hany (star :: z))
      (show wild star fits [] [] = true from rfl)
    simpa using hall
  · rw [wildFitsFirst_append (forall₂_replicate hany v), wildFitsFirst_of_fits hfits,
      List.replicate_succ']
    have hlast : wildFitsFirst star fits (List.replicate z.length any ++ [any]) (z ++ [])
        = wildFitsFirst star fits [any] [] :=
      wildFitsFirst_append (forall₂_replicate hany z)
    rw [List.append_nil] at hlast
    rw [hlast]
    simp [wildFitsFirst, hne]

end Missed

end ContextSnap.Wildcard
