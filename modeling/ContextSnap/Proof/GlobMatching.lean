import ContextSnap.Lib.Wildcard
import ContextSnap.Privacy.Glob
import Mathlib.Data.List.TakeWhile

/-!
# What the glob matcher accepts

The loop looks for a byte that fits before it looks for a star, and falls back to the last star
only. It accepts exactly what the pattern matches when a star in front of a `*` of the text takes
this one byte.
-/

namespace ContextSnap.Privacy

open Wildcard

/-- What a byte of a pattern stands for when it is not a star: any byte, or a byte up to case. -/
def globFits (p c : UInt8) : Bool := p = 63 || toLower p = toLower c

/-- The glob semantics: a star stands for any stretch of the text. -/
def matchesGlob : Bytes → Bytes → Bool := wild 42 globFits

/-- The same, but a star in front of a `*` of the text takes just this byte. -/
def matchesFitsFirst : Bytes → Bytes → Bool := wildFitsFirst 42 globFits

theorem globFits_star {c : UInt8} (h : globFits 42 c = true) : c = 42 := by
  have hlower : toLower c = 42 := by
    have hstar : toLower 42 = 42 := by decide
    simpa [globFits, hstar, eq_comm] using h
  unfold toLower at hlower
  split_ifs at hlower with hupper
  · have hnat := congrArg UInt8.toNat hlower
    rw [UInt8.toNat_add] at hnat
    have hbounds : 65 ≤ c.toNat ∧ c.toNat ≤ 90 := hupper
    simp at hnat
    omega
  · exact hlower

theorem globFits_self (p : UInt8) : globFits p p = true := by simp [globFits]

theorem globFits_question (c : UInt8) : globFits 63 c = true := rfl

/-! ### One round -/

section Loop

variable {s s' : GlobState}

/-- A round that goes round again. -/
inductive GlobMove (s : GlobState) : GlobState → Prop where
  | fits (p c : UInt8) (pattern text : Bytes) (hpattern : s.pattern = p :: pattern)
      (htext : s.text = c :: text) (hfits : globFits p c = true) :
      GlobMove s { s with pattern, text }
  | star (c : UInt8) (pattern text : Bytes) (hpattern : s.pattern = 42 :: pattern)
      (htext : s.text = c :: text) (hfits : globFits 42 c = false) :
      GlobMove s { s with pattern, retry := some (pattern, s.text) }
  | retry (behind taken : Bytes) (htext : s.text ≠ [])
      (hstuck : matchesFitsFirst s.pattern s.text = false)
      (hretry : s.retry = some (behind, taken)) :
      GlobMove s { pattern := behind, text := taken.tail, retry := some (behind, taken.tail) }

/-- A round that leaves the loop. -/
inductive GlobEnd (s : GlobState) : Bool → Prop where
  | text (htext : s.text = []) : GlobEnd s (s.pattern.dropWhile (· = 42) = [])
  | stuck (htext : s.text ≠ []) (hstuck : matchesFitsFirst s.pattern s.text = false)
      (hretry : s.retry = none) : GlobEnd s false

theorem stuck_of_misfit {pattern text : Bytes} {c : UInt8}
    (hfits : (pattern.head?.any fun p => p = 63 || toLower p = toLower c) = false)
    (hstar : pattern.head? ≠ some 42) : matchesFitsFirst pattern (c :: text) = false := by
  cases pattern with
  | nil => rfl
  | cons p pattern =>
      have hne : p ≠ 42 := by simpa using hstar
      exact wildFitsFirst_of_misfit (by simpa [globFits] using hfits) hne

theorem globRound_cases (s : GlobState) :
    (∃ s', globRound s = .ok (.inl s') ∧ GlobMove s s')
      ∨ ∃ b, globRound s = .ok (.inr b) ∧ GlobEnd s b := by
  obtain ⟨pattern, text, retry⟩ := s
  cases text with
  | nil => exact .inr ⟨_, rfl, .text rfl⟩
  | cons c text =>
      rw [globRound]
      dsimp only
      by_cases hfits : (pattern.head?.any fun p => p = 63 || toLower p = toLower c) = true
      · rw [if_pos hfits]
        cases pattern with
        | nil => cases hfits
        | cons p pattern =>
            exact .inl ⟨_, rfl, .fits p c pattern text rfl rfl (by simpa [globFits] using hfits)⟩
      · rw [if_neg hfits]
        by_cases hstar : pattern.head? = some 42
        · rw [if_pos hstar]
          cases pattern with
          | nil => cases hstar
          | cons p pattern =>
              obtain rfl : p = 42 := by simpa using hstar
              exact .inl ⟨_, rfl, .star c pattern text rfl rfl (by simpa [globFits] using hfits)⟩
        · rw [if_neg hstar]
          have hstuck : matchesFitsFirst pattern (c :: text) = false :=
            stuck_of_misfit (by simpa using hfits) hstar
          cases retry with
          | none => exact .inr ⟨_, rfl, .stuck (by simp) hstuck rfl⟩
          | some retry => exact .inl ⟨_, rfl, .retry retry.1 retry.2 (by simp) hstuck rfl⟩

/-! ### The whole loop -/

/-- What is still to be tried from the last star on. -/
def GlobState.fallback (s : GlobState) : Bool :=
  s.retry.any fun retry => retry.2.tail.tails.any (matchesFitsFirst retry.1)

/-- What the loop is going to say. -/
def GlobState.answer (s : GlobState) : Bool := matchesFitsFirst s.pattern s.text || s.fallback

/-- Pattern and text have moved on byte by byte since the last star. -/
def Aligned (s : GlobState) : Prop :=
  ∀ behind taken, s.retry = some (behind, taken) →
    ∃ u v, behind = u ++ s.pattern ∧ taken = v ++ s.text
      ∧ List.Forall₂ (fun p c => globFits p c = true) u v

theorem fallback_iff : s.fallback = true
    ↔ ∃ behind taken, s.retry = some (behind, taken)
      ∧ ∃ rest, rest <:+ taken.tail ∧ matchesFitsFirst behind rest = true := by
  rw [GlobState.fallback, Option.any_eq_true]
  simp only [Prod.exists, any_tails_iff]

theorem answer_iff : s.answer = true
    ↔ matchesFitsFirst s.pattern s.text = true ∨ s.fallback = true := Bool.or_eq_true_iff

/-- Whatever the last star could still lead to lies behind where the text stands. -/
theorem exists_suffix_of_fallback (haligned : Aligned s) (h : s.fallback = true) :
    ∃ rest, rest <:+ s.text ∧ matchesFitsFirst s.pattern rest = true := by
  obtain ⟨behind, taken, hretry, rest, hsuffix, hm⟩ := fallback_iff.mp h
  obtain ⟨u, v, rfl, rfl, huv⟩ := haligned behind taken hretry
  exact exists_suffix_of_aligned huv (suffix_iff_eq_or_tail.mpr (.inr hsuffix)) hm

theorem GlobMove.aligned (hmove : GlobMove s s') (haligned : Aligned s) : Aligned s' := by
  cases hmove with
  | fits p c pattern text hpattern htext hfits =>
      intro behind taken hretry
      obtain ⟨u, v, rfl, rfl, huv⟩ := haligned behind taken hretry
      refine ⟨u ++ [p], v ++ [c], ?_, ?_, ?_⟩
      · rw [hpattern, List.append_assoc]
        rfl
      · rw [htext, List.append_assoc]
        rfl
      · exact List.rel_append huv (.cons hfits .nil)
  | star c pattern text hpattern htext hfits =>
      intro behind taken hretry
      obtain ⟨rfl, rfl⟩ := Prod.mk.inj (Option.some.inj hretry)
      exact ⟨[], [], rfl, rfl, .nil⟩
  | retry behind taken htext hstuck hretry =>
      intro behind' taken' hretry'
      obtain ⟨rfl, rfl⟩ := Prod.mk.inj (Option.some.inj hretry')
      exact ⟨[], [], rfl, rfl, .nil⟩

/-- No round changes what the loop is going to say. -/
theorem GlobMove.answer_eq (hmove : GlobMove s s') (haligned : Aligned s) :
    s'.answer = s.answer := by
  rw [Bool.eq_iff_iff, answer_iff, answer_iff]
  cases hmove with
  | fits p c pattern text hpattern htext hfits =>
      have hm : matchesFitsFirst s.pattern s.text = matchesFitsFirst pattern text := by
        rw [hpattern, htext]
        exact wildFitsFirst_of_fits hfits
      rw [hm]
      rfl
  | star c pattern text hpattern htext hfits =>
      have hold : matchesFitsFirst s.pattern s.text = true
          ↔ ∃ rest, rest <:+ s.text ∧ matchesFitsFirst pattern rest = true := by
        rw [hpattern, htext]
        exact wildFitsFirst_star hfits
      have hnew : (GlobState.mk pattern s.text (some (pattern, s.text))).fallback = true
          ↔ ∃ rest, rest <:+ s.text.tail ∧ matchesFitsFirst pattern rest = true := by
        rw [fallback_iff]
        simp
      have hcommit : s.fallback = true →
          ∃ rest, rest <:+ s.text ∧ matchesFitsFirst pattern rest = true := by
        intro h
        obtain ⟨rest, hsuffix, hm⟩ := exists_suffix_of_fallback haligned h
        rw [hpattern] at hm
        obtain ⟨rest', hsuffix', hm'⟩ := exists_suffix_of_star hm
        exact ⟨rest', hsuffix'.trans hsuffix, hm'⟩
      rw [hold, hnew, or_iff_left_of_imp hcommit]
      simp only [@suffix_iff_eq_or_tail UInt8 s.text, or_and_right, exists_or, exists_eq_left]
  | retry behind taken htext hstuck hretry =>
      have hold : s.fallback = true
          ↔ ∃ rest, rest <:+ taken.tail ∧ matchesFitsFirst behind rest = true := by
        rw [fallback_iff, hretry]
        simp
      have hnew : (GlobState.mk behind taken.tail (some (behind, taken.tail))).fallback = true
          ↔ ∃ rest, rest <:+ taken.tail.tail ∧ matchesFitsFirst behind rest = true := by
        rw [fallback_iff]
        simp
      rw [hold, hnew, hstuck]
      simp only [@suffix_iff_eq_or_tail UInt8 taken.tail, or_and_right, exists_or,
        exists_eq_left, Bool.false_eq_true, false_or]

theorem dropWhile_star_iff (pattern : Bytes) :
    pattern.dropWhile (· = 42) = [] ↔ matchesFitsFirst pattern [] = true := by
  rw [matchesFitsFirst, wildFitsFirst_nil_iff, List.dropWhile_eq_nil_iff]
  simp

theorem GlobEnd.eq_answer {b : Bool} (hend : GlobEnd s b) (haligned : Aligned s) :
    b = s.answer := by
  rw [Bool.eq_iff_iff, answer_iff]
  cases hend with
  | text htext =>
      rw [decide_eq_true_eq, dropWhile_star_iff, htext]
      constructor
      · exact .inl
      · rintro (h | h)
        · exact h
        · obtain ⟨rest, hsuffix, hm⟩ := exists_suffix_of_fallback haligned h
          rw [htext] at hsuffix
          rwa [List.suffix_nil.mp hsuffix] at hm
  | stuck htext hstuck hretry =>
      rw [hstuck, GlobState.fallback, hretry]
      simp

/-! ### How long it takes -/

def Bounded (bound : Nat) (s : GlobState) : Prop :=
  s.pattern.length ≤ bound ∧ ∀ behind taken, s.retry = some (behind, taken) → behind.length ≤ bound

/-- How often a star can still move on, and for each time the length of a pattern. -/
def GlobState.weight (bound : Nat) (s : GlobState) : Nat :=
  s.retry.elim (s.text.length + 1) (fun retry => retry.2.length) * (bound + 1) + s.pattern.length

theorem GlobMove.bounded {bound : Nat} (hmove : GlobMove s s') (h : Bounded bound s) :
    Bounded bound s' := by
  obtain ⟨hlength, hretries⟩ := h
  cases hmove with
  | fits p c pattern text hpattern htext hfits =>
      rw [hpattern, List.length_cons] at hlength
      exact ⟨by simp only; omega, hretries⟩
  | star c pattern text hpattern htext hfits =>
      rw [hpattern, List.length_cons] at hlength
      refine ⟨by simp only; omega, ?_⟩
      intro behind taken hretry
      obtain ⟨rfl, -⟩ := Prod.mk.inj (Option.some.inj hretry)
      omega
  | retry behind taken htext hstuck hretry =>
      have hbehind := hretries behind taken hretry
      refine ⟨hbehind, ?_⟩
      intro behind' taken' hretry'
      obtain ⟨rfl, -⟩ := Prod.mk.inj (Option.some.inj hretry')
      exact hbehind

theorem Aligned.text_le (haligned : Aligned s) {behind taken : Bytes}
    (hretry : s.retry = some (behind, taken)) : s.text.length ≤ taken.length := by
  obtain ⟨u, v, -, rfl, -⟩ := haligned behind taken hretry
  rw [List.length_append]
  omega

theorem GlobMove.weight_lt {bound : Nat} (hmove : GlobMove s s') (haligned : Aligned s)
    (hbounded : Bounded bound s) : s'.weight bound < s.weight bound := by
  cases hmove with
  | fits p c pattern text hpattern htext hfits =>
      rw [GlobState.weight, GlobState.weight, hpattern, htext]
      cases hretry : s.retry with
      | none =>
          simp only [Option.elim_none, List.length_cons]
          nlinarith
      | some retry =>
          simp only [Option.elim_some, List.length_cons]
          omega
  | star c pattern text hpattern htext hfits =>
      rw [GlobState.weight, GlobState.weight, hpattern]
      cases hretry : s.retry with
      | none =>
          simp only [Option.elim_some, Option.elim_none, List.length_cons]
          nlinarith
      | some retry =>
          have hle : s.text.length ≤ retry.2.length := haligned.text_le hretry
          have hmul := Nat.mul_le_mul_right (bound + 1) hle
          simp only [Option.elim_some, List.length_cons]
          omega
  | retry behind taken htext hstuck hretry =>
      have hbehind : behind.length ≤ bound := hbounded.2 behind taken hretry
      have htaken : 0 < taken.length :=
        lt_of_lt_of_le (List.length_pos_iff.mpr htext) (haligned.text_le hretry)
      obtain ⟨k, hk⟩ : ∃ k, taken.length = k + 1 := ⟨taken.length - 1, by omega⟩
      rw [GlobState.weight, GlobState.weight, hretry]
      simp only [Option.elim_some, List.length_tail, hk, Nat.add_sub_cancel]
      nlinarith

/-- **The loop ends**, with what was expected of it. -/
theorem returns_answer {bound : Nat} (haligned : Aligned s) (hbounded : Bounded bound s) :
    Loop.Returns globRound (s.weight bound) s s.answer := by
  induction hweight : s.weight bound using Nat.strong_induction_on generalizing s with
  | _ weight ih =>
      rcases globRound_cases s with ⟨s', hround, hmove⟩ | ⟨b, hround, hend⟩
      · have hlt := hmove.weight_lt haligned hbounded
        have hrest := ih (s'.weight bound) (hweight ▸ hlt) (hmove.aligned haligned)
          (hmove.bounded hbounded) rfl
        rw [hmove.answer_eq haligned] at hrest
        exact (Loop.Returns.again hround hrest).mono (by omega)
      · rw [← hend.eq_answer haligned]
        exact Loop.Returns.done hround weight

end Loop

/-! ### Patterns and texts -/

/-- How many rounds the loop takes at most. -/
def globRounds (pattern text : Bytes) : Nat :=
  (text.length + 1) * (pattern.length + 1) + pattern.length

theorem returns_matchesFitsFirst (pattern text : Bytes) :
    Loop.Returns globRound (globRounds pattern text) { pattern, text }
      (matchesFitsFirst pattern text) := by
  have haligned : Aligned { pattern, text } := fun behind taken hretry => by cases hretry
  have hbounded : Bounded pattern.length { pattern, text } :=
    ⟨le_refl _, fun behind taken hretry => by cases hretry⟩
  have hanswer : (GlobState.mk pattern text none).answer = matchesFitsFirst pattern text := by
    simp [GlobState.answer, GlobState.fallback]
  rw [← hanswer]
  exact returns_answer haligned hbounded

/-- **What the matcher computes.** -/
theorem globMatch_eq (pattern text : Bytes) :
    globMatch pattern text = matchesFitsFirst pattern text := by
  rw [globMatch, returns_matchesFitsFirst pattern text () _ (by rw [globRounds]; omega)]
  rfl

theorem matchesGlob_of_globMatch {pattern text : Bytes} (h : globMatch pattern text = true) :
    matchesGlob pattern text = true := by
  rw [globMatch_eq] at h
  exact wild_of_wildFitsFirst h

/-- Where no star of the pattern can meet a `*` of the text, the matcher is right. -/
theorem globMatch_eq_matchesGlob {pattern text : Bytes} (h : 42 ∉ pattern ∨ 42 ∉ text) :
    globMatch pattern text = matchesGlob pattern text := by
  rw [Bool.eq_iff_iff]
  constructor
  · exact matchesGlob_of_globMatch
  · intro hm
    rw [globMatch_eq]
    exact wildFitsFirst_of_wild (fun c hc => globFits_star hc) h hm

/-- **Glob semantics.** The loop ends; it is right about a pattern and a text exactly if the pattern,
if it matches, also matches with each star in front of a `*` of the text taking just this byte. It
is right about a pattern and all texts exactly if the pattern has no star, and about a text and all
patterns exactly if the text has none. -/
theorem globMatch_correct_iff (pattern text : Bytes) :
    Loop.Returns globRound (globRounds pattern text) { pattern, text } (globMatch pattern text)
      ∧ (globMatch pattern text = matchesGlob pattern text
        ↔ (matchesGlob pattern text = true → matchesFitsFirst pattern text = true))
      ∧ ((∀ other, globMatch pattern other = matchesGlob pattern other) ↔ 42 ∉ pattern)
      ∧ ((∀ other, globMatch other text = matchesGlob other text) ↔ 42 ∉ text) := by
  refine ⟨?_, ?_, ?_, ?_⟩
  · rw [globMatch_eq]
    exact returns_matchesFitsFirst pattern text
  · rw [globMatch_eq, Bool.eq_iff_iff]
    constructor
    · exact fun h => h.mpr
    · exact fun h => ⟨wild_of_wildFitsFirst, h⟩
  · constructor
    · intro h hstar
      obtain ⟨text, hm, hmissed⟩ := exists_missed_text globFits_self hstar
      rw [← matchesFitsFirst, ← globMatch_eq, h text] at hmissed
      exact Bool.false_ne_true (hmissed.symm.trans hm)
    · exact fun h text => globMatch_eq_matchesGlob (.inl h)
  · constructor
    · intro h hstar
      obtain ⟨pattern, hm, hmissed⟩ :=
        exists_missing_pattern globFits_question (by decide) (globFits_self 42) hstar
      rw [← matchesFitsFirst, ← globMatch_eq, h pattern] at hmissed
      exact Bool.false_ne_true (hmissed.symm.trans hm)
    · exact fun h pattern => globMatch_eq_matchesGlob (.inr h)

/-- The star of the pattern is used up by the star of the text. -/
theorem not_globMatch_correct :
    ¬∀ pattern text : Bytes, globMatch pattern text = true ↔ matchesGlob pattern text = true := by
  intro h
  have hmatches : matchesGlob (str "*") (str "*a") = true := by decide
  have hmissed : globMatch (str "*") (str "*a") = false := by decide
  exact Bool.false_ne_true (hmissed.symm.trans ((h _ _).mpr hmatches))

end ContextSnap.Privacy
