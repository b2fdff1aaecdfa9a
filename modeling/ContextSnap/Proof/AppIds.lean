import ContextSnap.Core.Matching

/-!
# Application ids

`normalize_app_id` counts the dots of an id while a packaging suffix is still on it. An id without
a dot is the same with and without a suffix. With a dot in the id, the suffix is the second one, so
it is taken for the last component of a reverse-DNS id and is all that is left.
-/

namespace ContextSnap.Matching

/-! ### Dots and slashes -/

section Marks

variable {text front word : Bytes} {d : UInt8}

theorem mem_lower_iff (hd : d < 65) : d ∈ lower text ↔ d ∈ text := by
  have hletter : d < 97 := UInt8.lt_trans hd (by decide)
  refine ⟨mem_of_mem_lower (.inl hletter), fun h => ?_⟩
  have hfixed : toLower d = d := if_neg fun hupper => absurd hupper.1 (UInt8.not_le.mpr hd)
  exact hfixed ▸ List.mem_map_of_mem h

theorem any_isSlash_lower (h : ∀ c ∈ text, isSlash c = false) :
    (lower text).any isSlash = false := by
  rw [List.any_eq_false]
  intro c hc hslash
  have hmark : c < 97 := by
    rcases Bool.or_eq_true_iff.mp hslash with hmark | hmark <;>
      rw [of_decide_eq_true hmark] <;> decide
  have hsame := h c (mem_of_mem_lower (.inl hmark) hc)
  exact absurd (hsame.symm.trans hslash) Bool.false_ne_true

theorem afterLast_append (h : 46 ∉ word) :
    afterLast (· = 46) (front ++ 46 :: word) = word := by
  have hreverse : (front ++ 46 :: word).reverse = word.reverse ++ 46 :: front.reverse := by simp
  have hword : ∀ c ∈ word.reverse, (!decide (c = 46)) = true := by
    intro c hc
    have hne : c ≠ 46 := fun heq => h (heq ▸ List.mem_reverse.mp hc)
    simp [hne]
  rw [afterLast, hreverse, List.takeWhile_append_of_pos hword]
  simp

end Marks

/-! ### Suffixes -/

section Suffixes

variable {text suffix other : Bytes}

/-- A packaging suffix is a dot and a word in lower case. -/
theorem packagingSuffix_eq (h : suffix ∈ packagingSuffixes) :
    ∃ word, suffix = 46 :: word ∧ 46 ∉ word ∧ lower suffix = suffix
      ∧ collapseSpaces (spaceSeparators word) = word := by
  have hall : packagingSuffixes.all (fun suffix => suffix = 46 :: suffix.tail ∧ 46 ∉ suffix.tail
      ∧ lower suffix = suffix ∧ collapseSpaces (spaceSeparators suffix.tail) = suffix.tail)
      = true := by
    decide
  exact ⟨suffix.tail, of_decide_eq_true (List.all_eq_true.mp hall suffix h)⟩

/-- No text ends with two of them. -/
theorem endsWith_append (h : suffix ∈ packagingSuffixes) (hother : other ∈ packagingSuffixes) :
    endsWith (text ++ suffix) other = decide (other = suffix) := by
  obtain ⟨word, rfl, hword, -, -⟩ := packagingSuffix_eq h
  obtain ⟨word', rfl, hword', -, -⟩ := packagingSuffix_eq hother
  rw [endsWith, Bool.eq_iff_iff, List.isSuffixOf_iff_suffix, decide_eq_true_iff]
  constructor
  · rintro ⟨front, hfront⟩
    have hlast := congrArg (afterLast (· = 46)) hfront
    rw [afterLast_append hword, afterLast_append hword'] at hlast
    rw [hlast]
  · rintro heq
    rw [heq]
    exact List.suffix_append _ _

theorem dropSuffix_append (h : suffix ∈ packagingSuffixes) :
    dropSuffix packagingSuffixes (text ++ suffix) = text := by
  have hfind : packagingSuffixes.find? (endsWith (text ++ suffix)) = some suffix := by
    have hself : endsWith (text ++ suffix) suffix = true := by
      rw [endsWith_append h h]
      exact decide_eq_true rfl
    obtain ⟨found, hfound⟩ := Option.isSome_iff_exists.mp
      (List.find?_isSome.mpr ⟨suffix, h, hself⟩)
    have hends := List.find?_some hfound
    rw [endsWith_append h (List.mem_of_find?_eq_some hfound), decide_eq_true_iff] at hends
    rw [hfound, hends]
  rw [dropSuffix, hfind]
  simp

theorem dropSuffix_of_dotless (h : 46 ∉ text) : dropSuffix packagingSuffixes text = text := by
  have hfind : packagingSuffixes.find? (endsWith text) = none := by
    rw [List.find?_eq_none]
    intro suffix hsuffix hends
    obtain ⟨word, rfl, -⟩ := packagingSuffix_eq hsuffix
    exact h ((List.isSuffixOf_iff_suffix.mp hends).subset (List.mem_cons_self ..))
  rw [dropSuffix, hfind]

end Suffixes

/-! ### Ids with and without a suffix -/

section Ids

variable {x suffix : Bytes}

/-- What an id without slashes comes down to. -/
theorem normalizeAppId_of_plain (h : ∀ c ∈ x, isSlash c = false) :
    normalizeAppId x = collapseSpaces (spaceSeparators
      (if 2 ≤ (lower x).count 46 && !(endsWith (lower x) (str ".exe"))
        then afterLast (· = 46) (lower x) else dropSuffix packagingSuffixes (lower x))) := by
  by_cases hx : x = []
  · rw [hx]
    rfl
  · rw [normalizeAppId, if_neg hx]
    simp only [any_isSlash_lower h, Bool.not_false, Bool.true_and, Bool.false_eq_true, if_false]

theorem lower_append_suffix (h : suffix ∈ packagingSuffixes) :
    lower (x ++ suffix) = lower x ++ suffix := by
  obtain ⟨word, -, -, hlower, -⟩ := packagingSuffix_eq h
  rw [lower_append, hlower]

theorem plain_append (hx : ∀ c ∈ x, isSlash c = false) (h : suffix ∈ packagingSuffixes) :
    ∀ c ∈ x ++ suffix, isSlash c = false := by
  have hall : packagingSuffixes.all (fun suffix => suffix.all fun c => !isSlash c) = true := by
    decide
  intro c hc
  rcases List.mem_append.mp hc with hc | hc
  · exact hx c hc
  · simpa using List.all_eq_true.mp (List.all_eq_true.mp hall suffix h) c hc

theorem count_append_suffix (h : suffix ∈ packagingSuffixes) :
    (lower x ++ suffix).count 46 = (lower x).count 46 + 1 := by
  obtain ⟨word, rfl, hword, -⟩ := packagingSuffix_eq h
  rw [List.count_append, List.count_cons_self, List.count_eq_zero.mpr hword]

/-- An id without a dot is what is left when the suffix is cut off. -/
theorem normalizeAppId_of_dotless (hx : ∀ c ∈ x, isSlash c = false) (hdot : 46 ∉ x)
    (h : suffix ∈ packagingSuffixes) : normalizeAppId (x ++ suffix) = normalizeAppId x := by
  have hcount : (lower x).count 46 = 0 :=
    List.count_eq_zero.mpr (mt (mem_lower_iff (by decide)).mp hdot)
  rw [normalizeAppId_of_plain hx, normalizeAppId_of_plain (plain_append hx h),
    lower_append_suffix h, count_append_suffix h, hcount, dropSuffix_append h,
    dropSuffix_of_dotless (mt (mem_lower_iff (by decide)).mp hdot)]
  rfl

/-- **With a dot in the id**, only the suffix counts, whatever the id. -/
theorem normalizeAppId_of_dotted (hx : ∀ c ∈ x, isSlash c = false) (hdot : 46 ∈ x)
    (h : suffix ∈ packagingSuffixes) (hexe : suffix ≠ str ".exe") :
    normalizeAppId (x ++ suffix) = suffix.tail := by
  have hcount : 2 ≤ (lower x).count 46 + 1 :=
    Nat.succ_le_succ (List.one_le_count_iff.mpr ((mem_lower_iff (by decide)).mpr hdot))
  have hends : endsWith (lower x ++ suffix) (str ".exe") = false := by
    rw [endsWith_append h (List.mem_cons_self ..)]
    exact decide_eq_false (Ne.symm hexe)
  obtain ⟨word, rfl, hword, -, hclean⟩ := packagingSuffix_eq h
  rw [normalizeAppId_of_plain (plain_append hx h), lower_append_suffix h, count_append_suffix h,
    hends, afterLast_append hword, if_pos (by simp [hcount]), hclean]
  rfl

/-- The packaging of an application does not show in its normalized id. -/
def IgnoresPackaging (x : Bytes) : Prop :=
  ∀ suffix ∈ packagingSuffixes, normalizeAppId (x ++ suffix) = normalizeAppId x

/-- **The packaging** is ignored exactly for ids without a dot. -/
theorem ignoresPackaging_iff (hx : ∀ c ∈ x, isSlash c = false) :
    IgnoresPackaging x ↔ 46 ∉ x := by
  constructor
  · intro h hdot
    have happ : normalizeAppId (x ++ str ".app") = str "app" :=
      normalizeAppId_of_dotted hx hdot (by decide) (by decide)
    have hbin : normalizeAppId (x ++ str ".bin") = str "bin" :=
      normalizeAppId_of_dotted hx hdot (by decide) (by decide)
    have hsame := (h (str ".app") (by decide)).trans (h (str ".bin") (by decide)).symm
    rw [happ, hbin] at hsame
    revert hsame
    decide
  · exact fun hdot suffix hsuffix => normalizeAppId_of_dotless hx hdot hsuffix

theorem plain_of_all (h : x.all (fun c => !isSlash c) = true) : ∀ c ∈ x, isSlash c = false := by
  simpa using h

theorem ignoresPackaging_iff_code : IgnoresPackaging (str "Code") ↔ 46 ∉ str "Code" :=
  ignoresPackaging_iff (plain_of_all (by decide))

/-- A desktop file of an application with a reverse-DNS id. -/
theorem not_ignoresPackaging :
    ¬∀ x : Bytes, x ≠ [] → (∀ c ∈ x, isSlash c = false) →
      (∀ suffix ∈ packagingSuffixes, endsWith x suffix = false) → IgnoresPackaging x := by
  intro h
  have hsame := h (str "org.gnome.Nautilus") (by decide) (plain_of_all (by decide)) (by decide)
    (str ".desktop") (by decide)
  revert hsame
  decide

end Ids

end ContextSnap.Matching
