import ContextSnap.Proof.AppIds

/-!
# Normalized texts

What a normalizer leaves has no upper-case letter, no separator but single blanks between other
bytes, and nothing that one of the steps in front would cut off. So a second pass changes nothing.
-/

namespace ContextSnap.Matching

/-! ### Blanks -/

/-- One round of `collapse_spaces`: the text so far, and whether a blank is due. -/
def collapseStep (state : Bytes × Bool) (c : UInt8) : Bytes × Bool :=
  if c = 32 then (state.1, !state.1.isEmpty)
  else if state.2 then (state.1 ++ [32, c], false)
  else (state.1 ++ [c], false)

theorem collapseSpaces_eq (text : Bytes) :
    collapseSpaces text = (text.foldl collapseStep ([], false)).1 := rfl

/-- What has been collapsed is read again as it is, and a blank is due only behind some text. -/
theorem foldl_collapsed (text : Bytes) :
    let state := text.foldl collapseStep ([], false)
    state.1.foldl collapseStep ([], false) = (state.1, false)
      ∧ (state.2 = true → state.1.isEmpty = false) := by
  induction text using List.reverseRecOn with
  | nil => exact ⟨rfl, Bool.noConfusion⟩
  | append_singleton text c ih =>
      obtain ⟨hagain, hdue⟩ := ih
      rw [List.foldl_concat]
      generalize text.foldl collapseStep ([], false) = state at *
      obtain ⟨out, due⟩ := state
      dsimp only at hagain hdue
      by_cases hblank : c = 32
      · rw [collapseStep, if_pos hblank]
        exact ⟨hagain, fun h => by simpa using h⟩
      · cases due with
        | true =>
            rw [collapseStep, if_neg hblank, if_pos rfl]
            refine ⟨?_, Bool.noConfusion⟩
            have hblankStep : collapseStep (out, false) 32 = (out, true) := by
              rw [collapseStep, if_pos rfl, hdue rfl]
              rfl
            rw [List.foldl_append, hagain, List.foldl_cons, hblankStep, List.foldl_cons,
              List.foldl_nil, collapseStep, if_neg hblank, if_pos rfl]
        | false =>
            rw [collapseStep, if_neg hblank, if_neg Bool.false_ne_true]
            refine ⟨?_, Bool.noConfusion⟩
            rw [List.foldl_concat, hagain, collapseStep, if_neg hblank,
              if_neg Bool.false_ne_true]

theorem collapseSpaces_collapseSpaces (text : Bytes) :
    collapseSpaces (collapseSpaces text) = collapseSpaces text := by
  rw [collapseSpaces_eq (collapseSpaces text), collapseSpaces_eq text, (foldl_collapsed text).1]

theorem mem_of_mem_collapseSpaces {text : Bytes} {c : UInt8} (h : c ∈ collapseSpaces text) :
    c = 32 ∨ c ∈ text := by
  rw [collapseSpaces_eq] at h
  induction text using List.reverseRecOn with
  | nil => exact absurd h List.not_mem_nil
  | append_singleton text d ih =>
      rw [List.foldl_concat, collapseStep] at h
      have hout : c ∈ (text.foldl collapseStep ([], false)).1 → c = 32 ∨ c ∈ text ++ [d] :=
        fun hmem => (ih hmem).imp_right (List.mem_append_left _)
      split at h
      · exact hout h
      split at h
      · rcases List.mem_append.mp h with hold | hnew
        · exact hout hold
        · rcases List.mem_cons.mp hnew with rfl | hd
          · exact .inl rfl
          · exact .inr (List.mem_append_right _ hd)
      · rcases List.mem_append.mp h with hold | hd
        · exact hout hold
        · exact .inr (List.mem_append_right _ hd)

/-! ### Bytes that stay -/

/-- In lower case, and no separator but the blank. -/
structure IsFolded (c : UInt8) : Prop where
  lower : toLower c = c
  blank : isSeparator c = true → c = 32

theorem isFolded_blank : IsFolded 32 := ⟨by decide, fun _ => rfl⟩

section Folded

variable {text : Bytes}

theorem lower_of_folded (h : ∀ c ∈ text, IsFolded c) : lower text = text := by
  calc lower text = text.map id := List.map_congr_left fun c hc => (h c hc).lower
    _ = text := List.map_id text

theorem spaceSeparators_of_folded (h : ∀ c ∈ text, IsFolded c) : spaceSeparators text = text := by
  calc spaceSeparators text = text.map id := by
        apply List.map_congr_left
        intro c hc
        by_cases hseparator : isSeparator c = true
        · rw [if_pos hseparator]
          exact ((h c hc).blank hseparator).symm
        · rw [if_neg hseparator, id]
    _ = text := List.map_id text

/-- A separator that is no blank is not in such a text. -/
theorem not_mem_of_folded (h : ∀ c ∈ text, IsFolded c) {d : UInt8} (hseparator : isSeparator d = true)
    (hblank : d ≠ 32) : d ∉ text := fun hmem => hblank ((h d hmem).blank hseparator)

theorem toLower_of_mem_lower {c : UInt8} (h : c ∈ lower text) : toLower c = c := by
  obtain ⟨d, -, rfl⟩ := List.mem_map.mp h
  exact toLower_toLower d

theorem mem_collapsed {c : UInt8} (h : c ∈ collapseSpaces (spaceSeparators text)) :
    c = 32 ∨ (c ∈ text ∧ isSeparator c = false) := by
  rcases mem_of_mem_collapseSpaces h with hblank | hmem
  · exact .inl hblank
  · obtain ⟨d, hd, rfl⟩ := List.mem_map.mp hmem
    by_cases hseparator : isSeparator d = true
    · exact .inl (if_pos hseparator)
    · rw [if_neg hseparator]
      exact .inr ⟨hd, Bool.not_eq_true _ ▸ hseparator⟩

/-- What is left of a text in lower case. -/
theorem isFolded_collapsed (h : ∀ c ∈ text, toLower c = c) :
    ∀ c ∈ collapseSpaces (spaceSeparators text), IsFolded c := by
  intro c hc
  rcases mem_collapsed hc with rfl | ⟨hmem, hseparator⟩
  · exact isFolded_blank
  · exact ⟨h c hmem, fun hsep => absurd (hseparator.symm.trans hsep) Bool.false_ne_true⟩

theorem collapsed_collapsed (h : ∀ c ∈ text, toLower c = c) :
    collapseSpaces (spaceSeparators (collapseSpaces (spaceSeparators text)))
      = collapseSpaces (spaceSeparators text) := by
  rw [spaceSeparators_of_folded (isFolded_collapsed h), collapseSpaces_collapseSpaces]

end Folded

/-! ### Application ids -/

/-- What a raw id is known by, before separators are folded. -/
def namedPart (value : Bytes) : Bytes :=
  if !(value.any isSlash) && 2 ≤ value.count 46 && !(endsWith value (str ".exe")) then
    afterLast (· = 46) value
  else
    dropSuffix packagingSuffixes
      (if value.any isSlash then
        match findText (str ".app/") value with
        | some app => afterLast isSlash (value.take app)
        | none => afterLast isSlash value
      else value)

theorem normalizeAppId_eq {raw : Bytes} (h : raw ≠ []) :
    normalizeAppId raw = collapseSpaces (spaceSeparators (namedPart (lower raw))) := by
  rw [normalizeAppId, if_neg h]
  rfl

theorem afterLast_subset (stop : UInt8 → Bool) (text : Bytes) : afterLast stop text ⊆ text := by
  intro c hc
  exact List.mem_reverse.mp
    (((List.takeWhile_prefix _).sublist.subset) (List.mem_reverse.mp hc))

theorem dropSuffix_subset (suffixes : List Bytes) (text : Bytes) :
    dropSuffix suffixes text ⊆ text := by
  rw [dropSuffix]
  split
  · exact List.Subset.refl _
  · exact List.take_subset _ _

theorem namedPart_subset (value : Bytes) : namedPart value ⊆ value := by
  rw [namedPart]
  split
  · exact afterLast_subset _ _
  · refine List.Subset.trans (dropSuffix_subset _ _) ?_
    split
    · split
      · exact List.Subset.trans (afterLast_subset _ _) (List.take_subset _ _)
      · exact afterLast_subset _ _
    · exact List.Subset.refl _

/-- A text without dots and slashes is no path and has no suffix. -/
theorem namedPart_of_folded {text : Bytes} (h : ∀ c ∈ text, IsFolded c) : namedPart text = text := by
  have hslash : text.any isSlash = false := by
    rw [List.any_eq_false]
    intro c hc hslash
    rcases Bool.or_eq_true_iff.mp hslash with hmark | hmark <;>
      have heq := of_decide_eq_true hmark <;> subst heq
    · exact not_mem_of_folded h (by decide) (by decide) hc
    · exact not_mem_of_folded h (by decide) (by decide) hc
  have hdot : 46 ∉ text := not_mem_of_folded h (by decide) (by decide)
  rw [namedPart, hslash, List.count_eq_zero.mpr hdot]
  exact dropSuffix_of_dotless hdot

theorem toLower_namedPart (raw : Bytes) : ∀ c ∈ namedPart (lower raw), toLower c = c :=
  fun _ hc => toLower_of_mem_lower (namedPart_subset _ hc)

theorem normalizeAppId_normalizeAppId (raw : Bytes) :
    normalizeAppId (normalizeAppId raw) = normalizeAppId raw := by
  by_cases hraw : raw = []
  · rw [hraw]
    rfl
  have hlower := toLower_namedPart raw
  rw [normalizeAppId_eq hraw]
  by_cases hnil : collapseSpaces (spaceSeparators (namedPart (lower raw))) = []
  · rw [hnil]
    rfl
  · have hfolded := isFolded_collapsed hlower
    rw [normalizeAppId_eq hnil, lower_of_folded hfolded, namedPart_of_folded hfolded,
      collapsed_collapsed hlower]

/-! ### Titles -/

section Titles

variable {text marker : Bytes}

theorem mem_of_mem_replaceMarker {skip : ℕ} {c : UInt8} (h : c ∈ replaceMarker marker skip text) :
    c = 32 ∨ c ∈ text := by
  induction text generalizing skip with
  | nil =>
      rw [replaceMarker] at h
      exact absurd h List.not_mem_nil
  | cons d text ih =>
      cases skip with
      | succ skip =>
          rw [replaceMarker] at h
          exact (ih h).imp_right (List.mem_cons_of_mem _)
      | zero =>
          rw [replaceMarker] at h
          split at h
          · rcases List.mem_cons.mp h with rfl | hrest
            · exact .inl rfl
            · exact (ih hrest).imp_right (List.mem_cons_of_mem _)
          · rcases List.mem_cons.mp h with rfl | hrest
            · exact .inr (List.mem_cons_self ..)
            · exact (ih hrest).imp_right (List.mem_cons_of_mem _)

/-- A text without the first byte of the marker has no marker. -/
theorem replaceMarker_of_not_mem {first : UInt8} {rest : Bytes} (h : first ∉ text) :
    replaceMarker (first :: rest) 0 text = text := by
  induction text with
  | nil => rfl
  | cons d text ih =>
      rw [List.mem_cons, not_or] at h
      have hother : ¬(first :: rest).isPrefixOf (d :: text) = true := by
        simp [List.isPrefixOf, h.1]
      rw [replaceMarker, if_neg hother, ih h.2]

theorem dropCounter_subset (text : Bytes) : dropCounter text ⊆ text := by
  rw [dropCounter]
  split
  · split
    · split
      · exact List.drop_subset _ _
      · exact List.Subset.refl _
    · exact List.Subset.refl _
  · exact List.Subset.refl _

/-- A byte that a normalized title may keep. -/
structure IsTitleByte (c : UInt8) : Prop where
  folded : IsFolded c
  star : c ≠ 42
  marker : c ≠ 0xe2

theorem foldl_titleMarkers_of_not_mem (h : 0xe2 ∉ text) :
    titleMarkers.foldl (fun value marker => replaceMarker marker 0 value) text = text := by
  have hall : ∀ markers : List Bytes, (∀ marker ∈ markers, ∃ rest, marker = 0xe2 :: rest) →
      markers.foldl (fun value marker => replaceMarker marker 0 value) text = text := by
    intro markers hmarkers
    induction markers with
    | nil => rfl
    | cons marker markers ih =>
        obtain ⟨rest, rfl⟩ := hmarkers marker (List.mem_cons_self ..)
        rw [List.foldl_cons, replaceMarker_of_not_mem h]
        exact ih fun other hother => hmarkers other (List.mem_cons_of_mem _ hother)
  refine hall titleMarkers fun marker hmarker => ?_
  simp only [titleMarkers, List.mem_cons, List.not_mem_nil, or_false] at hmarker
  rcases hmarker with rfl | rfl | rfl | rfl <;> exact ⟨_, rfl⟩

theorem mem_of_mem_foldl_markers {markers : List Bytes} {c : UInt8}
    (h : c ∈ markers.foldl (fun value marker => replaceMarker marker 0 value) text) :
    c = 32 ∨ c ∈ text := by
  induction markers generalizing text with
  | nil => exact .inr h
  | cons marker markers ih =>
      rcases ih h with hblank | hmem
      · exact .inl hblank
      · exact mem_of_mem_replaceMarker hmem

theorem dropCounter_of_folded (h : ∀ c ∈ text, IsFolded c) : dropCounter text = text := by
  have hopen : text.head? ≠ some 40 := fun hhead =>
    not_mem_of_folded h (by decide) (by decide) (List.mem_of_mem_head? (Option.mem_def.mpr hhead))
  rw [dropCounter, if_neg hopen]

/-- The title without its counter and its markers, before separators are folded. -/
def titlePart (value : Bytes) : Bytes :=
  (dropCounter (titleMarkers.foldl (fun value marker => replaceMarker marker 0 value) value)).filter
    fun c => !(c = 42 || c = 0xe2)

theorem normalizeTitle_eq (raw : Bytes) :
    normalizeTitle raw = collapseSpaces (spaceSeparators (titlePart (lower raw))) := rfl

theorem mem_titlePart {raw : Bytes} {c : UInt8} (h : c ∈ titlePart (lower raw)) :
    toLower c = c ∧ c ≠ 42 ∧ c ≠ 0xe2 := by
  obtain ⟨hmem, hkept⟩ := List.mem_filter.mp h
  have hmarks : c ≠ 42 ∧ c ≠ 0xe2 := by simpa using hkept
  refine ⟨?_, hmarks⟩
  rcases mem_of_mem_foldl_markers (dropCounter_subset _ hmem) with rfl | hraw
  · exact isFolded_blank.lower
  · exact toLower_of_mem_lower hraw

theorem isTitleByte_normalizeTitle (raw : Bytes) : ∀ c ∈ normalizeTitle raw, IsTitleByte c := by
  intro c hc
  rw [normalizeTitle_eq] at hc
  have hmarks : c ≠ 42 ∧ c ≠ 0xe2 := by
    rcases mem_collapsed hc with rfl | ⟨hmem, -⟩
    · exact ⟨by decide, by decide⟩
    · exact (mem_titlePart hmem).2
  exact ⟨isFolded_collapsed (fun _ hd => (mem_titlePart hd).1) c hc, hmarks.1, hmarks.2⟩

/-- Nothing of such a text is a marker or a counter. -/
theorem titlePart_of_titleBytes (h : ∀ c ∈ text, IsTitleByte c) : titlePart text = text := by
  have hfolded : ∀ c ∈ text, IsFolded c := fun c hc => (h c hc).folded
  have hmarker : 0xe2 ∉ text := fun hmem => (h _ hmem).marker rfl
  rw [titlePart, foldl_titleMarkers_of_not_mem hmarker, dropCounter_of_folded hfolded]
  refine List.filter_eq_self.mpr fun c hc => ?_
  simp [(h c hc).star, (h c hc).marker]

theorem normalizeTitle_normalizeTitle (raw : Bytes) :
    normalizeTitle (normalizeTitle raw) = normalizeTitle raw := by
  have hbytes := isTitleByte_normalizeTitle raw
  have hlower : lower (normalizeTitle raw) = normalizeTitle raw :=
    lower_of_folded fun c hc => (hbytes c hc).folded
  calc normalizeTitle (normalizeTitle raw)
      = collapseSpaces (spaceSeparators (titlePart (lower (normalizeTitle raw)))) := rfl
    _ = collapseSpaces (spaceSeparators (normalizeTitle raw)) := by
        rw [hlower, titlePart_of_titleBytes hbytes]
    _ = normalizeTitle raw := collapsed_collapsed fun _ hc => (mem_titlePart hc).1

end Titles

/-- What has been normalized is normal: for ids and for titles a second pass changes nothing. -/
theorem normalizers_idempotent (raw : Bytes) :
    normalizeAppId (normalizeAppId raw) = normalizeAppId raw
      ∧ normalizeTitle (normalizeTitle raw) = normalizeTitle raw :=
  ⟨normalizeAppId_normalizeAppId raw, normalizeTitle_normalizeTitle raw⟩

end ContextSnap.Matching
