import ContextSnap.Proof.ExclusionRules
import ContextSnap.Proof.SanitizedUrl
import ContextSnap.Proof.UnmodifiedUrl

/-!
# Texts that a pass leaves as they are

Every step of the built-in rules that does something makes the URL shorter, and writing what was read
never makes it longer. So a pass leaves a text as it is only if no step does anything and the text is
written back as it was.
-/

namespace ContextSnap.Privacy

open Matching (findText)
open Sanitizer

/-! ### Steps that do something -/

/-- The path of a URL with an authority. -/
def Rooted (url : ParsedUrl) : Prop := url.path = [] ∨ url.path.head? = some 47

/-- Nothing has changed, or the URL is shorter. -/
def Shrinks (passing passing' : Passing) : Prop :=
  passing' = passing ∨ passing'.url.toText.length < passing.url.toText.length

theorem Shrinks.trans {first second third : Passing} (h : Shrinks first second)
    (h' : Shrinks second third) : Shrinks first third := by
  rcases h with rfl | h
  · exact h'
  · rcases h' with rfl | h'
    · exact .inr h
    · exact .inr (h'.trans h)

theorem length_parameters_lt {kept query : List (Bytes × Bytes)} (h : List.Sublist kept query)
    (hne : kept ≠ query) :
    (kept.map fun parameter => (parameterText parameter).length + 1).sum
      < (query.map fun parameter => (parameterText parameter).length + 1).sum := by
  induction h with
  | slnil => exact absurd rfl hne
  | @cons kept query parameter hsub ih =>
      rw [List.map_cons, List.sum_cons]
      by_cases heq : kept = query
      · rw [heq]
        omega
      · have := ih heq
        omega
  | @cons_cons kept query parameter hsub ih =>
      rw [List.map_cons, List.sum_cons, List.map_cons, List.sum_cons]
      have := ih fun heq => hne (heq ▸ rfl)
      omega

theorem length_queryText (query : List (Bytes × Bytes)) :
    (queryText query).length
      = (query.map fun parameter => (parameterText parameter).length + 1).sum := by
  cases query with
  | nil => rfl
  | cons first rest =>
      have hquestion : (str "?").length = 1 := rfl
      have hampersand : (str "&").length = 1 := rfl
      rw [queryText, List.length_append, List.length_append, List.length_flatMap, List.map_cons,
        List.sum_cons]
      simp only [List.length_append, hampersand, hquestion]
      have hrest : (rest.map fun parameter => 1 + (parameterText parameter).length)
          = rest.map fun parameter => (parameterText parameter).length + 1 :=
        List.map_congr_left fun parameter _ => Nat.add_comm _ _
      rw [hrest]
      omega

theorem length_toText (url : ParsedUrl) :
    url.toText.length
      = (if url.scheme = [] then [] else url.scheme ++ str "://").length
        + (if url.userinfo = [] then [] else url.userinfo ++ str "@").length
        + url.host.length + (marked (str ":") url.port).length + url.path.length
        + (queryText url.query).length + (marked (str "#") url.fragment).length := by
  simp only [ParsedUrl.toText, List.length_append]

section Shorter

variable {url : ParsedUrl} {kept : List (Bytes × Bytes)}

theorem length_withoutUserinfo (h : url.userinfo ≠ []) :
    ({ url with userinfo := [] } : ParsedUrl).toText.length < url.toText.length := by
  have hpos := List.length_pos_of_ne_nil h
  rw [length_toText, length_toText]
  simp only [h, if_true, if_false, List.length_nil, List.length_append]
  omega

theorem length_withoutFragment (h : url.fragment ≠ []) :
    ({ url with fragment := [] } : ParsedUrl).toText.length < url.toText.length := by
  have hpos := List.length_pos_of_ne_nil h
  rw [length_toText, length_toText]
  simp only [marked, h, if_true, if_false, List.length_nil, List.length_append]
  omega

theorem length_withQuery (hsub : List.Sublist kept url.query) (hne : kept ≠ url.query) :
    ({ url with query := kept } : ParsedUrl).toText.length < url.toText.length := by
  have hlt := length_parameters_lt hsub hne
  rw [length_toText, length_toText, length_queryText, length_queryText]
  dsimp only
  omega

theorem length_truncated (hrooted : Rooted url) (hpath : url.path ≠ [] ∧ url.path ≠ str "/") :
    ({ url with path := str "/", query := [] } : ParsedUrl).toText.length < url.toText.length := by
  have hlong : 2 ≤ url.path.length := by
    obtain ⟨rest, hrest⟩ := List.head?_eq_some_iff.mp (hrooted.resolve_left hpath.1)
    have hne : rest ≠ [] := by
      rintro rfl
      exact hpath.2 hrest
    have := List.length_pos_of_ne_nil hne
    rw [hrest, List.length_cons]
    omega
  have hslash : (str "/").length = 1 := rfl
  have hnone : (queryText []).length = 0 := rfl
  rw [length_toText, length_toText]
  dsimp only
  rw [hslash, hnone]
  omega

end Shorter

section Steps

variable {rule : Rule} {rules : List Rule} {passing passing' : Passing}

theorem parameters_shrinks (hrooted : Rooted passing.url) (haction : rule.action = .removeParameter)
    (h : (if passing.url.query.any (fun parameter => containsCi rule.parameters parameter.1) then
        Except.ok (passing.applied rule.id
          { passing.url with query := ruleQuery rule passing.url.query })
      else Except.ok passing : Except (List Bytes) Passing) = .ok passing') :
    Shrinks passing passing' ∧ Rooted passing'.url := by
  by_cases hany : passing.url.query.any
      (fun parameter => containsCi rule.parameters parameter.1) = true
  · rw [if_pos hany] at h
    rw [← Except.ok.inj h]
    refine ⟨.inr ?_, hrooted⟩
    have hquery : ruleQuery rule passing.url.query
        = passing.url.query.filter fun parameter => !containsCi rule.parameters parameter.1 := by
      rw [ruleQuery, if_neg (by simp [haction])]
    apply length_withQuery
    · rw [hquery]
      exact List.filter_sublist
    · rw [hquery]
      intro hsame
      obtain ⟨parameter, hmem, hcontains⟩ := List.any_eq_true.mp hany
      have := List.filter_eq_self.mp hsame parameter hmem
      simp [hcontains] at this
  · rw [if_neg hany] at h
    rw [← Except.ok.inj h]
    exact ⟨.inl rfl, hrooted⟩

/-- **One rule** that neither masks values nor drops the URL. -/
theorem applyRule_shrinks (hrule : Shortens rule) (hrooted : Rooted passing.url)
    (h : applyRule rule passing = .ok passing') :
    Shrinks passing passing' ∧ Rooted passing'.url := by
  rw [applyRule] at h
  by_cases hconcerns : ruleConcerns rule passing.url = true
  · have hid : rule.id ≠ str "local-files" := by
      intro hid
      simp [ruleConcerns, hid] at hconcerns
    rw [if_neg (by simp [hconcerns])] at h
    rcases hrule.resolve_left hid with haction | haction | haction
    · simp only [haction] at h
      exact parameters_shrinks hrooted haction h
    · simp only [haction] at h
      by_cases hpath : passing.url.path ≠ [] ∧ passing.url.path ≠ str "/"
      · rw [if_pos hpath] at h
        rw [← Except.ok.inj h]
        exact ⟨.inr (length_truncated hrooted hpath), .inr rfl⟩
      · rw [if_neg hpath] at h
        rw [← Except.ok.inj h]
        exact ⟨.inl rfl, hrooted⟩
    · simp [haction] at h
  · rw [if_pos (by simp [hconcerns])] at h
    rw [← Except.ok.inj h]
    exact ⟨.inl rfl, hrooted⟩

/-- **The run of the rules.** -/
theorem foldlM_shrinks (hrules : ∀ rule ∈ rules, Shortens rule) (hrooted : Rooted passing.url)
    (h : rules.foldlM (fun passing rule => applyRule rule passing) passing = .ok passing') :
    Shrinks passing passing' := by
  induction rules generalizing passing with
  | nil => exact .inl (Except.ok.inj h).symm
  | cons rule rules ih =>
      rw [List.foldlM_cons] at h
      cases hfirst : applyRule rule passing with
      | error ids =>
          rw [hfirst] at h
          cases h
      | ok middle =>
          rw [hfirst] at h
          obtain ⟨hshrinks, hmiddle⟩ :=
            applyRule_shrinks (hrules rule List.mem_cons_self) hrooted hfirst
          exact hshrinks.trans
            (ih (fun rule hrule => hrules rule (List.mem_cons_of_mem _ hrule)) hmiddle h)

theorem clearedIf_shrinks (passing : Passing) (option : Bool) (id : Bytes) {isEmpty : Bool}
    {url : ParsedUrl}
    (h : isEmpty = false → url.toText.length < passing.url.toText.length) :
    Shrinks passing (passing.clearedIf option id isEmpty url) := by
  rw [Passing.clearedIf]
  by_cases hclears : (option && !isEmpty) = true
  · rw [if_pos hclears]
    exact .inr (h (by simp_all))
  · rw [if_neg hclears]
    exact .inl rfl

theorem strip_shrinks (sanitizer : Sanitizer) (url : ParsedUrl) :
    Shrinks { url } (sanitizer.strip url) := by
  rw [strip]
  dsimp only
  refine ((clearedIf_shrinks _ _ _ fun h => ?_).trans (clearedIf_shrinks _ _ _ fun h => ?_)).trans
    (clearedIf_shrinks _ _ _ fun h => ?_)
  · exact length_withoutUserinfo (of_decide_eq_false h)
  · exact length_withoutFragment (of_decide_eq_false h)
  · exact length_withQuery (List.nil_sublist _) (Ne.symm (of_decide_eq_false h))

theorem dropSecretsBy_shrinks (secret : Bytes → Bytes → Bool) (passing : Passing) :
    Shrinks passing (dropSecretsBy secret passing) := by
  by_cases hany : ∃ parameter ∈ passing.url.query, secret parameter.1 parameter.2 = true
  · obtain ⟨parameter, hmem, hsecret⟩ := hany
    refine .inr (length_withQuery List.filter_sublist ?_)
    intro hsame
    have := List.filter_eq_self.mp hsame parameter hmem
    simp [hsecret] at this
  · left
    have hnone : ∀ parameter ∈ passing.url.query, secret parameter.1 parameter.2 = false := by
      simpa using hany
    exact dropSecretsBy_of_none hnone

end Steps

/-! ### URLs that a pass leaves as they are -/

section Fixed

variable {secret : Bytes → Bytes → Bool} {url : Bytes} {parsed : ParsedUrl}

theorem rooted_record (parts : UrlParts) : Rooted parts.record := parts.path_start

/-- A URL that is not excluded is what went through the rules. -/
theorem sanitizeParsedBy_shrinks (hscheme : parsed.scheme ≠ str "file") (hrooted : Rooted parsed)
    (h : (standard.sanitizeParsedBy secret url parsed).excluded = false) :
    ∃ passing : Passing, Shrinks { url := parsed } passing
      ∧ standard.sanitizeParsedBy secret url parsed
        = { url := passing.url.toText, modified := passing.modified
            appliedRuleIds := passing.appliedRuleIds } := by
  rw [sanitizeParsedBy, if_neg hscheme, standard_isHostBlocked, if_neg Bool.false_ne_true] at h ⊢
  cases hrun : standard.rules.foldlM (fun passing rule => applyRule rule passing)
      (standard.strip parsed) with
  | error ids =>
      rw [hrun] at h
      cases h
  | ok passing =>
      have hstripped : Rooted (standard.strip parsed).url := by
        rwa [Rooted, (strip_url parsed).2]
      refine ⟨dropSecretsBy secret passing, ?_, rfl⟩
      exact ((strip_shrinks standard parsed).trans
        (foldlM_shrinks shortens_defaultRules hstripped hrun)).trans
        (dropSecretsBy_shrinks secret passing)

/-- **A URL with an authority** is left as it is if nothing touches it and it is written back. -/
theorem fixed_parts_iff (parts : UrlParts) (hscheme : parts.record.scheme ≠ str "file") :
    ((standard.sanitizeUrlBy secret parts.text).excluded = false
        ∧ (standard.sanitizeUrlBy secret parts.text).url = parts.text)
      ↔ standard.Untouched secret parts.record ∧ parts.Canonical := by
  rw [sanitizeUrlBy_of_parseUrl standard secret parts.parseUrl_text]
  constructor
  · rintro ⟨hkept, hurl⟩
    obtain ⟨passing, hshrinks, hresult⟩ :=
      sanitizeParsedBy_shrinks hscheme (rooted_record parts) hkept
    rw [hresult] at hurl
    have hsame : passing = { url := parts.record } := by
      refine hshrinks.resolve_right ?_
      have hle := parts.toText_writtenBack.length_le
      rw [← hurl] at hle
      exact not_lt_of_ge hle
    rw [hsame] at hresult hurl
    refine ⟨(sanitizeParsedBy_modified_iff hscheme).mp (by rw [hresult]), ?_⟩
    exact parts.toText_writtenBack.eq_iff.mp hurl
  · rintro ⟨huntouched, hcanonical⟩
    rw [sanitizeParsedBy_of_untouched hscheme huntouched]
    exact ⟨rfl, parts.toText_writtenBack.eq_iff.mpr hcanonical⟩

/-- What a pass leaves of a URL that it does not exclude. -/
def leftOver (secret : Bytes → Bytes → Bool) (parsed : ParsedUrl) : ParsedUrl :=
  { passed defaultRules parsed with
    userinfo := [], fragment := []
    query := (passed defaultRules parsed).query.filter fun parameter =>
      !secret parameter.1 parameter.2 }

theorem sanitizeParsedBy_url (hscheme : parsed.scheme ≠ str "file")
    (h : (standard.sanitizeParsedBy secret url parsed).excluded = false) :
    (standard.sanitizeParsedBy secret url parsed).url = (leftOver secret parsed).toText := by
  rw [sanitizeParsedBy, if_neg hscheme, standard_isHostBlocked, if_neg Bool.false_ne_true] at h ⊢
  cases hrun : standard.rules.foldlM (fun passing rule => applyRule rule passing)
      (standard.strip parsed) with
  | error ids =>
      rw [hrun] at h
      cases h
  | ok passing =>
      have hpassing := foldlM_url shortens_defaultRules hrun
      rw [standard_strip_url, passed_stripped] at hpassing
      change (dropSecretsBy secret passing).url.toText = _
      rw [dropSecretsBy, hpassing]
      rfl

theorem findText_ne_none (front needle back : Bytes) :
    findText needle (front ++ (needle ++ back)) ≠ none := by
  induction front with
  | nil =>
      cases hcons : needle ++ back with
      | nil => simp [findText, (List.append_eq_nil_iff.mp hcons).1]
      | cons c rest =>
          have hstarts : needle.isPrefixOf (c :: rest) = true := by
            rw [← hcons, List.isPrefixOf_iff_prefix]
            exact List.prefix_append needle back
          rw [List.nil_append, findText, if_pos hstarts]
          exact Option.some_ne_none 0
  | cons c front ih =>
      rw [List.cons_append, findText]
      split_ifs
      · exact Option.some_ne_none 0
      · exact fun h => ih (Option.map_eq_none_iff.mp h)

theorem Opaque.toText_leftOver (h : Opaque url parsed) (secret : Bytes → Bytes → Bool) :
    (leftOver secret parsed).toText
      = (if parsed.scheme = [] then [] else parsed.scheme ++ str "://")
        ++ (leftOver secret parsed).path := by
  obtain ⟨scheme, path, -, -, -, rfl⟩ := h.read
  have hquery : (leftOver secret { scheme := lower scheme, path }).query = [] := by
    simp [leftOver, passed]
  rw [ParsedUrl.toText, hquery]
  simp [leftOver, passed, marked, queryText]

theorem path_leftOver : (leftOver secret parsed).path
    = if truncates defaultRules parsed then str "/" else parsed.path := rfl

theorem Opaque.leftOver_ne (h : Opaque url parsed) : (leftOver secret parsed).toText ≠ url := by
  rw [h.toText_leftOver]
  intro hsame
  by_cases hnil : parsed.scheme = []
  · -- The colon is gone.
    obtain ⟨scheme, path, hurl, -, -, rfl⟩ := h.read
    have hlength := congrArg List.length hsame
    rw [if_pos hnil, List.nil_append, hurl, List.length_append, List.length_cons,
      path_leftOver] at hlength
    dsimp only at hlength
    by_cases htruncates : truncates defaultRules { scheme := lower scheme, path } = true
    · rw [if_pos htruncates] at hlength
      have hne : path ≠ [] := by
        rintro rfl
        simp [truncates] at htruncates
      have hpos := List.length_pos_of_ne_nil hne
      have hslash : (str "/").length = 1 := rfl
      omega
    · rw [if_neg htruncates] at hlength
      omega
  · rw [if_neg hnil, List.append_assoc] at hsame
    exact findText_ne_none _ _ _ (hsame ▸ h.find)

theorem parseUrl_redacted : parseUrl (str "file:///[redacted]")
    = .ok { scheme := str "file", path := str "/[redacted]" } := by
  decide

/-- A text that a pass leaves as it is: no URL and without a question mark, a local file that was
redacted before, or a URL that is written back and that nothing touches. -/
def Settled (secret : Bytes → Bytes → Bool) (text : Bytes) : Prop :=
  ((∃ e, parseUrl text = .error e) ∧ 63 ∉ text) ∨ text = str "file:///[redacted]"
    ∨ ∃ parts : UrlParts, parts.text = text ∧ parts.record.scheme ≠ str "file"
      ∧ parts.Canonical ∧ standard.Untouched secret parts.record

/-- What does not parse is kept as it is, or excluded for its question mark. -/
theorem sanitizeUrlBy_of_error {text : Bytes} {e : Error} (secret : Bytes → Bytes → Bool)
    (h : parseUrl text = .error e) :
    (standard.sanitizeUrlBy secret text).url = text
      ∧ ((standard.sanitizeUrlBy secret text).excluded = false ↔ 63 ∉ text) := by
  rw [sanitizeUrlBy, h]
  by_cases hnil : text = []
  · rw [if_pos hnil, hnil]
    exact ⟨rfl, iff_of_true rfl List.not_mem_nil⟩
  · rw [if_neg hnil]
    exact ⟨rfl, decide_eq_false_iff_not⟩

/-- **A second pass.** -/
theorem fixed_iff (secret : Bytes → Bytes → Bool) (text : Bytes) :
    ((standard.sanitizeUrlBy secret text).excluded = false
        ∧ (standard.sanitizeUrlBy secret text).url = text)
      ↔ Settled secret text := by
  cases hparsed : parseUrl text with
  | error e =>
      have hpass := sanitizeUrlBy_of_error secret hparsed
      rw [hpass.2]
      constructor
      · intro h
        exact .inl ⟨⟨e, hparsed⟩, h.1⟩
      · rintro (h | rfl | ⟨parts, rfl, -⟩)
        · exact ⟨h.2, hpass.1⟩
        · cases hparsed
        · rw [parts.parseUrl_text] at hparsed
          cases hparsed
  | ok parsed =>
      rw [sanitizeUrlBy_of_parseUrl standard secret hparsed]
      by_cases hfile : parsed.scheme = str "file"
      · rw [sanitizeParsedBy, if_pos hfile]
        constructor
        · intro h
          exact .inr (.inl h.2.symm)
        · rintro (⟨⟨e, herror⟩, -⟩ | rfl | ⟨parts, rfl, hscheme, -⟩)
          · rw [hparsed] at herror
            cases herror
          · exact ⟨rfl, rfl⟩
          · rw [parts.parseUrl_text] at hparsed
            rw [← Except.ok.inj hparsed] at hfile
            exact absurd hfile hscheme
      · have hsettled : Settled secret text ↔ ∃ parts : UrlParts, parts.text = text
            ∧ parts.record.scheme ≠ str "file" ∧ parts.Canonical
            ∧ standard.Untouched secret parts.record := by
          constructor
          · rintro (⟨⟨e, herror⟩, -⟩ | rfl | hparts)
            · rw [hparsed] at herror
              cases herror
            · rw [parseUrl_redacted] at hparsed
              rw [← Except.ok.inj hparsed] at hfile
              exact absurd rfl hfile
            · exact hparts
          · exact fun hparts => .inr (.inr hparts)
        rw [hsettled]
        rcases parseUrl_cases hparsed with ⟨parts, rfl, rfl⟩ | hbare
        · rw [← sanitizeUrlBy_of_parseUrl standard secret hparsed, fixed_parts_iff parts hfile]
          constructor
          · rintro ⟨huntouched, hcanonical⟩
            exact ⟨parts, rfl, hfile, hcanonical, huntouched⟩
          · rintro ⟨other, htext, -, hcanonical, huntouched⟩
            have hrecord : other.record = parts.record := by
              rw [← htext, other.parseUrl_text] at hparsed
              exact Except.ok.inj hparsed
            rw [hrecord] at huntouched
            refine ⟨huntouched, parts.toText_writtenBack.eq_iff.mp ?_⟩
            rw [← hrecord, other.toText_writtenBack.eq_iff.mpr hcanonical, htext]
        · constructor
          · rintro ⟨hkept, hurl⟩
            rw [sanitizeParsedBy_url hfile hkept] at hurl
            exact absurd hurl hbare.leftOver_ne
          · rintro ⟨parts, rfl, -⟩
            have hfind := parts.findText_text
            rw [hbare.find] at hfind
            cases hfind

end Fixed

end ContextSnap.Privacy
