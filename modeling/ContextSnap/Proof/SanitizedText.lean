import ContextSnap.Proof.EnforcedPolicy

/-!
# Texts that the sanitizer writes

Which texts are the URL of some result of the sanitizer, which of them it does not exclude, and which
URLs leave such a text behind when a tab is stored.
-/

namespace ContextSnap.Privacy

open Matching (findText)
open Sanitizer

/-- The URL of what the sanitizer makes of some URL that it does not exclude. -/
def GivenBack (url : Bytes) : Prop :=
  ∃ input, (standard.sanitizeUrl input).excluded = false ∧ (standard.sanitizeUrl input).url = url

/-- A URL that the sanitizer has written and does not exclude. -/
structure Sanitized (url : Bytes) : Prop where
  givenBack : GivenBack url
  kept : (standard.sanitizeUrl url).excluded = false

/-! ### Records that are read -/

/-- What a URL with an authority, but without userinfo and fragment, is read as. -/
structure PlainRecord (record : ParsedUrl) : Prop where
  rest : record.userinfo = [] ∧ record.fragment = []
  scheme : findText (str "://") (record.scheme ++ str "://") = some record.scheme.length
    ∧ lower record.scheme = record.scheme
  host : lower record.host = record.host
  authority : ∀ c ∈ hostText record.host record.port, c ≠ 47 ∧ c ≠ 63 ∧ c ≠ 35 ∧ c ≠ 64
  port : record.port ≠ [] → 93 ∉ hostText record.host record.port ∧ 58 ∉ record.port
  path : (record.path = [] ∨ record.path.head? = some 47) ∧ 63 ∉ record.path ∧ 35 ∉ record.path
  query : ∀ parameter ∈ record.query, PlainParameter parameter

/-- What an opaque URL is read as. -/
structure OpaqueRecord (record : ParsedUrl) : Prop where
  rest : record = { scheme := record.scheme, path := record.path }
  scheme : 58 ∉ record.scheme ∧ 47 ∉ record.scheme ∧ lower record.scheme = record.scheme
  find : findText (str "://") (record.scheme ++ 58 :: record.path) = none

section Records

variable {record : ParsedUrl}

/-- An authority that is read as this host and port: a colon behind the host keeps the others in
it. -/
def authorityOf (host port : Bytes) : Bytes :=
  if port = [] ∧ 93 ∈ host then host else host ++ 58 :: port

theorem hostAndPort_authorityOf {host port : Bytes}
    (hport : port ≠ [] → 93 ∉ hostText host port ∧ 58 ∉ port) :
    hostAndPort (authorityOf host port) = (host, port) := by
  rw [authorityOf]
  by_cases hbracket : port = [] ∧ 93 ∈ host
  · rw [if_pos hbracket, hostAndPort, if_pos hbracket.2, hbracket.1]
  · have hplain : 93 ∉ host ++ 58 :: port ∧ 58 ∉ port := by
      by_cases hnil : port = []
      · have hhost : 93 ∉ host := fun hmem => hbracket ⟨hnil, hmem⟩
        simp [hnil, hhost]
      · have htext := hport hnil
        rw [hostText, marked, if_neg hnil] at htext
        exact htext
    rw [if_neg hbracket, hostAndPort, if_neg hplain.1, splitLast_append hplain.2,
      Option.getD_some]

theorem mem_authorityOf {host port : Bytes} {c : UInt8} (h : c ∈ authorityOf host port) :
    c ∈ hostText host port ∨ c = 58 := by
  rw [authorityOf] at h
  rw [hostText, marked]
  by_cases hnil : port = []
  · rw [if_pos hnil, List.append_nil]
    split_ifs at h
    · exact .inl h
    · simpa [hnil] using h
  · rw [if_neg fun hbracket => hnil hbracket.1] at h
    rw [if_neg hnil]
    exact .inl h

/-- Every such record is read from some text. -/
theorem PlainRecord.exists_text (h : PlainRecord record) :
    ∃ text, parseUrl text = .ok record := by
  have hplain : ∀ c ∈ authorityOf record.host record.port,
      c ≠ 47 ∧ c ≠ 63 ∧ c ≠ 35 ∧ c ≠ 64 := by
    intro c hc
    rcases mem_authorityOf hc with hmem | rfl
    · exact h.authority c hmem
    · decide
  have hseparate := PlainParameter.not_mem_parameterText h.query
  let parts : UrlParts :=
    { scheme := record.scheme, authority := authorityOf record.host record.port
      path := record.path
      query := some (List.intercalate [38] (record.query.map parameterText ++ [[]]))
      scheme_first := h.scheme.1
      authority_plain := fun c hc => ⟨(hplain c hc).1, (hplain c hc).2.1, (hplain c hc).2.2.1⟩
      path_start := h.path.1, path_plain := h.path.2
      query_plain := by
        intro query hquery
        rw [← Option.some.inj hquery]
        apply not_mem_intercalate (by decide)
        intro part hpart
        rcases List.mem_append.mp hpart with hmem | hnil
        · exact (hseparate part hmem).1
        · rw [List.mem_singleton.mp hnil]
          exact List.not_mem_nil }
  refine ⟨parts.text, parts.parseUrl_text.trans (congrArg Except.ok ?_)⟩
  have hat : 64 ∉ authorityOf record.host record.port := fun hmem => (hplain 64 hmem).2.2.2 rfl
  have hauthority : parseAuthority (authorityOf record.host record.port)
      = ([], record.host, record.port) := by
    rw [parseAuthority_eq, userinfoAndRest, splitLast_none hat, Option.getD_none,
      hostAndPort_authorityOf h.port, h.host]
  have hquery : (ampersandParts
      (List.intercalate [38] (record.query.map parameterText ++ [[]]))).map parseParameter
        = record.query := by
    rw [ampersandParts_ended fun part hpart => (hseparate part hpart).2, List.map_map]
    have hsame : record.query.map (parseParameter ∘ parameterText) = record.query.map id :=
      List.map_congr_left fun p hmem => (h.query p hmem).parseParameter_parameterText
    rw [hsame, List.map_id]
  have hread : parts.record = { scheme := lower record.scheme
                                userinfo := (parseAuthority (authorityOf record.host record.port)).1
                                host := (parseAuthority (authorityOf record.host record.port)).2.1
                                port := (parseAuthority (authorityOf record.host record.port)).2.2
                                path := record.path
                                query := (ampersandParts (List.intercalate [38]
                                  (record.query.map parameterText ++ [[]]))).map parseParameter
                                fragment := [] } := rfl
  rw [hread, hauthority, hquery, h.scheme.2]
  obtain ⟨scheme, userinfo, host, port, path, query, fragment⟩ := record
  obtain ⟨huserinfo, hfragment⟩ := h.rest
  dsimp only at huserinfo hfragment ⊢
  rw [huserinfo, hfragment]

theorem OpaqueRecord.exists_text (h : OpaqueRecord record) :
    ∃ text, parseUrl text = .ok record := by
  refine ⟨record.scheme ++ 58 :: record.path, ?_⟩
  have hne : record.scheme ++ 58 :: record.path ≠ [] := by simp
  rw [parseUrl, if_neg hne]
  simp only [h.find, splitFirst_append h.scheme.1]
  rw [if_neg h.scheme.2.1, h.scheme.2.2, ← h.rest]

end Records

/-! ### What is written -/

/-- A text as a pass writes it: no URL and without a question mark, a local file without its path, or
what was read of a URL that nothing of the sanitizer touches. -/
def Written (text : Bytes) : Prop :=
  ((∃ e, parseUrl text = .error e) ∧ 63 ∉ text) ∨ text = str "file:///[redacted]"
    ∨ ∃ record, (PlainRecord record ∨ OpaqueRecord record) ∧ record.scheme ≠ str "file"
      ∧ standard.Untouched standard.looksLikeSecret record ∧ record.toText = text

section WrittenTexts

variable {secret : Bytes → Bytes → Bool} {url : Bytes} {parsed : ParsedUrl}

theorem UrlParts.plainRecord_leftOver (parts : UrlParts) :
    PlainRecord (leftOver secret parts.record) := by
  refine ⟨⟨rfl, rfl⟩, ⟨(parts.written secret).scheme_first, lower_lower _⟩, lower_lower _, ?_, ?_,
    ⟨parts.leftOver_path_start secret, parts.leftOver_path_plain secret⟩,
    parts.leftOver_query_plain secret⟩
  · intro c hc
    obtain ⟨hslash, hquestion, hhash⟩ := parts.host_plain c hc
    exact ⟨hslash, hquestion, hhash, ne_of_mem_of_not_mem hc parts.at_not_mem_host⟩
  · intro hport
    rcases hostAndPort_cases (userinfoAndRest parts.authority).2 with
      ⟨hread, -⟩ | ⟨hbracket, hcolon, -⟩
    · exact absurd (congrArg Prod.snd hread) hport
    · exact ⟨fun hmem => hbracket (mem_of_mem_hostText (by decide) (by decide) hmem), hcolon⟩

theorem Opaque.opaqueRecord_leftOver (h : Opaque url parsed) :
    OpaqueRecord (leftOver secret parsed) := by
  obtain ⟨scheme, path, rfl, hcolon, hslash, rfl⟩ := h.read
  have hlowered : ∀ c : UInt8, c < 97 → c ∉ scheme → c ∉ lower scheme :=
    fun c hc hnot hmem => hnot (mem_of_mem_lower (.inl hc) hmem)
  refine ⟨by simp [leftOver, passed], ⟨hlowered 58 (by decide) hcolon,
    hlowered 47 (by decide) hslash, lower_lower _⟩, ?_⟩
  change findText (str "://") (lower scheme ++ 58 :: (leftOver secret _).path) = none
  rw [path_leftOver]
  by_cases htruncates : truncates defaultRules { scheme := lower scheme, path } = true
  · -- A single slash is left.
    rw [if_pos htruncates]
    by_contra hfound
    obtain ⟨n, hfind⟩ := Option.ne_none_iff_exists'.mp hfound
    have hcount := congrArg (List.count 47) (findText_inv hfind).1
    have hnone : List.count 47 (lower scheme) = 0 :=
      List.count_eq_zero.mpr (hlowered 47 (by decide) hslash)
    rw [List.count_append, List.count_append, List.count_append, hnone] at hcount
    have hone : List.count 47 (58 :: str "/") = 1 := by decide
    have htwo : List.count 47 (str "://") = 2 := by decide
    omega
  · rw [if_neg htruncates]
    have hsame : lower (lower scheme ++ 58 :: path) = lower (scheme ++ 58 :: path) := by
      rw [lower_append, lower_append, lower_lower]
    rw [← findText_lower mark_low, hsame, findText_lower mark_low]
    exact h.find

/-- **What is given back** is what a pass writes of what nothing touches. -/
theorem givenBack_iff_written (text : Bytes) : GivenBack text ↔ Written text := by
  constructor
  · rintro ⟨url, hkept, rfl⟩
    cases hparsed : parseUrl url with
    | error e =>
        have hpass := sanitizeUrlBy_of_error standard.looksLikeSecret hparsed
        rw [sanitizeUrl_eq] at hkept ⊢
        rw [hpass.1]
        exact .inl ⟨⟨e, hparsed⟩, hpass.2.mp hkept⟩
    | ok parsed =>
        rw [sanitizeUrl_eq, sanitizeUrlBy_of_parseUrl standard _ hparsed] at hkept ⊢
        by_cases hfile : parsed.scheme = str "file"
        · rw [sanitizeParsedBy, if_pos hfile]
          exact .inr (.inl rfl)
        · rw [sanitizeParsedBy_url hfile hkept]
          refine .inr (.inr ⟨leftOver standard.looksLikeSecret parsed, ?_, hfile, ?_, rfl⟩)
          · rcases parseUrl_cases hparsed with ⟨parts, -, rfl⟩ | hbare
            · exact .inl parts.plainRecord_leftOver
            · exact .inr hbare.opaqueRecord_leftOver
          · rw [untouched_standard_iff rfl rfl]
            · exact fun rule hrule => spares_leftOver hfile hkept hrule
            · intro parameter hmem
              simpa using (List.mem_filter.mp hmem).2
  · rintro (⟨⟨e, herror⟩, hquestion⟩ | rfl | ⟨record, hrecord, hscheme, huntouched, rfl⟩)
    · exact ⟨text, (fixed_iff _ _).mpr (.inl ⟨⟨e, herror⟩, hquestion⟩)⟩
    · exact ⟨_, (fixed_iff _ _).mpr (.inr (.inl rfl))⟩
    · obtain ⟨input, hinput⟩ : ∃ input, parseUrl input = .ok record := by
        rcases hrecord with hplain | hopaque
        · exact hplain.exists_text
        · exact hopaque.exists_text
      have hpass : standard.sanitizeUrl input = { url := record.toText } := by
        rw [sanitizeUrl_eq, sanitizeUrlBy_of_parseUrl standard _ hinput]
        exact sanitizeParsedBy_of_untouched hscheme huntouched input
      exact ⟨input, by rw [hpass], by rw [hpass]⟩

end WrittenTexts

/-! ### What is not excluded -/

/-- A host whose tabs no built-in rule excludes. -/
def KeepsHost (host : Bytes) : Prop :=
  ∀ rule ∈ defaultRules, rule.action = .excludeTab → ruleConcerns rule { host } = false

/-- A text that a pass does not exclude. -/
structure KeepsUrl (url : Bytes) : Prop where
  unread : ∀ e, parseUrl url = .error e → 63 ∉ url
  host : ∀ parsed, parseUrl url = .ok parsed → parsed.scheme ≠ str "file" →
    KeepsHost parsed.host

theorem exists_of_excludedInOrder {host : Bytes} {rules : List Rule} {path : Bytes}
    (h : ExcludedInOrder host rules path) :
    ∃ rule ∈ rules, ∃ reached, rule.excludes host reached = true := by
  induction rules generalizing path with
  | nil => exact h.elim
  | cons first rules ih =>
      rcases h with hfirst | hrest
      · exact ⟨first, List.mem_cons_self, path, hfirst⟩
      · obtain ⟨rule, hrule, hexcludes⟩ := ih hrest
        exact ⟨rule, List.mem_cons_of_mem _ hrule, hexcludes⟩

section Kept

variable {secret : Bytes → Bytes → Bool} {url : Bytes} {parsed : ParsedUrl}

/-- The built-in rules exclude by the host alone. -/
theorem kept_iff_keepsHost (hscheme : parsed.scheme ≠ str "file") :
    (standard.sanitizeParsedBy secret url parsed).excluded = false ↔ KeepsHost parsed.host := by
  constructor
  · intro h rule hrule haction
    exact not_concerns_of_not_excluded hscheme h hrule haction rfl
  · intro h
    rw [sanitizeParsedBy, if_neg hscheme, standard_isHostBlocked, if_neg Bool.false_ne_true]
    cases hrun : standard.rules.foldlM (fun passing rule => applyRule rule passing)
        (standard.strip parsed) with
    | ok passing => rfl
    | error ids =>
        have horder := (foldlM_isError_iff _ _).mp ⟨ids, hrun⟩
        rw [(strip_url parsed).1, (strip_url parsed).2] at horder
        obtain ⟨rule, hrule, path, hexcludes⟩ := exists_of_excludedInOrder horder
        obtain ⟨haction, hconcerns⟩ := Bool.and_eq_true_iff.mp hexcludes
        have hpaths := excludeTab_everywhere rule hrule (of_decide_eq_true haction)
        have hanywhere : ruleConcerns rule { host := parsed.host, path }
            = ruleConcerns rule { host := parsed.host } := by
          rw [ruleConcerns, ruleConcerns, hpaths]
          rfl
        rw [hanywhere, h rule hrule (of_decide_eq_true haction)] at hconcerns
        cases hconcerns

theorem keepsHost_nil : KeepsHost [] := by
  unfold KeepsHost
  decide

theorem kept_iff_keepsUrl (url : Bytes) :
    (standard.sanitizeUrl url).excluded = false ↔ KeepsUrl url := by
  cases hparsed : parseUrl url with
  | error e =>
      rw [sanitizeUrl_eq, (sanitizeUrlBy_of_error _ hparsed).2]
      constructor
      · intro h
        refine ⟨fun _ _ => h, fun parsed hok => ?_⟩
        rw [hparsed] at hok
        cases hok
      · exact fun h => h.unread e hparsed
  | ok parsed =>
      rw [sanitizeUrl_eq, sanitizeUrlBy_of_parseUrl standard _ hparsed]
      by_cases hfile : parsed.scheme = str "file"
      · rw [sanitizeParsedBy, if_pos hfile]
        refine iff_of_true rfl ⟨fun e herror => ?_, fun other hother hne => ?_⟩
        · rw [hparsed] at herror
          cases herror
        · rw [hparsed] at hother
          exact absurd (Except.ok.inj hother ▸ hfile) hne
      · rw [kept_iff_keepsHost hfile]
        constructor
        · intro h
          refine ⟨fun e herror => ?_, fun other hother _ => ?_⟩
          · rw [hparsed] at herror
            cases herror
          · rw [hparsed] at hother
            exact Except.ok.inj hother ▸ h
        · exact fun h => h.host parsed hparsed hfile

/-- **What may be stored** is written by a pass and not excluded by one. -/
theorem sanitized_iff_written (url : Bytes) : Sanitized url ↔ Written url ∧ KeepsUrl url := by
  rw [← givenBack_iff_written, ← kept_iff_keepsUrl]
  exact ⟨fun h => ⟨h.givenBack, h.kept⟩, fun h => ⟨h.1, h.2⟩⟩

end Kept

/-! ### What is stored -/

/-- Whether what a pass leaves of a URL that it touches is not excluded by another one. What is left
of an opaque URL has no host. -/
def KeepsRewritten (url : Bytes) (parsed : ParsedUrl) : Prop :=
  (findText (str "://") url).isSome = true →
    if parsed.scheme = [] then
      KeepsUrl (hostText parsed.host parsed.port
        ++ (leftOver standard.looksLikeSecret parsed).path
        ++ queryText (leftOver standard.looksLikeSecret parsed).query)
    else KeepsHost (rereadHost parsed.host parsed.port).1

/-- Whether what is stored of a URL may be stored. A URL that nothing touches is stored as it came,
not as the sanitizer writes it. -/
structure LeavesSanitized (url : Bytes) (parsed : ParsedUrl) : Prop where
  untouched : parsed.scheme ≠ str "file" →
    standard.Untouched standard.looksLikeSecret parsed → Written url
  rewritten : parsed.scheme ≠ str "file" →
    ¬standard.Untouched standard.looksLikeSecret parsed → KeepsRewritten url parsed

section Stored

variable {url : Bytes} {parsed : ParsedUrl}

theorem keepsUrl_leftOver_iff (hparsed : parseUrl url = .ok parsed)
    (hscheme : parsed.scheme ≠ str "file")
    (hkept : (standard.sanitizeParsedBy standard.looksLikeSecret url parsed).excluded = false)
    (htouched : ¬standard.Untouched standard.looksLikeSecret parsed) :
    KeepsUrl (leftOver standard.looksLikeSecret parsed).toText ↔ KeepsRewritten url parsed := by
  rw [KeepsRewritten]
  rcases parseUrl_cases hparsed with ⟨parts, rfl, rfl⟩ | hbare
  · rw [parts.findText_text, imp_iff_right Option.isSome_some]
    by_cases hnil : parts.scheme = []
    · rw [if_pos (parts.record_scheme_eq_nil.mpr hnil), parts.toText_leftOver_bare _ hnil]
    · have hwritten : (parts.written standard.looksLikeSecret).record.scheme ≠ str "file" := by
        rwa [parts.scheme_record_written standard.looksLikeSecret]
      rw [if_neg (mt parts.record_scheme_eq_nil.mp hnil), ← parts.text_written _ hnil,
        ← kept_iff_keepsUrl, sanitizeUrl_eq,
        sanitizeUrlBy_of_parseUrl _ _ (UrlParts.parseUrl_text _), kept_iff_keepsHost hwritten,
        parts.record_written]
  · have hcut := hbare.truncates_of_touched hscheme hkept htouched
    have hnone : ¬(findText (str "://") url).isSome = true := by
      rw [hbare.find]
      exact Bool.false_ne_true
    refine iff_of_true ?_ fun hsome => absurd hsome hnone
    rw [← kept_iff_keepsUrl, hbare.toText_leftOver, path_leftOver, if_pos hcut]
    by_cases hnil : parsed.scheme = []
    · rw [if_pos hnil]
      decide
    · have hread := hbare.parseUrl_cut hnil
      have hcutScheme : ({ scheme := parsed.scheme, path := str "/" } : ParsedUrl).scheme
          ≠ str "file" := hscheme
      rw [if_neg hnil, sanitizeUrl_eq, sanitizeUrlBy_of_parseUrl _ _ hread]
      exact (kept_iff_keepsHost hcutScheme).mpr keepsHost_nil

/-- **What is stored of a URL** may be stored exactly if the URL leaves it so by its parts. -/
theorem sanitized_storedUrl_iff (hkept : (standard.sanitizeUrl url).excluded = false) :
    Sanitized (storedUrl url)
      ↔ ∀ parsed, parseUrl url = .ok parsed → LeavesSanitized url parsed := by
  have hurl := (kept_iff_keepsUrl url).mp hkept
  rw [sanitized_iff_written]
  cases hparsed : parseUrl url with
  | error e =>
      rw [storedUrl_of_error hparsed]
      exact iff_of_true ⟨.inl ⟨⟨e, hparsed⟩, hurl.unread e hparsed⟩, hurl⟩
        fun parsed hok => by cases hok
  | ok parsed =>
      rw [forall_parsed_iff]
      rw [sanitizeUrl_eq, sanitizeUrlBy_of_parseUrl standard _ hparsed] at hkept
      by_cases hfile : parsed.scheme = str "file"
      · rw [storedUrl_of_file hparsed hfile]
        have hredacted : KeepsUrl (str "file:///[redacted]") := by
          rw [← kept_iff_keepsUrl]
          decide
        exact iff_of_true ⟨.inr (.inl rfl), hredacted⟩
          ⟨fun hne => absurd hfile hne, fun hne => absurd hfile hne⟩
      · by_cases huntouched : standard.Untouched standard.looksLikeSecret parsed
        · rw [storedUrl_of_untouched hparsed hfile huntouched]
          constructor
          · exact fun h => ⟨fun _ _ => h.1, fun _ hne => absurd huntouched hne⟩
          · exact fun h => ⟨h.untouched hfile huntouched, hurl⟩
        · have hwritten : Written (leftOver standard.looksLikeSecret parsed).toText := by
            rw [← givenBack_iff_written]
            refine ⟨url, ?_, ?_⟩
            · exact (kept_iff_keepsUrl url).mpr hurl
            · rw [sanitizeUrl_eq, sanitizeUrlBy_of_parseUrl standard _ hparsed,
                sanitizeParsedBy_url hfile hkept]
          have hagain := keepsUrl_leftOver_iff hparsed hfile hkept huntouched
          rw [storedUrl_of_touched hparsed hfile hkept huntouched]
          constructor
          · exact fun h => ⟨fun _ heq => absurd heq huntouched, fun _ _ => hagain.mp h.2⟩
          · exact fun h => ⟨hwritten, hagain.mpr (h.rewritten hfile huntouched)⟩

end Stored

end ContextSnap.Privacy
