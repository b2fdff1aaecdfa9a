import ContextSnap.Proof.WrittenUrl

/-!
# A second pass over a URL

The built-in rules do nothing to what they leave of a URL. What the sanitizer stores is a text, though,
which a second pass reads anew: it changes nothing exactly if what was left is read as it was written.
-/

namespace ContextSnap.Privacy

open Matching (findText)
open Sanitizer

/-! ### The rules on what is left -/

section Rules

variable {secret : Bytes → Bytes → Bool} {url : Bytes} {parsed : ParsedUrl} {rule : Rule}

/-- A rule that excludes a host whatever the path does so behind any other rules. -/
theorem excludedInOrder_of_mem {host : Bytes} {rules : List Rule} (hrule : rule ∈ rules)
    (h : ∀ path, rule.excludes host path = true) (path : Bytes) :
    ExcludedInOrder host rules path := by
  induction rules generalizing path with
  | nil => cases hrule
  | cons first rules ih =>
      rw [ExcludedInOrder]
      rcases List.mem_cons.mp hrule with rfl | hrule
      · exact .inl (h path)
      · exact .inr (ih hrule _)

theorem excludeTab_everywhere : ∀ rule ∈ defaultRules, rule.action = .excludeTab →
    rule.pathPatterns = [] := by
  decide

/-- A URL that is not excluded is of no host that a built-in rule excludes. -/
theorem not_concerns_of_not_excluded (hscheme : parsed.scheme ≠ str "file")
    (h : (standard.sanitizeParsedBy secret url parsed).excluded = false) (hrule : rule ∈ defaultRules)
    (haction : rule.action = .excludeTab) {other : ParsedUrl} (hhost : other.host = parsed.host) :
    ruleConcerns rule other = false := by
  rw [sanitizeParsedBy, if_neg hscheme, standard_isHostBlocked, if_neg Bool.false_ne_true] at h
  by_contra hconcerns
  have hexcludes : ∀ path, rule.excludes parsed.host path = true := by
    intro path
    have hpaths := excludeTab_everywhere rule hrule haction
    have hconcerns : ruleConcerns rule other = true := Bool.not_eq_false _ ▸ hconcerns
    rw [ruleConcerns, hpaths, hhost] at hconcerns
    rw [Rule.excludes, haction, ruleConcerns, hpaths]
    exact hconcerns
  have herror : ∃ ids, standard.rules.foldlM (fun passing rule => applyRule rule passing)
      (standard.strip parsed) = .error ids := by
    rw [foldlM_isError_iff, (strip_url parsed).1, (strip_url parsed).2]
    exact excludedInOrder_of_mem hrule hexcludes _
  obtain ⟨ids, hrun⟩ := herror
  rw [hrun] at h
  cases h

theorem ruleConcerns_leftOver (h : ¬truncates defaultRules parsed = true) (rule : Rule) :
    ruleConcerns rule (leftOver secret parsed) = ruleConcerns rule parsed := by
  have hhost : (leftOver secret parsed).host = parsed.host := rfl
  have hpath : (leftOver secret parsed).path = parsed.path := by rw [path_leftOver, if_neg h]
  exact ruleConcerns_congr hhost hpath rule

/-- No rule that removes parameters finds one of its own. -/
theorem query_leftOver (hrule : rule ∈ defaultRules) (haction : rule.action = .removeParameter)
    (hconcerns : ruleConcerns rule (leftOver secret parsed) = true) :
    (leftOver secret parsed).query.any (fun parameter => containsCi rule.parameters parameter.1)
      = false := by
  apply List.any_eq_false.mpr
  intro parameter hmem hcontains
  have hpassed := (List.mem_filter.mp hmem).1
  rw [passed] at hpassed
  dsimp only at hpassed
  by_cases htruncates : truncates defaultRules parsed = true
  · rw [if_pos htruncates] at hpassed
    cases hpassed
  · rw [if_neg htruncates] at hpassed
    rw [ruleConcerns_leftOver htruncates] at hconcerns
    have hremoves : removes defaultRules parsed parameter.1 = true := by
      apply List.any_eq_true.mpr
      refine ⟨rule, hrule, ?_⟩
      simp [haction, hconcerns, hcontains]
    have hkept := (List.mem_filter.mp hpassed).2
    rw [hremoves] at hkept
    cases hkept

/-- No path is left that a rule would cut. -/
theorem truncated_leftOver (hrule : rule ∈ defaultRules) (haction : rule.action = .truncatePath)
    (hconcerns : ruleConcerns rule (leftOver secret parsed) = true) :
    (leftOver secret parsed).path = [] ∨ (leftOver secret parsed).path = str "/" := by
  by_cases htruncates : truncates defaultRules parsed = true
  · rw [path_leftOver, if_pos htruncates]
    exact .inr rfl
  · rw [ruleConcerns_leftOver htruncates] at hconcerns
    rw [path_leftOver, if_neg htruncates]
    by_contra hlong
    rw [not_or] at hlong
    have hany : defaultRules.any (fun rule => rule.action = .truncatePath && ruleConcerns rule parsed)
        = true :=
      List.any_eq_true.mpr ⟨rule, hrule, by simp [haction, hconcerns]⟩
    exact htruncates (by simp [truncates, hlong.1, hlong.2, hany])

/-- **The built-in rules do nothing to what they leave.** -/
theorem spares_leftOver (hscheme : parsed.scheme ≠ str "file")
    (h : (standard.sanitizeParsedBy secret url parsed).excluded = false)
    (hrule : rule ∈ defaultRules) : rule.spares (leftOver secret parsed) = true := by
  cases hconcerns : ruleConcerns rule (leftOver secret parsed) with
  | false => simp [Rule.spares, hconcerns]
  | true =>
      have hid : rule.id ≠ str "local-files" := by
        intro hid
        simp [ruleConcerns, hid] at hconcerns
      rcases (shortens_defaultRules rule hrule).resolve_left hid with haction | haction | haction
      · simp [Rule.spares, hconcerns, haction, query_leftOver hrule haction hconcerns]
      · simpa [Rule.spares, hconcerns, haction] using truncated_leftOver hrule haction hconcerns
      · have hnot : ruleConcerns rule (leftOver secret parsed) = false :=
          not_concerns_of_not_excluded hscheme h hrule haction rfl
        rw [hconcerns] at hnot
        cases hnot

end Rules

/-! ### Two passes -/

/-- A URL with a scheme and an authority that a second pass reads as it was left: no empty parameter
stands at the end of the query, and where a colon without a port was dropped, the host does not end
with a port that the rules would make a difference for. -/
structure RereadsAlike (secret : Bytes → Bytes → Bool) (parsed : ParsedUrl) : Prop where
  query : (leftOver secret parsed).query.getLast? ≠ some ([], [])
  host : ∀ host port, parsed.port = [] → 93 ∉ parsed.host →
    splitLast 58 parsed.host = some (host, port) → port ≠ []
      ∧ ∀ rule ∈ defaultRules, rule.spares { leftOver secret parsed with host, port } = true

section Passes

variable {secret : Bytes → Bytes → Bool} {url : Bytes} {parsed : ParsedUrl}

theorem untouched_standard_iff (huserinfo : parsed.userinfo = []) (hfragment : parsed.fragment = [])
    (hsecret : ∀ parameter ∈ parsed.query, secret parameter.1 parameter.2 = false) :
    standard.Untouched secret parsed ↔ ∀ rule ∈ defaultRules, rule.spares parsed = true := by
  constructor
  · exact fun h => h.rules
  · intro h
    exact ⟨rfl, fun _ => huserinfo, fun _ => hfragment, (fun hoption => by cases hoption), h, hsecret⟩

theorem rereadHost_cases (host port : Bytes) :
    rereadHost host port = (host, port)
      ∨ (port = [] ∧ 93 ∉ host ∧ splitLast 58 host = some (rereadHost host port)) := by
  rw [rereadHost]
  by_cases hport : port = []
  · rw [if_pos hport, hport]
    rcases hostAndPort_cases host with ⟨hread, -⟩ | ⟨hbracket, hcolon, htext⟩
    · exact .inl hread
    · refine .inr ⟨rfl, hbracket, ?_⟩
      have hsplit := splitLast_append hcolon (hostAndPort host).1
      rwa [← htext] at hsplit
  · rw [if_neg hport]
    exact .inl rfl

theorem rereadHost_of_splitLast {host front back : Bytes} (hbracket : 93 ∉ host)
    (hsplit : splitLast 58 host = some (front, back)) : rereadHost host [] = (front, back) := by
  rw [rereadHost, if_pos rfl, hostAndPort, if_neg hbracket, hsplit, Option.getD_some]

theorem settled_leftOver_iff (parts : UrlParts) (hne : parts.scheme ≠ [])
    (hscheme : parts.record.scheme ≠ str "file")
    (h : (standard.sanitizeParsedBy secret url parts.record).excluded = false) :
    Settled secret (leftOver secret parts.record).toText ↔ RereadsAlike secret parts.record := by
  have hrecord : (parts.written secret).record.scheme ≠ str "file" := by
    rwa [parts.scheme_record_written secret]
  rw [← fixed_iff, ← parts.text_written secret hne, fixed_parts_iff _ hrecord,
    parts.canonical_written_iff secret hne]
  constructor
  · rintro ⟨huntouched, hlast, hhost⟩
    rw [parts.record_written secret, rereadQuery, if_neg hlast] at huntouched
    refine ⟨hlast, ?_⟩
    intro host port hport hbracket hsplit
    have hread := rereadHost_of_splitLast hbracket hsplit
    rw [hport, hread] at huntouched
    refine ⟨?_, huntouched.rules⟩
    rintro rfl
    exact (keptHost_hostText _).mp hhost hport hbracket host hsplit
  · intro halike
    refine ⟨?_, halike.query, (keptHost_hostText _).mpr ?_⟩
    · rw [parts.record_written secret, rereadQuery, if_neg halike.query,
        untouched_standard_iff rfl rfl]
      · intro rule hrule
        rcases rereadHost_cases parts.record.host parts.record.port with
          hsame | ⟨hport, hbracket, hsplit⟩
        · rw [hsame]
          exact spares_leftOver hscheme h hrule
        · exact (halike.host _ _ hport hbracket hsplit).2 rule hrule
      · intro parameter hmem
        simpa using (List.mem_filter.mp hmem).2
    · intro hport hbracket host hsplit
      exact (halike.host host [] hport hbracket hsplit).1 rfl

theorem findText_of_not_mem {c : UInt8} {front : Bytes} (h : c ∉ front) (needle : Bytes) :
    findText (c :: needle) (front ++ c :: needle) = some front.length := by
  induction front with
  | nil => rw [List.nil_append, findText, if_pos (by simp)]; rfl
  | cons b front ih =>
      have hne : (c == b) = false := beq_eq_false_iff_ne.mpr (List.ne_of_not_mem_cons h)
      have hprefix : (c :: needle).isPrefixOf (b :: (front ++ c :: needle)) = false := by
        simp [List.isPrefixOf, hne]
      rw [List.cons_append, findText, hprefix, if_neg Bool.false_ne_true,
        ih (List.not_mem_of_not_mem_cons h)]
      rfl

theorem keptAuthority_nil : KeptAuthority [] where
  userinfo := fun _ hsplit => by cases hsplit
  host := { host := rfl, port := fun _ _ hsplit => by cases hsplit }

/-- Behind an opaque URL with its path cut, nothing is left to do. -/
theorem settled_of_truncated (hbare : Opaque url parsed) (hscheme : parsed.scheme ≠ str "file")
    (h : (standard.sanitizeParsedBy secret url parsed).excluded = false)
    (htruncates : truncates defaultRules parsed = true) :
    Settled secret (leftOver secret parsed).toText := by
  have hspares : ∀ rule ∈ defaultRules, rule.spares (leftOver secret parsed) = true :=
    fun rule hrule => spares_leftOver hscheme h hrule
  rw [hbare.toText_leftOver, path_leftOver, if_pos htruncates]
  by_cases hnil : parsed.scheme = []
  · rw [if_pos hnil]
    exact .inl ⟨⟨_, rfl⟩, by decide⟩
  rw [if_neg hnil]
  obtain ⟨scheme, path, -, hcolon, -, rfl⟩ := hbare.read
  have hfirst : findText (str "://") (lower scheme ++ str "://") = some (lower scheme).length :=
    findText_of_not_mem (fun hmem => hcolon (mem_of_mem_lower (.inl (by decide)) hmem)) _
  let parts : UrlParts :=
    { scheme := lower scheme, authority := [], path := str "/", scheme_first := hfirst
      authority_plain := fun c hc => absurd hc List.not_mem_nil
      path_start := .inr rfl, path_plain := by decide
      query_plain := fun query hquery => by cases hquery }
  have hrecord : parts.record = leftOver secret { scheme := lower scheme, path } := by
    have hleft : leftOver secret { scheme := lower scheme, path }
        = { scheme := lower scheme, path := str "/" } := by
      simp [leftOver, passed, htruncates]
    have hread : parts.record = { scheme := lower (lower scheme), path := str "/" } := rfl
    rw [hleft, hread, lower_lower]
  refine .inr (.inr ⟨parts, ?_, ?_, ?_, ?_⟩)
  · change lower scheme ++ str "://" ++ [] ++ str "/" ++ [] ++ [] = _
    simp only [List.append_nil]
  · rwa [hrecord]
  · refine ⟨hnil, lower_lower _, keptAuthority_nil, ?_, ?_⟩
    · exact fun query hquery => by cases hquery
    · exact fun hfragment => by cases hfragment
  · rw [hrecord]
    refine (untouched_standard_iff rfl rfl ?_).mpr hspares
    intro parameter hmem
    simpa using (List.mem_filter.mp hmem).2

theorem settled_opaque_iff (hbare : Opaque url parsed) (hscheme : parsed.scheme ≠ str "file")
    (h : (standard.sanitizeParsedBy secret url parsed).excluded = false) :
    Settled secret (leftOver secret parsed).toText
      ↔ truncates defaultRules parsed = true
        ∨ if parsed.scheme = [] then 63 ∉ parsed.path ∧ ∃ e, parseUrl parsed.path = .error e
          else Settled secret (parsed.scheme ++ str "://" ++ parsed.path) := by
  by_cases htruncates : truncates defaultRules parsed = true
  · exact iff_of_true (settled_of_truncated hbare hscheme h htruncates) (.inl htruncates)
  rw [or_iff_right htruncates]
  obtain ⟨scheme, path, hurl, -, -, rfl⟩ := hbare.read
  have htext : (leftOver secret { scheme := lower scheme, path }).toText
      = (if lower scheme = [] then [] else lower scheme ++ str "://") ++ path := by
    rw [hbare.toText_leftOver, path_leftOver, if_neg htruncates]
  rw [htext]
  by_cases hnil : lower scheme = []
  · rw [if_pos hnil, if_pos hnil, List.nil_append]
    -- There is no mark of an authority in the path, either.
    have hnone : findText (str "://") path = none := by
      cases hfind : findText (str "://") path with
      | none => rfl
      | some n =>
          have hpath := (findText_inv hfind).1
          have hmark := findText_ne_none (scheme ++ 58 :: path.take n) (str "://")
            (path.drop (n + (str "://").length))
          rw [← List.append_assoc, List.append_assoc scheme, List.cons_append, List.append_assoc,
            List.cons_append, ← hpath, ← hurl] at hmark
          exact absurd hbare.find hmark
    constructor
    · rintro (⟨herror, hquestion⟩ | rfl | ⟨parts, rfl, -⟩)
      · exact ⟨hquestion, herror⟩
      · cases hnone
      · rw [parts.findText_text] at hnone
        cases hnone
    · rintro ⟨hquestion, herror⟩
      exact .inl ⟨herror, hquestion⟩
  · rw [if_neg hnil, if_neg hnil]

/-- Whether what is left of a URL is read as it was written. An opaque URL gets the mark of an
authority, and one without a scheme has none in front of what is left of it. -/
def LeftAsRead (secret : Bytes → Bytes → Bool) (url : Bytes) (parsed : ParsedUrl) : Prop :=
  if (findText (str "://") url).isSome then
    if parsed.scheme = [] then
      Settled secret (hostText parsed.host parsed.port ++ (leftOver secret parsed).path
        ++ queryText (leftOver secret parsed).query)
    else RereadsAlike secret parsed
  else truncates defaultRules parsed = true
    ∨ if parsed.scheme = [] then 63 ∉ parsed.path ∧ ∃ e, parseUrl parsed.path = .error e
      else Settled secret (parsed.scheme ++ str "://" ++ parsed.path)

theorem settled_iff_leftAsRead (hparsed : parseUrl url = .ok parsed)
    (hscheme : parsed.scheme ≠ str "file")
    (h : (standard.sanitizeParsedBy secret url parsed).excluded = false) :
    Settled secret (leftOver secret parsed).toText ↔ LeftAsRead secret url parsed := by
  rw [LeftAsRead]
  rcases parseUrl_cases hparsed with ⟨parts, rfl, rfl⟩ | hbare
  · rw [parts.findText_text, if_pos Option.isSome_some]
    by_cases hnil : parts.scheme = []
    · rw [if_pos (parts.record_scheme_eq_nil.mpr hnil), parts.toText_leftOver_bare secret hnil]
    · rw [if_neg (mt parts.record_scheme_eq_nil.mp hnil)]
      exact settled_leftOver_iff parts hnil hscheme h
  · have hnone : ¬(findText (str "://") url).isSome = true := by
      rw [hbare.find]
      exact Bool.false_ne_true
    rw [if_neg hnone]
    exact settled_opaque_iff hbare hscheme h

end Passes

/-- A pass of the standard sanitizer, with any test of values for the one on their entropy. -/
def pass (secret : Bytes → Bool) (url : Bytes) : SanitizeResult :=
  standard.sanitizeUrlBy (fun _ => secret) url

theorem sanitizeUrl_standard (url : Bytes) :
    standard.sanitizeUrl url = pass (standard.looksLikeSecret []) url := rfl

/-- **A second pass** changes nothing exactly if what the first one left is read as it was written. -/
theorem pass_pass_iff (secret : Bytes → Bool) {url : Bytes} (h : (pass secret url).excluded = false) :
    ((pass secret (pass secret url).url).excluded = false
        ∧ (pass secret (pass secret url).url).url = (pass secret url).url)
      ↔ ∀ parsed, parseUrl url = .ok parsed → parsed.scheme ≠ str "file" →
        LeftAsRead (fun _ => secret) url parsed := by
  have hsettled : ((pass secret (pass secret url).url).excluded = false
        ∧ (pass secret (pass secret url).url).url = (pass secret url).url)
      ↔ Settled (fun _ => secret) (pass secret url).url := fixed_iff _ _
  rw [hsettled]
  cases hparsed : parseUrl url with
  | error e =>
      have hurl : (pass secret url).url = url ∧ 63 ∉ url := by
        rw [pass, sanitizeUrlBy, hparsed] at h ⊢
        by_cases hnil : url = []
        · rw [if_pos hnil, hnil]
          exact ⟨rfl, List.not_mem_nil⟩
        · rw [if_neg hnil] at h ⊢
          exact ⟨rfl, of_decide_eq_false h⟩
      rw [hurl.1]
      refine iff_of_true (.inl ⟨⟨e, hparsed⟩, hurl.2⟩) ?_
      intro parsed hok
      cases hok
  | ok parsed =>
      rw [pass, sanitizeUrlBy_of_parseUrl standard _ hparsed] at h
      have hurl : (pass secret url).url
          = (standard.sanitizeParsedBy (fun _ => secret) url parsed).url := by
        rw [pass, sanitizeUrlBy_of_parseUrl standard _ hparsed]
      rw [hurl]
      by_cases hfile : parsed.scheme = str "file"
      · rw [sanitizeParsedBy, if_pos hfile]
        refine iff_of_true (.inr (.inl rfl)) ?_
        intro other hother hscheme
        rw [← Except.ok.inj hother] at hscheme
        exact absurd hfile hscheme
      · rw [sanitizeParsedBy_url hfile h, settled_iff_leftAsRead hparsed hfile h]
        constructor
        · intro hleft other hother _
          rwa [← Except.ok.inj hother]
        · intro hall
          exact hall parsed rfl hfile

theorem pass_pass_iff_search :
    (pass (fun _ => false) (str "https://a.example/search?q=tea")).excluded = false
      ∧ ((pass (fun _ => false)
            (pass (fun _ => false) (str "https://a.example/search?q=tea")).url).excluded = false
          ∧ (pass (fun _ => false)
              (pass (fun _ => false) (str "https://a.example/search?q=tea")).url).url
            = (pass (fun _ => false) (str "https://a.example/search?q=tea")).url
        ↔ ∀ parsed, parseUrl (str "https://a.example/search?q=tea") = .ok parsed →
          parsed.scheme ≠ str "file" →
          LeftAsRead (fun _ _ => false) (str "https://a.example/search?q=tea") parsed) := by
  have hkept : (pass (fun _ => false) (str "https://a.example/search?q=tea")).excluded = false := by
    decide
  exact ⟨hkept, pass_pass_iff _ hkept⟩

/-- A mail address becomes the userinfo of a host, which the next pass strips. -/
theorem not_pass_pass :
    ¬∀ (secret : Bytes → Bool) (url : Bytes), (pass secret url).excluded = false →
      (pass secret (pass secret url).url).excluded = false
        ∧ (pass secret (pass secret url).url).url = (pass secret url).url := by
  intro h
  have hmail := (h (fun _ => false) (str "mailto:x@y.com") (by decide)).2
  revert hmail
  decide

end ContextSnap.Privacy
