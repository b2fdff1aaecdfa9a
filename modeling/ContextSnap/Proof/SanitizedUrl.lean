import ContextSnap.Lib.Fold
import ContextSnap.Privacy.Sanitizer
import ContextSnap.Proof.UrlText

/-!
# What the built-in rules leave of a URL

The rules without host patterns name the parameters that are secret wherever they occur. First what
the rules make of a parsed URL, then two results on texts: which URLs are stored without a secret
parameter, and that the value of one does not show in what is stored.
-/

namespace ContextSnap.Privacy

open Sanitizer

/-- A parameter that a built-in rule removes from the URLs of every host. -/
def isSecretName (name : Bytes) : Bool :=
  (defaultRules.filter fun rule => rule.action = .removeParameter && rule.hostPatterns = []).any
    fun rule => containsCi rule.parameters name

/-! ### What the rules do to a URL -/

section Rules

variable (rules : List Rule)

def truncates (url : ParsedUrl) : Bool :=
  (url.path ≠ [] && url.path ≠ str "/")
    && rules.any fun rule => rule.action = .truncatePath && ruleConcerns rule url

def removes (url : ParsedUrl) (name : Bytes) : Bool :=
  rules.any fun rule =>
    rule.action = .removeParameter && ruleConcerns rule url && containsCi rule.parameters name

/-- The URL behind rules that remove parameters and cut paths. -/
def passed (url : ParsedUrl) : ParsedUrl :=
  { url with
    path := if truncates rules url then str "/" else url.path
    query := if truncates rules url then [] else
      url.query.filter fun parameter => !removes rules url parameter.1 }

/-- Neither masks values nor drops the URL. -/
def Shortens (rule : Rule) : Prop :=
  rule.id = str "local-files" ∨ rule.action = .removeParameter ∨ rule.action = .truncatePath
    ∨ rule.action = .excludeTab

theorem shortens_defaultRules : ∀ rule ∈ defaultRules, Shortens rule := by
  unfold Shortens
  decide

variable {rules}

theorem ruleConcerns_congr {url url' : ParsedUrl} (hhost : url.host = url'.host)
    (hpath : url.path = url'.path) (rule : Rule) :
    ruleConcerns rule url = ruleConcerns rule url' := by
  rw [ruleConcerns, ruleConcerns, hhost, hpath]

theorem applyRule_url {rule : Rule} (hrule : Shortens rule) {passing passing' : Passing}
    (h : applyRule rule passing = .ok passing') : passing'.url = passed [rule] passing.url := by
  rw [applyRule] at h
  by_cases hconcerns : ruleConcerns rule passing.url = true
  · have hid : rule.id ≠ str "local-files" := by
      rintro hid
      simp [ruleConcerns, hid] at hconcerns
    rw [if_neg (by simp [hconcerns])] at h
    rcases hrule.resolve_left hid with haction | haction | haction
    · -- A parameter that is not there leaves the query as it is.
      simp only [haction] at h
      by_cases hany : passing.url.query.any
          (fun parameter => containsCi rule.parameters parameter.1) = true
      · rw [if_pos hany] at h
        cases h
        simp [passed, truncates, removes, Passing.applied, ruleQuery, haction, hconcerns]
      · rw [if_neg hany] at h
        cases h
        have hquery : passing.url.query.filter
            (fun parameter => !containsCi rule.parameters parameter.1) = passing.url.query := by
          apply List.filter_eq_self.mpr
          intro parameter hparameter
          rw [Bool.not_eq_true, List.any_eq_false] at hany
          simpa using hany parameter hparameter
        simp [passed, truncates, removes, haction, hconcerns, hquery]
    · simp only [haction] at h
      by_cases hpath : passing.url.path ≠ [] ∧ passing.url.path ≠ str "/"
      · rw [if_pos hpath] at h
        cases h
        simp [passed, truncates, Passing.applied, haction, hconcerns, hpath.1, hpath.2]
      · rw [if_neg hpath] at h
        cases h
        have htruncates : truncates [rule] passing.url = false := by
          simpa [truncates, haction, hconcerns] using hpath
        simp [passed, htruncates, removes, haction]
    · simp [haction] at h
  · rw [if_pos (by simp [hconcerns])] at h
    cases h
    simp [passed, truncates, removes, hconcerns]

/-- One rule after the other. A cut path leaves nothing for the rules behind it. -/
theorem passed_cons (rule : Rule) (rules : List Rule) (url : ParsedUrl) :
    passed rules (passed [rule] url) = passed (rule :: rules) url := by
  cases hrule : truncates [rule] url with
  | true =>
      have hcut : passed [rule] url = { url with path := str "/", query := [] } := by
        simp [passed, hrule]
      have hrest : truncates rules { url with path := str "/", query := [] } = false := by
        simp [truncates]
      have hall : truncates (rule :: rules) url = true := by
        simp only [truncates, List.any_cons, List.any_nil, Bool.or_false, Bool.and_eq_true] at hrule
        simp [truncates, hrule]
      rw [hcut]
      simp [passed, hrest, hall]
  | false =>
      have hkept : passed [rule] url
          = { url with
              query := url.query.filter fun parameter => !removes [rule] url parameter.1 } := by
        simp [passed, hrule]
      have hpath : (passed [rule] url).path = url.path := by rw [hkept]
      have hconcerns : ∀ other : Rule, ruleConcerns other (passed [rule] url)
          = ruleConcerns other url := by
        intro other
        have hhost : (passed [rule] url).host = url.host := rfl
        exact ruleConcerns_congr hhost hpath other
      have htruncates : truncates rules (passed [rule] url) = truncates (rule :: rules) url := by
        simp only [truncates, List.any_cons, List.any_nil, Bool.or_false] at hrule
        simp only [truncates, List.any_cons, hconcerns, hpath, Bool.and_or_distrib_left, hrule,
          Bool.false_or]
      have hremoves : ∀ name, removes (rule :: rules) url name
          = (removes [rule] url name || removes rules (passed [rule] url) name) := by
        intro name
        simp only [removes, List.any_cons, List.any_nil, Bool.or_false, hconcerns]
      rw [hkept] at htruncates hremoves ⊢
      simp only [passed, htruncates, hremoves, List.filter_filter, Bool.not_or, Bool.and_comm]

theorem foldlM_url (hrules : ∀ rule ∈ rules, Shortens rule) {passing passing' : Passing}
    (h : rules.foldlM (fun passing rule => applyRule rule passing) passing = .ok passing') :
    passing'.url = passed rules passing.url := by
  induction rules generalizing passing with
  | nil =>
      cases h
      simp [passed, truncates, removes]
  | cons rule rules ih =>
      rw [List.foldlM_cons] at h
      cases hfirst : applyRule rule passing with
      | error e =>
          rw [hfirst] at h
          cases h
      | ok middle =>
          rw [hfirst] at h
          have hmiddle := applyRule_url (hrules rule (by simp)) hfirst
          have hrest := ih (fun r hr => hrules r (List.mem_cons_of_mem _ hr)) h
          rw [hrest, hmiddle, passed_cons]

end Rules

/-! ### What is stored -/

/-- The sanitizer as it is constructed by default. -/
def standard : Sanitizer := {}

theorem standard_isHostBlocked (host : Bytes) : standard.isHostBlocked host = false := rfl

theorem standard_strip_url (parsed : ParsedUrl) :
    (standard.strip parsed).url = { parsed with userinfo := [], fragment := [] } := by
  cases parsed with
  | mk scheme userinfo host port path query fragment =>
      by_cases huserinfo : userinfo = [] <;> by_cases hfragment : fragment = [] <;>
        simp [strip, standard, Passing.clearedIf, Passing.applied, huserinfo, hfragment]

/-- The parameters that no rule removes and that do not look like a secret. -/
def keptParameters (parsed : ParsedUrl) : List (Bytes × Bytes) :=
  (passed defaultRules parsed).query.filter fun parameter =>
    !standard.looksLikeSecret parameter.1 parameter.2

/-- What is written in front of the query: no userinfo, and the path as the rules leave it. -/
def frontText (parsed : ParsedUrl) : Bytes :=
  ParsedUrl.toText
    { passed defaultRules parsed with userinfo := [], query := [], fragment := [] }

/-- The rules look at the host, the path and the query. -/
theorem passed_stripped (parsed : ParsedUrl) :
    passed defaultRules { parsed with userinfo := [], fragment := [] }
      = { passed defaultRules parsed with userinfo := [], fragment := [] } := rfl

theorem sanitizeParsed_url {url : Bytes} {parsed : ParsedUrl} (hscheme : parsed.scheme ≠ str "file")
    (h : (standard.sanitizeParsed url parsed).excluded = false) :
    (standard.sanitizeParsed url parsed).url
      = frontText parsed ++ queryText (keptParameters parsed) := by
  rw [sanitizeParsed, if_neg hscheme, if_neg (by simp [standard_isHostBlocked])] at h ⊢
  cases hrules : standard.rules.foldlM (fun passing rule => applyRule rule passing)
      (standard.strip parsed) with
  | error ids => simp [hrules] at h
  | ok passing =>
      have hurl := foldlM_url shortens_defaultRules hrules
      rw [standard_strip_url] at hurl
      rw [passed_stripped] at hurl
      change (standard.dropSecrets passing).url.toText = _
      rw [dropSecrets, hurl]
      simp [frontText, keptParameters, ParsedUrl.toText, marked, queryText]

/-- The parameters of a URL that parses are written where reading looks for them. -/
theorem plainParameter_of_parseUrl {url : Bytes} {parsed : ParsedUrl}
    (h : parseUrl url = .ok parsed) {parameter : Bytes × Bytes} (hmem : parameter ∈ parsed.query) :
    PlainParameter parameter := by
  by_cases hne : url = []
  · rw [parseUrl, if_pos hne] at h
    cases h
  cases hfind : Matching.findText (str "://") url with
  | some n =>
      rw [parseUrl_of_find hfind] at h
      cases h
      exact plainParameter_of_parseHierarchical hmem
  | none =>
      -- An opaque URL has no query.
      rw [parseUrl, if_neg hne] at h
      simp only [hfind] at h
      cases hcolon : splitFirst 58 url with
      | none =>
          simp only [hcolon] at h
          cases h
      | some parts =>
          simp only [hcolon] at h
          by_cases hslash : 47 ∈ parts.1
          · rw [if_pos hslash] at h
            cases h
          · rw [if_neg hslash] at h
            cases h
            exact absurd hmem List.not_mem_nil

/-! ### Secret parameters -/

set_option maxRecDepth 10000 in
/-- None of the marks of a query occurs in a secret name. -/
theorem not_mem_of_isSecretName {name : Bytes} (h : isSecretName name = true) :
    ∀ c ∈ str "?#&=", c ∉ name := by
  intro c hc hmem
  have hnames : ((defaultRules.filter
      (fun rule => rule.action = .removeParameter && rule.hostPatterns = [])).all fun rule =>
        rule.parameters.all fun item => (lower item).all fun b => !(str "?#&=").contains b)
      = true := by
    decide
  have hsame : (str "?#&=").all (fun c => toLower c = c) = true := by decide
  obtain ⟨rule, hrule, hcontains⟩ := List.any_eq_true.mp h
  obtain ⟨item, hitem, hequal⟩ := List.any_eq_true.mp hcontains
  have hitems := List.all_eq_true.mp (List.all_eq_true.mp hnames rule hrule) item hitem
  have hlower : c ∈ lower item := by
    rw [of_decide_eq_true hequal]
    exact List.mem_map.mpr ⟨c, hmem, of_decide_eq_true (List.all_eq_true.mp hsame c hc)⟩
  have hunmarked := List.all_eq_true.mp hitems c hlower
  rw [List.contains_iff_mem.mpr hc] at hunmarked
  exact Bool.noConfusion hunmarked

theorem not_isSecretName_of_question {name : Bytes} (h : 63 ∈ name) :
    isSecretName name = false := by
  by_contra hsecret
  exact not_mem_of_isSecretName (Bool.not_eq_false _ ▸ hsecret) 63 (by decide) h

/-- A rule for every host and path looks at every URL. -/
theorem removes_of_isSecretName {name : Bytes} (h : isSecretName name = true) (url : ParsedUrl) :
    removes defaultRules url name = true := by
  have heverywhere : ∀ rule ∈ defaultRules.filter
      (fun rule => rule.action = .removeParameter && rule.hostPatterns = []),
      rule.enabled = true ∧ rule.id ≠ str "local-files" ∧ rule.hostPatterns = []
        ∧ rule.pathPatterns = [] := by
    decide
  obtain ⟨rule, hrule, hcontains⟩ := List.any_eq_true.mp h
  obtain ⟨henabled, hid, hhosts, hpaths⟩ := heverywhere rule hrule
  have haction : rule.action = .removeParameter := by
    have := (List.mem_filter.mp hrule).2
    simp only [Bool.and_eq_true, decide_eq_true_eq] at this
    exact this.1
  apply List.any_eq_true.mpr
  refine ⟨rule, (List.mem_filter.mp hrule).1, ?_⟩
  simp [haction, ruleConcerns, henabled, hid, hhosts, hpaths, anyGlob, hcontains]

/-- No secret name is left behind the rules. -/
theorem isSecretName_passed {parsed : ParsedUrl} {parameter : Bytes × Bytes}
    (h : parameter ∈ (passed defaultRules parsed).query) :
    isSecretName parameter.1 = false ∧ parameter ∈ parsed.query := by
  rw [passed] at h
  by_cases hcut : truncates defaultRules parsed = true
  · simp [hcut] at h
  · simp only [hcut, Bool.false_eq_true, if_false, List.mem_filter, Bool.not_eq_true'] at h
    refine ⟨?_, h.1⟩
    by_contra hsecret
    rw [removes_of_isSecretName (Bool.not_eq_false _ ▸ hsecret)] at h
    exact Bool.noConfusion h.2

/-- What a stored URL starts with is free of secret parameters. The query behind it only matters by
its question mark. -/
def FrontIsPlain (url : Bytes) : Prop :=
  ∀ parsed, parseUrl url = .ok parsed → parsed.scheme ≠ str "file" →
    Carries isSecretName (frontText parsed ++ if keptParameters parsed = [] then [] else [63])
      = false

theorem carries_of_no_question {text : Bytes} (h : 63 ∉ text) :
    Carries isSecretName text = false := by
  rw [Carries, parameterNames, queryPortion_none h]
  decide

theorem carries_storedText {url : Bytes} {parsed : ParsedUrl} (hparsed : parseUrl url = .ok parsed) :
    Carries isSecretName (frontText parsed ++ queryText (keptParameters parsed))
      = Carries isSecretName
          (frontText parsed ++ if keptParameters parsed = [] then [] else [63]) := by
  apply carries_append_queryText
  · intro name hname
    exact not_isSecretName_of_question hname
  · decide
  · intro parameter hparameter
    have hpassed := (List.mem_filter.mp hparameter).1
    exact plainParameter_of_parseUrl hparsed (isSecretName_passed hpassed).2
  · intro parameter hparameter
    have hpassed := (List.mem_filter.mp hparameter).1
    exact (isSecretName_passed hpassed).1

/-- **Secret parameters are removed** from every URL whose front is free of them. -/
theorem carries_sanitizeUrl_iff {url : Bytes}
    (h : (standard.sanitizeUrl url).excluded = false) :
    Carries isSecretName (standard.sanitizeUrl url).url = false ↔ FrontIsPlain url := by
  by_cases hne : url = []
  · subst hne
    constructor
    · rintro - parsed hparsed
      cases hparsed
    · intro _
      exact carries_of_no_question List.not_mem_nil
  rw [sanitizeUrl, if_neg hne] at h ⊢
  cases hparsed : parseUrl url with
  | error e =>
      -- What does not parse is kept only without a question mark.
      simp only [hparsed, decide_eq_false_iff_not] at h
      constructor
      · rintro - parsed hok
        rw [hparsed] at hok
        cases hok
      · intro _
        exact carries_of_no_question h
  | ok parsed =>
      simp only [hparsed] at h
      change Carries isSecretName (standard.sanitizeParsed url parsed).url = false ↔ _
      by_cases hfile : parsed.scheme = str "file"
      · constructor
        · intro _ other hother hscheme
          rw [hparsed] at hother
          cases hother
          exact absurd hfile hscheme
        · intro _
          rw [sanitizeParsed, if_pos hfile]
          exact carries_of_no_question (by decide)
      · rw [sanitizeParsed_url hfile h, carries_storedText hparsed]
        constructor
        · intro hfront other hother _
          rw [hparsed] at hother
          cases hother
          exact hfront
        · intro hfront
          exact hfront parsed hparsed hfile

theorem question_not_mem_frontText (head : UrlHead) (hscheme : 63 ∉ head.scheme)
    (query : List (Bytes × Bytes)) : 63 ∉ frontText (head.parsed query) := by
  obtain ⟨hhost, hport⟩ := parseAuthority_plain fun hmem => (head.authority_plain 63 hmem).2.1 rfl
  have hlower : (63 : UInt8) ∉ lower head.scheme := by
    intro hmem
    obtain ⟨c, hc, hquestion⟩ := List.mem_map.mp hmem
    rw [eq_question_of_toLower hquestion] at hc
    exact hscheme hc
  have hpath : (63 : UInt8) ∉ (passed defaultRules (head.parsed query)).path := by
    rw [passed]
    by_cases hcut : truncates defaultRules (head.parsed query) = true
    · simp only [hcut, if_true]
      decide
    · rw [if_neg hcut]
      exact head.path_plain.1
  have hmark : (63 : UInt8) ∉ str "://" := by decide
  have hcolon : (63 : UInt8) ∉ str ":" := by decide
  have hnone : (63 : UInt8) ∉ ([] : Bytes) := List.not_mem_nil
  simp only [frontText, ParsedUrl.toText, marked, queryText, if_true, List.append_nil,
    List.mem_append, not_or]
  refine ⟨⟨⟨?_, hhost⟩, ?_⟩, hpath⟩
  · split
    · exact hnone
    · exact fun hmem => (List.mem_append.mp hmem).elim hlower hmark
  · split
    · exact hnone
    · exact fun hmem => (List.mem_append.mp hmem).elim hcolon hport

/-- A URL with an authority has nothing to hide in front of its query, unless its scheme has. -/
theorem frontIsPlain_urlHead (head : UrlHead) (hscheme : 63 ∉ head.scheme) {query : Bytes}
    (hquery : 35 ∉ query) : FrontIsPlain (head.text ++ str "?" ++ query) := by
  intro parsed hparsed _
  rw [head.parseUrl_text hquery] at hparsed
  cases hparsed
  generalize (ampersandParts query).map parseParameter = parameters
  have hfront := question_not_mem_frontText head hscheme parameters
  by_cases hkept : keptParameters (head.parsed parameters) = []
  · rw [if_pos hkept, List.append_nil]
    exact carries_of_no_question hfront
  · rw [if_neg hkept, Carries, parameterNames, queryPortion_append hfront]
    decide

/-- What stands behind the question mark of an opaque URL is its path. -/
theorem not_secretsRemoved :
    ¬∀ url : Bytes, (standard.sanitizeUrl url).excluded = false →
      Carries isSecretName (standard.sanitizeUrl url).url = false := by
  intro hremoved
  have hmail := hremoved (str "mailto:someone@example.com?token=abc") (by decide)
  revert hmail
  decide

theorem carries_sanitizeUrl_iff_search :
    (standard.sanitizeUrl (str "https://example.com/search?q=tea&TOKEN=abc")).excluded = false
      ∧ (Carries isSecretName
          (standard.sanitizeUrl (str "https://example.com/search?q=tea&TOKEN=abc")).url = false
        ↔ FrontIsPlain (str "https://example.com/search?q=tea&TOKEN=abc")) := by
  have hkept : (standard.sanitizeUrl (str "https://example.com/search?q=tea&TOKEN=abc")).excluded
      = false := by
    decide
  exact ⟨hkept, carries_sanitizeUrl_iff hkept⟩

/-! ### Two runs -/

/-- Two parameters that differ at most in a secret value. -/
def SameButSecret (left right : Bytes × Bytes) : Prop :=
  left.1 = right.1 ∧ (isSecretName left.1 = false → left = right)

/-- Two URLs that differ at most in the values of secret parameters. -/
structure Indistinguishable (left right : ParsedUrl) : Prop where
  scheme : left.scheme = right.scheme
  userinfo : left.userinfo = right.userinfo
  host : left.host = right.host
  port : left.port = right.port
  path : left.path = right.path
  query : List.Forall₂ SameButSecret left.query right.query
  fragment : left.fragment = right.fragment

/-- Two runs that have seen the same of their URLs. -/
structure InStep (left right : Passing) : Prop where
  url : Indistinguishable left.url right.url
  modified : left.modified = right.modified
  appliedRuleIds : left.appliedRuleIds = right.appliedRuleIds

theorem SameButSecret.refl (parameter : Bytes × Bytes) : SameButSecret parameter parameter :=
  ⟨rfl, fun _ => rfl⟩

section Queries

variable {left right : List (Bytes × Bytes)} (h : List.Forall₂ SameButSecret left right)

include h in
/-- What depends on the names sees the same of both queries. -/
theorem any_name (test : Bytes → Bool) :
    (left.any fun parameter => test parameter.1) = right.any fun parameter => test parameter.1 := by
  induction h with
  | nil => rfl
  | cons hhead _ ih => rw [List.any_cons, List.any_cons, ih, hhead.1]

include h in
theorem filter_name (test : Bytes → Bool) :
    List.Forall₂ SameButSecret (left.filter fun parameter => test parameter.1)
      (right.filter fun parameter => test parameter.1) := by
  induction h with
  | nil => exact .nil
  | @cons first first' rest rest' hhead htail ih =>
      rw [List.filter_cons, List.filter_cons, ← hhead.1]
      by_cases htest : test first.1 = true
      · rw [if_pos htest, if_pos htest]
        exact .cons hhead ih
      · rw [if_neg htest, if_neg htest]
        exact ih

include h in
theorem map_masked (test : Bytes → Bool) (mask : Bytes) :
    List.Forall₂ SameButSecret
      (left.map fun (key, value) => (key, if test key then mask else value))
      (right.map fun (key, value) => (key, if test key then mask else value)) := by
  rw [List.forall₂_map_left_iff, List.forall₂_map_right_iff]
  apply h.imp
  intro first first' hsame
  refine ⟨hsame.1, ?_⟩
  intro hplain
  rw [hsame.2 hplain]

include h in
/-- Without secret parameters the queries are the same. -/
theorem eq_of_plain (hplain : ∀ parameter ∈ left, isSecretName parameter.1 = false) :
    left = right := by
  induction h with
  | nil => rfl
  | cons hhead _ ih =>
      rw [hhead.2 (hplain _ (List.mem_cons_self ..)),
        ih fun parameter hparameter => hplain parameter (List.mem_cons_of_mem _ hparameter)]

end Queries

theorem Indistinguishable.ruleConcerns {left right : ParsedUrl} (h : Indistinguishable left right)
    (rule : Rule) : ruleConcerns rule left = ruleConcerns rule right :=
  ruleConcerns_congr h.host h.path rule

theorem InStep.applied {left right : Passing} (h : InStep left right) (id : Bytes)
    {url url' : ParsedUrl} (hurl : Indistinguishable url url') :
    InStep (left.applied id url) (right.applied id url') where
  url := hurl
  modified := rfl
  appliedRuleIds := congrArg (· ++ [id]) h.appliedRuleIds

theorem Indistinguishable.ruleQuery {left right : ParsedUrl} (h : Indistinguishable left right)
    (rule : Rule) :
    List.Forall₂ SameButSecret (Sanitizer.ruleQuery rule left.query)
      (Sanitizer.ruleQuery rule right.query) := by
  rw [Sanitizer.ruleQuery, Sanitizer.ruleQuery]
  by_cases hmask : rule.action = .maskParameter
  · rw [if_pos hmask, if_pos hmask]
    exact map_masked h.query _ _
  · rw [if_neg hmask, if_neg hmask]
    exact filter_name h.query fun name => !containsCi rule.parameters name

/-- `RemoveParameter` and `MaskParameter`. -/
theorem InStep.parameters {left right : Passing} (h : InStep left right) (rule : Rule) :
    Fold.Related (ε := List Bytes) InStep
      (if left.url.query.any (fun parameter => containsCi rule.parameters parameter.1) then
        .ok (left.applied rule.id { left.url with query := Sanitizer.ruleQuery rule left.url.query })
      else .ok left)
      (if right.url.query.any (fun parameter => containsCi rule.parameters parameter.1) then
        .ok (right.applied rule.id { right.url with query := Sanitizer.ruleQuery rule right.url.query })
      else .ok right) := by
  rw [any_name h.url.query fun name => containsCi rule.parameters name]
  by_cases hany : right.url.query.any
      (fun parameter => containsCi rule.parameters parameter.1) = true
  · rw [if_pos hany, if_pos hany]
    exact .ok (h.applied _ { h.url with query := h.url.ruleQuery rule })
  · rw [if_neg hany, if_neg hany]
    exact .ok h

theorem Indistinguishable.withoutFragment {left right : ParsedUrl}
    (h : Indistinguishable left right) :
    Indistinguishable { left with fragment := [] } { right with fragment := [] } :=
  { h with fragment := rfl }

theorem Indistinguishable.withoutQuery {left right : ParsedUrl} (h : Indistinguishable left right) :
    Indistinguishable { left with query := [] } { right with query := [] } :=
  { h with query := .nil }

theorem Indistinguishable.emptyQuery {left right : ParsedUrl} (h : Indistinguishable left right) :
    decide (left.query = []) = decide (right.query = []) := by
  rw [decide_eq_decide, ← List.length_eq_zero_iff, h.query.length_eq, List.length_eq_zero_iff]

/-- **One rule.** Whatever it does, it does to both URLs. -/
theorem InStep.applyRule {left right : Passing} (h : InStep left right) (rule : Rule) :
    Fold.Related InStep (Sanitizer.applyRule rule left) (Sanitizer.applyRule rule right) := by
  rw [Sanitizer.applyRule, Sanitizer.applyRule, h.url.ruleConcerns rule]
  cases Sanitizer.ruleConcerns rule right.url with
  | false => exact .ok h
  | true =>
      cases haction : rule.action with
      | excludeTab =>
          simp only [Bool.not_true, Bool.false_eq_true, if_false, h.appliedRuleIds]
          exact .error _
      | dropUrl =>
          exact .ok (h.applied _ { h.url with path := rfl, query := .nil, fragment := rfl })
      | truncatePath =>
          simp only [Bool.not_true, Bool.false_eq_true, if_false, h.url.path]
          by_cases hpath : right.url.path ≠ [] ∧ right.url.path ≠ str "/"
          · rw [if_pos hpath, if_pos hpath]
            exact .ok (h.applied _ { h.url with path := rfl, query := .nil })
          · rw [if_neg hpath, if_neg hpath]
            exact .ok h
      | removeParameter => exact h.parameters rule
      | maskParameter => exact h.parameters rule

theorem InStep.clearedIf {left right : Passing} (h : InStep left right) (option : Bool) (id : Bytes)
    {isEmpty isEmpty' : Bool} (hempty : isEmpty = isEmpty') {url url' : ParsedUrl}
    (hurl : Indistinguishable url url') :
    InStep (left.clearedIf option id isEmpty url) (right.clearedIf option id isEmpty' url') := by
  rw [Passing.clearedIf, Passing.clearedIf, hempty]
  by_cases hclear : (option && !isEmpty') = true
  · rw [if_pos hclear, if_pos hclear]
    exact h.applied id hurl
  · rw [if_neg hclear, if_neg hclear]
    exact h

theorem inStep_strip (sanitizer : Sanitizer) {left right : ParsedUrl}
    (h : Indistinguishable left right) :
    InStep (sanitizer.strip left) (sanitizer.strip right) := by
  have hstart : InStep { url := left } { url := right } := ⟨h, rfl, rfl⟩
  have hcleared : Indistinguishable { left with userinfo := [] } { right with userinfo := [] } :=
    { h with userinfo := rfl }
  have huserinfo := hstart.clearedIf sanitizer.options.stripUserinfo (str "userinfo")
    (congrArg (fun part => decide (part = [])) h.userinfo) hcleared
  have hfragment := huserinfo.clearedIf sanitizer.options.stripFragments (str "fragment")
    (congrArg (fun part => decide (part = [])) huserinfo.url.fragment)
    (Indistinguishable.withoutFragment huserinfo.url)
  exact hfragment.clearedIf sanitizer.options.stripAllQueryParams (str "strip-all-query")
    hfragment.url.emptyQuery (Indistinguishable.withoutQuery hfragment.url)

theorem InStep.eq_of_plain {left right : Passing} (h : InStep left right)
    (hplain : ∀ parameter ∈ left.url.query, isSecretName parameter.1 = false) : left = right := by
  obtain ⟨⟨hscheme, huserinfo, hhost, hport, hpath, hquery, hfragment⟩, hmodified, hids⟩ := h
  have hquery := Privacy.eq_of_plain hquery hplain
  cases left with
  | mk left leftModified leftIds =>
      cases right with
      | mk right rightModified rightIds =>
          cases left
          cases right
          simp_all

/-- URLs that differ at most in secret values are stored alike. One that is excluded is handed back
as it came, for the caller to drop. -/
theorem sanitizeParsed_indistinguishable {left right : ParsedUrl} (h : Indistinguishable left right)
    (url url' : Bytes) :
    (standard.sanitizeParsed url left).modified = (standard.sanitizeParsed url' right).modified
      ∧ (standard.sanitizeParsed url left).excluded = (standard.sanitizeParsed url' right).excluded
      ∧ (standard.sanitizeParsed url left).appliedRuleIds
        = (standard.sanitizeParsed url' right).appliedRuleIds
      ∧ ((standard.sanitizeParsed url left).excluded = false →
          (standard.sanitizeParsed url left).url = (standard.sanitizeParsed url' right).url) := by
  rw [sanitizeParsed, sanitizeParsed, h.scheme]
  by_cases hfile : right.scheme = str "file"
  · rw [if_pos hfile, if_pos hfile]
    exact ⟨rfl, rfl, rfl, fun _ => rfl⟩
  rw [if_neg hfile, if_neg hfile, if_neg (by simp [standard_isHostBlocked]),
    if_neg (by simp [standard_isHostBlocked])]
  have hplain : ∀ passing,
      standard.rules.foldlM (fun passing rule => applyRule rule passing) (standard.strip left)
        = .ok passing → ∀ parameter ∈ passing.url.query, isSecretName parameter.1 = false := by
    intro passing hpassing parameter hparameter
    rw [foldlM_url shortens_defaultRules hpassing] at hparameter
    exact (isSecretName_passed hparameter).1
  have hrules : Fold.Related InStep
      (standard.rules.foldlM (fun passing rule => applyRule rule passing) (standard.strip left))
      (standard.rules.foldlM (fun passing rule => applyRule rule passing) (standard.strip right)) :=
    Fold.related (fun rule _ _ _ hstep => hstep.applyRule rule) (inStep_strip standard h)
  revert hplain hrules
  generalize standard.rules.foldlM (fun passing rule => applyRule rule passing)
    (standard.strip left) = outcome
  generalize standard.rules.foldlM (fun passing rule => applyRule rule passing)
    (standard.strip right) = outcome'
  intro hplain hrules
  cases hrules with
  | error ids => exact ⟨rfl, rfl, rfl, fun hexcluded => by cases hexcluded⟩
  | @ok passing passing' hstep =>
      have hsame : passing = passing' := hstep.eq_of_plain (hplain passing rfl)
      rw [hsame]
      exact ⟨rfl, rfl, rfl, fun _ => rfl⟩

/-! ### The value of a secret parameter -/

/-- A URL with a parameter between others. -/
def urlWith (head : UrlHead) (before : List Bytes) (name value : Bytes) (after : List Bytes) : Bytes :=
  head.text ++ str "?" ++ List.intercalate [38] (before ++ (name ++ 61 :: value) :: after)

theorem parseUrl_urlWith (head : UrlHead) {before after : List Bytes} {name value : Bytes}
    (hothers : ∀ part ∈ before ++ after, 35 ∉ part ∧ 38 ∉ part) (hname : isSecretName name = true)
    (hvalue : 35 ∉ value ∧ 38 ∉ value) :
    parseUrl (urlWith head before name value after)
      = .ok (head.parsed (before.map parseParameter ++ (name, value)
          :: (partsBehind after).map parseParameter)) := by
  have hmarks := not_mem_of_isSecretName hname
  have hhash : (35 : UInt8) ∉ name ++ 61 :: value := by
    simp [hmarks 35 (by decide), hvalue.1]
  have hampersand : (38 : UInt8) ∉ name ++ 61 :: value := by
    simp [hmarks 38 (by decide), hvalue.2]
  have hquery : (35 : UInt8) ∉ List.intercalate [38] (before ++ (name ++ 61 :: value) :: after) := by
    apply not_mem_intercalate (by decide)
    intro part hpart
    rcases List.mem_append.mp hpart with hbefore | hbehind
    · exact (hothers part (List.mem_append_left _ hbefore)).1
    · rcases List.mem_cons.mp hbehind with rfl | hafter
      · exact hhash
      · exact (hothers part (List.mem_append_right _ hafter)).1
  have hparameter : parseParameter (name ++ 61 :: value) = (name, value) := by
    rw [parseParameter, splitFirst_append (hmarks 61 (by decide))]
    rfl
  rw [urlWith, head.parseUrl_text hquery, ampersandParts_intercalate
      (fun part hpart => (hothers part (List.mem_append_left _ hpart)).2) (by simp) hampersand,
    List.map_append, List.map_cons, hparameter]

/-- **The value of a secret parameter does not matter** for what is stored. -/
theorem sanitizeUrl_secret_irrelevant (head : UrlHead) {before after : List Bytes}
    (hothers : ∀ part ∈ before ++ after, 35 ∉ part ∧ 38 ∉ part) {name : Bytes}
    (hname : isSecretName name = true) {value value' : Bytes} (hvalue : 35 ∉ value ∧ 38 ∉ value)
    (hvalue' : 35 ∉ value' ∧ 38 ∉ value') :
    (standard.sanitizeUrl (urlWith head before name value after)).modified
        = (standard.sanitizeUrl (urlWith head before name value' after)).modified
      ∧ (standard.sanitizeUrl (urlWith head before name value after)).excluded
        = (standard.sanitizeUrl (urlWith head before name value' after)).excluded
      ∧ (standard.sanitizeUrl (urlWith head before name value after)).appliedRuleIds
        = (standard.sanitizeUrl (urlWith head before name value' after)).appliedRuleIds
      ∧ ((standard.sanitizeUrl (urlWith head before name value after)).excluded = false →
          (standard.sanitizeUrl (urlWith head before name value after)).url
            = (standard.sanitizeUrl (urlWith head before name value' after)).url) := by
  have hparsed : ∀ value : Bytes, 35 ∉ value ∧ 38 ∉ value →
      standard.sanitizeUrl (urlWith head before name value after)
        = standard.sanitizeParsed (urlWith head before name value after)
            (head.parsed (before.map parseParameter ++ (name, value)
              :: (partsBehind after).map parseParameter)) := by
    intro value hvalue
    have hne : urlWith head before name value after ≠ [] :=
      List.append_ne_nil_of_left_ne_nil
        (List.append_ne_nil_of_right_ne_nil _ (by decide)) _
    rw [sanitizeUrl, if_neg hne, parseUrl_urlWith head hothers hname hvalue]
  have hquery : List.Forall₂ SameButSecret
      (before.map parseParameter ++ (name, value) :: (partsBehind after).map parseParameter)
      (before.map parseParameter ++ (name, value') :: (partsBehind after).map parseParameter) := by
    have hsecret : SameButSecret (name, value) (name, value') := by
      refine ⟨rfl, fun hplain => ?_⟩
      rw [hname] at hplain
      cases hplain
    have hrefl : ∀ query, List.Forall₂ SameButSecret query query := fun query =>
      List.forall₂_same.mpr fun parameter _ => SameButSecret.refl parameter
    exact List.rel_append (hrefl _) (.cons hsecret (hrefl _))
  have hsame : Indistinguishable
      (head.parsed (before.map parseParameter ++ (name, value)
        :: (partsBehind after).map parseParameter))
      (head.parsed (before.map parseParameter ++ (name, value')
        :: (partsBehind after).map parseParameter)) :=
    ⟨rfl, rfl, rfl, rfl, rfl, hquery, rfl⟩
  rw [hparsed value hvalue, hparsed value' hvalue']
  exact sanitizeParsed_indistinguishable hsame _ _

set_option maxRecDepth 10000 in
/-- A page of a host that no rule excludes, and one of a bank. -/
def shopHead : UrlHead :=
  { scheme := str "https", authority := str "me@shop.example:8443", path := str "/cart"
    scheme_first := by decide, authority_plain := by decide, path_start := by decide
    path_plain := by decide }

set_option maxRecDepth 10000 in
def bankHead : UrlHead :=
  { shopHead with authority := str "www.bank.com", authority_plain := by decide }

theorem sanitizeUrl_secret_irrelevant_shop :
    (standard.sanitizeUrl
          (urlWith shopHead [str "item=7"] (str "Token") (str "a=b://c?d") [])).url
        = (standard.sanitizeUrl (urlWith shopHead [str "item=7"] (str "Token") [] [])).url
      ∧ (standard.sanitizeUrl (urlWith shopHead [str "item=7"] (str "Token") [] [])).url
        = str "https://shop.example:8443/cart?item=7" := by
  have hkept : (standard.sanitizeUrl
      (urlWith shopHead [str "item=7"] (str "Token") (str "a=b://c?d") [])).excluded = false := by
    decide
  have hothers : ∀ part ∈ [str "item=7"] ++ [], (35 : UInt8) ∉ part ∧ (38 : UInt8) ∉ part := by
    decide
  refine ⟨?_, by decide⟩
  exact (sanitizeUrl_secret_irrelevant shopHead hothers (by decide) (by decide)
    (by decide)).2.2.2 hkept

/-- An excluded URL is handed back with the secret, next to the word that it is excluded. -/
theorem not_secret_irrelevant :
    ¬∀ (head : UrlHead) (before after : List Bytes) (name value value' : Bytes),
      (∀ part ∈ before ++ after, 35 ∉ part ∧ 38 ∉ part) → isSecretName name = true →
      35 ∉ value ∧ 38 ∉ value → 35 ∉ value' ∧ 38 ∉ value' →
      standard.sanitizeUrl (urlWith head before name value after)
        = standard.sanitizeUrl (urlWith head before name value' after) := by
  intro hsame
  have hbank := hsame bankHead [] [] (str "token") (str "a") (str "b") (by decide)
    (by decide) (by decide) (by decide)
  revert hbank
  decide

end ContextSnap.Privacy
