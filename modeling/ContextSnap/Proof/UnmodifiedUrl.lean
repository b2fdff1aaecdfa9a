import ContextSnap.Privacy.Sanitizer
import ContextSnap.Proof.UrlParts

/-!
# URLs that nothing touches

A URL is written from what was read of it, also when no rule did anything. Which URLs come back as
they were depends on the URL alone, as long as nothing of the sanitizer touches them.
-/

namespace ContextSnap.Privacy

open Sanitizer

/-! ### Steps that do nothing -/

/-- Whether a rule does nothing to a URL. -/
def Rule.spares (rule : Rule) (url : ParsedUrl) : Bool :=
  !ruleConcerns rule url ||
    match rule.action with
    | .excludeTab | .dropUrl => false
    | .truncatePath => url.path = [] || url.path = str "/"
    | .removeParameter | .maskParameter =>
        !url.query.any fun parameter => containsCi rule.parameters parameter.1

/-- A step does nothing, or what goes on behind it is said to be modified. -/
def SparesOrModifies (spares : Bool) (passing : Passing)
    (outcome : Except (List Bytes) Passing) : Prop :=
  (spares = true ∧ outcome = .ok passing)
    ∨ (spares = false ∧ ∀ passing', outcome = .ok passing' → passing'.modified = true)

section Rules

variable {rule : Rule} {rules : List Rule} {passing passing' : Passing}

theorem SparesOrModifies.ok {spares : Bool} (hspares : spares = false)
    (hmodified : passing'.modified = true) : SparesOrModifies spares passing (.ok passing') := by
  refine .inr ⟨hspares, ?_⟩
  intro last hlast
  rwa [← Except.ok.inj hlast]

/-- `RemoveParameter` and `MaskParameter`. -/
theorem parameters_spares (rule : Rule) (passing : Passing) :
    SparesOrModifies
      (!passing.url.query.any fun parameter => containsCi rule.parameters parameter.1) passing
      (if passing.url.query.any (fun parameter => containsCi rule.parameters parameter.1) then
        .ok (passing.applied rule.id { passing.url with query := ruleQuery rule passing.url.query })
      else .ok passing) := by
  cases passing.url.query.any fun parameter => containsCi rule.parameters parameter.1 with
  | false => exact .inl ⟨rfl, rfl⟩
  | true => exact .ok rfl rfl

/-- **One rule.** -/
theorem applyRule_spares (rule : Rule) (passing : Passing) :
    SparesOrModifies (rule.spares passing.url) passing (applyRule rule passing) := by
  unfold Rule.spares applyRule
  by_cases hconcerns : ruleConcerns rule passing.url = true
  · simp only [hconcerns, Bool.not_true, Bool.false_eq_true, if_false, Bool.false_or]
    cases haction : rule.action with
    | excludeTab => exact .inr ⟨rfl, fun passing' h => by cases h⟩
    | dropUrl => exact .ok rfl rfl
    | truncatePath =>
        dsimp only
        by_cases hpath : passing.url.path ≠ [] ∧ passing.url.path ≠ str "/"
        · rw [if_pos hpath]
          exact .ok (by simp [hpath.1, hpath.2]) rfl
        · rw [if_neg hpath]
          exact .inl ⟨by simpa [or_iff_not_imp_left] using hpath, rfl⟩
    | removeParameter => exact parameters_spares rule passing
    | maskParameter => exact parameters_spares rule passing
  · simp [hconcerns, SparesOrModifies]

theorem modified_applyRule (hmodified : passing.modified = true)
    (h : applyRule rule passing = .ok passing') : passing'.modified = true := by
  rcases applyRule_spares rule passing with ⟨-, hspared⟩ | ⟨-, hmodifies⟩
  · rw [hspared] at h
    rwa [← Except.ok.inj h]
  · exact hmodifies passing' h

/-- What is modified stays modified. -/
theorem modified_foldlM (hmodified : passing.modified = true)
    (h : rules.foldlM (fun passing rule => applyRule rule passing) passing = .ok passing') :
    passing'.modified = true := by
  induction rules generalizing passing with
  | nil => rwa [← Except.ok.inj h]
  | cons rule rules ih =>
      rw [List.foldlM_cons] at h
      cases hfirst : applyRule rule passing with
      | error ids =>
          rw [hfirst] at h
          cases h
      | ok middle =>
          rw [hfirst] at h
          exact ih (modified_applyRule hmodified hfirst) h

/-- **The run of the rules.** -/
theorem foldlM_spares (rules : List Rule) (passing : Passing) :
    SparesOrModifies (rules.all fun rule => rule.spares passing.url) passing
      (rules.foldlM (fun passing rule => applyRule rule passing) passing) := by
  induction rules with
  | nil => exact .inl ⟨rfl, rfl⟩
  | cons rule rules ih =>
      rw [List.foldlM_cons, List.all_cons]
      rcases applyRule_spares rule passing with ⟨hspares, hspared⟩ | ⟨hspares, hmodifies⟩
      · rw [hspares, hspared, Bool.true_and]
        exact ih
      · refine .inr ⟨by rw [hspares, Bool.false_and], ?_⟩
        intro passing' h
        cases hfirst : applyRule rule passing with
        | error ids =>
            rw [hfirst] at h
            cases h
        | ok middle =>
            rw [hfirst] at h
            exact modified_foldlM (hmodifies middle hfirst) h

end Rules

/-! ### The test for secrets as a parameter -/

namespace Sanitizer

variable (sanitizer : Sanitizer) (secret : Bytes → Bytes → Bool)

/-- `dropSecrets` with any test for secrets. -/
def dropSecretsBy (passing : Passing) : Passing :=
  { url := { passing.url with
      query := passing.url.query.filter fun parameter => !secret parameter.1 parameter.2 }
    modified := passing.modified
      || passing.url.query.any fun parameter => secret parameter.1 parameter.2
    appliedRuleIds := passing.appliedRuleIds
      ++ List.replicate
        (passing.url.query.countP fun parameter => secret parameter.1 parameter.2)
        (str "entropy") }

def sanitizeParsedBy (url : Bytes) (parsed : ParsedUrl) : SanitizeResult :=
  if parsed.scheme = str "file" then
    { url := str "file:///[redacted]", modified := true, appliedRuleIds := [str "local-files"] }
  else if sanitizer.isHostBlocked parsed.host then
    { url, modified := true, excluded := true, appliedRuleIds := [str "domain-policy"] }
  else
    match sanitizer.rules.foldlM (fun passing rule => applyRule rule passing)
      (sanitizer.strip parsed) with
    | .error appliedRuleIds => { url, modified := true, excluded := true, appliedRuleIds }
    | .ok passing =>
        let passing := dropSecretsBy secret passing
        { url := passing.url.toText, modified := passing.modified
          appliedRuleIds := passing.appliedRuleIds }

/-- `sanitizeUrl` with any test for secrets. -/
def sanitizeUrlBy (url : Bytes) : SanitizeResult :=
  if url = [] then { url }
  else
    match parseUrl url with
    | .error _ => { url, modified := decide (63 ∈ url), excluded := decide (63 ∈ url) }
    | .ok parsed => sanitizer.sanitizeParsedBy secret url parsed

theorem sanitizeUrl_eq (url : Bytes) :
    sanitizer.sanitizeUrl url = sanitizer.sanitizeUrlBy sanitizer.looksLikeSecret url := rfl

/-- Nothing of the sanitizer touches the URL. -/
structure Untouched (parsed : ParsedUrl) : Prop where
  host : sanitizer.isHostBlocked parsed.host = false
  userinfo : sanitizer.options.stripUserinfo = true → parsed.userinfo = []
  fragment : sanitizer.options.stripFragments = true → parsed.fragment = []
  query : sanitizer.options.stripAllQueryParams = true → parsed.query = []
  rules : ∀ rule ∈ sanitizer.rules, rule.spares parsed = true
  secrets : ∀ parameter ∈ parsed.query, secret parameter.1 parameter.2 = false

variable {sanitizer secret} {url : Bytes} {parsed : ParsedUrl}

theorem dropSecretsBy_of_none {passing : Passing}
    (h : ∀ parameter ∈ passing.url.query, secret parameter.1 parameter.2 = false) :
    dropSecretsBy secret passing = passing := by
  have hkept : passing.url.query.filter (fun parameter => !secret parameter.1 parameter.2)
      = passing.url.query :=
    List.filter_eq_self.mpr fun parameter hmem => by simp [h parameter hmem]
  have hmodified : (passing.url.query.any fun parameter => secret parameter.1 parameter.2)
      = false :=
    List.any_eq_false.mpr fun parameter hmem => by simp [h parameter hmem]
  have hcount : (passing.url.query.countP fun parameter => secret parameter.1 parameter.2) = 0 :=
    List.countP_eq_zero.mpr fun parameter hmem => by simp [h parameter hmem]
  rw [dropSecretsBy, hkept, hmodified, hcount, Bool.or_false, List.replicate_zero, List.append_nil]

theorem strip_of_untouched (h : sanitizer.Untouched secret parsed) :
    sanitizer.strip parsed = { url := parsed } := by
  have hcleared : ∀ (passing : Passing) (option isEmpty : Bool) (id : Bytes) (url : ParsedUrl),
      (option = true → isEmpty = true) → passing.clearedIf option id isEmpty url = passing := by
    intro passing option isEmpty id url himplies
    rw [Passing.clearedIf, if_neg]
    simpa using himplies
  simp only [strip, hcleared _ _ _ _ _ fun hoption => decide_eq_true (h.userinfo hoption),
    hcleared _ _ _ _ _ fun hoption => decide_eq_true (h.fragment hoption),
    hcleared _ _ _ _ _ fun hoption => decide_eq_true (h.query hoption)]

/-- What is not modified had nothing to be stripped. -/
theorem strip_inv (h : (sanitizer.strip parsed).modified = false) :
    sanitizer.strip parsed = { url := parsed }
      ∧ (sanitizer.options.stripUserinfo = true → parsed.userinfo = [])
      ∧ (sanitizer.options.stripFragments = true → parsed.fragment = [])
      ∧ (sanitizer.options.stripAllQueryParams = true → parsed.query = []) := by
  have hcleared : ∀ (passing : Passing) (option isEmpty : Bool) (id : Bytes) (url : ParsedUrl),
      (passing.clearedIf option id isEmpty url).modified = false →
        passing.clearedIf option id isEmpty url = passing ∧ passing.modified = false
          ∧ (option = true → isEmpty = true) := by
    intro passing option isEmpty id url hmodified
    rw [Passing.clearedIf] at hmodified ⊢
    by_cases hclears : (option && !isEmpty) = true
    · rw [if_pos hclears] at hmodified
      cases hmodified
    · rw [if_neg hclears] at hmodified ⊢
      exact ⟨rfl, hmodified, by simpa using hclears⟩
  rw [strip] at h ⊢
  dsimp only at h ⊢
  obtain ⟨hthird, h, hquery⟩ := hcleared _ _ _ _ _ h
  obtain ⟨hsecond, h, hfragment⟩ := hcleared _ _ _ _ _ h
  obtain ⟨hfirst, -, huserinfo⟩ := hcleared _ _ _ _ _ h
  rw [hthird, hsecond, hfirst]
  rw [hsecond, hfirst] at hquery
  rw [hfirst] at hfragment
  exact ⟨rfl, fun hoption => of_decide_eq_true (huserinfo hoption),
    fun hoption => of_decide_eq_true (hfragment hoption),
    fun hoption => of_decide_eq_true (hquery hoption)⟩

theorem sanitizeParsedBy_of_untouched (hscheme : parsed.scheme ≠ str "file")
    (h : sanitizer.Untouched secret parsed) (url : Bytes) :
    sanitizer.sanitizeParsedBy secret url parsed = { url := parsed.toText } := by
  have hrules : sanitizer.rules.foldlM (fun passing rule => applyRule rule passing)
      { url := parsed } = .ok { url := parsed } := by
    rcases foldlM_spares sanitizer.rules { url := parsed } with ⟨-, hrun⟩ | ⟨hspares, -⟩
    · exact hrun
    · rw [List.all_eq_true.mpr h.rules] at hspares
      cases hspares
  have hnone : dropSecretsBy secret { url := parsed } = { url := parsed } :=
    dropSecretsBy_of_none h.secrets
  rw [sanitizeParsedBy, if_neg hscheme, h.host, if_neg Bool.false_ne_true, strip_of_untouched h,
    hrules]
  dsimp only
  rw [hnone]

/-- **Not modified** is what nothing touches. -/
theorem sanitizeParsedBy_modified_iff (hscheme : parsed.scheme ≠ str "file") :
    (sanitizer.sanitizeParsedBy secret url parsed).modified = false
      ↔ sanitizer.Untouched secret parsed := by
  constructor
  · intro h
    rw [sanitizeParsedBy, if_neg hscheme] at h
    by_cases hblocked : sanitizer.isHostBlocked parsed.host = true
    · rw [if_pos hblocked] at h
      cases h
    rw [if_neg hblocked] at h
    cases hrun : sanitizer.rules.foldlM (fun passing rule => applyRule rule passing)
        (sanitizer.strip parsed) with
    | error ids =>
        rw [hrun] at h
        cases h
    | ok passing =>
        rw [hrun] at h
        obtain ⟨hmodified, hsecrets⟩ := Bool.or_eq_false_iff.mp h
        -- A modified URL would have stayed modified.
        have hstripped : (sanitizer.strip parsed).modified = false := by
          by_contra hstripped
          rw [modified_foldlM (Bool.not_eq_false _ ▸ hstripped) hrun] at hmodified
          cases hmodified
        obtain ⟨hstrip, huserinfo, hfragment, hquery⟩ := strip_inv hstripped
        rw [hstrip] at hrun
        rcases foldlM_spares sanitizer.rules { url := parsed } with ⟨hspares, hspared⟩ | ⟨-, hall⟩
        · rw [hspared] at hrun
          rw [← Except.ok.inj hrun] at hsecrets
          have hnone := List.any_eq_false.mp hsecrets
          exact ⟨Bool.not_eq_true _ ▸ hblocked, huserinfo, hfragment, hquery,
            List.all_eq_true.mp hspares, fun parameter hmem =>
              Bool.not_eq_true _ ▸ hnone parameter hmem⟩
        · rw [hall passing hrun] at hmodified
          cases hmodified
  · intro h
    rw [sanitizeParsedBy_of_untouched hscheme h]

end Sanitizer

/-! ### URLs that come back as they were -/

section Unmodified

variable {url : Bytes} {parsed : ParsedUrl}

theorem sanitizeUrlBy_of_parseUrl (sanitizer : Sanitizer) (secret : Bytes → Bytes → Bool)
    (h : parseUrl url = .ok parsed) :
    sanitizer.sanitizeUrlBy secret url = sanitizer.sanitizeParsedBy secret url parsed := by
  have hne : url ≠ [] := by
    rintro rfl
    cases h
  rw [sanitizeUrlBy, if_neg hne, h]

/-- **An unmodified URL** is returned as it came exactly if it does not parse, or has a scheme and
an authority that are written back as they were. -/
theorem unmodified_sanitizeUrl_iff (sanitizer : Sanitizer) (url : Bytes) :
    ((sanitizer.sanitizeUrl url).modified = false → (sanitizer.sanitizeUrl url).excluded = false →
        (sanitizer.sanitizeUrl url).url = url)
      ↔ ∀ parsed, parseUrl url = .ok parsed → parsed.scheme ≠ str "file" →
        sanitizer.Untouched sanitizer.looksLikeSecret parsed →
        ∃ parts : UrlParts, parts.text = url ∧ parts.Canonical := by
  rw [sanitizeUrl_eq]
  constructor
  · intro h parsed hparsed hscheme huntouched
    rw [sanitizeUrlBy_of_parseUrl sanitizer _ hparsed,
      sanitizeParsedBy_of_untouched hscheme huntouched] at h
    exact (toText_eq_iff hparsed).mp (h rfl rfl)
  · intro h hmodified _
    cases hparsed : parseUrl url with
    | error e =>
        rw [sanitizeUrlBy, hparsed]
        split_ifs <;> rfl
    | ok parsed =>
        rw [sanitizeUrlBy_of_parseUrl sanitizer _ hparsed] at hmodified ⊢
        by_cases hscheme : parsed.scheme = str "file"
        · rw [sanitizeParsedBy, if_pos hscheme] at hmodified
          cases hmodified
        · have huntouched := (sanitizeParsedBy_modified_iff hscheme).mp hmodified
          rw [sanitizeParsedBy_of_untouched hscheme huntouched]
          exact (toText_eq_iff hparsed).mpr (h parsed hparsed hscheme huntouched)

end Unmodified

/-- `about:blank` becomes `about://blank`. -/
theorem not_unmodified_sanitizeUrl :
    ¬∀ (sanitizer : Sanitizer) (url : Bytes), (sanitizer.sanitizeUrl url).modified = false →
      (sanitizer.sanitizeUrl url).excluded = false → (sanitizer.sanitizeUrl url).url = url := by
  intro h
  have hblank := h {} (str "about:blank") (by decide) (by decide)
  revert hblank
  decide

end ContextSnap.Privacy
