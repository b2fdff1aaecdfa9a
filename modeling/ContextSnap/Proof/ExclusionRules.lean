import ContextSnap.Privacy.Sanitizer

/-!
# Rules that exclude tabs

The rules of a sanitizer run one after the other, and those that shorten a URL leave a path to the
later ones that is not the path of the tab. What a rule that excludes tabs is matched against
depends on what stands in front of it.
-/

namespace ContextSnap.Privacy

section Exclusion

variable {sanitizer : Sanitizer} {rules : List Rule} {rule : Rule} {passing passing' : Sanitizer.Passing}

/-- Whether an enabled rule excludes the tabs of this host and path. -/
def Rule.excludes (rule : Rule) (host path : Bytes) : Bool :=
  rule.action = .excludeTab && Sanitizer.ruleConcerns rule { host, path }

/-- The path behind a rule. -/
def Rule.leaves (rule : Rule) (host path : Bytes) : Bytes :=
  if Sanitizer.ruleConcerns rule { host, path } then
    match rule.action with
    | .dropUrl => []
    | .truncatePath => if path ≠ [] ∧ path ≠ str "/" then str "/" else path
    | .removeParameter | .maskParameter | .excludeTab => path
  else path

/-- Some rule excludes the tabs of this host with the path that the rules in front of it leave. -/
def ExcludedInOrder (host : Bytes) : List Rule → Bytes → Prop
  | [], _ => False
  | rule :: rules, path =>
      rule.excludes host path = true ∨ ExcludedInOrder host rules (rule.leaves host path)

theorem ruleConcerns_eq (rule : Rule) (url : ParsedUrl) :
    Sanitizer.ruleConcerns rule { host := url.host, path := url.path }
      = Sanitizer.ruleConcerns rule url := rfl

/-- One rule: it excludes the tab, or leaves the host alone and the path as `leaves` says. -/
theorem applyRule_cases (rule : Rule) (passing : Sanitizer.Passing) :
    (rule.excludes passing.url.host passing.url.path = true
        ∧ ∃ ids, Sanitizer.applyRule rule passing = .error ids)
      ∨ (rule.excludes passing.url.host passing.url.path = false
        ∧ ∃ passing', Sanitizer.applyRule rule passing = .ok passing'
          ∧ passing'.url.host = passing.url.host
          ∧ passing'.url.path = rule.leaves passing.url.host passing.url.path) := by
  unfold Rule.excludes Rule.leaves Sanitizer.applyRule
  rw [ruleConcerns_eq]
  by_cases hconcerns : Sanitizer.ruleConcerns rule passing.url = true
  · simp only [hconcerns, Bool.not_true, Bool.false_eq_true, if_false, if_true, Bool.and_true]
    cases haction : rule.action with
    | excludeTab => exact .inl ⟨by simp, _, rfl⟩
    | dropUrl => exact .inr ⟨by simp, _, rfl, rfl, rfl⟩
    | truncatePath =>
        refine .inr ⟨by simp, ?_⟩
        dsimp only
        split_ifs
        · exact ⟨_, rfl, rfl, rfl⟩
        · exact ⟨_, rfl, rfl, rfl⟩
    | removeParameter =>
        refine .inr ⟨by simp, ?_⟩
        dsimp only
        split_ifs
        · exact ⟨_, rfl, rfl, rfl⟩
        · exact ⟨_, rfl, rfl, rfl⟩
    | maskParameter =>
        refine .inr ⟨by simp, ?_⟩
        dsimp only
        split_ifs
        · exact ⟨_, rfl, rfl, rfl⟩
        · exact ⟨_, rfl, rfl, rfl⟩
  · simp [hconcerns]

/-- The run of the rules. -/
theorem foldlM_isError_iff (rules : List Rule) (passing : Sanitizer.Passing) :
    (∃ ids, rules.foldlM (fun passing rule => Sanitizer.applyRule rule passing) passing
        = .error ids)
      ↔ ExcludedInOrder passing.url.host rules passing.url.path := by
  induction rules generalizing passing with
  | nil => simp [ExcludedInOrder, pure, Except.pure]
  | cons rule rules ih =>
      rw [List.foldlM_cons, ExcludedInOrder]
      rcases applyRule_cases rule passing with ⟨hexcludes, ids, happly⟩ |
        ⟨hexcludes, passing', happly, hhost, hpath⟩
      · rw [happly]
        exact iff_of_true ⟨ids, rfl⟩ (.inl hexcludes)
      · rw [happly, hexcludes, ← hpath, ← hhost]
        simp only [Bool.false_eq_true, false_or]
        exact ih passing'

theorem strip_url (parsed : ParsedUrl) :
    (sanitizer.strip parsed).url.host = parsed.host
      ∧ (sanitizer.strip parsed).url.path = parsed.path := by
  simp only [Sanitizer.strip, Sanitizer.Passing.clearedIf, Sanitizer.Passing.applied]
  split_ifs <;> exact ⟨rfl, rfl⟩

theorem excludedInOrder_iff_of_leaves {host path : Bytes}
    (h : ∀ rule ∈ rules, rule.leaves host path = path) :
    ExcludedInOrder host rules path ↔ ∃ rule ∈ rules, rule.excludes host path = true := by
  induction rules with
  | nil => simp [ExcludedInOrder]
  | cons rule rules ih =>
      rw [ExcludedInOrder, h rule List.mem_cons_self,
        ih fun rule hrule => h rule (List.mem_cons_of_mem _ hrule)]
      simp

variable {url : Bytes} {parsed : ParsedUrl}

/-- **Exclusion.** A tab is excluded exactly if some rule matches what the rules in front of it leave.
Where no rule rewrites the path, the order of the rules does not matter. -/
theorem excluded_sanitizeUrl_iff (sanitizer : Sanitizer) (hparsed : parseUrl url = .ok parsed)
    (hfile : parsed.scheme ≠ str "file") (hhost : sanitizer.isHostBlocked parsed.host = false) :
    ((sanitizer.sanitizeUrl url).excluded = true
        ↔ ExcludedInOrder parsed.host sanitizer.rules parsed.path)
      ∧ ((∀ rule ∈ sanitizer.rules, rule.leaves parsed.host parsed.path = parsed.path) →
        ((sanitizer.sanitizeUrl url).excluded = true
          ↔ ∃ rule ∈ sanitizer.rules, rule.excludes parsed.host parsed.path = true)) := by
  have hne : url ≠ [] := by
    rintro rfl
    cases hparsed
  have hexcluded : (sanitizer.sanitizeUrl url).excluded = true
      ↔ ExcludedInOrder parsed.host sanitizer.rules parsed.path := by
    have hfold := foldlM_isError_iff sanitizer.rules (sanitizer.strip parsed)
    rw [(strip_url parsed).1, (strip_url parsed).2] at hfold
    rw [← hfold, Sanitizer.sanitizeUrl, if_neg hne, hparsed]
    dsimp only
    rw [Sanitizer.sanitizeParsed, if_neg hfile, hhost]
    cases sanitizer.rules.foldlM (fun passing rule => Sanitizer.applyRule rule passing)
        (sanitizer.strip parsed) with
    | error ids => simp
    | ok passing => simp
  exact ⟨hexcluded, fun hleaves => hexcluded.trans (excludedInOrder_iff_of_leaves hleaves)⟩

end Exclusion

def adminRule : Rule :=
  { id := str "admin", action := .excludeTab, pathPatterns := [str "/admin*"] }

/-- No path, and no tab of the administration. -/
def adminRules : List Rule := [{ id := str "short", action := .truncatePath }, adminRule]

/-- `https://a.example/admin`. -/
def adminUrl : ParsedUrl :=
  { scheme := str "https", host := str "a.example", path := str "/admin" }

set_option maxRecDepth 10000 in
theorem excluded_sanitizeUrl_admin :
    (Sanitizer.sanitizeUrl { rules := adminRules } (str "https://a.example/admin")).excluded = true
      ↔ ExcludedInOrder adminUrl.host adminRules adminUrl.path := by
  have hparsed : parseUrl (str "https://a.example/admin") = .ok adminUrl := by decide
  exact (excluded_sanitizeUrl_iff { rules := adminRules } hparsed (by decide) (by decide)).1

set_option maxRecDepth 10000 in
/-- The second rule does not see the path that the first one has shortened. -/
theorem not_excluded_sanitizeUrl :
    ¬∀ (sanitizer : Sanitizer) (url : Bytes) (parsed : ParsedUrl), parseUrl url = .ok parsed →
      parsed.scheme ≠ str "file" → sanitizer.isHostBlocked parsed.host = false →
      ((sanitizer.sanitizeUrl url).excluded = true
        ↔ ∃ rule ∈ sanitizer.rules, rule.excludes parsed.host parsed.path = true) := by
  intro h
  have hparsed : parseUrl (str "https://a.example/admin") = .ok adminUrl := by decide
  have hiff := h { rules := adminRules } _ adminUrl hparsed (by decide) (by decide)
  have hstored : (Sanitizer.sanitizeUrl { rules := adminRules }
      (str "https://a.example/admin")).excluded = false := by decide
  rw [hstored] at hiff
  have hadmin : adminRule.excludes adminUrl.host adminUrl.path = true := by decide
  have hmem : adminRule ∈ adminRules := List.mem_cons_of_mem _ List.mem_cons_self
  exact Bool.false_ne_true (hiff.mpr ⟨adminRule, hmem, hadmin⟩)

end ContextSnap.Privacy
