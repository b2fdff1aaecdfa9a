import ContextSnap.Core.ConfigFile
import ContextSnap.Daemon.Handlers
import ContextSnap.Proof.CaptureOptions
import ContextSnap.Proof.IdempotentUrl

/-!
# The configured policy

The lists of domains and of sensitive parameters in the configuration, and what the built-in rules
alone leave of a URL: which stored URLs the policy would have let in.
-/

namespace ContextSnap.Privacy

open Matching (findText)
open Sanitizer

/-! ### The policy -/

section Policy

variable (privacy : PrivacyConfig)

def AllowsHost (host : Bytes) : Prop :=
  (privacy.domainAllowlist ≠ [] → anyGlob privacy.domainAllowlist host = true)
    ∧ ∀ pattern ∈ privacy.domainDenylist, globMatch pattern host = false

def AllowsQuery (query : List (Bytes × Bytes)) : Prop :=
  (∀ parameter ∈ query, containsCi privacy.extraSensitiveParams parameter.1 = false)
    ∧ (privacy.stripQueryStrings = true → query = [])

/-- A stored URL that the policy allows. A URL without an authority has no query. -/
def AllowsUrl (url : Bytes) : Prop :=
  ∀ parsed, parseUrl url = .ok parsed →
    AllowsHost privacy parsed.host ∧ AllowsQuery privacy parsed.query

/-- Whether the policy allows what the built-in rules leave of a URL that they touch. -/
def AllowsRewritten (url : Bytes) (parsed : ParsedUrl) : Prop :=
  if (findText (str "://") url).isSome then
    if parsed.scheme = [] then
      AllowsUrl privacy (hostText parsed.host parsed.port
        ++ (leftOver standard.looksLikeSecret parsed).path
        ++ queryText (leftOver standard.looksLikeSecret parsed).query)
    else AllowsHost privacy (rereadHost parsed.host parsed.port).1
      ∧ AllowsQuery privacy (rereadQuery (leftOver standard.looksLikeSecret parsed).query)
  else parsed.scheme ≠ [] → AllowsHost privacy []

/-- Whether the policy allows what is stored of a URL. A local file is stored without its path. -/
structure AllowsStored (url : Bytes) (parsed : ParsedUrl) : Prop where
  file : parsed.scheme = str "file" → AllowsHost privacy []
  untouched : parsed.scheme ≠ str "file" → standard.Untouched standard.looksLikeSecret parsed →
    AllowsHost privacy parsed.host ∧ AllowsQuery privacy parsed.query
  rewritten : parsed.scheme ≠ str "file" → ¬standard.Untouched standard.looksLikeSecret parsed →
    AllowsRewritten privacy url parsed

end Policy

/-! ### What is stored -/

/-- The URL of a tab that is kept: as it was, unless it is modified. -/
def storedUrl (url : Bytes) : Bytes :=
  if (standard.sanitizeUrl url).modified then (standard.sanitizeUrl url).url else url

section StoredAs

variable {url : Bytes} {parsed : ParsedUrl}

theorem storedUrl_of_error {e : Error} (h : parseUrl url = .error e) : storedUrl url = url := by
  rw [storedUrl, sanitizeUrl_eq, (sanitizeUrlBy_of_error _ h).1, ite_self]

theorem storedUrl_of_file (h : parseUrl url = .ok parsed) (hfile : parsed.scheme = str "file") :
    storedUrl url = str "file:///[redacted]" := by
  rw [storedUrl, sanitizeUrl_eq, sanitizeUrlBy_of_parseUrl standard _ h, sanitizeParsedBy,
    if_pos hfile, if_pos rfl]

theorem storedUrl_of_untouched (h : parseUrl url = .ok parsed) (hfile : parsed.scheme ≠ str "file")
    (huntouched : standard.Untouched standard.looksLikeSecret parsed) : storedUrl url = url := by
  rw [storedUrl, sanitizeUrl_eq, sanitizeUrlBy_of_parseUrl standard _ h,
    (sanitizeParsedBy_modified_iff hfile).mpr huntouched, if_neg Bool.false_ne_true]

theorem storedUrl_of_touched (h : parseUrl url = .ok parsed) (hfile : parsed.scheme ≠ str "file")
    (hkept : (standard.sanitizeParsedBy standard.looksLikeSecret url parsed).excluded = false)
    (htouched : ¬standard.Untouched standard.looksLikeSecret parsed) :
    storedUrl url = (leftOver standard.looksLikeSecret parsed).toText := by
  have hmodified : (standard.sanitizeParsedBy standard.looksLikeSecret url parsed).modified
      = true := by
    by_contra hmodified
    exact htouched ((sanitizeParsedBy_modified_iff hfile).mp (Bool.not_eq_true _ ▸ hmodified))
  rw [storedUrl, sanitizeUrl_eq, sanitizeUrlBy_of_parseUrl standard _ h, if_pos hmodified,
    sanitizeParsedBy_url hfile hkept]

end StoredAs

theorem sanitizeTab_url {tab after : TabInfo} (h : standard.sanitizeTab tab = some after) :
    (standard.sanitizeUrl tab.url).excluded = false ∧ after.url = storedUrl tab.url := by
  rw [sanitizeTab] at h
  by_cases hexcluded : (standard.sanitizeUrl tab.url).excluded = true
  · rw [if_pos hexcluded] at h
    cases h
  · rw [if_neg hexcluded] at h
    refine ⟨Bool.not_eq_true _ ▸ hexcluded, ?_⟩
    rw [storedUrl]
    by_cases hmodified : (standard.sanitizeUrl tab.url).modified = true
    · rw [if_pos hmodified] at h ⊢
      rw [← Option.some.inj h]
    · rw [if_neg hmodified] at h ⊢
      rw [← Option.some.inj h]

theorem forall_parsed_iff {parsed : ParsedUrl} {P : ParsedUrl → Prop} :
    (∀ other, (Except.ok parsed : Result ParsedUrl) = .ok other → P other) ↔ P parsed := by
  constructor
  · exact fun h => h parsed rfl
  · intro h other hother
    rwa [← Except.ok.inj hother]

section Stored

variable {privacy : PrivacyConfig} {url : Bytes} {parsed : ParsedUrl}

theorem allowsUrl_iff (h : parseUrl url = .ok parsed) :
    AllowsUrl privacy url ↔ AllowsHost privacy parsed.host ∧ AllowsQuery privacy parsed.query := by
  rw [AllowsUrl, h, forall_parsed_iff]

theorem allowsQuery_nil (privacy : PrivacyConfig) : AllowsQuery privacy [] :=
  ⟨fun _ hmem => absurd hmem List.not_mem_nil, fun _ => rfl⟩

/-- An opaque URL is touched only where a rule cuts its path. -/
theorem Opaque.truncates_of_touched (hbare : Opaque url parsed)
    (hscheme : parsed.scheme ≠ str "file")
    (hkept : (standard.sanitizeParsedBy standard.looksLikeSecret url parsed).excluded = false)
    (htouched : ¬standard.Untouched standard.looksLikeSecret parsed) :
    truncates defaultRules parsed = true := by
  by_contra htruncates
  apply htouched
  have hspares : ∀ rule ∈ defaultRules,
      rule.spares (leftOver standard.looksLikeSecret parsed) = true :=
    fun rule hrule => spares_leftOver hscheme hkept hrule
  obtain ⟨scheme, path, -, -, -, rfl⟩ := hbare.read
  have hleft : leftOver standard.looksLikeSecret { scheme := lower scheme, path }
      = { scheme := lower scheme, path } := by
    simp [leftOver, passed, htruncates]
  rw [hleft] at hspares
  exact (untouched_standard_iff rfl rfl fun _ hmem => absurd hmem List.not_mem_nil).mpr hspares

/-- What is left of an opaque URL whose path is cut has no host. -/
theorem Opaque.parseUrl_cut (hbare : Opaque url parsed) (hnil : parsed.scheme ≠ []) :
    parseUrl (parsed.scheme ++ str "://" ++ str "/")
      = .ok { scheme := parsed.scheme, path := str "/" } := by
  obtain ⟨scheme, path, -, hcolon, -, rfl⟩ := hbare.read
  have hfirst : findText (str "://") (lower scheme ++ str "://") = some (lower scheme).length :=
    findText_of_not_mem (fun hmem => hcolon (mem_of_mem_lower (.inl (by decide)) hmem)) _
  rw [parseUrl_scheme hfirst, lower_lower]
  rfl

theorem allowsUrl_leftOver_iff (hparsed : parseUrl url = .ok parsed)
    (hscheme : parsed.scheme ≠ str "file")
    (hkept : (standard.sanitizeParsedBy standard.looksLikeSecret url parsed).excluded = false)
    (htouched : ¬standard.Untouched standard.looksLikeSecret parsed) :
    AllowsUrl privacy (leftOver standard.looksLikeSecret parsed).toText
      ↔ AllowsRewritten privacy url parsed := by
  rw [AllowsRewritten]
  rcases parseUrl_cases hparsed with ⟨parts, rfl, rfl⟩ | hbare
  · rw [parts.findText_text, if_pos Option.isSome_some]
    by_cases hnil : parts.scheme = []
    · rw [if_pos (parts.record_scheme_eq_nil.mpr hnil), parts.toText_leftOver_bare _ hnil]
    · rw [if_neg (mt parts.record_scheme_eq_nil.mp hnil), ← parts.text_written _ hnil,
        allowsUrl_iff (UrlParts.parseUrl_text _), parts.record_written]
  · have hnone : ¬(findText (str "://") url).isSome = true := by
      rw [hbare.find]
      exact Bool.false_ne_true
    have hcut := hbare.truncates_of_touched hscheme hkept htouched
    rw [if_neg hnone, hbare.toText_leftOver, path_leftOver, if_pos hcut]
    by_cases hnil : parsed.scheme = []
    · rw [if_pos hnil]
      refine iff_of_true ?_ fun hne => absurd hnil hne
      intro other hother
      cases hother
    · rw [if_neg hnil, allowsUrl_iff (hbare.parseUrl_cut hnil)]
      exact ⟨fun h _ => h.1, fun h => ⟨h hnil, allowsQuery_nil privacy⟩⟩

/-- **What is stored of a URL** is allowed exactly if the policy allows it by its parts. -/
theorem allowsUrl_storedUrl_iff (hkept : (standard.sanitizeUrl url).excluded = false) :
    AllowsUrl privacy (storedUrl url)
      ↔ ∀ parsed, parseUrl url = .ok parsed → AllowsStored privacy url parsed := by
  cases hparsed : parseUrl url with
  | error e =>
      rw [storedUrl_of_error hparsed]
      refine iff_of_true ?_ fun parsed hok => by cases hok
      intro parsed hok
      rw [hparsed] at hok
      cases hok
  | ok parsed =>
      rw [forall_parsed_iff]
      rw [sanitizeUrl_eq, sanitizeUrlBy_of_parseUrl standard _ hparsed] at hkept
      by_cases hfile : parsed.scheme = str "file"
      · rw [storedUrl_of_file hparsed hfile, allowsUrl_iff parseUrl_redacted]
        constructor
        · intro h
          exact ⟨fun _ => h.1, fun hne => absurd hfile hne, fun hne => absurd hfile hne⟩
        · intro h
          exact ⟨h.file hfile, allowsQuery_nil privacy⟩
      · by_cases huntouched : standard.Untouched standard.looksLikeSecret parsed
        · rw [storedUrl_of_untouched hparsed hfile huntouched, allowsUrl_iff hparsed]
          constructor
          · intro h
            exact ⟨fun heq => absurd heq hfile, fun _ _ => h, fun _ hne => absurd huntouched hne⟩
          · intro h
            exact h.untouched hfile huntouched
        · rw [storedUrl_of_touched hparsed hfile hkept huntouched,
            allowsUrl_leftOver_iff hparsed hfile hkept huntouched]
          constructor
          · intro h
            exact ⟨fun heq => absurd heq hfile, fun _ heq => absurd heq huntouched, fun _ _ => h⟩
          · intro h
            exact h.rewritten hfile huntouched

end Stored

end ContextSnap.Privacy

namespace ContextSnap.SnapshotManager

open Daemon (startManager)
open Program (Event)
open Privacy (AllowsStored AllowsUrl allowsUrl_storedUrl_iff sanitizeTab_url storedUrl)

/-! ### Captures -/

variable {σ : Type} {around : Surroundings σ} {state state' : σ × Storage.Connection}
  {events : List (Event Op Answer)} {snapshot : Snapshot} {platform : Hal.Platform}
  {config : Config} {options : CaptureOptions}

/-- No stored tab has a URL that the configured policy does not allow. -/
def EnforcesPolicy (privacy : PrivacyConfig) (snapshot : Snapshot) : Prop :=
  ∀ window ∈ snapshot.windows, ∀ tab ∈ window.tabs, AllowsUrl privacy tab.url

theorem rewritten_url {manager : SnapshotManager} (hsanitizer : manager.sanitizer = some {})
    (hon : options.sanitizeUrls = true) {tab after : TabInfo}
    (h : manager.rewritten options tab = some after) :
    (Privacy.standard.sanitizeUrl tab.url).excluded = false ∧ after.url = storedUrl tab.url := by
  rw [rewritten, hsanitizer] at h
  dsimp only at h
  rw [if_pos hon] at h
  exact sanitizeTab_url h

/-- The URLs in a snapshot are what has become of those of the tabs that are let through. -/
theorem Sees.forall_url_iff {manager : SnapshotManager} {sight : Sighting}
    (hsees : manager.Sees options events snapshot sight) (stored reported : Bytes → Prop)
    (h : ∀ tab after, manager.rewritten options tab = some after →
      (stored after.url ↔ reported tab.url)) :
    (∀ window ∈ snapshot.windows, ∀ tab ∈ window.tabs, stored tab.url)
      ↔ ∀ window ∈ attached options sight.windows sight.tabs, ∀ tab ∈ window.tabs,
        manager.survives options tab = true → reported tab.url := by
  have hkeeps : ∀ window : WindowInfo, manager.Keeps options
      (window.tabs.filter (manager.survives options)) window
      (manager.storedWindow options window) :=
    fun window => storedWindow_keeps window
  rw [hsees.windows]
  constructor
  · intro hstored window hwindow tab htab hsurvives
    have hmem := List.mem_filter.mpr ⟨htab, hsurvives⟩
    obtain ⟨kept, hkept, after, hafter, hsame⟩ :=
      Browser.forall₂_mem_right (hkeeps window).each.flip hmem
    have hurl := hstored _ (List.mem_map_of_mem hwindow) kept hkept
    rw [hsame] at hurl
    exact (h tab after hafter).mp hurl
  · intro hreported written hwritten kept hkept
    obtain ⟨window, hwindow, rfl⟩ := List.mem_map.mp hwritten
    obtain ⟨tab, htab, after, hafter, hsame⟩ :=
      Browser.forall₂_mem_right (hkeeps window).each hkept
    obtain ⟨hmem, hsurvives⟩ := List.mem_filter.mp htab
    rw [hsame]
    exact (h tab after hafter).mpr (hreported window hwindow tab hmem hsurvives)

/-- The policy is enforced on what the tabs that are let through have become. -/
theorem Sees.enforcesPolicy_iff {sight : Sighting} (hon : options.sanitizeUrls = true)
    (hsees : (startManager platform config).Sees options events snapshot sight) :
    EnforcesPolicy config.privacy snapshot
      ↔ ∀ window ∈ attached options sight.windows sight.tabs, ∀ tab ∈ window.tabs,
        (startManager platform config).survives options tab = true →
        ∀ parsed, Privacy.parseUrl tab.url = .ok parsed →
          AllowsStored config.privacy tab.url parsed := by
  apply hsees.forall_url_iff (AllowsUrl config.privacy) fun url =>
    ∀ parsed, Privacy.parseUrl url = .ok parsed → AllowsStored config.privacy url parsed
  intro tab after hafter
  obtain ⟨hkept, hurl⟩ := rewritten_url rfl hon hafter
  rw [hurl]
  exact allowsUrl_storedUrl_iff hkept

/-- A configuration that keeps the tabs of a bank out. -/
def bankConfig : Config :=
  { Config.withDefaults {} with privacy := { domainDenylist := [str "bank.example"] } }

theorem capture_bankConfig :
    ∃ events snapshot state', ((startManager {} bankConfig).capture {}).run.record
        (handler bankDesk) ((), Storage.emptyConnection) = some (events, .ok snapshot, state')
      ∧ Told events (.enumerateWindows {}) (.ok [bankWindow])
      ∧ Told events (.captureTabs ({} : CaptureOptions).browserTimeout true) (.ok bankReport) := by
  refine ⟨_, _, _, rfl, ?_, ?_⟩
  · exact .tail _ (.tail _ (.head _))
  · exact .tail _ (.tail _ (.tail _ (.head _)))

def bankUrl : Privacy.ParsedUrl :=
  { scheme := str "https", host := str "bank.example", path := str "/" }

theorem parseUrl_bank : Privacy.parseUrl (str "https://bank.example/") = .ok bankUrl := by decide

theorem untouched_bank :
    Privacy.standard.Untouched Privacy.standard.looksLikeSecret bankUrl := by
  rw [Privacy.untouched_standard_iff rfl rfl fun _ hmem => absurd hmem List.not_mem_nil]
  decide

end ContextSnap.SnapshotManager
