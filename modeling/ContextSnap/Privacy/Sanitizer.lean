import ContextSnap.Privacy.Glob
import ContextSnap.Privacy.Url

/-!
# The sanitizer

Rules that URLs pass through one after the other before they are stored. A rule drops parameters,
masks them, shortens the URL or excludes the tab; what is left of the query is then searched for
values that look like secrets.
-/

namespace ContextSnap.Privacy

open Matching (findText)

inductive RuleAction where
  | removeParameter | maskParameter | truncatePath | dropUrl | excludeTab
  deriving DecidableEq, Repr

structure Rule where
  id : Bytes := []
  description : Bytes := []
  action : RuleAction := .removeParameter
  parameters : List Bytes := []
  hostPatterns : List Bytes := []
  pathPatterns : List Bytes := []
  enabled : Bool := true

structure SanitizeResult where
  url : Bytes
  modified : Bool := false
  excluded : Bool := false
  appliedRuleIds : List Bytes := []
  deriving DecidableEq

structure SanitizerOptions where
  stripAllQueryParams : Bool := false
  stripFragments : Bool := true
  stripUserinfo : Bool := true
  detectHighEntropy : Bool := true
  entropyThreshold : Float := 3.5
  entropyMinLength : Nat := 20
  extraSensitiveParams : List Bytes := []
  domainDenylist : List Bytes := []
  domainAllowlist : List Bytes := []

/-- `contains_ci`. -/
def containsCi (haystack : List Bytes) (needle : Bytes) : Bool :=
  haystack.any fun item => lower item = lower needle

/-- `any_glob`, where no pattern is no constraint. -/
def anyGlob (patterns : List Bytes) (text : Bytes) : Bool :=
  patterns.isEmpty || patterns.any fun pattern => globMatch pattern text

def shannonEntropy (text : Bytes) : Float :=
  if text = [] then 0.0
  else
    (List.range 256).foldl (fun entropy c =>
      let count := text.count (UInt8.ofNat c)
      if count = 0 then entropy
      else
        let probability := Float.ofNat count / Float.ofNat text.length
        entropy - probability * Float.log2 probability) 0.0

/-! ### Rules -/

private def names (texts : List String) : List Bytes := texts.map str

def defaultRules : List Rule :=
  [{ id := str "oauth", description := str "OAuth/OIDC credentials in the query string"
     parameters := names ["access_token", "id_token", "refresh_token", "code", "code_verifier",
       "client_secret", "state", "nonce", "assertion", "authuser"] },
   { id := str "session", description := str "Session and CSRF identifiers"
     parameters := names ["session", "sessionid", "session_id", "sid", "sessid", "phpsessid",
       "jsessionid", "csrf", "csrf_token", "xsrf", "auth", "authorization", "api_key", "apikey",
       "token", "key", "password", "passwd", "pwd", "secret", "signature", "sig"] },
   { id := str "presigned-storage", description := str "Pre-signed object storage URLs"
     parameters := names ["x-amz-signature", "x-amz-credential", "x-amz-security-token",
       "x-goog-signature", "sig", "se", "sp", "sv", "sr", "st", "skoid"]
     hostPatterns := names ["*.amazonaws.com", "*.blob.core.windows.net", "*.googleapis.com",
       "storage.googleapis.com", "*.r2.cloudflarestorage.com"] },
   { id := str "reset-links", description := str "Password reset and magic-link paths"
     action := .truncatePath
     pathPatterns := names ["*/reset*", "*/verify*", "*/magic*", "*/invite/*", "*/confirm/*",
       "*/activate/*", "*/unsubscribe/*", "*/set-password*"] },
   { id := str "meeting-passcodes"
     description := str "Video call passcodes embedded in join links"
     parameters := names ["pwd", "passcode", "password", "pw", "k", "tk"]
     hostPatterns := names ["*.zoom.us", "zoom.us", "teams.microsoft.com", "meet.google.com",
       "*.webex.com", "*.whereby.com"] },
   { id := str "trackers", description := str "Marketing and analytics parameters"
     parameters := names ["utm_source", "utm_medium", "utm_campaign", "utm_term", "utm_content",
       "utm_id", "gclid", "dclid", "fbclid", "msclkid", "mc_eid", "mc_cid", "igshid", "ttclid",
       "_hsenc", "_hsmi", "vero_id", "yclid", "twclid", "ref_src"] },
   { id := str "local-files", description := str "Local file paths reveal directory structure"
     action := .dropUrl, hostPatterns := names [""] },
   { id := str "private-browsing"
     description := str "Never persist banking or password-manager tabs"
     action := .excludeTab
     hostPatterns := names ["*.bank*", "*vault*", "*.1password.com", "*.bitwarden.com",
       "*lastpass.com"] }]

structure Sanitizer where
  options : SanitizerOptions := {}
  rules : List Rule := defaultRules

namespace Sanitizer

variable (sanitizer : Sanitizer)

/-- With an allowlist the denylist does not matter. -/
def isHostBlocked (host : Bytes) : Bool :=
  if sanitizer.options.domainAllowlist ≠ [] then !anyGlob sanitizer.options.domainAllowlist host
  else sanitizer.options.domainDenylist.any fun pattern => globMatch pattern host

/-- `std::isalnum` in the C locale, and the bytes that base64 and percent encodings add. -/
def isTokenByte (c : UInt8) : Bool :=
  isDigit c || (65 ≤ c && c ≤ 90) || (97 ≤ c && c ≤ 122) || c ∈ str "-_.%="

def looksLikeSecret (key value : Bytes) : Bool :=
  if containsCi sanitizer.options.extraSensitiveParams key then true
  else if !sanitizer.options.detectHighEntropy || value.length < sanitizer.options.entropyMinLength
  then false
  else value.all isTokenByte && sanitizer.options.entropyThreshold ≤ shannonEntropy value

/-! ### One URL -/

/-- A URL on its way through the rules. -/
structure Passing where
  url : ParsedUrl
  modified : Bool := false
  appliedRuleIds : List Bytes := []

/-- The URL after a rule that did something. -/
def Passing.applied (passing : Passing) (id : Bytes) (url : ParsedUrl) : Passing :=
  { url, modified := true, appliedRuleIds := passing.appliedRuleIds ++ [id] }

/-- An option that clears a part of the URL which is not empty. -/
def Passing.clearedIf (passing : Passing) (option : Bool) (id : Bytes) (isEmpty : Bool)
    (url : ParsedUrl) : Passing :=
  if option && !isEmpty then passing.applied id url else passing

/-- The first part of `sanitize_url`: userinfo, fragment and query, as the options say. -/
def strip (url : ParsedUrl) : Passing :=
  let passing : Passing := { url }
  let passing := passing.clearedIf sanitizer.options.stripUserinfo (str "userinfo")
    (decide (passing.url.userinfo = [])) { passing.url with userinfo := [] }
  let passing := passing.clearedIf sanitizer.options.stripFragments (str "fragment")
    (decide (passing.url.fragment = [])) { passing.url with fragment := [] }
  passing.clearedIf sanitizer.options.stripAllQueryParams (str "strip-all-query")
    (decide (passing.url.query = [])) { passing.url with query := [] }

/-- Whether a rule looks at a URL. The rule for local files has a branch of its own. -/
def ruleConcerns (rule : Rule) (url : ParsedUrl) : Bool :=
  rule.enabled && rule.id ≠ str "local-files" && anyGlob rule.hostPatterns url.host
    && anyGlob rule.pathPatterns url.path

/-- The query after `RemoveParameter` or `MaskParameter`. -/
def ruleQuery (rule : Rule) (query : List (Bytes × Bytes)) : List (Bytes × Bytes) :=
  if rule.action = .maskParameter then
    query.map fun (key, value) =>
      (key, if containsCi rule.parameters key then str "[redacted]" else value)
  else query.filter fun parameter => !containsCi rule.parameters parameter.1

/-- One rule. There is no URL left after the one that excludes the tab. -/
def applyRule (rule : Rule) (passing : Passing) : Except (List Bytes) Passing :=
  if !ruleConcerns rule passing.url then .ok passing
  else
    match rule.action with
    | .excludeTab => .error (passing.appliedRuleIds ++ [rule.id])
    | .dropUrl =>
        .ok (passing.applied rule.id { passing.url with path := [], query := [], fragment := [] })
    | .truncatePath =>
        if passing.url.path ≠ [] ∧ passing.url.path ≠ str "/" then
          .ok (passing.applied rule.id { passing.url with path := str "/", query := [] })
        else .ok passing
    | .removeParameter | .maskParameter =>
        if passing.url.query.any fun parameter => containsCi rule.parameters parameter.1 then
          .ok (passing.applied rule.id
            { passing.url with query := ruleQuery rule passing.url.query })
        else .ok passing

/-- The catch-all for parameter names that no rule knows. -/
def dropSecrets (passing : Passing) : Passing :=
  let secret (parameter : Bytes × Bytes) : Bool :=
    sanitizer.looksLikeSecret parameter.1 parameter.2
  { url := { passing.url with query := passing.url.query.filter fun parameter => !secret parameter }
    modified := passing.modified || passing.url.query.any secret
    appliedRuleIds := passing.appliedRuleIds
      ++ List.replicate (passing.url.query.countP secret) (str "entropy") }

/-- `sanitize_url` of a URL that is not empty and parses. -/
def sanitizeParsed (url : Bytes) (parsed : ParsedUrl) : SanitizeResult :=
  if parsed.scheme = str "file" then
    { url := str "file:///[redacted]", modified := true, appliedRuleIds := [str "local-files"] }
  else if sanitizer.isHostBlocked parsed.host then
    { url, modified := true, excluded := true, appliedRuleIds := [str "domain-policy"] }
  else
    match sanitizer.rules.foldlM (fun passing rule => applyRule rule passing)
      (sanitizer.strip parsed) with
    | .error appliedRuleIds => { url, modified := true, excluded := true, appliedRuleIds }
    | .ok passing =>
        let passing := sanitizer.dropSecrets passing
        { url := passing.url.toText, modified := passing.modified
          appliedRuleIds := passing.appliedRuleIds }

def sanitizeUrl (url : Bytes) : SanitizeResult :=
  if url = [] then { url }
  else
    match parseUrl url with
    | .error _ => { url, modified := decide (63 ∈ url), excluded := decide (63 ∈ url) }
    | .ok parsed => sanitizer.sanitizeParsed url parsed

/-! ### Snapshots -/

/-- A title can restate the query string. -/
def redactTitle (title : Bytes) : Bytes :=
  if (findText (str "token") title).isSome || (findText (str "password") title).isSome then
    str "[redacted]"
  else title

/-- A tab that is kept. -/
def sanitizeTab (tab : TabInfo) : Option TabInfo :=
  let result := sanitizer.sanitizeUrl tab.url
  if result.excluded then none
  else if result.modified then
    some { tab with url := result.url, sanitized := true, title := redactTitle tab.title }
  else some tab

/-- The tabs from left to right, numbered again. -/
def reindex (tabs : List TabInfo) : List TabInfo :=
  tabs.zipIdx.map fun (tab, index) => { tab with index := Int32.ofNat index }

def sanitizeWindow (window : WindowInfo) : WindowInfo :=
  { window with tabs := reindex (window.tabs.filterMap sanitizer.sanitizeTab) }

def sanitizeSnapshot (snapshot : Snapshot) : Snapshot :=
  { snapshot with windows := snapshot.windows.map sanitizer.sanitizeWindow }

end Sanitizer

end ContextSnap.Privacy
