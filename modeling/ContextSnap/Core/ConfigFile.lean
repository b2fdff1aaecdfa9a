import ContextSnap.Core.Config
import ContextSnap.Core.Result
import ContextSnap.Lib.Pieces

/-!
# The configuration file

A subset of TOML: sections, and lines of a key and a value. It is written by hand and read line by
line; a key that is not known is passed over.
-/

namespace ContextSnap

namespace ConfigFile

/-! ### Values -/

def trim (text : Bytes) : Bytes :=
  ((text.dropWhile isSpace).reverse.dropWhile isSpace).reverse

/-- Takes a pair of equal quotation marks off. -/
def unquote (text : Bytes) : Bytes :=
  match text with
  | quote :: rest =>
      if (quote = 34 ∨ quote = 39) ∧ rest.getLast? = some quote then rest.dropLast else text
  | [] => []

def textValue (raw : Bytes) : Bytes := unquote (trim raw)

/-- What stands in front of the last `]`, if there is one. -/
def beforeBracket (text : Bytes) : Bytes :=
  if 93 ∈ text then (text.reverse.dropWhile (· ≠ 93)).tail.reverse else text

def parseArray (text : Bytes) : List Bytes :=
  match text with
  | 91 :: c :: rest =>
      ((pieces 44 (beforeBracket (c :: rest))).map textValue).filter (· ≠ [])
  | _ => []

def parseBool (text : Bytes) (fallback : Bool) : Bool :=
  let value := textValue text
  if [str "true", str "1", str "yes", str "on"].contains value then true
  else if [str "false", str "0", str "no", str "off"].contains value then false
  else fallback

/-- `std::stoul`, where `unsigned long` has 64 bits; nothing where it throws. -/
def stoul (text : Bytes) : Option UInt64 :=
  let text := text.dropWhile isSpace
  let negative := text.head? = some 45
  let digits := (if negative ∨ text.head? = some 43 then text.tail else text).takeWhile isDigit
  if digits = [] ∨ 2 ^ 64 ≤ digitsValue digits then none
  else if negative then some (-(digitsValue digits).toUInt64)
  else some (digitsValue digits).toUInt64

def parseU32 (text : Bytes) (fallback : UInt32) : UInt32 :=
  (stoul (textValue text)).elim fallback UInt64.toUInt32

end ConfigFile

namespace LogLevel

def toText : LogLevel → String
  | .trace => "trace"
  | .debug => "debug"
  | .info => "info"
  | .warn => "warn"
  | .error => "error"
  | .off => "off"

/-- `level_from_string`. -/
def ofText (text : Bytes) : LogLevel :=
  if text = str "trace" then .trace
  else if text = str "debug" then .debug
  else if text = str "warn" ∨ text = str "warning" then .warn
  else if text = str "error" then .error
  else if text = str "off" ∨ text = str "none" then .off
  else .info

end LogLevel

namespace ConfigFile

/-! ### Keys -/

/-- The keys of a section, and what the value of each does to it. -/
abbrev Keys (α : Type) := List (String × (Bytes → α → α))

def storageKeys : Keys StorageConfig :=
  [("database_path", fun raw storage => { storage with databasePath := textValue raw }),
    ("encrypt", fun raw storage => { storage with encrypt := parseBool raw storage.encrypt }),
    ("retention_days", fun raw storage => { storage with retentionDays := parseU32 raw 90 }),
    ("max_snapshots", fun raw storage => { storage with maxSnapshots := parseU32 raw 500 }),
    ("vacuum_interval_days",
      fun raw storage => { storage with vacuumIntervalDays := parseU32 raw 14 }),
    ("store_favicons", fun raw storage => { storage with storeFavicons := parseBool raw true }),
    ("favicon_cache_mb", fun raw storage => { storage with faviconCacheMb := parseU32 raw 32 })]

def captureKeys : Keys CaptureConfig :=
  [("auto_capture", fun raw capture => { capture with autoCapture := parseBool raw false }),
    ("auto_capture_interval_minutes",
      fun raw capture => { capture with autoCaptureIntervalMinutes := parseU32 raw 30 }),
    ("capture_on_idle", fun raw capture => { capture with captureOnIdle := parseBool raw true }),
    ("idle_threshold_minutes",
      fun raw capture => { capture with idleThresholdMinutes := parseU32 raw 10 }),
    ("capture_before_shutdown",
      fun raw capture => { capture with captureBeforeShutdown := parseBool raw true }),
    ("include_minimized",
      fun raw capture => { capture with includeMinimized := parseBool raw true }),
    ("include_incognito",
      fun raw capture => { capture with includeIncognito := parseBool raw false }),
    ("excluded_app_ids", fun raw capture => { capture with excludedAppIds := parseArray raw }),
    ("excluded_url_patterns",
      fun raw capture => { capture with excludedUrlPatterns := parseArray raw }),
    ("browser_timeout_ms",
      fun raw capture => { capture with browserTimeoutMs := parseU32 raw 700 })]

def restoreKeys : Keys RestoreConfig :=
  [("launch_missing_apps",
      fun raw restore => { restore with launchMissingApps := parseBool raw true }),
    ("lazy_load_tabs", fun raw restore => { restore with lazyLoadTabs := parseBool raw true }),
    ("restore_cursor", fun raw restore => { restore with restoreCursor := parseBool raw true }),
    ("restore_z_order", fun raw restore => { restore with restoreZOrder := parseBool raw true }),
    ("app_launch_timeout_ms",
      fun raw restore => { restore with appLaunchTimeoutMs := parseU32 raw 8000 }),
    ("window_settle_timeout_ms",
      fun raw restore => { restore with windowSettleTimeoutMs := parseU32 raw 2500 }),
    ("max_parallel_launches",
      fun raw restore => { restore with maxParallelLaunches := parseU32 raw 4 })]

def privacyKeys : Keys PrivacyConfig :=
  [("sanitize_urls", fun raw privacy => { privacy with sanitizeUrls := parseBool raw true }),
    ("strip_query_strings",
      fun raw privacy => { privacy with stripQueryStrings := parseBool raw false }),
    ("hash_excluded_urls",
      fun raw privacy => { privacy with hashExcludedUrls := parseBool raw true }),
    ("extra_sensitive_params",
      fun raw privacy => { privacy with extraSensitiveParams := parseArray raw }),
    ("domain_denylist", fun raw privacy => { privacy with domainDenylist := parseArray raw }),
    ("domain_allowlist", fun raw privacy => { privacy with domainAllowlist := parseArray raw })]

def hotkeyKeys : Keys HotkeyConfig :=
  [("quick_switcher", fun raw hotkeys => { hotkeys with quickSwitcher := textValue raw }),
    ("save_snapshot", fun raw hotkeys => { hotkeys with saveSnapshot := textValue raw }),
    ("restore_last", fun raw hotkeys => { hotkeys with restoreLast := textValue raw }),
    ("enabled", fun raw hotkeys => { hotkeys with enabled := parseBool raw true })]

def ipcKeys : Keys IpcConfig :=
  [("socket_path", fun raw ipc => { ipc with socketPath := textValue raw }),
    ("max_frame_bytes",
      fun raw ipc => { ipc with maxFrameBytes := parseU32 raw (16 * 1024 * 1024) }),
    ("request_timeout_ms", fun raw ipc => { ipc with requestTimeoutMs := parseU32 raw 5000 }),
    ("max_clients", fun raw ipc => { ipc with maxClients := parseU32 raw 16 })]

def topKeys : Keys Config :=
  [("log_level", fun raw config => { config with logLevel := .ofText (textValue raw) }),
    ("log_file", fun raw config => { config with logFile := textValue raw })]

def applyKey {α : Type} (keys : Keys α) (key raw : Bytes) (values : α) : α :=
  (keys.find? fun entry => str entry.1 = key).elim values fun entry => entry.2 raw values

end ConfigFile

open ConfigFile

/-- `apply`. A section without a name of its own counts as the top level. -/
def Config.apply (config : Config) (header key raw : Bytes) : Config :=
  if header = str "storage" then
    { config with storage := applyKey storageKeys key raw config.storage }
  else if header = str "capture" then
    { config with capture := applyKey captureKeys key raw config.capture }
  else if header = str "restore" then
    { config with restore := applyKey restoreKeys key raw config.restore }
  else if header = str "privacy" then
    { config with privacy := applyKey privacyKeys key raw config.privacy }
  else if header = str "hotkeys" then
    { config with hotkeys := applyKey hotkeyKeys key raw config.hotkeys }
  else if header = str "ipc" then
    { config with ipc := applyKey ipcKeys key raw config.ipc }
  else applyKey topKeys key raw config

/-! ### Reading -/

/-- One line, with the section that it stands in. -/
def Config.loadLine (state : Config × Bytes) (line : Bytes) : Config × Bytes :=
  let trimmed := trim line
  if trimmed = [] ∨ trimmed.head? = some 35 then state
  else if trimmed.head? = some 91 ∧ trimmed.getLast? = some 93 then
    (state.1, trimmed.tail.dropLast)
  else if 61 ∈ trimmed then
    (state.1.apply state.2 (trim (trimmed.takeWhile (· ≠ 61)))
      (trim (trimmed.dropWhile (· ≠ 61)).tail), state.2)
  else state

def Config.loadLines (config : Config) (lines : List Bytes) : Config :=
  (lines.foldl Config.loadLine (config, [])).1

/-- What the program finds around it. -/
structure ConfigHost where
  /-- The values of environment variables, empty for those that are not set. -/
  env : String → Bytes := fun _ => []
  files : Bytes → Option Bytes := fun _ => none
  /-- `join(paths::config_dir(), "config.toml")`, and the default paths. -/
  configPath : Bytes := str "config.toml"
  databasePath : Bytes := str "snapshots.db"
  socketPath : Bytes := str "contextsnap.sock"
  logPath : Bytes := str "contextsnapd.log"
  /-- What `ensure_directory` says, and whether a file can be opened for writing. -/
  ensureDirectory : Bytes → Status := fun _ => .ok ()
  writable : Bytes → Bool := fun _ => true
  withSqlcipher : Bool := false

def Config.withDefaults (host : ConfigHost) : Config :=
  { storage := { databasePath := host.databasePath }, ipc := { socketPath := host.socketPath }
    logFile := host.logPath }

/-- The variable, the section and the key. -/
def kOverrides : List (String × String × String) :=
  [("CONTEXTSNAP_DB", "storage", "database_path"),
    ("CONTEXTSNAP_SOCKET", "ipc", "socket_path"),
    ("CONTEXTSNAP_LOG_LEVEL", "", "log_level"),
    ("CONTEXTSNAP_LOG_FILE", "", "log_file"),
    ("CONTEXTSNAP_AUTO_CAPTURE", "capture", "auto_capture"),
    ("CONTEXTSNAP_SANITIZE_URLS", "privacy", "sanitize_urls"),
    ("CONTEXTSNAP_ENCRYPT", "storage", "encrypt")]

def Config.applyEnvironment (host : ConfigHost) (config : Config) : Config :=
  kOverrides.foldl (fun config entry =>
    if host.env entry.1 = [] then config
    else config.apply (str entry.2.1) (str entry.2.2) (host.env entry.1)) config

def Config.validate (host : ConfigHost) (config : Config) : Status :=
  if config.storage.databasePath = [] then
    .error (Err.invalid (str "storage.database_path must not be empty") (str "config.validate"))
  else if host.withSqlcipher = false ∧ config.storage.encrypt = true then
    .error (Err.unsupported
      (str "storage.encrypt requires a build with -DCONTEXTSNAP_WITH_SQLCIPHER=ON")
      (str "config.validate"))
  else if config.ipc.maxFrameBytes < 64 * 1024 then
    .error (Err.invalid (str "ipc.max_frame_bytes must be at least 65536") (str "config.validate"))
  else if config.capture.autoCapture = true ∧ config.capture.autoCaptureIntervalMinutes = 0 then
    .error (Err.invalid
      (str "capture.auto_capture_interval_minutes must be > 0 when auto capture is on")
      (str "config.validate"))
  else if config.privacy.domainAllowlist ≠ [] ∧ config.privacy.domainDenylist ≠ [] then
    .error (Err.invalid
      (str "privacy.domain_allowlist and domain_denylist are mutually exclusive")
      (str "config.validate"))
  else .ok ()

def Config.finishLoad (host : ConfigHost) (config : Config) : Result Config :=
  (config.validate host).map fun _ => config

def Config.load (host : ConfigHost) (explicitPath : Bytes) : Result Config :=
  let path := if explicitPath = [] then host.configPath else explicitPath
  let config := Config.withDefaults host
  match host.files path with
  | some text =>
      ((config.loadLines (pieces 10 text)).applyEnvironment host).finishLoad host
  | none =>
      if explicitPath = [] then (config.applyEnvironment host).finishLoad host
      else .error (Err.notFound (str "config file not found: " ++ explicitPath) (str "config.load"))

/-! ### Writing -/

namespace ConfigFile

def quoted (text : Bytes) : Bytes := 34 :: text ++ [34]

def boolText (value : Bool) : Bytes := str (if value then "true" else "false")

def numberText (value : UInt32) : Bytes := decimal value.toNat

def arrayItems : List Bytes → Bytes
  | [] => []
  | [value] => quoted value
  | value :: values => quoted value ++ str ", " ++ arrayItems values

def arrayText (values : List Bytes) : Bytes := str "[" ++ arrayItems values ++ str "]"

def entryLine (entry : String × Bytes) : Bytes := str entry.1 ++ str " = " ++ entry.2

def storageEntries (storage : StorageConfig) : List (String × Bytes) :=
  [("database_path", quoted storage.databasePath), ("encrypt", boolText storage.encrypt),
    ("retention_days", numberText storage.retentionDays),
    ("max_snapshots", numberText storage.maxSnapshots),
    ("vacuum_interval_days", numberText storage.vacuumIntervalDays),
    ("store_favicons", boolText storage.storeFavicons),
    ("favicon_cache_mb", numberText storage.faviconCacheMb)]

def captureEntries (capture : CaptureConfig) : List (String × Bytes) :=
  [("auto_capture", boolText capture.autoCapture),
    ("auto_capture_interval_minutes", numberText capture.autoCaptureIntervalMinutes),
    ("capture_on_idle", boolText capture.captureOnIdle),
    ("idle_threshold_minutes", numberText capture.idleThresholdMinutes),
    ("capture_before_shutdown", boolText capture.captureBeforeShutdown),
    ("include_minimized", boolText capture.includeMinimized),
    ("include_incognito", boolText capture.includeIncognito),
    ("excluded_app_ids", arrayText capture.excludedAppIds),
    ("excluded_url_patterns", arrayText capture.excludedUrlPatterns),
    ("browser_timeout_ms", numberText capture.browserTimeoutMs)]

def restoreEntries (restore : RestoreConfig) : List (String × Bytes) :=
  [("launch_missing_apps", boolText restore.launchMissingApps),
    ("lazy_load_tabs", boolText restore.lazyLoadTabs),
    ("restore_cursor", boolText restore.restoreCursor),
    ("restore_z_order", boolText restore.restoreZOrder),
    ("app_launch_timeout_ms", numberText restore.appLaunchTimeoutMs),
    ("window_settle_timeout_ms", numberText restore.windowSettleTimeoutMs),
    ("max_parallel_launches", numberText restore.maxParallelLaunches)]

def privacyEntries (privacy : PrivacyConfig) : List (String × Bytes) :=
  [("sanitize_urls", boolText privacy.sanitizeUrls),
    ("strip_query_strings", boolText privacy.stripQueryStrings),
    ("hash_excluded_urls", boolText privacy.hashExcludedUrls),
    ("extra_sensitive_params", arrayText privacy.extraSensitiveParams),
    ("domain_denylist", arrayText privacy.domainDenylist),
    ("domain_allowlist", arrayText privacy.domainAllowlist)]

def hotkeyEntries (hotkeys : HotkeyConfig) : List (String × Bytes) :=
  [("enabled", boolText hotkeys.enabled), ("quick_switcher", quoted hotkeys.quickSwitcher),
    ("save_snapshot", quoted hotkeys.saveSnapshot), ("restore_last", quoted hotkeys.restoreLast)]

def ipcEntries (ipc : IpcConfig) : List (String × Bytes) :=
  [("socket_path", quoted ipc.socketPath), ("max_frame_bytes", numberText ipc.maxFrameBytes),
    ("request_timeout_ms", numberText ipc.requestTimeoutMs),
    ("max_clients", numberText ipc.maxClients)]

def topEntries (config : Config) : List (String × Bytes) :=
  [("log_level", quoted (str config.logLevel.toText)), ("log_file", quoted config.logFile)]

end ConfigFile

/-- The project's name and its version, as CMake puts them into the program. -/
def banner : Bytes := str "# ContextSnap configuration (contextsnap 0.1.0)"

/-- The sections behind the top level, with their entries. -/
def Config.groups (config : Config) : List (Bytes × List (String × Bytes)) :=
  [(str "storage", storageEntries config.storage), (str "capture", captureEntries config.capture),
    (str "restore", restoreEntries config.restore), (str "privacy", privacyEntries config.privacy),
    (str "hotkeys", hotkeyEntries config.hotkeys), (str "ipc", ipcEntries config.ipc)]

def groupLines (group : Bytes × List (String × Bytes)) : List Bytes :=
  [[], str "[" ++ group.1 ++ str "]"] ++ group.2.map entryLine

/-- What is written, line by line where no value breaks its line. -/
def Config.lines (config : Config) : List Bytes :=
  banner :: (topEntries config).map entryLine ++ config.groups.flatMap groupLines

def Config.text (config : Config) : Bytes := config.lines.flatMap (· ++ [10])

/-- `path(p).parent_path()` of a path without a root name. -/
def parentPath (path : Bytes) : Bytes :=
  ((path.reverse.dropWhile (· ≠ 47)).dropWhile (· = 47)).reverse

def Config.save (config : Config) (host : ConfigHost) (path : Bytes) : Status × ConfigHost :=
  match host.ensureDirectory (parentPath path) with
  | .error e => (.error e, host)
  | .ok () =>
      if path ≠ [] ∧ host.writable path then
        (.ok (), { host with files := Function.update host.files path (some config.text) })
      else
        (.error { code := .ioError, message := str "cannot write config: " ++ path
                  context := str "config.save" }, host)

end ContextSnap
