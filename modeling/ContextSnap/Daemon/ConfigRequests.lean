import ContextSnap.Core.ConfigFile
import ContextSnap.Daemon.Handlers

/-!
# The settings

The request that reads the configuration of a running daemon and the one that changes it. The latter
takes the members that it knows, and reports the configuration that is now in force.
-/

namespace ContextSnap.Daemon

open Json (Value)

def uint32Value (value : UInt32) : Value := .int value.toUInt64.toInt64

/-! ### Reports -/

def storageToJson (storage : StorageConfig) : Value :=
  .object [(str "database_path", .string storage.databasePath),
    (str "encrypt", .bool storage.encrypt),
    (str "retention_days", uint32Value storage.retentionDays),
    (str "max_snapshots", uint32Value storage.maxSnapshots)]

def captureToJson (capture : CaptureConfig) : Value :=
  .object [(str "auto_capture", .bool capture.autoCapture),
    (str "auto_capture_interval_minutes", uint32Value capture.autoCaptureIntervalMinutes),
    (str "include_minimized", .bool capture.includeMinimized),
    (str "include_incognito", .bool capture.includeIncognito),
    (str "browser_timeout_ms", uint32Value capture.browserTimeoutMs)]

def restoreToJson (restore : RestoreConfig) : Value :=
  .object [(str "launch_missing_apps", .bool restore.launchMissingApps),
    (str "lazy_load_tabs", .bool restore.lazyLoadTabs),
    (str "restore_cursor", .bool restore.restoreCursor),
    (str "restore_z_order", .bool restore.restoreZOrder)]

def ipcToJson (ipc : IpcConfig) : Value :=
  .object [(str "socket_path", .string ipc.socketPath),
    (str "request_timeout_ms", uint32Value ipc.requestTimeoutMs)]

/-- `config_to_json`, with a function for each of its sections. -/
def configToJson (config : Config) : Value :=
  .object [(str "storage", storageToJson config.storage),
    (str "capture", captureToJson config.capture),
    (str "restore", restoreToJson config.restore),
    (str "privacy", .object [(str "sanitize_urls", .bool config.privacy.sanitizeUrls)]),
    (str "ipc", ipcToJson config.ipc),
    (str "log_level", .string (str config.logLevel.toText))]

/-- A number of the configuration, cut to 32 bits. -/
def uint32Param (params : Value) (key : Bytes) (fallback : UInt32) : UInt32 :=
  (intParam params key fallback.toUInt64.toInt64).toUInt64.toUInt32

/-! ### What a request asks for -/

def storageFrom (config : StorageConfig) (storage : Value) : StorageConfig :=
  { config with
    retentionDays := uint32Param storage (str "retention_days") config.retentionDays
    maxSnapshots := uint32Param storage (str "max_snapshots") config.maxSnapshots }

def captureFrom (config : CaptureConfig) (capture : Value) : CaptureConfig :=
  { config with
    autoCapture := boolParam capture (str "auto_capture") config.autoCapture
    autoCaptureIntervalMinutes := uint32Param capture (str "auto_capture_interval_minutes")
      config.autoCaptureIntervalMinutes
    includeIncognito := boolParam capture (str "include_incognito") config.includeIncognito }

def restoreFrom (config : RestoreConfig) (restore : Value) : RestoreConfig :=
  { config with
    lazyLoadTabs := boolParam restore (str "lazy_load_tabs") config.lazyLoadTabs
    launchMissingApps := boolParam restore (str "launch_missing_apps") config.launchMissingApps }

def privacyFrom (config : PrivacyConfig) (privacy : Value) : PrivacyConfig :=
  { config with sanitizeUrls := boolParam privacy (str "sanitize_urls") config.sanitizeUrls }

/-- The members that the handler knows, over what the configuration says. -/
def configFrom (params : Value) (config : Config) : Config :=
  { config with
    storage := (params.find (str "storage")).elim config.storage (storageFrom config.storage)
    capture := (params.find (str "capture")).elim config.capture (captureFrom config.capture)
    restore := (params.find (str "restore")).elim config.restore (restoreFrom config.restore)
    privacy := (params.find (str "privacy")).elim config.privacy (privacyFrom config.privacy)
    logLevel :=
      if params.contains (str "log_level") then .ofText (stringParam params (str "log_level"))
      else config.logLevel }

/-! ### The handlers -/

/-- The configuration of the manager, the level of the log, which is one for the whole process, and
what stands around the daemon. -/
structure Settings where
  config : Config
  level : LogLevel
  host : ConfigHost

def getConfig (settings : Settings) : Value := configToJson settings.config

def configChanged (config : Config) : Ipc.Event :=
  { type := .configChanged, payload := configToJson config }

/-- The level of the log is set before the configuration is looked at. That it could not be stored
is only logged. -/
def setConfig (params : Value) (settings : Settings) : Result Reply × Settings :=
  let config := configFrom params settings.config
  let level := if params.contains (str "log_level") then config.logLevel else settings.level
  match config.validate settings.host with
  | .error e => (.error e, { settings with level })
  | .ok () =>
      (.ok { result := configToJson config, published := [configChanged config] },
        { config, level, host := (config.save settings.host []).2 })

end ContextSnap.Daemon
