import ContextSnap.Core.Types

/-!
# Configuration

The sections of the configuration with their defaults, and the options of captures and restores that
come from them.
-/

namespace ContextSnap

/-- `log::Level`. -/
inductive LogLevel where
  | trace | debug | info | warn | error | off
  deriving DecidableEq, Repr, Inhabited

/-- A limit of zero disables the pruning it is for. -/
structure StorageConfig where
  databasePath : Bytes := []
  encrypt : Bool := false
  retentionDays : UInt32 := 90
  maxSnapshots : UInt32 := 500
  vacuumIntervalDays : UInt32 := 14
  storeFavicons : Bool := true
  faviconCacheMb : UInt32 := 32
  deriving DecidableEq

structure CaptureConfig where
  autoCapture : Bool := false
  autoCaptureIntervalMinutes : UInt32 := 30
  captureOnIdle : Bool := true
  idleThresholdMinutes : UInt32 := 10
  captureBeforeShutdown : Bool := true
  includeMinimized : Bool := true
  includeIncognito : Bool := false
  excludedAppIds : List Bytes := []
  excludedUrlPatterns : List Bytes := []
  browserTimeoutMs : UInt32 := 700
  deriving DecidableEq

structure RestoreConfig where
  launchMissingApps : Bool := true
  lazyLoadTabs : Bool := true
  restoreCursor : Bool := true
  restoreZOrder : Bool := true
  appLaunchTimeoutMs : UInt32 := 8000
  windowSettleTimeoutMs : UInt32 := 2500
  maxParallelLaunches : UInt32 := 4
  deriving DecidableEq

structure PrivacyConfig where
  sanitizeUrls : Bool := true
  stripQueryStrings : Bool := false
  hashExcludedUrls : Bool := true
  extraSensitiveParams : List Bytes := []
  domainDenylist : List Bytes := []
  domainAllowlist : List Bytes := []
  deriving DecidableEq

structure HotkeyConfig where
  quickSwitcher : Bytes := str "CommandOrControl+Shift+Space"
  saveSnapshot : Bytes := str "CommandOrControl+Shift+S"
  restoreLast : Bytes := str "CommandOrControl+Shift+R"
  enabled : Bool := true
  deriving DecidableEq

structure IpcConfig where
  socketPath : Bytes := []
  maxFrameBytes : UInt32 := 16 * 1024 * 1024
  requestTimeoutMs : UInt32 := 5000
  maxClients : UInt32 := 16
  deriving DecidableEq

structure Config where
  storage : StorageConfig := {}
  capture : CaptureConfig := {}
  restore : RestoreConfig := {}
  privacy : PrivacyConfig := {}
  hotkeys : HotkeyConfig := {}
  ipc : IpcConfig := {}
  logLevel : LogLevel := .info
  logFile : Bytes := []
  deriving DecidableEq

def milliseconds (count : UInt32) : Milliseconds := count.toUInt64.toInt64

def Config.captureOptions (config : Config) : CaptureOptions :=
  { includeMinimized := config.capture.includeMinimized
    includeIncognito := config.capture.includeIncognito
    sanitizeUrls := config.privacy.sanitizeUrls
    browserTimeout := milliseconds config.capture.browserTimeoutMs
    excludedAppIds := config.capture.excludedAppIds
    excludedUrlPatterns := config.capture.excludedUrlPatterns }

def Config.restoreOptions (config : Config) : RestoreOptions :=
  { launchMissingApps := config.restore.launchMissingApps
    lazyLoadTabs := config.restore.lazyLoadTabs
    restoreCursor := config.restore.restoreCursor
    restoreZOrder := config.restore.restoreZOrder
    appLaunchTimeout := milliseconds config.restore.appLaunchTimeoutMs
    windowSettleTimeout := milliseconds config.restore.windowSettleTimeoutMs
    maxParallelLaunches := max 1 config.restore.maxParallelLaunches }

end ContextSnap
