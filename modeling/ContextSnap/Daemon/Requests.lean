import ContextSnap.Core.Config
import ContextSnap.Core.Json
import ContextSnap.Core.Restore

/-!
# Requests

How the daemon reads the parameters of a capture and of a restore: members that are missing keep
what the configuration says.
-/

namespace ContextSnap.Daemon

open Json (Value)
open Restore (parseSelector)

def stringParam (params : Value) (key : Bytes) (fallback : Bytes := []) : Bytes :=
  (params.find key).elim fallback (Value.asString [])

def boolParam (params : Value) (key : Bytes) (fallback : Bool) : Bool :=
  (params.find key).elim fallback (Value.asBool false)

def intParam (params : Value) (key : Bytes) (fallback : Int64) : Int64 :=
  (params.find key).elim fallback (Value.asInt 0)

def stringList (params : Value) (key : Bytes) : List Bytes :=
  match params.find key with
  | some (.array entries) => entries.map (Value.asString [])
  | _ => []

/-- A number that is positive, or else the fallback. -/
def positiveParam (params : Value) (key : Bytes) (fallback : Int64) : Int64 :=
  let value := intParam params key 0
  if value > 0 then value else fallback

def captureOptionsFrom (params : Value) (config : Config) : CaptureOptions :=
  let options := config.captureOptions
  { includeTabs := boolParam params (str "include_tabs") options.includeTabs
    includeMinimized := boolParam params (str "include_minimized") options.includeMinimized
    includeCursor := boolParam params (str "include_cursor") options.includeCursor
    includeIncognito := boolParam params (str "include_incognito") options.includeIncognito
    includeAllWorkspaces :=
      boolParam params (str "include_all_workspaces") options.includeAllWorkspaces
    sanitizeUrls := boolParam params (str "sanitize_urls") options.sanitizeUrls
    automatic := boolParam params (str "automatic") options.automatic
    name := stringParam params (str "name") options.name
    tags := if params.contains (str "tags") then stringList params (str "tags") else options.tags
    excludedAppIds :=
      if params.contains (str "excluded_app_ids") then stringList params (str "excluded_app_ids")
      else options.excludedAppIds
    excludedUrlPatterns :=
      if params.contains (str "excluded_url_patterns") then
        stringList params (str "excluded_url_patterns")
      else options.excludedUrlPatterns
    browserTimeout := positiveParam params (str "browser_timeout_ms") options.browserTimeout }

/-- One entry of `selectors`: a text that does not parse is dropped, anything else is read as the
structured form. -/
def decodeSelector : Value → Option RestoreSelector
  | .string text => (parseSelector text).toOption
  | entry => some {
      kind := .ofByte (intParam entry (str "kind") 0).toUInt64.toUInt8
      pattern := stringParam entry (str "pattern") }

def selectorsFrom (params : Value) (fallback : List RestoreSelector) : List RestoreSelector :=
  match params.find (str "selectors") with
  | some (.array entries) => entries.filterMap decodeSelector
  | _ => fallback

def restoreOptionsFrom (params : Value) (config : Config) : RestoreOptions :=
  let options := config.restoreOptions
  { launchMissingApps := boolParam params (str "launch_missing_apps") options.launchMissingApps
    restoreTabs := boolParam params (str "restore_tabs") options.restoreTabs
    lazyLoadTabs := boolParam params (str "lazy_load_tabs") options.lazyLoadTabs
    restoreCursor := boolParam params (str "restore_cursor") options.restoreCursor
    restoreFocus := boolParam params (str "restore_focus") options.restoreFocus
    restoreZOrder := boolParam params (str "restore_z_order") options.restoreZOrder
    restoreWorkspaces := boolParam params (str "restore_workspaces") options.restoreWorkspaces
    closeConflictingWindows :=
      boolParam params (str "close_conflicting_windows") options.closeConflictingWindows
    dryRun := boolParam params (str "dry_run") options.dryRun
    appLaunchTimeout := positiveParam params (str "app_launch_timeout_ms") options.appLaunchTimeout
    windowSettleTimeout :=
      positiveParam params (str "window_settle_timeout_ms") options.windowSettleTimeout
    maxParallelLaunches :=
      let value := intParam params (str "max_parallel_launches") 0
      if value > 0 then value.toUInt64.toUInt32 else options.maxParallelLaunches
    selectors := selectorsFrom params options.selectors }

end ContextSnap.Daemon
