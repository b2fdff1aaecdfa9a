import ContextSnap.Storage.Serialization

/-!
# Summaries, plans and reports as JSON

What the daemon answers to requests that list snapshots or restore one.
-/

namespace ContextSnap

/-- `static_cast` to the underlying byte. -/
def RestoreStepKind.toByte : RestoreStepKind → UInt8
  | .launchProcess => 0
  | .waitForWindow => 1
  | .moveWindow => 2
  | .setWindowState => 3
  | .setWorkspace => 4
  | .raiseWindow => 5
  | .restoreTabs => 6
  | .warpCursor => 7
  | .focusWindow => 8

/-- `static_cast` from a byte, where `none` is a kind without a name. -/
def RestoreStepKind.ofByte (value : UInt8) : Option RestoreStepKind :=
  [RestoreStepKind.launchProcess, .waitForWindow, .moveWindow, .setWindowState, .setWorkspace,
    .raiseWindow, .restoreTabs, .warpCursor, .focusWindow].find? fun kind => kind.toByte = value

namespace Storage

open Json (Value)

def summaryToJson (summary : SnapshotSummary) : Value :=
  .object
    [(str "id", .string summary.id), (str "name", .string summary.name),
      (str "tags", stringsToJson summary.tags),
      (str "created_at", .string (formatTimestamp summary.createdAt)),
      (str "window_count", .int (uint32ToInt64 summary.windowCount)),
      (str "tab_count", .int (uint32ToInt64 summary.tabCount)),
      (str "monitor_count", .int (uint32ToInt64 summary.monitorCount)),
      (str "favorite", .bool summary.favorite), (str "automatic", .bool summary.automatic)]

def stepToJson (step : RestoreStep) : Value :=
  .object <|
    [(str "kind", .int step.kind.toByte.toUInt64.toInt64), (str "target_id", .string step.targetId),
      (str "description", .string step.description), (str "skipped", .bool step.skipped)]
    ++ if step.skipReason = [] then [] else [(str "skip_reason", .string step.skipReason)]

def planToJson (plan : RestorePlan) : Value :=
  .object
    [(str "snapshot_id", .string plan.snapshotId),
      (str "steps", .array (plan.steps.map stepToJson)),
      (str "warnings", stringsToJson plan.warnings),
      (str "estimated_duration_ms", .int (uint32ToInt64 plan.estimatedDurationMs))]

def reportToJson (report : RestoreReport) : Value :=
  .object
    [(str "snapshot_id", .string report.snapshotId),
      (str "windows_restored", .int (uint32ToInt64 report.windowsRestored)),
      (str "windows_failed", .int (uint32ToInt64 report.windowsFailed)),
      (str "apps_launched", .int (uint32ToInt64 report.appsLaunched)),
      (str "tabs_restored", .int (uint32ToInt64 report.tabsRestored)),
      (str "duration_ms", .int (uint32ToInt64 report.durationMs)),
      (str "warnings", stringsToJson report.warnings), (str "errors", stringsToJson report.errors)]

end Storage

end ContextSnap
