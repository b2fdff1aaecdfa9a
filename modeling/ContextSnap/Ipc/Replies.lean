import ContextSnap.Storage.Replies

/-!
# Replies as the client reads them

Members that are missing or of another kind are read as defaults.
-/

namespace ContextSnap.Ipc

open Json (Value)

def stringField (value : Value) (key : String) : Bytes :=
  (value.find (str key)).elim [] (·.asString [])

def stringList (value : Value) (key : String) : List Bytes :=
  match value.find (str key) with
  | some (.array entries) => entries.map (·.asString [])
  | _ => []

def unsignedField (value : Value) (key : String) : UInt32 :=
  (value.find (str key)).elim 0 fun found => Storage.int64ToUInt32 (found.asInt 0)

def boolField (value : Value) (key : String) : Bool :=
  (value.find (str key)).elim false (·.asBool false)

/-- An RFC 3339 text, or else milliseconds since the epoch. -/
def timestampField (value : Value) (key : String) : Timestamp :=
  match value.find (str key) with
  | none => 0
  | some (.string text) => Storage.timestampOr 0 text
  | some found => Storage.fromUnixMillis (found.asInt 0)

def summaryFromJson (value : Value) : SnapshotSummary :=
  { id := stringField value "id"
    name := stringField value "name"
    tags := stringList value "tags"
    createdAt := timestampField value "created_at"
    windowCount := unsignedField value "window_count"
    tabCount := unsignedField value "tab_count"
    monitorCount := unsignedField value "monitor_count"
    favorite := boolField value "favorite"
    automatic := boolField value "automatic" }

def stepFromJson (entry : Value) : Option RestoreStep :=
  let number := (entry.find (str "kind")).elim 0 (·.asInt 0)
  (RestoreStepKind.ofByte number.toUInt64.toUInt8).map fun kind =>
    { kind
      targetId := stringField entry "target_id"
      description := stringField entry "description"
      skipped := boolField entry "skipped"
      skipReason := stringField entry "skip_reason" }

/-- `none` is a plan with a step of a kind that has no name. -/
def planFromJson (value : Value) : Option RestorePlan :=
  ((Storage.itemsOf value "steps").mapM stepFromJson).map fun steps =>
    { snapshotId := stringField value "snapshot_id"
      steps
      warnings := stringList value "warnings"
      estimatedDurationMs := unsignedField value "estimated_duration_ms" }

def reportFromJson (value : Value) : RestoreReport :=
  { snapshotId := stringField value "snapshot_id"
    windowsRestored := unsignedField value "windows_restored"
    windowsFailed := unsignedField value "windows_failed"
    appsLaunched := unsignedField value "apps_launched"
    tabsRestored := unsignedField value "tabs_restored"
    durationMs := unsignedField value "duration_ms"
    warnings := stringList value "warnings"
    errors := stringList value "errors" }

end ContextSnap.Ipc
