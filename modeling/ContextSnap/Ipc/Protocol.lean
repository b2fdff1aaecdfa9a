import ContextSnap.Core.Json
import ContextSnap.Ipc.Frame

/-!
# Messages

The requests, responses and events of the daemon, and the JSON that stands for them.
-/

namespace ContextSnap.Ipc

open Json (Value)

def kProtocolVersion : Int64 := 1

def kMaxFrameBytes : UInt32 := 16 * 1024 * 1024

/-! ### Names -/

inductive Method where
  | unknown | hello | ping | captureSnapshot | listSnapshots | getSnapshot | deleteSnapshot
  | renameSnapshot | tagSnapshot | favoriteSnapshot | planRestore | restoreSnapshot
  | searchSnapshots | exportSnapshot | importSnapshot | getConfig | setConfig | getHealth
  | pruneSnapshots | subscribe | shutdown
  deriving DecidableEq, Repr

def kMethodNames : List (Method × String) :=
  [(.unknown, "unknown"), (.hello, "hello"), (.ping, "ping"),
    (.captureSnapshot, "capture_snapshot"), (.listSnapshots, "list_snapshots"),
    (.getSnapshot, "get_snapshot"), (.deleteSnapshot, "delete_snapshot"),
    (.renameSnapshot, "rename_snapshot"), (.tagSnapshot, "tag_snapshot"),
    (.favoriteSnapshot, "favorite_snapshot"), (.planRestore, "plan_restore"),
    (.restoreSnapshot, "restore_snapshot"), (.searchSnapshots, "search_snapshots"),
    (.exportSnapshot, "export_snapshot"), (.importSnapshot, "import_snapshot"),
    (.getConfig, "get_config"), (.setConfig, "set_config"), (.getHealth, "get_health"),
    (.pruneSnapshots, "prune_snapshots"), (.subscribe, "subscribe"), (.shutdown, "shutdown")]

def Method.toText (method : Method) : String :=
  ((kMethodNames.find? (·.1 = method)).map (·.2)).getD "unknown"

def methodFromString (text : Bytes) : Method :=
  ((kMethodNames.find? fun entry => str entry.2 = text).map (·.1)).getD .unknown

inductive EventType where
  | snapshotCreated | snapshotDeleted | snapshotUpdated | restoreStarted | restoreProgress
  | restoreFinished | browserConnected | browserDisconnected | configChanged | daemonShuttingDown
  deriving DecidableEq, Repr

def EventType.toText : EventType → String
  | .snapshotCreated => "snapshot_created"
  | .snapshotDeleted => "snapshot_deleted"
  | .snapshotUpdated => "snapshot_updated"
  | .restoreStarted => "restore_started"
  | .restoreProgress => "restore_progress"
  | .restoreFinished => "restore_finished"
  | .browserConnected => "browser_connected"
  | .browserDisconnected => "browser_disconnected"
  | .configChanged => "config_changed"
  | .daemonShuttingDown => "daemon_shutting_down"

/-- The types in the order of their numbers. -/
def EventType.all : List EventType :=
  [.snapshotCreated, .snapshotDeleted, .snapshotUpdated, .restoreStarted, .restoreProgress,
    .restoreFinished, .browserConnected, .browserDisconnected, .configChanged,
    .daemonShuttingDown]

def eventTypeFromText (text : Bytes) : EventType :=
  (EventType.all.find? fun type => str type.toText = text).getD .snapshotCreated

/-- The codes in the order of their numbers. -/
def allErrorCodes : List ErrorCode :=
  [.ok, .notFound, .alreadyExists, .invalidArgument, .permissionDenied, .unsupported, .ioError,
    .databaseError, .serializationError, .protocolError, .timeout, .cancelled, .conflict,
    .partialFailure, .internal]

def errorCodeFromText (text : Bytes) : ErrorCode :=
  (allErrorCodes.find? fun code => str code.toText = text).getD .ok

/-! ### Requests -/

structure Request where
  id : UInt64 := 0
  method : Method := .unknown
  params : Value := .null

def Request.toJson (request : Request) : Value :=
  .object
    [(str "v", .int kProtocolVersion), (str "id", .int request.id.toInt64),
      (str "method", .string (str request.method.toText)), (str "params", request.params)]

/-- The member `id` as the number of a message, which is zero without one. -/
def readId (value : Value) : UInt64 := (value.find (str "id")).elim 0 fun id => (id.asInt 0).toUInt64

/-- The member `method`, if it is a text. -/
def readMethod (value : Value) : Option Bytes :=
  match value.find (str "method") with
  | some (.string name) => some name
  | _ => none

def Request.fromJson (value : Value) : Result Request :=
  if !value.isObject then
    .error (Err.protocol (str "request must be a JSON object") (str "ipc.request"))
  else if (value.find (str "v")).any fun version => version.asInt 1 > kProtocolVersion then
    .error (Err.protocol (str "client protocol version is newer than the daemon's")
      (str "ipc.request"))
  else
    match readMethod value with
    | none => .error (Err.protocol (str "request is missing a method") (str "ipc.request"))
    | some name =>
        if methodFromString name = .unknown then
          .error (Err.protocol (str "unknown method: " ++ name) (str "ipc.request"))
        else
          .ok { id := readId value, method := methodFromString name
                params := (value.find (str "params")).getD .null }

/-! ### Responses -/

structure Response where
  id : UInt64 := 0
  ok : Bool := true
  result : Value := .null
  errorCode : ErrorCode := .ok
  errorMessage : Bytes := []

def Response.success (id : UInt64) (result : Value) : Response := { id, ok := true, result }

def Response.failure (id : UInt64) (error : Error) : Response :=
  { id, ok := false, errorCode := error.code, errorMessage := error.render }

def Response.toJson (response : Response) : Value :=
  .object <|
    [(str "v", .int kProtocolVersion), (str "id", .int response.id.toInt64),
      (str "ok", .bool response.ok)]
    ++ if response.ok then
        [(str "result", response.result)]
      else
        [(str "error", .object
          [(str "code", .string (str response.errorCode.toText)),
            (str "message", .string response.errorMessage)])]

def Response.fromJson (value : Value) : Result Response :=
  if !value.isObject then
    .error (Err.protocol (str "response must be a JSON object") (str "ipc.response"))
  else if (value.find (str "ok")).any (·.asBool false) then
    .ok { id := readId value, ok := true, result := (value.find (str "result")).getD .null }
  else
    let error := (value.find (str "error")).getD .null
    .ok {
      id := readId value
      ok := false
      errorMessage := (error.find (str "message")).elim [] (·.asString [])
      errorCode := (error.find (str "code")).elim .ok fun code =>
        errorCodeFromText (code.asString []) }

/-! ### Events -/

structure Event where
  type : EventType := .snapshotCreated
  payload : Value := .null

def Event.toJson (event : Event) : Value :=
  .object
    [(str "v", .int kProtocolVersion), (str "event", .string (str event.type.toText)),
      (str "payload", event.payload)]

def Event.fromJson (value : Value) : Result Event :=
  match value.find (str "event") with
  | some (.string name) =>
      .ok { type := eventTypeFromText name, payload := (value.find (str "payload")).getD .null }
  | _ => .error (Err.protocol (str "event is missing a type") (str "ipc.event"))

end ContextSnap.Ipc
