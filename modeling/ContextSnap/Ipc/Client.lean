import ContextSnap.Ipc.Protocol
import ContextSnap.Ipc.Replies

/-!
# The client

Calls that wait for their reply, over a connection that may be made anew. What a call does not take
from the reader of frames stays there for the next one.
-/

namespace ContextSnap.Ipc

open Json (Value)

def selectorParam (selector : RestoreSelector) : Value :=
  ((Value.object []).set (str "kind") (.int selector.kind.toByte.toUInt64.toInt64)).set
    (str "pattern") (.string selector.pattern)

def restoreParams (snapshotId : Bytes) (options : RestoreOptions) : Value :=
  let params := [(str "snapshot_id", Value.string snapshotId),
    (str "launch_missing_apps", .bool options.launchMissingApps),
    (str "restore_tabs", .bool options.restoreTabs),
    (str "lazy_load_tabs", .bool options.lazyLoadTabs),
    (str "restore_cursor", .bool options.restoreCursor),
    (str "restore_focus", .bool options.restoreFocus),
    (str "restore_z_order", .bool options.restoreZOrder),
    (str "restore_workspaces", .bool options.restoreWorkspaces),
    (str "close_conflicting_windows", .bool options.closeConflictingWindows),
    (str "dry_run", .bool options.dryRun),
    (str "app_launch_timeout_ms", .int options.appLaunchTimeout),
    (str "window_settle_timeout_ms", .int options.windowSettleTimeout),
    (str "max_parallel_launches", .int options.maxParallelLaunches.toUInt64.toInt64)].foldl
      (fun params (key, value) => params.set key value) (Value.object [])
  if options.selectors = [] then params
  else params.set (str "selectors") (.array (options.selectors.map selectorParam))

/-- A member that is only sent when there is something in it. -/
def setUnlessEmpty {α : Type} (params : Value) (key : Bytes) (items : List α) (value : Value) :
    Value :=
  if items.isEmpty then params else params.set key value

def captureParams (options : CaptureOptions) : Value :=
  let params := [(str "include_tabs", Value.bool options.includeTabs),
    (str "include_minimized", .bool options.includeMinimized),
    (str "include_cursor", .bool options.includeCursor),
    (str "include_incognito", .bool options.includeIncognito),
    (str "include_all_workspaces", .bool options.includeAllWorkspaces),
    (str "sanitize_urls", .bool options.sanitizeUrls),
    (str "automatic", .bool options.automatic),
    (str "browser_timeout_ms", .int options.browserTimeout)].foldl
      (fun params (key, value) => params.set key value) (Value.object [])
  let params := setUnlessEmpty params (str "name") options.name (.string options.name)
  let params :=
    setUnlessEmpty params (str "tags") options.tags (Storage.stringsToJson options.tags)
  let params := setUnlessEmpty params (str "excluded_app_ids") options.excludedAppIds
    (Storage.stringsToJson options.excludedAppIds)
  setUnlessEmpty params (str "excluded_url_patterns") options.excludedUrlPatterns
    (Storage.stringsToJson options.excludedUrlPatterns)

/-! ### Errors -/

def kContext : Bytes := str "ipc client"

def ioError (message : String) : Error :=
  { code := .ioError, message := str message, context := kContext }

/-- `error_from`. -/
def errorFrom (response : Response) : Error :=
  let message :=
    if response.errorMessage = [] then str "daemon reported a failure" else response.errorMessage
  let code :=
    if response.errorCode ∈ [.notFound, .invalidArgument, .unsupported, .permissionDenied,
        .protocolError, .ioError, .databaseError] then
      response.errorCode
    else .internal
  { code, message, context := kContext }

/-! ### State -/

/-- What one round trip took from the reader, and what it returned. -/
structure RoundTrip where
  /-- How many ids were handed out before. -/
  number : Nat
  id : UInt64
  connection : Nat
  taken : List Bytes
  result : Result Response

structure Client where
  /-- The number of the connection, which counts the attempts to connect. -/
  connection : Option Nat := none
  reader : FrameReader := { maxBytes := kMaxFrameBytes }
  nextRequestId : UInt64 := 1
  serverVersion : UInt32 := 0
  /-- The attempts to connect, the ids and the questions whether the connection is open so far. -/
  attempts : Nat := 0
  asked : Nat := 0
  questions : Nat := 0
  /-- The calls of `write`, and those of `read_some` on this connection. -/
  writes : Nat := 0
  reads : Nat := 0
  log : List RoundTrip := []

/-- The answers of the connections and of the clock, each call on its own. -/
structure ClientEnv where
  version : Bytes
  /-- The error of an attempt to connect. -/
  connect : Nat → Option Error
  isOpen : Nat → Bool
  write : Nat → Result Nat
  /-- What a `read_some` on a connection returns. -/
  readSome : Nat → Nat → Result Bytes
  /-- How often the wait for the reply to a request finds its deadline ahead. -/
  rounds : Nat → Nat
  /-- What becomes of a subscription on its own connection. -/
  subscription : Nat → Status

section Calls

variable (env : ClientEnv)

/-! ### Round trips -/

/-- The loop that writes a frame. Every call of `write` but the last takes something, so that the
number of bytes bounds its rounds. -/
def writeFrame : Nat → Bytes → Client → Option Error × Client
  | _, [], client => (none, client)
  | 0, _, client => (none, client)
  | rounds + 1, bytes, client =>
      match env.write client.writes with
      | .error e => (some e, { client with writes := client.writes + 1 })
      | .ok 0 =>
          (some (ioError "the daemon closed the connection while writing"),
            { client with writes := client.writes + 1 })
      | .ok count =>
          writeFrame rounds (bytes.drop count) { client with writes := client.writes + 1 }

/-- What a frame means to the request with this id: `none` is one to pass over, an event or a stale
reply. -/
def judge (id : UInt64) (text : Bytes) : Option (Result Response) :=
  match Json.parse text with
  | .error e => some (.error e)
  | .ok document =>
      if (document.find (str "event")).isSome then none
      else
        match Response.fromJson document with
        | .error e => some (.error e)
        | .ok response => if response.id = id then some (.ok response) else none

/-- The loop that waits for a reply: the frames that it takes and the result. -/
def awaitReply (connection : Nat) (id : UInt64) :
    Nat → Client → List Bytes × Result Response × Client
  | 0, client => ([], .error (ioError "timed out waiting for the daemon to reply"), client)
  | rounds + 1, client =>
      match client.reader.next with
      | (.error e, reader) => ([], .error e, { client with reader })
      | (.ok (some text), reader) =>
          match judge id text with
          | some result => ([text], result, { client with reader })
          | none =>
              let rest := awaitReply connection id rounds { client with reader }
              (text :: rest.1, rest.2)
      | (.ok none, reader) =>
          match env.readSome connection client.reads with
          | .error e =>
              if e.code = .timeout then
                awaitReply connection id rounds { client with reader, reads := client.reads + 1 }
              else ([], .error e, { client with reader, reads := client.reads + 1 })
          | .ok [] =>
              ([], .error (ioError "the daemon closed the connection"),
                { client with reader, reads := client.reads + 1 })
          | .ok chunk =>
              awaitReply connection id rounds
                { client with reader := reader.feed chunk, reads := client.reads + 1 }

/-- `Client::round_trip` for the request with the last id that was handed out. -/
def roundTrip (request : Request) (client : Client) : Result Response × Client :=
  match client.connection with
  | none => (.error (ioError "not connected to contextsnapd"), client)
  | some connection =>
      match encodeFrame (request.toJson.dump (-1)) kMaxFrameBytes with
      | .error e => (.error e, client)
      | .ok frame =>
          match writeFrame env frame.length frame client with
          | (some e, client) => (.error e, client)
          | (none, client) =>
              let (taken, result, client) :=
                awaitReply env connection request.id (env.rounds client.asked) client
              let trip :=
                { number := client.asked - 1, id := request.id, connection, taken, result }
              (result, { client with log := client.log ++ [trip] })

/-- `next_request_id_.fetch_add(1)`. -/
def Client.takeId (client : Client) : UInt64 × Client :=
  (client.nextRequestId,
    { client with nextRequestId := client.nextRequestId + 1, asked := client.asked + 1 })

/-! ### Connecting -/

/-- `Client::connected`. -/
def Client.connected (client : Client) : Bool × Client :=
  if client.connection.isSome then
    (env.isOpen client.questions, { client with questions := client.questions + 1 })
  else (false, client)

def helloParams : Value :=
  (((Value.object []).set (str "client") (.string (str "contextsnap"))).set (str "version")
    (.string env.version)).set (str "protocol") (.int kProtocolVersion)

/-- `Client::connect`. -/
def Client.connect (client : Client) : Status × Client :=
  match client.connected env with
  | (true, client) => (.ok (), client)
  | (false, client) =>
      match env.connect client.attempts with
      | some e => (.error e, { client with attempts := client.attempts + 1 })
      | none =>
          let (id, client) := Client.takeId
            { client with
              connection := some client.attempts, attempts := client.attempts + 1, reads := 0
              reader := { maxBytes := client.reader.maxBytes } }
          let hello := { id, method := .hello, params := helloParams env }
          match roundTrip env hello client with
          | (.error e, client) => (.error e, { client with connection := none })
          | (.ok response, client) =>
              if response.ok then
                (.ok (), { client with serverVersion := unsignedField response.result "protocol" })
              else (.error (errorFrom response), { client with connection := none })

/-- `Client::disconnect`. -/
def Client.disconnect (client : Client) : Client :=
  { client with connection := none, reader := { maxBytes := client.reader.maxBytes } }

/-- `Client::subscribe`, whose events come over a connection of their own. -/
def Client.subscribe (client : Client) : Status × Client :=
  match env.connect client.attempts with
  | some e => (.error e, { client with attempts := client.attempts + 1 })
  | none => (env.subscription client.attempts,
      (Client.takeId { client with attempts := client.attempts + 1 }).2)

/-- `Client::call` on a connection. -/
def Client.request (client : Client) (method : Method) (params : Value) : Result Value × Client :=
  match roundTrip env { id := client.takeId.1, method, params } client.takeId.2 with
  | (.error e, client) => (.error e, client)
  | (.ok response, client) =>
      if response.ok then (.ok response.result, client)
      else (.error (errorFrom response), client)

/-- `Client::call`. -/
def Client.call (client : Client) (method : Method) (params : Value) : Result Value × Client :=
  match client.connected env with
  | (true, client) => client.request env method params
  | (false, client) =>
      match client.connect env with
      | (.error e, client) => (.error e, client)
      | (.ok (), client) => client.request env method params

/-! ### Sequences of calls -/

inductive ClientStep where
  | connect
  | call (method : Method) (params : Value)
  | subscribe
  | disconnect

def ClientStep.run (client : Client) : ClientStep → Client
  | .connect => (client.connect env).2
  | .call method params => (client.call env method params).2
  | .subscribe => (client.subscribe env).2
  | .disconnect => client.disconnect

/-- The client behind some steps. -/
def runClient (steps : List ClientStep) : Client := steps.foldl (ClientStep.run env) {}

end Calls

/-! ### Subscriptions

The thread behind `Client::subscribe` reads its own connection, takes the frames that are complete,
and calls back with the events in them. -/

/-- The event that the callback gets for a frame, if it is called. -/
def calledBack (text : Bytes) : Option Event :=
  match Json.parse text with
  | .error _ => none
  | .ok document => (Event.fromJson document).toOption

/-- The inner loop, until no frame is complete. A frame takes its length off the buffer, so that the
bytes of the buffer bound the rounds. -/
def takeEvents : Nat → FrameReader → List Event × FrameReader
  | 0, reader => ([], reader)
  | rounds + 1, reader =>
      match reader.next with
      | (.ok (some text), reader) =>
          let rest := takeEvents rounds reader
          ((calledBack text).toList ++ rest.1, rest.2)
      | (_, reader) => ([], reader)

/-- The events of the callback, by what `read_some` answers for as long as the thread is running. -/
def subscriptionWorker (reader : FrameReader) : List (Result Bytes) → List Event
  | [] => []
  | .error e :: reads => if e.code = .timeout then subscriptionWorker reader reads else []
  | .ok chunk :: reads =>
      if chunk.isEmpty then []
      else
        let fed := reader.feed chunk
        let taken := takeEvents fed.buffer.length fed
        taken.1 ++ subscriptionWorker taken.2 reads

end ContextSnap.Ipc
