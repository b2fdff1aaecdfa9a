import ContextSnap.Ipc.Protocol
import ContextSnap.Lib.Interleaving

/-!
# The server

Every client is served by a thread of its own, which reads its frames and answers them, and any
thread may broadcast an event. A connection is written to by one thread at a time, one call of
`write` after the other.
-/

namespace ContextSnap.Ipc

open Json (Value)

/-! ### Sessions -/

/-- A message on a connection, and how many bytes of its frame the connection took. -/
structure Sent where
  value : Value
  frame : Bytes
  wrote : Nat := 0

structure ClientSession where
  subscribed : Bool := false
  active : Bool := true
  /-- What the thread with the `write_mutex` is sending. -/
  current : Option Sent := none
  /-- What was sent before, whether or not the connection took all of it. -/
  carried : List Sent := []
  /-- The calls of `read_some`, of `write` and of handlers so far. -/
  reads : Nat := 0
  writes : Nat := 0
  handled : Nat := 0

/-- Everything that was written, or tried to be. -/
def ClientSession.sent (session : ClientSession) : List Sent :=
  session.carried ++ session.current.toList

/-- What the threads of a server share. -/
structure Hub (κ : Type) where
  sessions : κ → ClientSession
  /-- `sessions_`. -/
  listed : List κ
  /-- How often `running_` was read. -/
  ticks : Nat := 0

/-- The connections and the handlers, each call on its own, and `running_` at each reading. -/
structure ServerEnv (κ : Type) where
  maxFrameBytes : UInt32 := kMaxFrameBytes
  running : Nat → Bool
  readSome : κ → Nat → Result Bytes
  /-- How much a `write` takes at most; `none` is an error. -/
  takes : κ → Nat → Option Nat
  /-- The result of a handler and the events it broadcasts; `none` where there is no handler. -/
  handle : κ → Nat → Request → Option (Result Value × List Event)

/-! ### Operations -/

inductive ServerOp (κ : Type) where
  | running
  | active (k : κ)
  | readSome (k : κ)
  | subscribe (k : κ)
  /-- `ClientSession::send`. -/
  | send (k : κ) (value : Value)
  | deactivate (k : κ)
  /-- Closes the connection and takes it off the list. -/
  | leave (k : κ)
  /-- The listed sessions that are subscribed and active. -/
  | targets
  | handle (k : κ) (request : Request)

def ServerAnswer {κ : Type} : ServerOp κ → Type
  | .running | .active _ | .send _ _ => Bool
  | .readSome _ => Result Bytes
  | .targets => List κ
  | .handle _ _ => Option (Result Value × List Event)
  | .subscribe _ | .deactivate _ | .leave _ => Unit

abbrev ServerAction (κ : Type) := Program (ServerOp κ) ServerAnswer

section Actions

variable {κ : Type}

def ask (op : ServerOp κ) : ServerAction κ (ServerAnswer op) := .operation op

def send (k : κ) (value : Value) : ServerAction κ Bool := ask (.send k value)

def deactivate (k : κ) : ServerAction κ Unit := ask (.deactivate k)

def sendToAll (payload : Value) : List κ → ServerAction κ Unit
  | [] => pure ()
  | k :: targets => do
      unless ← send k payload do
        deactivate k
      sendToAll payload targets

/-- `Server::broadcast`. -/
def broadcast (event : Event) : ServerAction κ Unit := do
  let targets : List κ ← ask .targets
  sendToAll event.toJson targets

def broadcastAll : List Event → ServerAction κ Unit
  | [] => pure ()
  | event :: events => do
      broadcast event
      broadcastAll events

def notHandled (method : Method) : Error :=
  { code := .unsupported
    message := str "method " ++ str method.toText ++ str " is not handled"
    context := str "ipc.server" }

def Response.ofResult (id : UInt64) : Result Value → Response
  | .ok result => .success id result
  | .error e => .failure id e

/-- `Server::dispatch` behind the handler. -/
def respond (request : Request) : Option (Result Value × List Event) → ServerAction κ Response
  | none => pure (.failure request.id (notHandled request.method))
  | some (result, events) => do
      broadcastAll events
      pure (.ofResult request.id result)

/-- `Server::dispatch`. -/
def dispatch (k : κ) (request : Request) : ServerAction κ Response := do
  let answer : Option (Result Value × List Event) ← ask (.handle k request)
  respond request answer

def acknowledgement : Value := (Value.object []).set (str "subscribed") (.bool true)

/-- One round of the inner loop of `serve_client`, up to whether another one follows. -/
def serveFrame (k : κ) (text : Bytes) : ServerAction κ Bool :=
  match Json.parse text with
  | .error e => do
      let _ ← send k (Response.failure 0 e).toJson
      pure true
  | .ok document =>
      match Request.fromJson document with
      | .error e => do
          let _ ← send k (Response.failure 0 e).toJson
          pure true
      | .ok request =>
          if request.method = .subscribe then do
            let () ← ask (.subscribe k)
            let _ ← send k (Response.success request.id acknowledgement).toJson
            pure true
          else do
            let response ← dispatch k request
            if ← send k response.toJson then
              pure true
            else
              deactivate k
              pure false

/-- The inner loop. A frame is no shorter than its length prefix, so that the number of bytes in the
reader bounds its rounds. -/
def serveFrames (k : κ) : Nat → FrameReader → ServerAction κ FrameReader
  | 0, reader => pure reader
  | rounds + 1, reader =>
      match reader.next with
      | (.error _, reader) => do
          deactivate k
          pure reader
      | (.ok none, reader) => pure reader
      | (.ok (some text), reader) => do
          if ← serveFrame k text then
            serveFrames k rounds reader
          else
            pure reader

/-- Where a thread goes on behind a program. -/
inductive Next (κ : Type) where
  | stop
  /-- At the head of the outer loop of `serve_client`. -/
  | serve (k : κ) (reader : FrameReader)

/-- The end of `serve_client`. -/
def finish (k : κ) : ServerAction κ (Next κ) := do
  deactivate k
  let () ← ask (.leave k)
  pure .stop

/-- The outer loop behind a call of `read_some`. An empty chunk is the end of the stream. -/
def serveChunk (k : κ) (reader : FrameReader) : Result Bytes → ServerAction κ (Next κ)
  | .error e => if e.code = .timeout then pure (.serve k reader) else finish k
  | .ok [] => finish k
  | .ok chunk => do
      let reader := reader.feed chunk
      return .serve k (← serveFrames k (reader.buffer.length + 1) reader)

/-- One round of the outer loop. -/
def serveRound (k : κ) (reader : FrameReader) : ServerAction κ (Next κ) := do
  let running : Bool ← ask .running
  if running then
    let active : Bool ← ask (.active k)
    if active then
      let chunk : Result Bytes ← ask (.readSome k)
      serveChunk k reader chunk
    else finish k
  else finish k

/-- A thread that broadcasts some events. -/
def publish (events : List Event) : ServerAction κ (Next κ) := do
  broadcastAll events
  pure .stop

end Actions

/-! ### Turns -/

section Turns

variable {κ : Type} [DecidableEq κ] (env : ServerEnv κ)

def Hub.update (hub : Hub κ) (k : κ) (change : ClientSession → ClientSession) : Hub κ :=
  { hub with sessions := Function.update hub.sessions k (change (hub.sessions k)) }

/-- What an operation other than a send answers and does. -/
def serverHandler : (op : ServerOp κ) → Hub κ → Option (ServerAnswer op × Hub κ)
  | .running, hub => some (env.running hub.ticks, { hub with ticks := hub.ticks + 1 })
  | .active k, hub => some ((hub.sessions k).active, hub)
  | .readSome k, hub =>
      some (env.readSome k (hub.sessions k).reads,
        hub.update k fun session => { session with reads := session.reads + 1 })
  | .subscribe k, hub => some ((), hub.update k fun session => { session with subscribed := true })
  | .deactivate k, hub => some ((), hub.update k fun session => { session with active := false })
  | .leave k, hub => some ((), { hub with listed := hub.listed.filter (· ≠ k) })
  | .targets, hub =>
      some (hub.listed.filter fun k => (hub.sessions k).subscribed && (hub.sessions k).active, hub)
  | .handle k request, hub =>
      some (env.handle k (hub.sessions k).handled request,
        hub.update k fun session => { session with handled := session.handled + 1 })
  | .send _ _, _ => none

/-- Takes the `write_mutex`. -/
def ClientSession.begin (session : ClientSession) (value : Value) (frame : Bytes) : ClientSession :=
  { session with current := some { value, frame } }

/-- A call of `write` that takes some bytes. -/
def ClientSession.write (session : ClientSession) (count : Nat) : ClientSession :=
  { session with
    current := session.current.map fun sent => { sent with wrote := sent.wrote + count }
    writes := session.writes + 1 }

/-- Gives the `write_mutex` back. -/
def ClientSession.release (session : ClientSession) : ClientSession :=
  { session with carried := session.sent, current := none }

/-- A thread outside a send, or in the loop of `send` with some bytes of the frame left. -/
inductive ServerThread (κ : Type) where
  | outside (rest : ServerAction κ (Next κ))
  | writing (k : κ) (bytes : Bytes) (next : Bool → ServerAction κ (Next κ))

/-- The head of `send`, which waits for the `write_mutex`. -/
def startSend (k : κ) (value : Value) (next : Bool → ServerAction κ (Next κ)) (hub : Hub κ) :
    Option (Unit × ServerThread κ × Hub κ) :=
  match encodeFrame (value.dump (-1)) env.maxFrameBytes with
  | .error _ => some ((), .outside (next false), hub)
  | .ok frame =>
      if (hub.sessions k).current.isSome then none
      else some ((), .writing k frame next, hub.update k (·.begin value frame))

/-- A round of the loop in `send`. -/
def writeSome (k : κ) (bytes : Bytes) (next : Bool → ServerAction κ (Next κ)) (hub : Hub κ) :
    ServerThread κ × Hub κ :=
  match env.takes k (hub.sessions k).writes with
  | none | some 0 => (.outside (next false), hub.update k fun session => (session.write 0).release)
  | some count =>
      (.writing k (bytes.drop count) next, hub.update k (·.write (min count bytes.length)))

def ServerThread.advance : ServerThread κ → Hub κ → Option (Unit × ServerThread κ × Hub κ)
  | .outside (.done .stop), _ => none
  | .outside (.done (.serve k reader)), hub => some ((), .outside (serveRound k reader), hub)
  | .outside (.ask (.send k value) next), hub => startSend env k value next hub
  | .outside (.ask op next), hub =>
      (serverHandler env op hub).map fun result => ((), .outside (next result.1), result.2)
  | .writing k [] next, hub => some ((), .outside (next true), hub.update k (·.release))
  | .writing k (byte :: bytes) next, hub => some ((), writeSome env k (byte :: bytes) next hub)

end Turns

/-- What a thread of the server is there for. -/
inductive ServerRole (κ : Type) where
  | worker (k : κ)
  | publisher (events : List Event)

def ServerRole.thread {κ : Type} (maxFrameBytes : UInt32) : ServerRole κ → ServerThread κ
  | .worker k => .outside (serveRound k { maxBytes := maxFrameBytes })
  | .publisher events => .outside (publish events)

abbrev ServerState (ι κ : Type) := Interleaving.State ι (ServerThread κ) (Hub κ) Unit

/-- The threads before their first turn, with the sessions that `accept_loop` made. -/
def serverStart {ι κ : Type} (env : ServerEnv κ) (roles : ι → ServerRole κ) (listed : List κ) :
    ServerState ι κ :=
  { shared := { sessions := fun _ => {}, listed }
    threads := fun i => (roles i).thread env.maxFrameBytes }

end ContextSnap.Ipc
