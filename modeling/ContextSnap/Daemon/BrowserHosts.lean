import ContextSnap.Browser.TabInbox
import ContextSnap.Ipc.Protocol
import ContextSnap.Lib.Interleaving

/-!
# The connections of native hosts

Every native host that connects is served by a thread of its own, which reads what the extension
sends, and sends what the tab inbox has for it. Captures and restores wait at the inbox on threads
of their own. Between two turns of one thread the others may have any number of theirs.
-/

namespace ContextSnap.Daemon

open Browser (BrowserWindow ExtensionMessage HostMessage Inbox PendingRestore)
open Ipc (FrameReader)
open Json (Value)

/-! ### What is shared -/

structure HostConnection where
  browser : BrowserKind := .none
  profile : Bytes := []
  deriving DecidableEq

/-- The inbox, the `connections_` of the bridge, and how many connections were accepted. -/
structure BrowserSide where
  inbox : Inbox := {}
  connections : Bytes → Option HostConnection := fun _ => none
  accepted : Nat := 0

/-- The id of the connection that was accepted behind `k` others. `host_counter_` has 64 bits. -/
def hostId (k : Nat) : Bytes := str "host-" ++ decimal (k % 2 ^ 64)

/-- What the turn of a thread does. -/
inductive BrowserEvent where
  /-- Nothing that others can see. -/
  | worked
  | accepted
  | registered (connection : HostConnection)
  | published (windows : List BrowserWindow)
  | acknowledged (requestId : Bytes) (tabsRestored : UInt32)
  /-- `consume_collection_request`. -/
  | polled (requested : Bool)
  /-- A `collect_tabs` message was sent in full, or was not. -/
  | collected (sent : Bool)
  /-- `next_restore`. -/
  | popped (pending : Option PendingRestore)
  /-- A `restore_tabs` message was sent in full, or was not. -/
  | delivered (pending : PendingRestore) (sent : Bool)
  | left (registered : Bool)
  /-- `take_tabs` has found nothing fresh and waits. -/
  | began
  /-- `take_tabs` has found fresh tabs and has not waited. -/
  | tookAtOnce (windows : List BrowserWindow)
  /-- The wait of `take_tabs` is over. -/
  | took (windows : List BrowserWindow)
  | gaveUp
  | requested
  | enqueued (pending : PendingRestore)
  /-- `restore_result` returns. -/
  | answered (requestId : Bytes) (tabsRestored : UInt32)
  | unanswered (requestId : Bytes)
  deriving DecidableEq

/-- What an event of a thread with this connection changes for the others. -/
def BrowserEvent.apply (connectionId : Bytes) (side : BrowserSide) : BrowserEvent → BrowserSide
  | .worked | .collected _ | .popped none | .delivered _ _ | .gaveUp | .unanswered _ => side
  | .accepted => { side with accepted := side.accepted + 1 }
  | .registered connection =>
      { side with connections := Function.update side.connections connectionId (some connection) }
  | .published windows => { side with inbox := side.inbox.publishTabs connectionId windows }
  | .acknowledged requestId tabsRestored =>
      { side with inbox := side.inbox.acknowledgeRestore requestId tabsRestored }
  | .polled _ => { side with inbox := side.inbox.consumeCollectionRequest }
  | .popped (some _) => { side with inbox := side.inbox.nextRestore }
  | .left false => side
  | .left true =>
      { side with connections := Function.update side.connections connectionId none }
  | .began | .requested => { side with inbox := side.inbox.requestCollection }
  | .tookAtOnce _ => { side with inbox := side.inbox.requestCollection.takeTabs }
  | .took _ => { side with inbox := side.inbox.takeTabs }
  | .enqueued pending => { side with inbox := side.inbox.enqueueRestore pending }
  | .answered requestId _ => { side with inbox := side.inbox.takeResult requestId }

/-! ### Serving a connection -/

/-- The daemon's options, and the connections with each of their calls. -/
structure BrowserEnv where
  maxFrameBytes : UInt32 := Ipc.kMaxFrameBytes
  includeIncognito : Bool := false
  /-- Whether the daemon runs and the connection is open, at each round of the loop. -/
  serves : Nat → Nat → Bool
  readSome : Nat → Nat → Result Bytes
  /-- How much a `write` takes at most; `none` is an error. -/
  takes : Nat → Nat → Option Nat

/-- Where a thread is in `serve_browser_host`. -/
inductive HostPhase where
  | unaccepted
  /-- In front of the `hello`. -/
  | greeting
  /-- At the head of the outer loop. -/
  | head
  /-- In the inner loop. -/
  | frames
  /-- In front of `consume_collection_request`. -/
  | outbound
  /-- With a request to collect that it has taken. -/
  | collecting
  /-- In front of `next_restore`. -/
  | popping
  /-- With a restore that it has taken. -/
  | sending (pending : PendingRestore)
  /-- Behind the loop. -/
  | leaving
  | ended
  deriving DecidableEq

structure HostThread where
  number : Nat
  phase : HostPhase := .unaccepted
  reader : FrameReader
  browser : BrowserKind := .none
  profile : Bytes := []
  /-- `registered`, with what the connection was registered as. -/
  registered : Option HostConnection := none
  /-- The rounds of the loop and the calls of `read_some` and `write` so far. -/
  rounds : Nat := 0
  reads : Nat := 0
  writes : Nat := 0

/-- The loop in `send`. Every call of `write` but the last takes something, so that the number of
bytes bounds the rounds. -/
def writeAll (takes : Nat → Option Nat) : Nat → Bytes → Nat → Bool × Nat
  | _, [], writes => (true, writes)
  | 0, _, writes => (true, writes)
  | rounds + 1, bytes, writes =>
      match takes writes with
      | none | some 0 => (false, writes + 1)
      | some count => writeAll takes rounds (bytes.drop count) (writes + 1)

/-- What an extension says. -/
inductive Incoming where
  | info (browser : BrowserKind) (profile : Bytes)
  | tabs (windows : List BrowserWindow)
  | restored (requestId : Bytes) (tabsRestored : UInt32)

/-- The frames that are logged or passed over have no meaning. -/
def Incoming.ofMessage (message : ExtensionMessage) : Option Incoming :=
  if message.type = str "hello" ∨ message.type = str "browser_info" then
    some (.info (Browser.reportedBrowser message.payload)
      (Storage.readString message.payload "profile"))
  else if message.type = str "tabs" then
    (Browser.parseTabsMessage message.payload).toOption.map .tabs
  else if message.type = str "restoreResult" ∨ message.type = str "restore_ack" then
    some (.restored (Storage.readString message.payload "requestId")
      (Storage.readInt message.payload "tabsRestored" 0).toUInt64.toUInt32)
  else none

def Incoming.ofFrame (text : Bytes) : Option Incoming :=
  ((Json.parse text).toOption.bind fun document =>
    (ExtensionMessage.fromJson document).toOption).bind Incoming.ofMessage

/-- The name of the project and its version, as CMake puts them into the program. -/
def helloPayload : Value :=
  .object
    [(str "daemon", .string (str "contextsnap")), (str "version", .string (str "0.1.0")),
      (str "protocol", .int 1)]

def collectPayload (includeIncognito : Bool) : Value :=
  .object [(str "includeIncognito", .bool includeIncognito)]

def restorePayload (pending : PendingRestore) : Value :=
  (Browser.buildRestoreMessage pending.windows pending.lazyLoad).set (str "requestId")
    (.string pending.id)

namespace HostThread

variable (env : BrowserEnv) (thread : HostThread)

/-- `send`, which says whether all of it was sent. -/
def send (type : String) (payload : Value) : Bool × HostThread :=
  let message : HostMessage := { type := str type, payload }
  match Ipc.encodeFrame (message.toJson.dump (-1)) Ipc.kMaxFrameBytes with
  | .error _ => (false, thread)
  | .ok frame =>
      let result := writeAll (env.takes thread.number) frame.length frame thread.writes
      (result.1, { thread with writes := result.2 })

def enter (phase : HostPhase) : HostThread := { thread with phase }

/-- The outer loop up to the inner one. An empty chunk is the end of the stream. -/
def read : HostThread :=
  if env.serves thread.number thread.rounds then
    let thread := { thread with rounds := thread.rounds + 1, reads := thread.reads + 1 }
    match env.readSome thread.number (thread.reads - 1) with
    | .error e => thread.enter (if e.code = .timeout then .frames else .leaving)
    | .ok [] => thread.enter .leaving
    | .ok chunk => { thread with reader := thread.reader.feed chunk, phase := .frames }
  else thread.enter .leaving

/-- What a frame makes of the thread. A connection is registered once. -/
def receive : Option Incoming → BrowserEvent × HostThread
  | none => (.worked, thread)
  | some (.info browser profile) =>
      match thread.registered with
      | some _ => (.worked, { thread with browser, profile })
      | none =>
          (.registered { browser, profile },
            { thread with browser, profile, registered := some { browser, profile } })
  | some (.tabs windows) => (.published windows, thread)
  | some (.restored requestId tabsRestored) => (.acknowledged requestId tabsRestored, thread)

/-- A round of the inner loop. -/
def nextFrame : BrowserEvent × HostThread :=
  match thread.reader.next with
  | (.error _, reader) => (.worked, { thread with reader, phase := .leaving })
  | (.ok none, reader) => (.worked, { thread with reader, phase := .outbound })
  | (.ok (some text), reader) => { thread with reader }.receive (Incoming.ofFrame text)

/-- A turn, with what it does. -/
def turn (side : BrowserSide) : Option (BrowserEvent × HostThread) :=
  match thread.phase with
  | .unaccepted =>
      if side.accepted = thread.number then some (.accepted, thread.enter .greeting) else none
  | .greeting => some (.worked, (thread.send env "hello" helloPayload).2.enter .head)
  | .head => some (.worked, thread.read env)
  | .frames => some thread.nextFrame
  | .outbound =>
      some (.polled side.inbox.collectionRequested,
        thread.enter (if side.inbox.collectionRequested then .collecting else .popping))
  | .collecting =>
      let result := thread.send env "collect_tabs" (collectPayload env.includeIncognito)
      some (.collected result.1, result.2.enter (if result.1 then .popping else .leaving))
  | .popping =>
      match side.inbox.restores with
      | [] => some (.popped none, thread.enter .head)
      | pending :: _ => some (.popped (some pending), thread.enter (.sending pending))
  | .sending pending =>
      let result := thread.send env "restore_tabs" (restorePayload pending)
      some (.delivered pending result.1, result.2.enter (if result.1 then .head else .leaving))
  | .leaving => some (.left thread.registered.isSome, thread.enter .ended)
  | .ended => none

end HostThread

/-! ### Waiting at the inbox -/

/-- A call that some thread makes. A wait that finds nothing goes on for some turns until its
deadline has passed. -/
inductive Call where
  | takeTabs (patience : Nat)
  /-- `enqueue_restore`, and `restore_result` for the id it returns. -/
  | restoreTabs (windows : List BrowserWindow) (lazyLoad : Bool) (patience : Nat)
  | requestCollection

inductive CallerThread where
  | calling (call : Call)
  | waitingTabs (patience : Nat)
  | waitingRestore (requestId : Bytes) (patience : Nat)
  | returned

def CallerThread.turn (thread : CallerThread) (inbox : Inbox) :
    Option (BrowserEvent × CallerThread) :=
  match thread with
  | .calling (.takeTabs patience) =>
      if inbox.tabsFresh then some (.tookAtOnce inbox.tabs, .returned)
      else some (.began, .waitingTabs patience)
  | .calling (.restoreTabs windows lazyLoad patience) =>
      let pending := inbox.pendingRestore windows lazyLoad
      some (.enqueued pending, .waitingRestore pending.id patience)
  | .calling .requestCollection => some (.requested, .returned)
  | .waitingTabs patience =>
      if inbox.tabsFresh then some (.took inbox.tabs, .returned)
      else
        match patience with
        | 0 => some (.gaveUp, .returned)
        | patience + 1 => some (.worked, .waitingTabs patience)
  | .waitingRestore requestId patience =>
      match inbox.results requestId with
      | some tabsRestored => some (.answered requestId tabsRestored, .returned)
      | none =>
          match patience with
          | 0 => some (.unanswered requestId, .returned)
          | patience + 1 => some (.worked, .waitingRestore requestId patience)
  | .returned => none

/-! ### Turns -/

inductive BrowserThread where
  | host (thread : HostThread)
  | caller (thread : CallerThread)

/-- Who takes turns: the connections by their numbers, and any callers. -/
inductive Party (ι : Type) where
  | host (k : Nat)
  | caller (i : ι)
  deriving DecidableEq

def BrowserThread.advance (env : BrowserEnv) :
    BrowserThread → BrowserSide → Option (BrowserEvent × BrowserThread × BrowserSide)
  | .host thread, side =>
      (thread.turn env side).map fun result =>
        (result.1, .host result.2, result.1.apply (hostId thread.number) side)
  | .caller thread, side =>
      (thread.turn side.inbox).map fun result =>
        (result.1, .caller result.2, result.1.apply [] side)

abbrev BrowserState (ι : Type) :=
  Interleaving.State (Party ι) BrowserThread BrowserSide BrowserEvent

/-- Before the first turn. -/
def browserStart {ι : Type} (env : BrowserEnv) (calls : ι → Call) : BrowserState ι :=
  { shared := {}
    threads := fun
      | .host k => .host { number := k, reader := { maxBytes := env.maxFrameBytes } }
      | .caller i => .caller (.calling (calls i)) }

end ContextSnap.Daemon
