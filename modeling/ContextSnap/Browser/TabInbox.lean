import ContextSnap.Browser.NativeMessaging

/-!
# The tab inbox

What the connections of native hosts push into, and what captures and restores wait for. The mutex
of the inbox is held from the beginning of each of these functions to its end; a wait gives it away.
-/

namespace ContextSnap.Browser

/-- A restore request waiting to be delivered to a connected extension. -/
structure PendingRestore where
  id : Bytes
  windows : List BrowserWindow
  lazyLoad : Bool := true
  deriving DecidableEq

/-- `inbox::State`. -/
structure Inbox where
  tabs : List BrowserWindow := []
  tabsFresh : Bool := false
  collectionRequested : Bool := false
  restores : List PendingRestore := []
  results : Bytes → Option UInt32 := fun _ => none
  counter : UInt64 := 0

namespace Inbox

variable (inbox : Inbox)

def publishTabs (connectionId : Bytes) (windows : List BrowserWindow) : Inbox :=
  { inbox with
    tabs := inbox.tabs.filter (·.profile ≠ connectionId) ++ windows
    tabsFresh := true }

/-- Also the front of `take_tabs`, up to its wait. -/
def requestCollection : Inbox := { inbox with collectionRequested := true }

def consumeCollectionRequest : Inbox := { inbox with collectionRequested := false }

/-- The end of `take_tabs` behind a wait that has found fresh tabs. It returns all there are. -/
def takeTabs : Inbox := { inbox with tabsFresh := false }

/-- The request that the next `enqueue_restore` queues. -/
def pendingRestore (windows : List BrowserWindow) (lazyLoad : Bool) : PendingRestore :=
  { id := str "restore-" ++ decimal (inbox.counter + 1).toNat, windows, lazyLoad }

def enqueueRestore (pending : PendingRestore) : Inbox :=
  { inbox with restores := inbox.restores ++ [pending], counter := inbox.counter + 1 }

/-- `next_restore` of a queue that is not empty. -/
def nextRestore : Inbox := { inbox with restores := inbox.restores.tail }

def acknowledgeRestore (requestId : Bytes) (tabsRestored : UInt32) : Inbox :=
  { inbox with results := Function.update inbox.results requestId (some tabsRestored) }

/-- The end of `restore_result` behind a wait that has found the result. -/
def takeResult (requestId : Bytes) : Inbox :=
  { inbox with results := Function.update inbox.results requestId none }

end Inbox

end ContextSnap.Browser
