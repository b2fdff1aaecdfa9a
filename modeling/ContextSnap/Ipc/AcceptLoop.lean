import ContextSnap.Lib.Interleaving

/-!
# The accept loop

The bookkeeping of the server: the sessions that are served, and the threads that serve them. One
thread accepts connections, the others each serve a session. What matters of a worker is when it
takes its session away, after which its function returns.
-/

namespace ContextSnap.Ipc.AcceptLoop

/-- The options that the loop looks at. -/
structure Options where
  maxClients : UInt32 := 16
  requireSameUser : Bool := true

/-- A `std::thread` in `worker_threads_`. That its function has returned does not make it less
joinable: only a join does, and there is none before the server is stopped. -/
structure WorkerThread where
  session : Nat
  finished : Bool := false
  joined : Bool := false

def WorkerThread.joinable (worker : WorkerThread) : Bool := !worker.joined

/-- What the threads share under `sessions_mutex_`. Sessions are numbered as they are made. -/
structure Pool where
  sessions : List Nat := []
  workerThreads : List WorkerThread := []
  made : Nat := 0

/-- What `accept` returns. -/
inductive Arrival where
  | timeout
  | failed
  | connection (sameUser : Bool)
  deriving DecidableEq

/-- Where a thread is. Between the count of the clients and the block that makes a session the mutex
is free. -/
inductive Thread where
  | accepting (arrivals : List Arrival)
  | admitting (arrivals : List Arrival)
  | ended
  | serving (session : Nat)

inductive Event where
  | timedOut
  | left
  | rejected
  | counted
  | accepted (session : Nat)
  | finished (session : Nat)
  deriving DecidableEq

/-- The block that makes a session with its worker and reaps. -/
def Pool.takeIn (pool : Pool) : Pool :=
  let worker : WorkerThread := { session := pool.made }
  { sessions := pool.sessions ++ [pool.made]
    workerThreads := (pool.workerThreads ++ [worker]).filter WorkerThread.joinable
    made := pool.made + 1 }

/-- The end of `serve_client`. -/
def Pool.finish (pool : Pool) (session : Nat) : Pool :=
  { pool with
    sessions := pool.sessions.filter fun other => other ≠ session
    workerThreads := pool.workerThreads.map fun worker =>
      if worker.session = session then { worker with finished := true } else worker }

def advance (options : Options) : Thread → Pool → Option (Event × Thread × Pool)
  | .accepting [], _ => none
  | .accepting (.timeout :: arrivals), pool => some (.timedOut, .accepting arrivals, pool)
  | .accepting (.failed :: _), pool => some (.left, .ended, pool)
  | .accepting (.connection sameUser :: arrivals), pool =>
      if options.requireSameUser && !sameUser then some (.rejected, .accepting arrivals, pool)
      else if options.maxClients.toNat ≤ pool.sessions.length then
        some (.rejected, .accepting arrivals, pool)
      else some (.counted, .admitting arrivals, pool)
  | .admitting arrivals, pool => some (.accepted pool.made, .accepting arrivals, pool.takeIn)
  | .ended, _ => none
  | .serving session, pool =>
      if session ∈ pool.sessions then
        some (.finished session, .serving session, pool.finish session)
      else none

/-- The accepting thread has no number, a worker has that of its session. -/
abbrev State := Interleaving.State (Option Nat) Thread Pool Event

def start (arrivals : List Arrival) : State :=
  { shared := {}, threads := fun i => i.elim (.accepting arrivals) .serving }

end ContextSnap.Ipc.AcceptLoop
