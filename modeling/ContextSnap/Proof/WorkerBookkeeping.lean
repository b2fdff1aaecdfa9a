import ContextSnap.Ipc.AcceptLoop

/-!
# Sessions and worker threads

The loop admits nobody beyond the limit, and each session is given up once. Threads are never given
up: the reaping looks for threads that nobody can join, and there are none. So the list of threads
has one entry for each session that was ever made.
-/

namespace ContextSnap.Ipc.AcceptLoop

open Interleaving (Always OnEvent Throughout)

def Event.isAccepted : Event → Bool
  | .accepted _ => true
  | _ => false

def Event.isFinished : Event → Bool
  | .finished _ => true
  | _ => false

def events (s : State) : List Event := s.log.map Prod.snd

/-- How many workers have finished since the last accept. -/
def finishedSince (events : List Event) : Nat :=
  (events.reverse.takeWhile fun event => !event.isAccepted).countP Event.isFinished

/-- No more sessions than clients are allowed. -/
def WithinLimit (options : Options) (s : State) : Prop :=
  s.shared.sessions.length ≤ options.maxClients.toNat

/-- After an accept there is an entry for each session that is served, and for each worker that
finished since the accept before. -/
def Reaped (s : State) : Prop :=
  ∀ front session, events s = front ++ [.accepted session] →
    s.shared.workerThreads.length ≤ s.shared.sessions.length + finishedSince front

/-- All workers that have finished so far did so since the last accept. -/
def NoneLeft (s : State) : Prop := finishedSince (events s) = (events s).countP Event.isFinished

theorem finishedSince_le (events : List Event) :
    finishedSince events ≤ events.countP Event.isFinished := by
  rw [finishedSince, ← List.countP_reverse (l := events)]
  exact (List.takeWhile_sublist _).countP_le

/-! ### One turn -/

/-- What the bookkeeping comes to. -/
structure Kept (options : Options) (s : State) : Prop where
  acceptor : ∀ session, s.threads none ≠ .serving session
  workers : ∀ session, s.threads (some session) = .serving session
  limit : s.shared.sessions.length ≤ options.maxClients.toNat
  admitting : ∀ arrivals, s.threads none = .admitting arrivals →
    s.shared.sessions.length < options.maxClients.toNat
  nodup : s.shared.sessions.Nodup
  made : ∀ session ∈ s.shared.sessions, session < s.shared.made
  joinable : ∀ worker ∈ s.shared.workerThreads, worker.joinable = true
  threads : s.shared.workerThreads.length = (events s).countP Event.isAccepted
  sessions : s.shared.sessions.length + (events s).countP Event.isFinished
    = (events s).countP Event.isAccepted

/-- What a turn does. -/
inductive Turn (options : Options) (s : State) : Option Nat → Event → Thread → Pool → Prop where
  | other (event : Event) (thread : Thread) (haccepted : event.isAccepted = false)
      (hfinished : event.isFinished = false) (hacceptor : ∀ session, thread ≠ .serving session)
      (hadmitting : ∀ arrivals, thread = .admitting arrivals →
        s.shared.sessions.length < options.maxClients.toNat) :
      Turn options s none event thread s.shared
  | takeIn (arrivals : List Arrival) (hthread : s.threads none = .admitting arrivals) :
      Turn options s none (.accepted s.shared.made) (.accepting arrivals) s.shared.takeIn
  | finish (session : Nat) (hmem : session ∈ s.shared.sessions) :
      Turn options s (some session) (.finished session) (.serving session)
        (s.shared.finish session)

variable {options : Options} {s s' : State} {i : Option Nat} {event : Event} {thread : Thread}
  {pool : Pool}

theorem turn_of_advance (hkept : Kept options s)
    (h : advance options (s.threads i) s.shared = some (event, thread, pool)) :
    Turn options s i event thread pool := by
  cases i with
  | some session =>
      rw [hkept.workers session, advance] at h
      by_cases hmem : session ∈ s.shared.sessions
      · rw [if_pos hmem] at h
        cases h
        exact .finish session hmem
      · rw [if_neg hmem] at h
        cases h
  | none =>
      cases hthread : s.threads none with
      | serving session => exact absurd hthread (hkept.acceptor session)
      | ended =>
          rw [hthread] at h
          cases h
      | admitting arrivals =>
          rw [hthread] at h
          cases h
          exact .takeIn arrivals hthread
      | accepting arrivals =>
          rw [hthread] at h
          cases arrivals with
          | nil => cases h
          | cons arrival arrivals =>
              cases arrival with
              | timeout =>
                  cases h
                  exact .other _ _ rfl rfl (fun _ h => by cases h) fun _ h => by cases h
              | failed =>
                  cases h
                  exact .other _ _ rfl rfl (fun _ h => by cases h) fun _ h => by cases h
              | connection sameUser =>
                  rw [advance] at h
                  split_ifs at h with hstranger hfull
                  · cases h
                    exact .other _ _ rfl rfl (fun _ h => by cases h) fun _ h => by cases h
                  · cases h
                    exact .other _ _ rfl rfl (fun _ h => by cases h) fun _ h => by cases h
                  · cases h
                    exact .other _ _ rfl rfl (fun _ h => by cases h) fun _ _ => by omega

theorem length_finish {session : Nat} (hnodup : pool.sessions.Nodup)
    (hmem : session ∈ pool.sessions) :
    (pool.finish session).sessions.length + 1 = pool.sessions.length := by
  have herase : (pool.finish session).sessions = pool.sessions.erase session := by
    rw [hnodup.erase_eq_filter]
    apply List.filter_congr
    intro other _
    simp [bne, Bool.beq_eq_decide_eq]
  rw [herase, List.length_erase_of_mem hmem]
  have hpos := List.length_pos_of_mem hmem
  omega

theorem events_concat (i : Option Nat) (log : List (Option Nat × Event)) (event : Event) :
    (log ++ [(i, event)]).map Prod.snd = log.map Prod.snd ++ [event] := by
  rw [List.map_append]
  rfl

/-- One turn: no thread is ever given up. -/
theorem Kept.step (hkept : Kept options s)
    (h : Interleaving.step (advance options) i s = some s') : Kept options s' := by
  obtain ⟨event, thread, pool, hadvance, rfl⟩ := Interleaving.step_eq_some h
  have hevents : ∀ p : Event → Bool, ((s.log ++ [(i, event)]).map Prod.snd).countP p
      = (events s).countP p + if p event then 1 else 0 := by
    intro p
    rw [events_concat, List.countP_append, List.countP_singleton]
    rfl
  cases turn_of_advance hkept hadvance with
  | other event thread haccepted hfinished hacceptor hadmitting =>
      refine ⟨?_, ?_, hkept.limit, ?_, hkept.nodup, hkept.made, hkept.joinable, ?_, ?_⟩
      · simpa using hacceptor
      · simpa using hkept.workers
      · simpa using hadmitting
      · rw [events, hevents, haccepted]
        exact hkept.threads
      · rw [events, hevents, hevents, haccepted, hfinished]
        exact hkept.sessions
  | takeIn arrivals hthread =>
      have hlimit := hkept.admitting arrivals hthread
      have hjoinable : ∀ worker ∈ s.shared.workerThreads ++ [{ session := s.shared.made }],
          WorkerThread.joinable worker = true := by
        intro worker hworker
        rcases List.mem_append.mp hworker with hworker | hworker
        · exact hkept.joinable worker hworker
        · rw [List.mem_singleton.mp hworker]
          rfl
      refine ⟨?_, ?_, ?_, ?_, ?_, ?_, ?_, ?_, ?_⟩
      · simp
      · simpa using hkept.workers
      · simp only [Pool.takeIn, List.length_append, List.length_singleton]
        omega
      · simp
      · have hfresh : s.shared.made ∉ s.shared.sessions :=
          fun hmem => lt_irrefl _ (hkept.made _ hmem)
        simpa [Pool.takeIn, List.nodup_append] using ⟨hkept.nodup, fun a ha heq => hfresh (heq ▸ ha)⟩
      · intro session hsession
        rcases List.mem_append.mp hsession with hold | hnew
        · exact Nat.lt_succ_of_lt (hkept.made session hold)
        · rw [List.mem_singleton.mp hnew]
          exact Nat.lt_succ_self _
      · exact fun worker hworker => hjoinable worker (List.mem_of_mem_filter hworker)
      · rw [events, hevents]
        simp only [Pool.takeIn, List.filter_eq_self.mpr hjoinable, List.length_append,
          List.length_singleton, hkept.threads]
        rfl
      · rw [events, hevents, hevents]
        simp only [Pool.takeIn, List.length_append, List.length_singleton]
        have hsessions := hkept.sessions
        simp only [Event.isAccepted, Event.isFinished, if_true, Bool.false_eq_true, if_false]
        omega
  | finish session hmem =>
      have hlength := length_finish hkept.nodup hmem
      refine ⟨?_, ?_, ?_, ?_, ?_, ?_, ?_, ?_, ?_⟩
      · simpa using hkept.acceptor
      · intro other
        by_cases hother : other = session
        · simp [hother]
        · simpa [Function.update, hother] using hkept.workers other
      · have hlimit := hkept.limit
        simp only
        omega
      · intro arrivals hthread
        have hlimit := hkept.admitting arrivals (by simpa using hthread)
        simp only
        omega
      · exact hkept.nodup.filter _
      · exact fun other hother => hkept.made other (List.mem_of_mem_filter hother)
      · intro worker hworker
        obtain ⟨before, hbefore, rfl⟩ := List.mem_map.mp hworker
        have hjoinable := hkept.joinable before hbefore
        by_cases hsession : before.session = session
        · rw [if_pos hsession]
          exact hjoinable
        · rw [if_neg hsession]
          exact hjoinable
      · rw [events, hevents]
        simpa [Pool.finish, Event.isAccepted] using hkept.threads
      · rw [events, hevents, hevents]
        have hsessions := hkept.sessions
        simp only [Event.isAccepted, Event.isFinished, if_true, Bool.false_eq_true, if_false]
        omega

theorem kept_start (options : Options) (arrivals : List Arrival) :
    Kept options (start arrivals) where
  acceptor _ h := by cases h
  workers _ := rfl
  limit := Nat.zero_le _
  admitting _ h := by cases h
  nodup := List.nodup_nil
  made _ h := by cases h
  joinable _ h := by cases h
  threads := rfl
  sessions := rfl

/-- **Threads are never reaped.** In every reachable state there is one for each accept so far. -/
theorem length_workerThreads {arrivals : List Arrival} {schedule : List (Option Nat)}
    (hrun : Interleaving.run (advance options) schedule (start arrivals) = some s) :
    s.shared.workerThreads.length = (events s).countP Event.isAccepted :=
  (Interleaving.run_invariant (fun _ _ _ => Kept.step) (kept_start options arrivals) hrun).threads

/-- What an accept needs is that no worker finished before the accept in front of it. -/
theorem reaped_iff_of_step (hkept : Kept options s)
    (h : Interleaving.step (advance options) i s = some s') :
    Reaped s' ↔ OnEvent (advance options)
      (fun s entry => entry.2.isAccepted = true → NoneLeft s) i s := by
  obtain ⟨event, thread, pool, hadvance, rfl⟩ := Interleaving.step_eq_some h
  have hkept' := hkept.step h
  have honEvent : OnEvent (advance options) (fun s entry => entry.2.isAccepted = true → NoneLeft s)
      i s ↔ (event.isAccepted = true → NoneLeft s) := by
    constructor
    · exact fun h => h event thread pool hadvance
    · intro h event' thread' pool' hadvance'
      rw [hadvance] at hadvance'
      obtain ⟨rfl, -⟩ := Prod.mk.inj (Option.some.inj hadvance')
      exact h
  rw [honEvent]
  have hfirst := hkept.sessions
  have hthreads := hkept'.threads
  have hsessions := hkept'.sessions
  have hle := finishedSince_le (events s)
  simp only [events, events_concat, List.countP_append, List.countP_singleton] at hthreads hsessions
  simp only [events] at hfirst hle
  constructor
  · intro hreaped haccepted
    cases event with
    | accepted session =>
        have hbound := hreaped (events s) session (events_concat _ _ _)
        simp only [Event.isAccepted, Event.isFinished, if_true, Bool.false_eq_true, if_false]
          at hthreads hsessions
        simp only [NoneLeft, events] at hbound ⊢
        omega
    | _ => cases haccepted
  · intro hnone front session hfront
    rw [events, events_concat] at hfront
    obtain ⟨rfl, hlast⟩ := List.append_inj' hfront rfl
    obtain rfl : event = .accepted session := by simpa using hlast
    have hsince := hnone rfl
    simp only [Event.isAccepted, Event.isFinished, if_true, Bool.false_eq_true, if_false]
      at hthreads hsessions
    simp only [NoneLeft, events] at hsince
    change pool.workerThreads.length ≤ pool.sessions.length + finishedSince (events s)
    simp only [events]
    omega

/-- **Bookkeeping.** The sessions are within the limit at all times. The threads are those of the
sessions and of the workers that finished since the accept before, as long as every client is
accepted while none of the finished workers had finished before the previous accept. -/
theorem reaped_throughout_iff (options : Options) (arrivals : List Arrival)
    (schedule : List (Option Nat)) :
    Throughout (advance options) (WithinLimit options) schedule (start arrivals)
      ∧ (Throughout (advance options) Reaped schedule (start arrivals)
        ↔ Always (advance options) (OnEvent (advance options)
          fun s entry => entry.2.isAccepted = true → NoneLeft s) schedule (start arrivals)) := by
  have hstart := kept_start options arrivals
  constructor
  · have halways : Always (advance options) (fun _ _ => True) schedule (start arrivals) := by
      generalize start arrivals = s
      induction schedule generalizing s with
      | nil => trivial
      | cons i schedule ih => exact fun s' _ => ⟨trivial, ih s'⟩
    exact Interleaving.throughout_of_always
      (fun _ _ _ hkept _ _ hstep => ⟨hkept.step hstep, (hkept.step hstep).limit⟩) hstart
      hstart.limit halways
  · have hreaped : Reaped (start arrivals) := by
      intro front session hfront
      have hlength := congrArg List.length hfront
      simp [events, start] at hlength
    have hexact : ∀ i s s', Kept options s → Reaped s →
        Interleaving.step (advance options) i s = some s' → Reaped s' →
        OnEvent (advance options) (fun s entry => entry.2.isAccepted = true → NoneLeft s) i s :=
      fun i s s' hkept _ hstep hreaped' => (reaped_iff_of_step hkept hstep).mp hreaped'
    refine Interleaving.throughout_iff_always ?_ hexact hstart hreaped
    intro i s s' hkept _ hcondition hstep
    exact ⟨hkept.step hstep, (reaped_iff_of_step hkept hstep).mpr hcondition⟩

/-- Three clients, the first of which has left before the second one comes. -/
def threeClients : List Arrival := List.replicate 3 (.connection true)

def leavingEarly : List (Option Nat) := [none, none, some 0, none, none, none, none]

/-- Behind the third accept there are three threads and two sessions. -/
theorem not_reaped_leavingEarly :
    ¬∀ (options : Options) (arrivals : List Arrival) (schedule : List (Option Nat)),
      Throughout (advance options) Reaped schedule (start arrivals) := by
  intro h
  have hlast := (h {} threeClients leavingEarly).last rfl
  have hbound := hlast [.counted, .accepted 0, .finished 0, .counted, .accepted 1, .counted] 2 rfl
  revert hbound
  decide

end ContextSnap.Ipc.AcceptLoop
