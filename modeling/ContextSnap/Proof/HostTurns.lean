import ContextSnap.Daemon.BrowserHosts

/-!
# Turns at the inbox

What the turn of a connection or of a caller can be. Connections keep their numbers, and those that
were accepted are the first ones.
-/

namespace ContextSnap.Daemon

open Browser (BrowserWindow Inbox PendingRestore)

/-! ### Turns of connections -/

/-- What the turn of a connection does, from which phase and into which. -/
inductive HostMove (side : BrowserSide) (thread next : HostThread) : BrowserEvent → Prop
  | worked (h : thread.phase = .greeting ∨ thread.phase = .head ∨ thread.phase = .frames)
      (hnext : next.phase = .head ∨ next.phase = .frames ∨ next.phase = .outbound
        ∨ next.phase = .leaving)
      (hregistered : next.registered = thread.registered) : HostMove side thread next .worked
  | accepted (h : thread.phase = .unaccepted) (haccepted : side.accepted = thread.number)
      (hnext : next.phase = .greeting) (hregistered : next.registered = thread.registered) :
      HostMove side thread next .accepted
  | registered {connection : HostConnection} (h : thread.phase = .frames)
      (hnext : next.phase = .frames) (hregistered : next.registered = some connection) (hnone : thread.registered = none) :
      HostMove side thread next (.registered connection)
  | published {windows : List BrowserWindow} (h : thread.phase = .frames)
      (hnext : next.phase = .frames) (hregistered : next.registered = thread.registered) :
      HostMove side thread next (.published windows)
  | acknowledged {requestId : Bytes} {tabsRestored : UInt32} (h : thread.phase = .frames)
      (hnext : next.phase = .frames) (hregistered : next.registered = thread.registered) :
      HostMove side thread next (.acknowledged requestId tabsRestored)
  | polled (h : thread.phase = .outbound)
      (hnext : next.phase = if side.inbox.collectionRequested then .collecting else .popping)
      (hregistered : next.registered = thread.registered) :
      HostMove side thread next (.polled side.inbox.collectionRequested)
  | collected {sent : Bool} (h : thread.phase = .collecting)
      (hnext : next.phase = if sent then .popping else .leaving)
      (hregistered : next.registered = thread.registered) :
      HostMove side thread next (.collected sent)
  | poppedNone (h : thread.phase = .popping) (hrestores : side.inbox.restores = [])
      (hnext : next.phase = .head) (hregistered : next.registered = thread.registered) :
      HostMove side thread next (.popped none)
  | popped {pending : PendingRestore} {rest : List PendingRestore} (h : thread.phase = .popping)
      (hrestores : side.inbox.restores = pending :: rest) (hnext : next.phase = .sending pending)
      (hregistered : next.registered = thread.registered) :
      HostMove side thread next (.popped (some pending))
  | delivered {pending : PendingRestore} {sent : Bool} (h : thread.phase = .sending pending)
      (hnext : next.phase = if sent then .head else .leaving)
      (hregistered : next.registered = thread.registered) :
      HostMove side thread next (.delivered pending sent)
  | left (h : thread.phase = .leaving) (hnext : next.phase = .ended)
      (hregistered : next.registered = thread.registered) :
      HostMove side thread next (.left thread.registered.isSome)

section Host

variable {env : BrowserEnv} {thread next : HostThread} {side : BrowserSide} {event : BrowserEvent}

theorem send_number (type : String) (payload : Json.Value) :
    (thread.send env type payload).2.number = thread.number := by
  unfold HostThread.send
  dsimp only
  split <;> rfl

theorem send_registered (type : String) (payload : Json.Value) :
    (thread.send env type payload).2.registered = thread.registered := by
  unfold HostThread.send
  dsimp only
  split <;> rfl

theorem read_cases :
    (thread.read env).number = thread.number ∧ (thread.read env).registered = thread.registered
      ∧ ((thread.read env).phase = .frames ∨ (thread.read env).phase = .leaving) := by
  unfold HostThread.read
  split
  · dsimp only
    split
    · refine ⟨rfl, rfl, ?_⟩
      unfold HostThread.enter
      split_ifs
      · exact .inl rfl
      · exact .inr rfl
    · exact ⟨rfl, rfl, .inr rfl⟩
    · exact ⟨rfl, rfl, .inl rfl⟩
  · exact ⟨rfl, rfl, .inr rfl⟩

theorem receive_inv {incoming : Option Incoming} {reader : Ipc.FrameReader}
    (hphase : thread.phase = .frames)
    (h : ({ thread with reader } : HostThread).receive incoming = (event, next)) :
    next.number = thread.number ∧ HostMove side thread next event := by
  cases incoming with
  | none =>
      cases h
      exact ⟨rfl, .worked (.inr (.inr hphase)) (.inr (.inl hphase)) rfl⟩
  | some incoming =>
      cases incoming with
      | info browser profile =>
          rw [HostThread.receive] at h
          dsimp only at h
          cases hregistered : thread.registered with
          | none =>
              rw [hregistered] at h
              cases h
              exact ⟨rfl, .registered hphase hphase rfl hregistered⟩
          | some connection =>
              rw [hregistered] at h
              cases h
              exact ⟨rfl, .worked (.inr (.inr hphase)) (.inr (.inl hphase)) hregistered.symm⟩
      | tabs windows =>
          cases h
          exact ⟨rfl, .published hphase hphase rfl⟩
      | restored requestId tabsRestored =>
          cases h
          exact ⟨rfl, .acknowledged hphase hphase rfl⟩

theorem turn_inv (h : thread.turn env side = some (event, next)) :
    next.number = thread.number ∧ HostMove side thread next event := by
  rw [HostThread.turn] at h
  cases hphase : thread.phase with
  | unaccepted =>
      rw [hphase] at h
      dsimp only at h
      split_ifs at h with haccepted
      cases h
      exact ⟨rfl, .accepted hphase haccepted rfl rfl⟩
  | greeting =>
      rw [hphase] at h
      obtain ⟨rfl, rfl⟩ := Prod.mk.inj (Option.some.inj h)
      exact ⟨send_number _ _, .worked (.inl hphase) (.inl rfl) (send_registered _ _)⟩
  | head =>
      rw [hphase] at h
      obtain ⟨rfl, rfl⟩ := Prod.mk.inj (Option.some.inj h)
      obtain ⟨hnumber, hregistered, hframes | hleaving⟩ := @read_cases env thread
      · exact ⟨hnumber, .worked (.inr (.inl hphase)) (.inr (.inl hframes)) hregistered⟩
      · exact ⟨hnumber, .worked (.inr (.inl hphase)) (.inr (.inr (.inr hleaving))) hregistered⟩
  | frames =>
      rw [hphase] at h
      replace h := Option.some.inj h
      rw [HostThread.nextFrame] at h
      split at h
      · cases h
        exact ⟨rfl, .worked (.inr (.inr hphase)) (.inr (.inr (.inr rfl))) rfl⟩
      · cases h
        exact ⟨rfl, .worked (.inr (.inr hphase)) (.inr (.inr (.inl rfl))) rfl⟩
      · exact receive_inv hphase h
  | outbound =>
      rw [hphase] at h
      cases h
      exact ⟨rfl, .polled hphase rfl rfl⟩
  | collecting =>
      have hnumber := @send_number env thread "collect_tabs" (collectPayload env.includeIncognito)
      have hregistered :=
        @send_registered env thread "collect_tabs" (collectPayload env.includeIncognito)
      rw [hphase] at h
      dsimp only at h
      generalize thread.send env "collect_tabs" (collectPayload env.includeIncognito) = result
        at h hnumber hregistered
      obtain ⟨rfl, rfl⟩ := Prod.mk.inj (Option.some.inj h)
      exact ⟨hnumber, .collected hphase rfl hregistered⟩
  | popping =>
      rw [hphase] at h
      dsimp only at h
      cases hrestores : side.inbox.restores with
      | nil =>
          rw [hrestores] at h
          cases h
          exact ⟨rfl, .poppedNone hphase hrestores rfl rfl⟩
      | cons pending rest =>
          rw [hrestores] at h
          cases h
          exact ⟨rfl, .popped hphase hrestores rfl rfl⟩
  | sending pending =>
      have hnumber := @send_number env thread "restore_tabs" (restorePayload pending)
      have hregistered := @send_registered env thread "restore_tabs" (restorePayload pending)
      rw [hphase] at h
      dsimp only at h
      generalize thread.send env "restore_tabs" (restorePayload pending) = result
        at h hnumber hregistered
      obtain ⟨rfl, rfl⟩ := Prod.mk.inj (Option.some.inj h)
      exact ⟨hnumber, .delivered hphase rfl hregistered⟩
  | leaving =>
      rw [hphase] at h
      cases h
      exact ⟨rfl, .left hphase rfl rfl⟩
  | ended =>
      rw [hphase] at h
      cases h

end Host

/-! ### Turns of callers -/

inductive CallerMove (inbox : Inbox) : CallerThread → CallerThread → BrowserEvent → Prop
  | began {patience : Nat} (hstale : inbox.tabsFresh = false) :
      CallerMove inbox (.calling (.takeTabs patience)) (.waitingTabs patience) .began
  | tookAtOnce {patience : Nat} (hfresh : inbox.tabsFresh = true) :
      CallerMove inbox (.calling (.takeTabs patience)) .returned (.tookAtOnce inbox.tabs)
  | enqueued {windows : List BrowserWindow} {lazyLoad : Bool} {patience : Nat} :
      CallerMove inbox (.calling (.restoreTabs windows lazyLoad patience))
        (.waitingRestore (inbox.pendingRestore windows lazyLoad).id patience)
        (.enqueued (inbox.pendingRestore windows lazyLoad))
  | requested : CallerMove inbox (.calling .requestCollection) .returned .requested
  | took {patience : Nat} (hfresh : inbox.tabsFresh = true) :
      CallerMove inbox (.waitingTabs patience) .returned (.took inbox.tabs)
  | gaveUp (hstale : inbox.tabsFresh = false) :
      CallerMove inbox (.waitingTabs 0) .returned .gaveUp
  | waited {patience : Nat} (hstale : inbox.tabsFresh = false) :
      CallerMove inbox (.waitingTabs (patience + 1)) (.waitingTabs patience) .worked
  | answered {requestId : Bytes} {patience : Nat} {tabsRestored : UInt32}
      (hresult : inbox.results requestId = some tabsRestored) :
      CallerMove inbox (.waitingRestore requestId patience) .returned
        (.answered requestId tabsRestored)
  | unanswered {requestId : Bytes} (hresult : inbox.results requestId = none) :
      CallerMove inbox (.waitingRestore requestId 0) .returned (.unanswered requestId)
  | waitedRestore {requestId : Bytes} {patience : Nat} (hresult : inbox.results requestId = none) :
      CallerMove inbox (.waitingRestore requestId (patience + 1))
        (.waitingRestore requestId patience) .worked

theorem callerTurn_inv {thread next : CallerThread} {inbox : Inbox} {event : BrowserEvent}
    (h : thread.turn inbox = some (event, next)) : CallerMove inbox thread next event := by
  cases thread with
  | calling call =>
      cases call with
      | takeTabs patience =>
          rw [CallerThread.turn] at h
          split_ifs at h with hfresh
          · cases h
            exact .tookAtOnce hfresh
          · cases h
            exact .began (Bool.eq_false_iff.mpr hfresh)
      | restoreTabs windows lazyLoad patience =>
          cases h
          exact .enqueued
      | requestCollection =>
          cases h
          exact .requested
  | waitingTabs patience =>
      simp only [CallerThread.turn] at h
      split_ifs at h with hfresh
      · cases h
        exact .took hfresh
      · cases patience with
        | zero =>
            cases h
            exact .gaveUp (Bool.eq_false_iff.mpr hfresh)
        | succ patience =>
            cases h
            exact .waited (Bool.eq_false_iff.mpr hfresh)
  | waitingRestore requestId patience =>
      simp only [CallerThread.turn] at h
      cases hresult : inbox.results requestId with
      | some tabsRestored =>
          rw [hresult] at h
          cases h
          exact .answered hresult
      | none =>
          rw [hresult] at h
          cases patience with
          | zero =>
              cases h
              exact .unanswered hresult
          | succ patience =>
              cases h
              exact .waitedRestore hresult
  | returned => cases h

/-! ### Steps -/

/-- A caller has no phases to go through. -/
def BrowserThread.phase : BrowserThread → HostPhase
  | .host thread => thread.phase
  | .caller _ => .ended

section Steps

variable {ι : Type} [DecidableEq ι] {env : BrowserEnv} {calls : ι → Call} {p : Party ι}
  {s s' : BrowserState ι} {event : BrowserEvent}

/-- The parties keep their kinds and numbers, and the accepted connections are the first ones. -/
structure Placed (s : BrowserState ι) : Prop where
  host : ∀ k, ∃ thread, s.threads (.host k) = .host thread ∧ thread.number = k
    ∧ (thread.phase = .unaccepted ↔ s.shared.accepted ≤ k)
  caller : ∀ i, ∃ thread, s.threads (.caller i) = .caller thread

omit [DecidableEq ι] in
theorem placed_browserStart : Placed (browserStart env calls) where
  host k := ⟨_, rfl, rfl, by simp [browserStart]⟩
  caller i := ⟨_, rfl⟩

/-- The state behind a turn of `p`. -/
def afterTurn (s : BrowserState ι) (p : Party ι) (connectionId : Bytes) (next : BrowserThread)
    (event : BrowserEvent) : BrowserState ι :=
  { shared := event.apply connectionId s.shared
    threads := Function.update s.threads p next
    log := s.log ++ [(p, event)] }

@[simp]
theorem afterTurn_shared (connectionId : Bytes) (next : BrowserThread) :
    (afterTurn s p connectionId next event).shared = event.apply connectionId s.shared := rfl

@[simp]
theorem afterTurn_log (connectionId : Bytes) (next : BrowserThread) :
    (afterTurn s p connectionId next event).log = s.log ++ [(p, event)] := rfl

@[simp]
theorem afterTurn_self (connectionId : Bytes) (next : BrowserThread) :
    (afterTurn s p connectionId next event).threads p = next :=
  Function.update_self _ _ _

theorem afterTurn_of_ne {q : Party ι} (h : q ≠ p) (connectionId : Bytes) (next : BrowserThread) :
    (afterTurn s p connectionId next event).threads q = s.threads q :=
  Function.update_of_ne h _ _

inductive BrowserStep (s : BrowserState ι) : Party ι → BrowserEvent → BrowserState ι → Prop
  | host {k : Nat} {thread next : HostThread} {event : BrowserEvent}
      (hthread : s.threads (.host k) = .host thread) (hnumber : thread.number = k)
      (hnext : next.number = k) (hmove : HostMove s.shared thread next event) :
      BrowserStep s (.host k) event (afterTurn s (.host k) (hostId k) (.host next) event)
  | caller {i : ι} {thread next : CallerThread} {event : BrowserEvent}
      (hthread : s.threads (.caller i) = .caller thread)
      (hmove : CallerMove s.shared.inbox thread next event) :
      BrowserStep s (.caller i) event (afterTurn s (.caller i) [] (.caller next) event)

theorem BrowserStep.log_eq (h : BrowserStep s p event s') : s'.log = s.log ++ [(p, event)] := by
  cases h <;> rfl

/-- A step, and what a condition on its event says. -/
theorem step_inv (hs : Placed s) (h : Interleaving.step (BrowserThread.advance env) p s = some s') :
    ∃ event, BrowserStep s p event s' ∧
      ∀ condition, Interleaving.OnEvent (BrowserThread.advance env) condition p s
        ↔ condition s (p, event) := by
  obtain ⟨event, thread, shared, hadvance, rfl⟩ := Interleaving.step_eq_some h
  refine ⟨event, ?_, fun condition => ⟨fun hcondition => hcondition _ _ _ hadvance, ?_⟩⟩
  · cases p with
    | host k =>
        obtain ⟨before, hbefore, hnumber, -⟩ := hs.host k
        rw [hbefore] at hadvance
        obtain ⟨⟨event, next⟩, hturn, hresult⟩ := Option.map_eq_some_iff.mp hadvance
        obtain ⟨hnext, hmove⟩ := turn_inv hturn
        cases hresult
        rw [hnumber]
        exact .host hbefore hnumber (hnext.trans hnumber) hmove
    | caller i =>
        obtain ⟨before, hbefore⟩ := hs.caller i
        rw [hbefore] at hadvance
        obtain ⟨⟨event, next⟩, hturn, hresult⟩ := Option.map_eq_some_iff.mp hadvance
        cases hresult
        exact .caller hbefore (callerTurn_inv hturn)
  · intro hcondition event' thread' shared' hadvance'
    rw [hadvance] at hadvance'
    cases hadvance'
    exact hcondition

theorem accepted_apply (connectionId : Bytes) (side : BrowserSide) (h : event ≠ .accepted) :
    (event.apply connectionId side).accepted = side.accepted := by
  unfold BrowserEvent.apply
  split
  all_goals first
    | rfl
    | exact absurd rfl h

theorem inbox_left (connectionId : Bytes) (side : BrowserSide) (registered : Bool) :
    (BrowserEvent.apply connectionId side (.left registered)).inbox = side.inbox := by
  cases registered <;> rfl

theorem HostMove.phase_iff {side : BrowserSide} {thread next : HostThread}
    (h : HostMove side thread next event) :
    next.phase ≠ .unaccepted ∧ (thread.phase = .unaccepted ↔ event = .accepted) := by
  cases h with
  | worked h hnext _ =>
      constructor
      · rcases hnext with hnext | hnext | hnext | hnext <;> simp [hnext]
      · rcases h with h | h | h <;> simp [h]
  | accepted h _ hnext _ => simp [h, hnext]
  | registered h hnext _ _ => simp [h, hnext]
  | published h hnext _ => simp [h, hnext]
  | acknowledged h hnext _ => simp [h, hnext]
  | polled h hnext _ =>
      rw [hnext]
      exact ⟨by split_ifs <;> simp, by simp [h]⟩
  | collected h hnext _ =>
      rw [hnext]
      exact ⟨by split_ifs <;> simp, by simp [h]⟩
  | poppedNone h _ hnext _ => simp [h, hnext]
  | popped h _ hnext _ => simp [h, hnext]
  | delivered h hnext _ =>
      rw [hnext]
      exact ⟨by split_ifs <;> simp, by simp [h]⟩
  | left h hnext _ => simp [h, hnext]

theorem CallerMove.event_ne {inbox : Inbox} {thread next : CallerThread}
    (h : CallerMove inbox thread next event) : event ≠ .accepted := by
  cases h <;> exact fun heq => by cases heq

theorem HostMove.left_of_ended {side : BrowserSide} {thread next : HostThread}
    (h : HostMove side thread next event) (hended : next.phase = .ended) :
    ∃ registered, event = .left registered := by
  cases h with
  | worked _ hnext _ =>
      rcases hnext with hnext | hnext | hnext | hnext <;> cases hnext.symm.trans hended
  | polled _ hnext _ =>
      rw [hnext] at hended
      split_ifs at hended
  | collected _ hnext _ =>
      rw [hnext] at hended
      split_ifs at hended
  | delivered _ hnext _ =>
      rw [hnext] at hended
      split_ifs at hended
  | left => exact ⟨_, rfl⟩
  | accepted _ _ hnext _ => cases hnext.symm.trans hended
  | registered _ hnext _ _ => cases hnext.symm.trans hended
  | published _ hnext _ => cases hnext.symm.trans hended
  | acknowledged _ hnext _ => cases hnext.symm.trans hended
  | poppedNone _ _ hnext _ => cases hnext.symm.trans hended
  | popped _ _ hnext _ => cases hnext.symm.trans hended

theorem Placed.step (hs : Placed s) (h : BrowserStep s p event s') : Placed s' := by
  cases h with
  | @host k thread next event hthread hnumber hnext hmove =>
      obtain ⟨hphase, hunaccepted⟩ := hmove.phase_iff
      obtain ⟨thread', hthread', -, haccepted⟩ := hs.host k
      obtain rfl : thread = thread' := BrowserThread.host.inj (hthread.symm.trans hthread')
      refine ⟨fun j => ?_, fun i => ?_⟩
      · have hcount : (event.apply (hostId k) s.shared).accepted ≤ j
            ↔ s.shared.accepted ≤ j ∧ ¬(event = .accepted ∧ j = k) := by
          by_cases hevent : event = .accepted
          · subst hevent
            cases hmove with
            | accepted _ hnow _ _ =>
                change s.shared.accepted + 1 ≤ j ↔ _
                rw [hnow, hnumber, eq_self, true_and]
                omega
          · rw [accepted_apply _ _ hevent]
            simp [hevent]
        by_cases hj : j = k
        · subst hj
          refine ⟨next, afterTurn_self _ _, hnext, ?_⟩
          rw [afterTurn_shared]
          rw [hcount, ← haccepted, hunaccepted]
          simp [hphase]
        · obtain ⟨other, hother, hnumber', hphase'⟩ := hs.host j
          refine ⟨other, ?_, hnumber', ?_⟩
          · have hne : Party.host (ι := ι) j ≠ .host k := by simp [hj]
            exact (afterTurn_of_ne hne _ _).trans hother
          · rw [afterTurn_shared, hcount, hphase']
            simp [hj]
      · obtain ⟨other, hother⟩ := hs.caller i
        have hne : Party.caller i ≠ .host k := by simp
        exact ⟨other, (afterTurn_of_ne hne _ _).trans hother⟩
  | @caller i thread next event hthread hmove =>
      refine ⟨fun j => ?_, fun i' => ?_⟩
      · obtain ⟨other, hother, hnumber, hphase⟩ := hs.host j
        refine ⟨other, ?_, hnumber, ?_⟩
        · have hne : Party.host j ≠ .caller i := by simp
          exact (afterTurn_of_ne hne _ _).trans hother
        · rw [hphase, afterTurn_shared, accepted_apply _ _ hmove.event_ne]
      · by_cases hi : i' = i
        · subst hi
          exact ⟨next, afterTurn_self _ _⟩
        · obtain ⟨other, hother⟩ := hs.caller i'
          have hne : Party.caller i' ≠ .caller i := by simp [hi]
          exact ⟨other, (afterTurn_of_ne hne _ _).trans hother⟩

omit [DecidableEq ι] in
theorem Placed.lt_accepted (hs : Placed s) {k : Nat} {thread : HostThread}
    (hthread : s.threads (.host k) = .host thread) (hphase : thread.phase ≠ .unaccepted) :
    k < s.shared.accepted := by
  obtain ⟨thread', hthread', -, hiff⟩ := hs.host k
  obtain rfl : thread = thread' := BrowserThread.host.inj (hthread.symm.trans hthread')
  exact Nat.lt_of_not_le fun hle => hphase (hiff.mpr hle)

/-- Where a connection is behind a step: where it was, or where its own turn has brought it. -/
theorem BrowserStep.host_cases (h : BrowserStep s p event s') {k : Nat} {next : HostThread}
    (hnext : s'.threads (.host k) = .host next) :
    p ≠ .host k ∧ s.threads (.host k) = .host next ∨
      p = .host k ∧ ∃ thread, s.threads (.host k) = .host thread
        ∧ HostMove s.shared thread next event := by
  cases h with
  | @host j thread after event hthread hnumber _ hmove =>
      by_cases hj : k = j
      · subst hj
        rw [afterTurn_self] at hnext
        cases hnext
        exact .inr ⟨rfl, thread, hthread, hmove⟩
      · have hne : Party.host (ι := ι) k ≠ .host j := by simp [hj]
        rw [afterTurn_of_ne hne] at hnext
        exact .inl ⟨hne.symm, hnext⟩
  | @caller i thread after event hthread hmove =>
      have hne : Party.host k ≠ .caller i := by simp
      rw [afterTurn_of_ne hne] at hnext
      exact .inl ⟨hne.symm, hnext⟩

end Steps

/-! ### Scripted connections -/

/-- The frame of a message of an extension. -/
def extensionFrame (type : String) (payload : Json.Value) : Bytes :=
  ((Ipc.encodeFrame (Json.Value.dump
    (.object [(str "type", .string (str type)), (str "payload", payload)]) (-1))
    Ipc.kMaxFrameBytes).toOption).getD []

/-- Connections that deliver these chunks one after another, then nothing but timeouts, and take
all that is written. -/
def scripted (chunks : Nat → List Bytes) : BrowserEnv where
  serves _ _ := true
  readSome k n :=
    ((chunks k)[n]?).elim (.error { code := .timeout, message := [] }) .ok
  takes _ _ := some (2 ^ 20)

end ContextSnap.Daemon
