import ContextSnap.Proof.SessionThreads

/-!
# Replies under interleaving

The worker of a client answers its documents while other threads write events to the same
connection. Apart from those events the connection carries what the documents are answered with, in
their order.
-/

namespace ContextSnap.Ipc

open Json (Value)
open Program (Leads)

section Servers

variable {ι κ : Type}

/-- A client whose documents all arrive while the server runs, over a connection on which all writes
succeed. It has one worker, and no event is too large for a frame. -/
structure Exchange (env : ServerEnv κ) (roles : ι → ServerRole κ) (k : κ) (w : ι)
    (documents : List Value) (frames : List Bytes) : Prop where
  worker : ∀ j, roles j = .worker k ↔ j = w
  running : ∀ n, env.running n = true
  framing : Framing env.maxFrameBytes documents frames
  delivered : Delivers (env.readSome k) 0 frames.flatten
  written : ∀ call, ∃ count, env.takes k call = some (count + 1)
  handlers : ∀ k' n request, EventsFit env.maxFrameBytes (env.handle k' n request)
  publishers : ∀ j events, roles j = .publisher events →
    ∀ event ∈ events, Fits env.maxFrameBytes event.toJson

/-! ### Views -/

theorem encodeFrame_fits {value : Value} {frame : Bytes} {maxFrameBytes : UInt32}
    (h : encodeFrame (value.dump (-1)) maxFrameBytes = .ok frame) : Fits maxFrameBytes value := by
  unfold encodeFrame at h
  split at h
  · cases h
  · rename_i hle
    exact Nat.not_lt.mp hle

theorem not_fits_of_error {value : Value} {e : Error} {maxFrameBytes : UInt32}
    (h : encodeFrame (value.dump (-1)) maxFrameBytes = .error e) : ¬ Fits maxFrameBytes value := by
  intro hfits
  obtain ⟨frame, hframe⟩ := encodeFrame_ok hfits
  rw [hframe] at h
  cases h

theorem view_release {session : ClientSession} {sent : Sent} (hcurrent : session.current = some sent)
    (hwhole : sent.wrote = sent.frame.length) :
    session.release.view = session.view.carry sent.value := by
  have hcarried : session.release.carried = session.carried ++ [sent] := sent_held hcurrent
  have hreplies : session.release.replies
      = session.replies ++ [sent.value].filter fun value => !isEvent value := by
    rw [ClientSession.replies, hcarried, List.filter_append, List.map_append, List.filter_append]
    simp [ClientSession.replies, hwhole]
  unfold ServerView.carry
  split
  · rename_i hevent
    rw [List.filter_singleton, hevent] at hreplies
    rw [ClientSession.view, hreplies]
    simp [ClientSession.release, ClientSession.view]
  · rename_i hevent
    have hreply : isEvent sent.value = false := (Bool.not_eq_true _).mp hevent
    rw [List.filter_singleton, hreply] at hreplies
    rw [ClientSession.view, hreplies]
    simp [ClientSession.release, ClientSession.view]

variable {env : ServerEnv κ} {k : κ} {hub hub' : Hub κ} {s : ServerState ι κ}

/-- A frame that is written to its end is written as a whole. -/
theorem Orderly.whole {i : ι} {next : Bool → ServerAction κ (Next κ)} (h : Orderly env s)
    (hi : s.threads i = .writing k [] next) :
    ∃ sent, (s.shared.sessions k).current = some sent ∧ sent.wrote = sent.frame.length := by
  obtain ⟨sent, hheld, hrest⟩ := h.holds i k [] next hi
  have hsound := h.sound k sent (by rw [sent_held hheld]; simp)
  exact ⟨sent, hheld, Nat.le_antisymm hsound.2 (List.drop_eq_nil_iff.mp hrest.symm)⟩

theorem Exchange.not_refused {roles : ι → ServerRole κ} {w : ι} {documents : List Value}
    {frames : List Bytes} (h : Exchange env roles k w documents frames) {call : Nat} :
    ¬ (env.takes k call = none ∨ env.takes k call = some 0) := by
  obtain ⟨count, htakes⟩ := h.written call
  rw [htakes]
  rintro (hnone | hzero)
  · cases hnone
  · cases hzero

variable [DecidableEq κ]

theorem readActs_update (env : ServerEnv κ) (k k' : κ) (hub : Hub κ) :
    ReadActs env k k' (hub.sessions k).view (env.readSome k' (hub.sessions k').reads)
      ((hub.update k' fun session => { session with reads := session.reads + 1 }).sessions k).view := by
  unfold ReadActs
  by_cases hk : k' = k
  · subst hk
    rw [if_pos rfl, Hub.update_self]
    exact ⟨rfl, rfl⟩
  · rw [if_neg hk, Hub.update_of_ne (Ne.symm hk)]

theorem deactivateActs_update (k k' : κ) (hub : Hub κ) :
    DeactivateActs k k' (hub.sessions k).view
      ((hub.update k' fun session => { session with active := false }).sessions k).view := by
  unfold DeactivateActs
  by_cases hk : k' = k
  · subst hk
    rw [if_pos rfl, Hub.update_self]
    rfl
  · rw [if_neg hk, Hub.update_of_ne (Ne.symm hk)]

theorem handleActs_update (k : κ) (hub : Hub κ) {k' : κ} {request : Request}
    (hfits : EventsFit env.maxFrameBytes (env.handle k' (hub.sessions k').handled request)) :
    HandleActs env k k' request (hub.sessions k).view
      (env.handle k' (hub.sessions k').handled request)
      ((hub.update k' fun session => { session with handled := session.handled + 1 }).sessions
        k).view := by
  refine ⟨hfits, ?_⟩
  by_cases hk : k' = k
  · subst hk
    rw [if_pos rfl, Hub.update_self]
    exact ⟨rfl, rfl⟩
  · rw [if_neg hk, Hub.update_of_ne (Ne.symm hk)]

/-- What an operation that is not a send does to a session is what its worker sees. -/
theorem acts_of_handler {roles : ι → ServerRole κ} {w : ι} {documents : List Value}
    {frames : List Bytes} (hexchange : Exchange env roles k w documents frames) {op : ServerOp κ}
    {answer : ServerAnswer op} (h : serverHandler env op hub = some (answer, hub')) :
    Acts env k op (hub.sessions k).view answer (hub'.sessions k).view := by
  cases op with
  | send => cases h
  | running =>
      cases h
      exact ⟨hexchange.running _, rfl⟩
  | active k' =>
      cases h
      refine ⟨?_, rfl⟩
      rintro rfl
      rfl
  | readSome k' =>
      cases h
      exact readActs_update env k k' hub
  | subscribe k' =>
      cases h
      exact Hub.update_all (p := fun k₁ session => session.view = (hub.sessions k₁).view)
        (fun _ => rfl) rfl k
  | deactivate k' =>
      cases h
      exact deactivateActs_update k k' hub
  | handle k' request =>
      cases h
      exact handleActs_update k hub (hexchange.handlers _ _ _)
  | _ =>
      cases h
      rfl

/-- Operations of other threads do not show in the view. -/
theorem view_of_foreign {maxFrameBytes : UInt32} {op : ServerOp κ} {answer : ServerAnswer op}
    (hforeign : Foreign maxFrameBytes k op ()) (h : serverHandler env op hub = some (answer, hub')) :
    (hub'.sessions k).view = (hub.sessions k).view := by
  have hother : ∀ k' (change : ClientSession → ClientSession), k' ≠ k →
      ((hub.update k' change).sessions k).view = (hub.sessions k).view := by
    intro k' change hk
    rw [Hub.update_of_ne (Ne.symm hk)]
  cases op with
  | send => cases h
  | readSome k' =>
      cases h
      exact hother k' _ hforeign
  | subscribe k' =>
      cases h
      exact hother k' _ hforeign
  | deactivate k' =>
      cases h
      exact hother k' _ hforeign
  | handle k' request =>
      cases h
      exact hother k' _ hforeign
  | _ =>
      cases h
      rfl

theorem answered_of_handler {roles : ι → ServerRole κ} {w : ι} {documents : List Value}
    {frames : List Bytes} (hexchange : Exchange env roles k w documents frames) {op : ServerOp κ}
    {answer : ServerAnswer op} (h : serverHandler env op hub = some (answer, hub')) :
    Answered env.maxFrameBytes k op () answer () := by
  cases op with
  | send => cases h
  | handle k' request =>
      cases h
      exact hexchange.handlers _ _ _
  | _ => trivial

/-! ### Threads -/

/-- The worker of the session is on its way to the outcome. -/
def Stage (env : ServerEnv κ) (k : κ) (post : Next κ → ServerView → Prop) :
    ServerThread κ → ClientSession → Prop
  | .outside rest, session => Works env k rest session.view post
  | .writing k' _ next, session =>
      (k' = k → ∀ sent, session.current = some sent →
        Works env k (next true) (session.view.carry sent.value) post)
      ∧ (k' ≠ k → ∀ answer, Works env k (next answer) session.view post)

/-- Another thread. -/
def Bystands (maxFrameBytes : UInt32) (k : κ) : ServerThread κ → Prop
  | .outside rest => Spares maxFrameBytes k rest (Elsewhere k)
  | .writing k' _ next =>
      ∀ answer : Bool, (k' = k → answer = true) → Spares maxFrameBytes k (next answer) (Elsewhere k)

/-- The thread is outside of sends to the session. -/
def Idle (k : κ) (thread : ServerThread κ) : Prop := ∀ bytes next, thread ≠ .writing k bytes next

/-- Who holds a mutex is in the loop of `send`. -/
def Held (s : ServerState ι κ) : Prop :=
  ∀ k sent, (s.shared.sessions k).current = some sent →
    ∃ i bytes next, s.threads i = .writing k bytes next

structure Serving (env : ServerEnv κ) (k : κ) (w : ι) (post : Next κ → ServerView → Prop)
    (s : ServerState ι κ) : Prop where
  orderly : Orderly env s
  worker : Stage env k post (s.threads w) (s.shared.sessions k)
  others : ∀ j, j ≠ w → Bystands env.maxFrameBytes k (s.threads j)
  events : ∀ sent, (s.shared.sessions k).current = some sent →
    Idle k (s.threads w) → isEvent sent.value = true
  held : Held s

section Steps

variable {roles : ι → ServerRole κ} {w : ι} {documents : List Value} {frames : List Bytes}
  {post : Next κ → ServerView → Prop} {thread thread' : ServerThread κ}

/-- What a turn of another thread leaves of the session. -/
structure Untouched (session session' : ClientSession) : Prop where
  view : session'.view = session.view
  current : ∀ sent', session'.current = some sent' →
    (session.current = none ∧ isEvent sent'.value = true)
      ∨ ∃ sent, session.current = some sent ∧ sent'.value = sent.value

theorem Untouched.refl (session : ClientSession) : Untouched session session :=
  ⟨rfl, fun sent' h => .inr ⟨sent', h, rfl⟩⟩

theorem untouched_other {k' : κ} (hk : k' ≠ k) (change : ClientSession → ClientSession) :
    Untouched (hub.sessions k) ((hub.update k' change).sessions k) := by
  rw [Hub.update_of_ne (Ne.symm hk)]
  exact Untouched.refl _

theorem untouched_write {session : ClientSession} (count : Nat) :
    Untouched session (session.write count) := by
  refine ⟨rfl, fun sent' h => .inr ?_⟩
  obtain ⟨sent, hcurrent, rfl⟩ := Option.map_eq_some_iff.mp h
  exact ⟨sent, hcurrent, rfl⟩

theorem bystander_moves (hexchange : Exchange env roles k w documents frames)
    (h : Serving env k w post s) {i : ι} (hi : i ≠ w)
    (hmoves : Moves env s.shared (s.threads i) thread' hub') :
    Bystands env.maxFrameBytes k thread' ∧ Untouched (s.shared.sessions k) (hub'.sessions k) := by
  have hthread := h.others i hi
  generalize hstart : s.threads i = start at hmoves hthread
  cases hmoves with
  | loops k' reader =>
      have hk : k' ≠ k := hthread k' reader rfl
      exact ⟨spares_serveRound hk reader, Untouched.refl _⟩
  | @asks op answer _ next answers =>
      refine ⟨hthread.2 answer () (answered_of_handler hexchange answers), ?_, ?_⟩
      · exact view_of_foreign hthread.1 answers
      · intro sent hsent
        rw [(serverHandler_sent answers k).1] at hsent
        exact .inr ⟨sent, hsent, rfl⟩
  | @oversized k' value e next long =>
      have hk : k' ≠ k := fun hk => not_fits_of_error long (hthread.1 hk).2
      exact ⟨hthread.2 false () fun hself => absurd hself hk, Untouched.refl _⟩
  | @begins k' value frame next encoded free =>
      refine ⟨fun answer hanswer => hthread.2 answer () hanswer, ?_⟩
      by_cases hk : k' = k
      · subst hk
        rw [Hub.update_self]
        refine ⟨rfl, fun sent' hsent => .inl ?_⟩
        cases hsent
        exact ⟨free, (hthread.1 rfl).1⟩
      · exact untouched_other hk _
  | ends k' next =>
      refine ⟨hthread true fun _ => rfl, ?_⟩
      by_cases hk : k' = k
      · subst hk
        obtain ⟨sent, hcurrent, hwhole⟩ := h.orderly.whole hstart
        have hevent : isEvent sent.value = true := h.events sent hcurrent fun bytes next' hw =>
          hi (h.orderly.alone i w k' [] next bytes next' hstart hw)
        rw [Hub.update_self]
        refine ⟨?_, fun sent' hsent => by cases hsent⟩
        rw [view_release hcurrent hwhole, ServerView.carry, if_pos hevent]
      · exact untouched_other hk _
  | @fails k' bytes next left refused =>
      have hk : k' ≠ k := by
        rintro rfl
        exact hexchange.not_refused refused
      exact ⟨hthread false fun hself => absurd hself hk, untouched_other hk _⟩
  | @takes k' bytes count next left taken =>
      refine ⟨hthread, ?_⟩
      by_cases hk : k' = k
      · subst hk
        rw [Hub.update_self]
        exact untouched_write _
      · exact untouched_other hk _

/-- A turn of the worker. At the head of its loop it starts another round. -/
theorem worker_moves (hexchange : Exchange env roles k w documents frames)
    (h : Serving env k w post s)
    (hloop : ∀ k' reader, s.threads w = .outside (.done (.serve k' reader)) →
      Works env k (serveRound k' reader) (s.shared.sessions k).view post)
    (hmoves : Moves env s.shared (s.threads w) thread' hub') :
    Stage env k post thread' (hub'.sessions k) := by
  have hthread := h.worker
  generalize hstart : s.threads w = start at hmoves hthread
  cases hmoves with
  | loops k' reader => exact hloop k' reader hstart
  | @asks op answer _ next answers =>
      exact hthread.2 answer _ (acts_of_handler hexchange answers)
  | @oversized k' value e next long =>
      exact hthread.2 false _ (sendActs_oversized k' (not_fits_of_error long) _)
  | @begins k' value frame next encoded free =>
      have hfits := encodeFrame_fits encoded
      constructor
      · rintro rfl sent hsent
        rw [Hub.update_self] at hsent ⊢
        cases hsent
        exact hthread.2 true _ (sendActs_fits hfits _)
      · intro hk answer
        rw [Hub.update_of_ne (Ne.symm hk)]
        exact hthread.2 answer _ (sendActs_elsewhere hk value _ answer)
  | ends k' next =>
      by_cases hk : k' = k
      · subst hk
        obtain ⟨sent, hcurrent, hwhole⟩ := h.orderly.whole hstart
        rw [Hub.update_self]
        change Works env k' (next true) (s.shared.sessions k').release.view post
        rw [view_release hcurrent hwhole]
        exact hthread.1 rfl sent hcurrent
      · rw [Hub.update_of_ne (Ne.symm hk)]
        exact hthread.2 hk true
  | @fails k' bytes next left refused =>
      have hk : k' ≠ k := by
        rintro rfl
        exact hexchange.not_refused refused
      rw [Hub.update_of_ne (Ne.symm hk)]
      exact hthread.2 hk false
  | @takes k' bytes count next left taken =>
      constructor
      · rintro rfl sent' hsent
        rw [Hub.update_self] at hsent ⊢
        obtain ⟨sent, hcurrent, rfl⟩ := Option.map_eq_some_iff.mp hsent
        exact hthread.1 rfl sent hcurrent
      · intro hk answer
        rw [Hub.update_of_ne (Ne.symm hk)]
        exact hthread.2 hk answer

/-- What is being sent behind a turn of a thread that sends nothing was being sent before. -/
theorem idle_moves (hmoves : Moves env hub thread thread' hub') (hidle : Idle k thread') {sent : Sent}
    (hsent : (hub'.sessions k).current = some sent) :
    (hub.sessions k).current = some sent ∧ Idle k thread := by
  have houtside : ∀ rest : ServerAction κ (Next κ), Idle k (.outside rest) :=
    fun rest bytes next h => by cases h
  have hwriting : ∀ k' bytes (next : Bool → ServerAction κ (Next κ)), k' ≠ k →
      Idle k (.writing k' bytes next) := fun k' bytes next hk bytes' next' h => by
    cases h
    exact hk rfl
  cases hmoves with
  | loops => exact ⟨hsent, houtside _⟩
  | asks next answers =>
      rw [(serverHandler_sent answers k).1] at hsent
      exact ⟨hsent, houtside _⟩
  | oversized => exact ⟨hsent, houtside _⟩
  | @begins k' value frame next encoded free =>
      have hk : k' ≠ k := by
        rintro rfl
        exact hidle frame next rfl
      rw [Hub.update_of_ne (Ne.symm hk)] at hsent
      exact ⟨hsent, houtside _⟩
  | ends k' next =>
      have hk : k' ≠ k := by
        rintro rfl
        rw [Hub.update_self] at hsent
        cases hsent
      rw [Hub.update_of_ne (Ne.symm hk)] at hsent
      exact ⟨hsent, hwriting k' _ next hk⟩
  | @fails k' bytes next left refused =>
      have hk : k' ≠ k := by
        rintro rfl
        rw [Hub.update_self] at hsent
        cases hsent
      rw [Hub.update_of_ne (Ne.symm hk)] at hsent
      exact ⟨hsent, hwriting k' bytes next hk⟩
  | @takes k' bytes count next left taken =>
      have hk : k' ≠ k := by
        rintro rfl
        exact hidle (bytes.drop (count + 1)) next rfl
      rw [Hub.update_of_ne (Ne.symm hk)] at hsent
      exact ⟨hsent, hwriting k' bytes next hk⟩

/-- The worker stays on its way while other threads take turns. -/
theorem Serving.stage (h : Serving env k w post s) {session : ClientSession}
    (huntouched : Untouched (s.shared.sessions k) session) :
    Stage env k post (s.threads w) session := by
  have hthread := h.worker
  cases hstart : s.threads w with
  | outside rest =>
      rw [hstart] at hthread
      change Works env k rest session.view post
      rw [huntouched.view]
      exact hthread
  | writing k' bytes next =>
      rw [hstart] at hthread
      constructor
      · rintro rfl sent' hsent
        rw [huntouched.view]
        obtain ⟨sent₁, hheld, -⟩ := h.orderly.holds w k' bytes next hstart
        rcases huntouched.current sent' hsent with ⟨hfree, -⟩ | ⟨sent, hcurrent, hvalue⟩
        · rw [hheld] at hfree
          cases hfree
        · rw [hvalue]
          exact hthread.1 rfl sent hcurrent
      · intro hk answer
        rw [huntouched.view]
        exact hthread.2 hk answer

/-! ### The first state and the last ones -/

/-- What the documents are answered with. -/
abbrev total (env : ServerEnv κ) (k : κ) (documents : List Value) : List Value :=
  answers env.maxFrameBytes (env.handle k) 0 documents

theorem serving_start (hexchange : Exchange env roles k w documents frames) (listed : List κ) :
    Serving env k w (Served env k (total env k documents)) (serverStart env roles listed) := by
  have hrole : ∀ j, (serverStart env roles listed).threads j
      = (roles j).thread env.maxFrameBytes := fun _ => rfl
  refine ⟨orderly_start roles listed, ?_, fun j hj => ?_, fun sent hsent => ?_, fun _ _ hsent => ?_⟩
  · rw [hrole, (hexchange.worker w).mpr rfl]
    have hserved : Served env k (total env k documents)
        (.serve k { maxBytes := env.maxFrameBytes }) (ClientSession.view {}) := by
      refine ⟨rfl, frames.flatten, hexchange.delivered, ⟨rfl, fun _ => ?_, fun h => by cases h⟩,
        fun _ => rfl⟩
      exact ⟨documents, frames, hexchange.framing, rfl, rfl⟩
    exact (works_serveRound hserved).mono fun _ _ h => h.1
  · rw [hrole]
    cases hj' : roles j with
    | worker k' =>
        have hk : k' ≠ k := by
          rintro rfl
          exact hj ((hexchange.worker j).mp hj')
        exact spares_serveRound hk _
    | publisher events => exact spares_publish (hexchange.publishers j events hj')
  · cases hsent
  · cases hsent

/-- The worker is behind all bytes that arrive: it has finished, or waits for more. -/
def AtRest (env : ServerEnv κ) (k : κ) (w : ι) (s : ServerState ι κ) : Prop :=
  ∃ next, s.threads w = .outside (.done next)
    ∧ (next = .stop ∨ Quiet (env.readSome k) (s.shared.sessions k).reads)

theorem replies_atRest (h : Serving env k w (Served env k (total env k documents)) s)
    (hrest : AtRest env k w s) :
    (s.shared.sessions k).replies = total env k documents := by
  obtain ⟨next, hthread, hquiet⟩ := hrest
  have hserved := h.worker
  rw [hthread] at hserved
  cases next with
  | stop => exact Eq.symm hserved
  | serve k' reader =>
      obtain ⟨rfl, undelivered, hdelivers, hbacklog, hdrained⟩ := hserved
      rcases hquiet with hstop | hquiet
      · cases hstop
      · cases hquiet.delivers_nil hdelivers
        exact (hbacklog.complete hdrained).symm

theorem Serving.weaken {post' : Next κ → ServerView → Prop} (h : Serving env k w post s)
    (hpost : ∀ next view, post next view → post' next view) : Serving env k w post' s := by
  refine ⟨h.orderly, ?_, h.others, h.events, h.held⟩
  have hthread := h.worker
  cases hstart : s.threads w with
  | outside rest =>
      rw [hstart] at hthread
      exact Leads.mono hthread hpost
  | writing k' bytes next =>
      rw [hstart] at hthread
      exact ⟨fun hk sent hsent => Leads.mono (hthread.1 hk sent hsent) hpost,
        fun hk answer => Leads.mono (hthread.2 hk answer) hpost⟩

/-! ### Runs -/

variable [DecidableEq ι]

theorem held_moves (h : Held s) {i : ι} {log : List (ι × Unit)}
    (hmoves : Moves env s.shared (s.threads i) thread' hub') :
    Held (turned s i thread' hub' log) := by
  intro k sent hsent
  by_cases hidle : Idle k thread'
  · obtain ⟨hcurrent, hbefore⟩ := idle_moves hmoves hidle hsent
    obtain ⟨j, bytes, next, hj⟩ := h k sent hcurrent
    have hji : j ≠ i := by
      rintro rfl
      exact hbefore bytes next hj
    exact ⟨j, bytes, next, (Function.update_of_ne hji _ _).trans hj⟩
  · unfold Idle at hidle
    push Not at hidle
    obtain ⟨bytes, next, hthread⟩ := hidle
    exact ⟨i, bytes, next, (Function.update_self _ _ _).trans hthread⟩

theorem Serving.turn (hexchange : Exchange env roles k w documents frames)
    (h : Serving env k w post s) {i : ι} {log : List (ι × Unit)}
    (hloop : ∀ k' reader, i = w → s.threads w = .outside (.done (.serve k' reader)) →
      Works env k (serveRound k' reader) (s.shared.sessions k).view post)
    (hmoves : Moves env s.shared (s.threads i) thread' hub') :
    Serving env k w post (turned s i thread' hub' log) := by
  have horderly : Orderly env (turned s i thread' hub' log) := h.orderly.moves hmoves
  by_cases hi : i = w
  · subst hi
    have hthread : (turned s i thread' hub' log).threads i = thread' := Function.update_self _ _ _
    refine ⟨horderly, ?_, fun j hj => ?_, fun sent hsent hidle => ?_, held_moves h.held hmoves⟩
    · rw [hthread]
      exact worker_moves hexchange h (fun k' reader => hloop k' reader rfl) hmoves
    · have hsame : (turned s i thread' hub' log).threads j = s.threads j :=
        Function.update_of_ne hj _ _
      rw [hsame]
      exact h.others j hj
    · rw [hthread] at hidle
      obtain ⟨hsent', hbefore⟩ := idle_moves hmoves hidle hsent
      exact h.events sent hsent' hbefore
  · obtain ⟨hbystands, huntouched⟩ := bystander_moves hexchange h hi hmoves
    have hworker : (turned s i thread' hub' log).threads w = s.threads w :=
      Function.update_of_ne (Ne.symm hi) _ _
    refine ⟨horderly, ?_, fun j hj => ?_, fun sent hsent hidle => ?_, held_moves h.held hmoves⟩
    · rw [hworker]
      exact h.stage huntouched
    · by_cases hji : j = i
      · subst hji
        have hsame : (turned s j thread' hub' log).threads j = thread' := Function.update_self _ _ _
        rw [hsame]
        exact hbystands
      · have hsame : (turned s i thread' hub' log).threads j = s.threads j :=
          Function.update_of_ne hji _ _
        rw [hsame]
        exact h.others j hj
    · rw [hworker] at hidle
      rcases huntouched.current sent hsent with ⟨-, hevent⟩ | ⟨sent₀, hcurrent, hvalue⟩
      · exact hevent
      · rw [hvalue]
        exact h.events sent₀ hcurrent hidle

theorem serving_run (hexchange : Exchange env roles k w documents frames) {schedule : List ι}
    {s' : ServerState ι κ} (h : Serving env k w (Served env k (total env k documents)) s)
    (hrun : Interleaving.run (ServerThread.advance env) schedule s = some s') :
    Serving env k w (Served env k (total env k documents)) s' := by
  refine Interleaving.run_invariant ?_ h hrun
  intro i s s' h hstep
  obtain ⟨event, thread', hub', hadvance, rfl⟩ := Interleaving.step_eq_some hstep
  refine h.turn hexchange (fun k' reader _ hthread => ?_) (advance_moves hadvance)
  have hserved := h.worker
  rw [hthread] at hserved
  exact (works_serveRound hserved).mono fun _ _ h => h.1

/-! ### The worker gets there -/

theorem step_of_moves {i : ι} (h : (s.threads i).advance env s.shared = some ((), thread', hub')) :
    Interleaving.run (ServerThread.advance env) [i] s
      = some (turned s i thread' hub' (s.log ++ [(i, ())])) := by
  change (Interleaving.step (ServerThread.advance env) i s).bind some = _
  rw [Interleaving.step, h]
  rfl

/-- A run in which the worker does not start another round. -/
def Reaches (env : ServerEnv κ) (k : κ) (w : ι) (post : Next κ → ServerView → Prop)
    (s : ServerState ι κ) (goal : ServerState ι κ → Prop) : Prop :=
  ∃ schedule s', Interleaving.run (ServerThread.advance env) schedule s = some s'
    ∧ Serving env k w post s' ∧ goal s'

theorem Reaches.here {goal : ServerState ι κ → Prop} (h : Serving env k w post s) (hgoal : goal s) :
    Reaches env k w post s goal :=
  ⟨[], s, rfl, h, hgoal⟩

theorem Reaches.trans {middle goal : ServerState ι κ → Prop} (h : Reaches env k w post s middle)
    (hrest : ∀ s', Serving env k w post s' → middle s' → Reaches env k w post s' goal) :
    Reaches env k w post s goal := by
  obtain ⟨schedule, s', hrun, hserving, hmiddle⟩ := h
  obtain ⟨later, s'', hlater, hserving', hgoal⟩ := hrest s' hserving hmiddle
  exact ⟨schedule ++ later, s'', Interleaving.run_trans hrun hlater, hserving', hgoal⟩

/-- One turn of a thread that is not at the head of the worker's loop. -/
theorem Serving.reaches_turn (hexchange : Exchange env roles k w documents frames)
    (h : Serving env k w post s) {i : ι} (hi : ∀ next, s.threads i ≠ .outside (.done next))
    (hadvance : (s.threads i).advance env s.shared = some ((), thread', hub')) :
    Reaches env k w post s fun s' => s' = turned s i thread' hub' (s.log ++ [(i, ())]) := by
  refine ⟨[i], _, step_of_moves hadvance, h.turn hexchange ?_ (advance_moves hadvance), rfl⟩
  rintro k' reader rfl hthread
  exact absurd hthread (hi _)

/-- A sender gets to the end of its send, by turns of its own. -/
theorem Serving.reaches_released (hexchange : Exchange env roles k w documents frames) {i : ι}
    {k' : κ} {bytes : Bytes} {next : Bool → ServerAction κ (Next κ)}
    (h : Serving env k w post s) (hi : s.threads i = .writing k' bytes next) :
    Reaches env k w post s fun s' => (∃ answer, s'.threads i = .outside (next answer))
      ∧ (∀ j, j ≠ i → s'.threads j = s.threads j) ∧ (s'.shared.sessions k').current = none := by
  induction hlength : bytes.length using Nat.strong_induction_on generalizing s bytes with
  | _ length ih =>
      have hnot : ∀ following, s.threads i ≠ .outside (.done following) := by
        intro following
        rw [hi]
        exact fun hdone => by cases hdone
      have hadvances : ∃ thread' hub', (s.threads i).advance env s.shared
          = some ((), thread', hub') := by
        rw [hi]
        cases bytes with
        | nil => exact ⟨_, _, rfl⟩
        | cons byte bytes => exact ⟨_, _, rfl⟩
      obtain ⟨thread', hub', hadvance⟩ := hadvances
      have hmoves := advance_moves hadvance
      refine (h.reaches_turn hexchange hnot hadvance).trans ?_
      rintro _ hserving rfl
      have hothers : ∀ j, j ≠ i →
          (turned s i thread' hub' (s.log ++ [(i, ())])).threads j = s.threads j :=
        fun j hj => Function.update_of_ne hj _ _
      have hself : (turned s i thread' hub' (s.log ++ [(i, ())])).threads i = thread' :=
        Function.update_self _ _ _
      rw [hi] at hmoves
      cases hmoves with
      | ends => exact .here hserving ⟨⟨true, hself⟩, hothers, by rw [Hub.update_self]; rfl⟩
      | fails => exact .here hserving ⟨⟨false, hself⟩, hothers, by rw [Hub.update_self]; rfl⟩
      | @takes _ _ count _ left taken =>
          have hpos := List.length_pos_iff.mpr left
          have hshorter : (bytes.drop (count + 1)).length < length := by
            rw [List.length_drop]
            omega
          refine (ih _ hshorter hserving hself rfl).trans ?_
          rintro s' hserving' ⟨hdone, hrest, hfree⟩
          exact .here hserving' ⟨hdone, fun j hj => (hrest j hj).trans (hothers j hj), hfree⟩

/-- Whoever holds the mutex gives it back. -/
theorem Serving.reaches_free (hexchange : Exchange env roles k w documents frames)
    (h : Serving env k w post s) {rest : ServerAction κ (Next κ)}
    (hw : s.threads w = .outside rest) (k' : κ) :
    Reaches env k w post s fun s' =>
      s'.threads w = .outside rest ∧ (s'.shared.sessions k').current = none := by
  cases hcurrent : (s.shared.sessions k').current with
  | none => exact .here h ⟨hw, hcurrent⟩
  | some sent =>
      obtain ⟨j, bytes, next, hj⟩ := h.held k' sent hcurrent
      have hjw : w ≠ j := by
        rintro rfl
        rw [hj] at hw
        cases hw
      refine (h.reaches_released hexchange hj).trans ?_
      rintro s' hserving ⟨-, hothers, hfree⟩
      exact .here hserving ⟨(hothers w hjw).trans hw, hfree⟩

theorem Serving.reaches_sent (hexchange : Exchange env roles k w documents frames) {k' : κ}
    {value : Value} {next : Bool → ServerAction κ (Next κ)} (h : Serving env k w post s)
    (hw : s.threads w = .outside (.ask (.send k' value) next)) :
    Reaches env k w post s fun s' => ∃ answer, s'.threads w = .outside (next answer) := by
  have hnot : ∀ s' : ServerState ι κ, s'.threads w = .outside (.ask (.send k' value) next) →
      ∀ following, s'.threads w ≠ .outside (.done following) := by
    intro s' hs' following hdone
    rw [hs'] at hdone
    cases hdone
  cases hencode : encodeFrame (value.dump (-1)) env.maxFrameBytes with
  | error e =>
      have hadvance : (s.threads w).advance env s.shared
          = some ((), .outside (next false), s.shared) := by
        rw [hw]
        change startSend env k' value next s.shared = _
        unfold startSend
        rw [hencode]
      refine (h.reaches_turn hexchange (hnot s hw) hadvance).trans ?_
      rintro _ hserving rfl
      exact .here hserving ⟨false, Function.update_self _ _ _⟩
  | ok frame =>
      refine (h.reaches_free hexchange hw k').trans ?_
      rintro s₁ hserving ⟨hw₁, hfree⟩
      have hadvance : (s₁.threads w).advance env s₁.shared
          = some ((), .writing k' frame next, s₁.shared.update k' (·.begin value frame)) := by
        rw [hw₁]
        change startSend env k' value next s₁.shared = _
        unfold startSend
        rw [hencode]
        simp [hfree]
      refine (hserving.reaches_turn hexchange (hnot s₁ hw₁) hadvance).trans ?_
      rintro _ hserving₁ rfl
      refine (hserving₁.reaches_released hexchange (Function.update_self _ _ _)).trans ?_
      rintro s₂ hserving₂ ⟨hanswer, -⟩
      exact .here hserving₂ hanswer

theorem serverHandler_answers {op : ServerOp κ} (hop : ∀ k value, op ≠ .send k value)
    (hub : Hub κ) : ∃ answer hub', serverHandler env op hub = some (answer, hub') := by
  cases op with
  | send k value => exact absurd rfl (hop k value)
  | _ => exact ⟨_, _, rfl⟩

theorem Serving.reaches_answer (hexchange : Exchange env roles k w documents frames)
    {op : ServerOp κ} {next : ServerAnswer op → ServerAction κ (Next κ)}
    (h : Serving env k w post s) (hw : s.threads w = .outside (.ask op next)) :
    Reaches env k w post s fun s' => ∃ answer, s'.threads w = .outside (next answer) := by
  by_cases hsend : ∃ k' value, op = .send k' value
  · obtain ⟨k', value, rfl⟩ := hsend
    exact h.reaches_sent hexchange hw
  · have hop : ∀ k' value, op ≠ .send k' value := fun k' value hop => hsend ⟨k', value, hop⟩
    obtain ⟨answer, hub', hanswer⟩ : ∃ answer hub', serverHandler env op s.shared
        = some (answer, hub') := serverHandler_answers hop s.shared
    have hadvance : (s.threads w).advance env s.shared
        = some ((), .outside (next answer), hub') := by
      rw [hw, advance_ask hop, hanswer]
      rfl
    refine (h.reaches_turn hexchange ?_ hadvance).trans ?_
    · intro following hdone
      rw [hw] at hdone
      cases hdone
    · rintro _ hserving rfl
      exact .here hserving ⟨answer, Function.update_self _ _ _⟩

/-- The worker gets to the end of its program. -/
theorem Serving.reaches_done (hexchange : Exchange env roles k w documents frames)
    (program : ServerAction κ (Next κ)) (h : Serving env k w post s)
    (hw : s.threads w = .outside program) :
    Reaches env k w post s fun s' => ∃ next, s'.threads w = .outside (.done next) := by
  induction program generalizing s with
  | done next => exact .here h ⟨next, hw⟩
  | ask op next ih =>
      refine (h.reaches_answer hexchange hw).trans ?_
      rintro s' hserving ⟨answer, hanswer⟩
      exact ih answer hserving hanswer

/-- A run to a state in which the worker is at rest. -/
def Rests (env : ServerEnv κ) (k : κ) (w : ι) (s : ServerState ι κ) : Prop :=
  ∃ schedule s', Interleaving.run (ServerThread.advance env) schedule s = some s'
    ∧ AtRest env k w s'

theorem Reaches.rests {middle : ServerState ι κ → Prop} (h : Reaches env k w post s middle)
    (hrest : ∀ s', Serving env k w post s' → middle s' → Rests env k w s') : Rests env k w s := by
  obtain ⟨schedule, s', hrun, hserving, hmiddle⟩ := h
  obtain ⟨later, s'', hlater, hgoal⟩ := hrest s' hserving hmiddle
  exact ⟨schedule ++ later, s'', Interleaving.run_trans hrun hlater, hgoal⟩

/-- A round of the outer loop comes to its end, and was one call of `read_some` unless the worker
has finished. -/
theorem Serving.reaches_round (hexchange : Exchange env roles k w documents frames)
    {reader : FrameReader} (h : Serving env k w (Served env k (total env k documents)) s)
    (hw : s.threads w = .outside (.done (.serve k reader))) :
    ∃ schedule s', Interleaving.run (ServerThread.advance env) schedule s = some s'
      ∧ Serving env k w (Served env k (total env k documents)) s'
      ∧ ∃ next, s'.threads w = .outside (.done next)
        ∧ (next = .stop ∨ (s'.shared.sessions k).reads = (s.shared.sessions k).reads + 1) := by
  have hserved := h.worker
  rw [hw] at hserved
  have hround := works_serveRound hserved
  have hadvance : (s.threads w).advance env s.shared
      = some ((), .outside (serveRound k reader), s.shared) := by
    rw [hw]
    rfl
  have hturned : Serving env k w (Served env k (total env k documents))
      (turned s w (.outside (serveRound k reader)) s.shared (s.log ++ [(w, ())])) := by
    refine h.turn hexchange ?_ (advance_moves hadvance)
    intro k' reader' _ hthread
    rw [hw] at hthread
    cases hthread
    exact hround.mono fun _ _ hboth => hboth.1
  have hself : (turned s w (.outside (serveRound k reader)) s.shared
      (s.log ++ [(w, ())])).threads w = .outside (serveRound k reader) := Function.update_self _ _ _
  have hstrong : Serving env k w (fun next view => Served env k (total env k documents) next view
      ∧ (next = .stop ∨ view.reads = (s.shared.sessions k).view.reads + 1))
      (turned s w (.outside (serveRound k reader)) s.shared (s.log ++ [(w, ())])) := by
    refine ⟨hturned.orderly, ?_, hturned.others, hturned.events, hturned.held⟩
    rw [hself]
    exact hround
  obtain ⟨schedule, s', hrun, hserving, next, hdone⟩ :=
    hstrong.reaches_done hexchange (serveRound k reader) hself
  have hpost := hserving.worker
  rw [hdone] at hpost
  exact ⟨[w] ++ schedule, s', Interleaving.run_trans (step_of_moves hadvance) hrun,
    hserving.weaken fun _ _ hboth => hboth.1, next, hdone, hpost.2⟩

theorem Serving.rests_of_delivers (hexchange : Exchange env roles k w documents frames) {n : Nat}
    {stream : Bytes} (hdelivers : Delivers (env.readSome k) n stream) {reader : FrameReader}
    (h : Serving env k w (Served env k (total env k documents)) s)
    (hw : s.threads w = .outside (.done (.serve k reader)))
    (hreads : (s.shared.sessions k).reads = n) : Rests env k w s := by
  induction hdelivers generalizing s reader with
  | quiet hquiet =>
      refine ⟨[], s, rfl, _, hw, .inr ?_⟩
      rwa [hreads]
  | timeout _ _ _ ih | chunk _ _ _ ih =>
      obtain ⟨schedule, s', hrun, hserving, next, hdone, hnext⟩ := h.reaches_round hexchange hw
      cases next with
      | stop => exact ⟨schedule, s', hrun, .stop, hdone, .inl rfl⟩
      | serve k' reader' =>
          have hpost := hserving.worker
          rw [hdone] at hpost
          obtain ⟨rfl, -⟩ := hpost
          rcases hnext with hstop | hreads'
          · cases hstop
          · rw [hreads] at hreads'
            obtain ⟨later, s'', hlater, hrest⟩ := ih hserving hdone hreads'
            exact ⟨schedule ++ later, s'', Interleaving.run_trans hrun hlater, hrest⟩

/-- From every state of a run the worker gets to rest. -/
theorem Serving.rests (hexchange : Exchange env roles k w documents frames)
    (h : Serving env k w (Served env k (total env k documents)) s) : Rests env k w s := by
  have hdone : ∀ s', Serving env k w (Served env k (total env k documents)) s' →
      ∀ next, s'.threads w = .outside (.done next) → Rests env k w s' := by
    intro s' hserving next hw
    cases next with
    | stop => exact ⟨[], s', rfl, .stop, hw, .inl rfl⟩
    | serve k' reader =>
        have hpost := hserving.worker
        rw [hw] at hpost
        obtain ⟨rfl, undelivered, hdelivers, -⟩ := hpost
        exact hserving.rests_of_delivers hexchange hdelivers hw rfl
  have houtside : ∀ s', Serving env k w (Served env k (total env k documents)) s' →
      ∀ program, s'.threads w = .outside program → Rests env k w s' := by
    intro s' hserving program hw
    apply (hserving.reaches_done hexchange program hw).rests
    rintro s'' hserving' ⟨next, hnext⟩
    exact hdone s'' hserving' next hnext
  cases hw : s.threads w with
  | outside program => exact houtside s h program hw
  | writing k' bytes next =>
      apply (h.reaches_released hexchange hw).rests
      rintro s' hserving ⟨⟨answer, hanswer⟩, -⟩
      exact houtside s' hserving (next answer) hanswer

/-- **Replies.** Whatever the chunks and timeouts in which the frames of a client arrive, whatever
the handlers answer and however the threads take turns: its worker always gets behind the stream,
and then the client has one reply to every document, in order and under its id, exactly when all
documents are requests or have the id zero and all replies fit in a frame. -/
theorem replies_iff (hexchange : Exchange env roles k w documents frames) (listed : List κ)
    (schedule : List ι)
    (hrun : Interleaving.run (ServerThread.advance env) schedule (serverStart env roles listed)
      = some s) :
    Rests env k w s ∧ (AtRest env k w s →
      (Correlated (env.handle k) 0 documents (s.shared.sessions k).replies
        ↔ Answerable env.maxFrameBytes (env.handle k) 0 documents)) := by
  have hserving := serving_run hexchange (serving_start hexchange listed) hrun
  refine ⟨hserving.rests hexchange, fun hrest => ?_⟩
  rw [replies_atRest hserving hrest]
  exact correlated_answers_iff documents 0

end Steps

end Servers

/-! ### One client -/

/-- A client that sends one document, to a server without handlers. -/
def oneDocument (text : Bytes) : ServerEnv Unit where
  running _ := true
  readSome _ n :=
    if n = 0 then .ok ([UInt8.ofNat text.length, 0, 0, 0] ++ text) else .ok []
  takes _ _ := some 1000
  handle _ _ _ := none

theorem exchange_oneDocument {text : Bytes} {document : Value} (hparse : Json.parse text = .ok document)
    (hframe : encodeFrame text kMaxFrameBytes = .ok ([UInt8.ofNat text.length, 0, 0, 0] ++ text)) :
    Exchange (oneDocument text) (fun _ : Unit => .worker ()) () () [document]
      [[UInt8.ofNat text.length, 0, 0, 0] ++ text] where
  worker _ := ⟨fun _ => rfl, fun _ => rfl⟩
  running _ := rfl
  framing := .cons ⟨text, hframe, hparse⟩ .nil
  delivered := by
    refine .chunk rfl (List.cons_ne_nil _ _) (.quiet fun n hn chunk hread => ?_)
    have hend : (oneDocument text).readSome () n = .ok [] := if_neg (by omega)
    rw [hend] at hread
    cases hread
    rfl
  written _ := ⟨999, rfl⟩
  handlers _ _ _ _ _ h := by cases h
  publishers _ _ h := by cases h

/-- A ping with the id 7. -/
def ping : Value := .object [(str "id", .int 7), (str "method", .string (str "ping"))]

set_option maxRecDepth 10000 in
theorem replies_iff_ping : ∃ schedule s,
    Interleaving.run (ServerThread.advance (oneDocument (ping.dump (-1)))) schedule
      (serverStart (oneDocument (ping.dump (-1))) (fun _ : Unit => .worker ()) [()]) = some s
    ∧ Correlated ((oneDocument (ping.dump (-1))).handle ()) 0 [ping]
        (s.shared.sessions ()).replies := by
  have hexchange : Exchange (oneDocument (ping.dump (-1))) (fun _ : Unit => .worker ()) () () [ping]
      [[UInt8.ofNat (ping.dump (-1)).length, 0, 0, 0] ++ ping.dump (-1)] :=
    exchange_oneDocument rfl rfl
  obtain ⟨schedule, s, hrun, hrest⟩ := (replies_iff hexchange [()] [] rfl).1
  refine ⟨schedule, s, hrun, ((replies_iff hexchange [()] schedule hrun).2 hrest).mpr ?_⟩
  exact ⟨.inl ⟨{ id := 7, method := .ping }, rfl⟩, by decide, trivial⟩

/-- A document with the id 7 and a method that nobody knows. -/
def misspelt : Value := .object [(str "id", .int 7), (str "method", .string (str "pong"))]

/-- It is answered under the id zero. -/
theorem not_correlated_misspelt :
    ¬ ∀ (env : ServerEnv Unit) (roles : Unit → ServerRole Unit) (documents : List Value)
      (frames : List Bytes) (listed schedule : List Unit) (s : ServerState Unit Unit),
      Exchange env roles () () documents frames →
      Interleaving.run (ServerThread.advance env) schedule (serverStart env roles listed) = some s →
      AtRest env () () s →
      Correlated (env.handle ()) 0 documents (s.shared.sessions ()).replies := by
  intro h
  have hexchange : Exchange (oneDocument (misspelt.dump (-1))) (fun _ : Unit => .worker ()) () ()
      [misspelt] [[UInt8.ofNat (misspelt.dump (-1)).length, 0, 0, 0] ++ misspelt.dump (-1)] :=
    exchange_oneDocument rfl rfl
  have hstart := serving_start hexchange [()]
  obtain ⟨schedule, s, hrun, hrest⟩ := hstart.rests hexchange
  have hcorrelated := h _ _ _ _ [()] schedule s hexchange hrun hrest
  rw [replies_atRest (serving_run hexchange hstart hrun) hrest] at hcorrelated
  obtain ⟨hrequest | hzero, -⟩ := (correlated_answers_iff [misspelt] 0).mp hcorrelated
  · obtain ⟨request, hrequest⟩ := hrequest
    have herror : Request.fromJson misspelt
        = .error (Err.protocol (str "unknown method: " ++ str "pong") (str "ipc.request")) := rfl
    rw [herror] at hrequest
    cases hrequest
  · exact absurd hzero (by decide)

end ContextSnap.Ipc
