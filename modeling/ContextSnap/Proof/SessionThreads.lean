import ContextSnap.Proof.RequestReplies
import ContextSnap.Proof.ServerFraming

/-!
# The threads of a server and one session

What the worker of a session does to it, and what the other threads do. They write nothing but events
to its connection.
-/

namespace ContextSnap.Ipc

open Json (Value)
open Program (Leads)

/-! ### One session as its worker sees it -/

def isEvent (value : Value) : Bool := (value.find (str "event")).isSome

/-- What was sent as a whole, events aside. -/
def ClientSession.replies (session : ClientSession) : List Value :=
  ((session.carried.filter fun sent => sent.wrote = sent.frame.length).map Sent.value).filter
    fun value => !isEvent value

structure ServerView where
  active : Bool
  reads : Nat
  handled : Nat
  replies : List Value

def ClientSession.view (session : ClientSession) : ServerView :=
  { active := session.active, reads := session.reads, handled := session.handled
    replies := session.replies }

/-- The view behind a message that was sent. -/
def ServerView.carry (view : ServerView) (value : Value) : ServerView :=
  if isEvent value then view else { view with replies := view.replies ++ [value] }

theorem isEvent_response (response : Response) : isEvent response.toJson = false := by
  obtain ⟨id, ok, result, code, message⟩ := response
  cases ok <;> simp [isEvent, Response.toJson]

theorem isEvent_event (event : Event) : isEvent event.toJson = true := by
  simp [isEvent, Event.toJson]

theorem carry_response (view : ServerView) (response : Response) :
    view.carry response.toJson = { view with replies := view.replies ++ [response.toJson] } := by
  rw [ServerView.carry, isEvent_response]
  rfl

theorem carry_event (view : ServerView) (event : Event) : view.carry event.toJson = view := by
  rw [ServerView.carry, isEvent_event]
  rfl

/-! ### Documents -/

section Documents

variable {κ : Type} (k : κ) {text : Bytes} {document : Value} {request : Request}

theorem serveFrame_refused {e : Error} (hparse : Json.parse text = .ok document)
    (hdecode : Request.fromJson document = .error e) :
    serveFrame k text = send k (Response.failure 0 e).toJson >>= fun _ => .done true := by
  rw [serveFrame, hparse]
  simp only [hdecode]
  rfl

theorem serveFrame_subscribe (hparse : Json.parse text = .ok document)
    (hdecode : Request.fromJson document = .ok request) (hmethod : request.method = .subscribe) :
    serveFrame k text = ask (.subscribe k) >>= fun _ =>
      send k (Response.success request.id acknowledgement).toJson >>= fun _ => .done true := by
  rw [serveFrame, hparse]
  simp only [hdecode, if_pos hmethod]
  rfl

theorem serveFrame_dispatched (hparse : Json.parse text = .ok document)
    (hdecode : Request.fromJson document = .ok request) (hmethod : request.method ≠ .subscribe) :
    serveFrame k text = dispatch k request >>= fun response => send k response.toJson >>= fun sent =>
      if sent then .done true else deactivate k >>= fun _ => .done false := by
  rw [serveFrame, hparse]
  simp only [hdecode, if_neg hmethod]
  rfl

end Documents

section Views

variable {κ : Type}

/-- The events that a handler broadcasts fit in a frame. -/
def EventsFit (maxFrameBytes : UInt32) (answer : Option (Result Value × List Event)) : Prop :=
  ∀ result events, answer = some (result, events) →
    ∀ event ∈ events, Fits maxFrameBytes event.toJson

/-- What other threads may do to a session is to send events. -/
def Foreign (maxFrameBytes : UInt32) (k : κ) : ServerOp κ → Unit → Prop
  | .readSome k', _ | .subscribe k', _ | .deactivate k', _ | .leave k', _ | .handle k' _, _ =>
      k' ≠ k
  | .send k' value, _ => k' = k → isEvent value ∧ Fits maxFrameBytes value
  | .running, _ | .active _, _ | .targets, _ => True

/-- What other threads may count on. -/
def Answered (maxFrameBytes : UInt32) (k : κ) :
    (op : ServerOp κ) → Unit → ServerAnswer op → Unit → Prop
  | .send k' _, _, answer, _ => k' = k → answer = true
  | .handle _ _, _, answer, _ => EventsFit maxFrameBytes answer
  | _, _, _, _ => True

/-! ### Broadcasts -/

section Broadcasts

variable {σ : Type} {allowed : ServerOp κ → σ → Prop}
  {acts : (op : ServerOp κ) → σ → ServerAnswer op → σ → Prop} {s : σ}

/-- A message that is sent changes nothing, and neither does it where it does not fit. -/
def Harmless (allowed : ServerOp κ → σ → Prop)
    (acts : (op : ServerOp κ) → σ → ServerAnswer op → σ → Prop) (s : σ) (payload : Value) : Prop :=
  ∀ k, allowed (.send k payload) s ∧ ∀ (answer : Bool) s', acts (.send k payload) s answer s' →
    s' = s ∧ (answer = false → allowed (.deactivate k) s
      ∧ ∀ answer' s'', acts (.deactivate k) s answer' s'' → s'' = s)

theorem leads_sendToAll {payload : Value} (h : Harmless allowed acts s payload) (targets : List κ) :
    (sendToAll payload targets).Leads allowed acts s fun _ s' => s' = s := by
  induction targets with
  | nil => rfl
  | cons k targets ih =>
      refine ⟨(h k).1, fun answer s' hacts => ?_⟩
      obtain ⟨rfl, hfailed⟩ := (h k).2 answer s' hacts
      cases answer with
      | true => exact ih
      | false =>
          obtain ⟨hallowed, hstays⟩ := hfailed rfl
          refine ⟨hallowed, fun answer' s'' hacts' => ?_⟩
          obtain rfl := hstays answer' s'' hacts'
          exact ih

theorem leads_broadcastAll {events : List Event}
    (htargets : allowed .targets s ∧ ∀ answer s', acts .targets s answer s' → s' = s)
    (h : ∀ event ∈ events, Harmless allowed acts s event.toJson) :
    (broadcastAll events).Leads allowed acts s fun _ s' => s' = s := by
  induction events with
  | nil => rfl
  | cons event events ih =>
      have hrest := ih fun event hmem => h event (List.mem_cons_of_mem _ hmem)
      apply Leads.bind
      refine ⟨htargets.1, fun targets s' hacts => ?_⟩
      obtain rfl := htargets.2 targets s' hacts
      refine (leads_sendToAll (h event List.mem_cons_self) targets).mono ?_
      rintro _ _ rfl
      exact hrest

end Broadcasts

/-! ### Other threads -/

section Others

variable {maxFrameBytes : UInt32} {k k' : κ}

/-- A program of another thread. -/
abbrev Spares {α : Type} (maxFrameBytes : UInt32) (k : κ) (program : ServerAction κ α)
    (post : α → Prop) : Prop :=
  program.Leads (Foreign maxFrameBytes k) (Answered maxFrameBytes k) () fun value _ => post value

/-- It goes on with another session, if at all. -/
def Elsewhere (k : κ) (next : Next κ) : Prop := ∀ k' reader, next = .serve k' reader → k' ≠ k

theorem spares_broadcastAll {events : List Event}
    (hfits : ∀ event ∈ events, Fits maxFrameBytes event.toJson) :
    Spares maxFrameBytes k (broadcastAll events) fun _ => True := by
  refine (leads_broadcastAll ⟨trivial, fun _ _ _ => rfl⟩ ?_).mono fun _ _ _ => trivial
  intro event hmem k'
  refine ⟨fun _ => ⟨isEvent_event event, hfits event hmem⟩, fun answer _ hanswer => ?_⟩
  have htrue : k' = k → answer = true := hanswer
  refine ⟨rfl, fun hfailed => ⟨fun hk => ?_, fun _ _ _ => rfl⟩⟩
  rw [htrue hk] at hfailed
  cases hfailed

theorem spares_publish {events : List Event}
    (hfits : ∀ event ∈ events, Fits maxFrameBytes event.toJson) :
    Spares maxFrameBytes k (publish events) (Elsewhere k) := by
  apply Leads.bind
  refine (spares_broadcastAll hfits).mono fun _ _ _ => ?_
  intro _ _ hnext
  cases hnext

theorem spares_dispatch (hk : k' ≠ k) (request : Request) :
    Spares maxFrameBytes k (dispatch k' request) fun _ => True := by
  apply Leads.bind
  refine ⟨hk, fun (answer : Option (Result Value × List Event)) _ hfits => ?_⟩
  have hevents : EventsFit maxFrameBytes answer := hfits
  cases answer with
  | none => trivial
  | some found =>
      apply Leads.bind
      exact (spares_broadcastAll (hevents found.1 found.2 rfl)).mono fun _ _ _ => trivial

theorem spares_send (hk : k' ≠ k) (value : Value) :
    Spares maxFrameBytes k (send k' value) fun _ => True :=
  ⟨fun h => absurd h hk, fun _ _ _ => trivial⟩

theorem spares_serveFrame (hk : k' ≠ k) (text : Bytes) :
    Spares maxFrameBytes k (serveFrame k' text) fun _ => True := by
  have hignored : ∀ value, Spares maxFrameBytes k
      (send k' value >>= fun _ => .done true) fun _ => True := fun value =>
    Leads.bind ((spares_send hk value).mono fun _ _ _ => trivial)
  cases hparse : Json.parse text with
  | error e =>
      have hrefused : serveFrame k' text
          = send k' (Response.failure 0 e).toJson >>= fun _ => .done true := by
        rw [serveFrame, hparse]
        rfl
      rw [hrefused]
      exact hignored _
  | ok document =>
      cases hdecode : Request.fromJson document with
      | error e =>
          rw [serveFrame_refused k' hparse hdecode]
          exact hignored _
      | ok request =>
          by_cases hmethod : request.method = .subscribe
          · rw [serveFrame_subscribe k' hparse hdecode hmethod]
            exact ⟨hk, fun _ _ _ => hignored _⟩
          · rw [serveFrame_dispatched k' hparse hdecode hmethod]
            apply Leads.bind
            refine (spares_dispatch hk request).mono fun response _ _ => ?_
            apply Leads.bind
            refine (spares_send hk _).mono fun sent _ _ => ?_
            cases sent with
            | true => trivial
            | false => exact ⟨hk, fun _ _ _ => trivial⟩

theorem spares_serveFrames (hk : k' ≠ k) (rounds : Nat) (reader : FrameReader) :
    Spares maxFrameBytes k (serveFrames k' rounds reader) fun _ => True := by
  induction rounds generalizing reader with
  | zero => trivial
  | succ rounds ih =>
      unfold serveFrames
      rcases reader.next with ⟨answer, reader'⟩
      cases answer with
      | error e => exact ⟨hk, fun _ _ _ => trivial⟩
      | ok found =>
          cases found with
          | none => trivial
          | some text =>
              apply Leads.bind
              refine (spares_serveFrame hk text).mono fun more _ _ => ?_
              split
              · exact ih reader'
              · trivial

theorem spares_finish (hk : k' ≠ k) :
    Spares maxFrameBytes k (finish k') (Elsewhere k) := by
  refine ⟨hk, fun _ _ _ => ⟨hk, fun _ _ _ => ?_⟩⟩
  intro _ _ hnext
  cases hnext

theorem spares_serveChunk (hk : k' ≠ k) (reader : FrameReader) (chunk : Result Bytes) :
    Spares maxFrameBytes k (serveChunk k' reader chunk) (Elsewhere k) := by
  have hserve : ∀ reader' : FrameReader, Elsewhere k (.serve k' reader') := by
    rintro reader' _ _ ⟨⟩
    exact hk
  cases chunk with
  | error e =>
      by_cases hcode : e.code = .timeout
      · rw [serveChunk, if_pos hcode]
        exact hserve reader
      · rw [serveChunk, if_neg hcode]
        exact spares_finish hk
  | ok chunk =>
      cases chunk with
      | nil => exact spares_finish hk
      | cons byte bytes =>
          apply Leads.bind
          exact (spares_serveFrames hk _ _).mono fun reader' _ _ => hserve reader'

theorem spares_serveRound (hk : k' ≠ k) (reader : FrameReader) :
    Spares maxFrameBytes k (serveRound k' reader) (Elsewhere k) := by
  refine ⟨trivial, fun (running : Bool) _ _ => ?_⟩
  cases running with
  | false => exact spares_finish hk
  | true =>
      refine ⟨trivial, fun (active : Bool) _ _ => ?_⟩
      cases active with
      | false => exact spares_finish hk
      | true => exact ⟨hk, fun chunk _ _ => spares_serveChunk hk reader chunk⟩

end Others

/-! ### The stream of a client -/

/-- Nothing more arrives. -/
def Quiet (reads : Nat → Result Bytes) (n : Nat) : Prop :=
  ∀ m ≥ n, ∀ chunk, reads m = .ok chunk → chunk = []

/-- From the `n`-th call of `read_some` on this stream arrives, and then nothing. -/
inductive Delivers (reads : Nat → Result Bytes) : Nat → Bytes → Prop
  | quiet {n : Nat} (h : Quiet reads n) : Delivers reads n []
  | timeout {n : Nat} {e : Error} {stream : Bytes} (read : reads n = .error e)
      (code : e.code = .timeout) (rest : Delivers reads (n + 1) stream) : Delivers reads n stream
  | chunk {n : Nat} {chunk stream : Bytes} (read : reads n = .ok chunk) (nonempty : chunk ≠ [])
      (rest : Delivers reads (n + 1) stream) : Delivers reads n (chunk ++ stream)

/-- Complete frames with a JSON document each. -/
abbrev Framing (maxFrameBytes : UInt32) : List Value → List Bytes → Prop :=
  List.Forall₂ fun document frame =>
    ∃ text, encodeFrame text maxFrameBytes = .ok frame ∧ Json.parse text = .ok document

/-- What is left to answer, where `total` is what all documents are answered with. -/
structure Backlog (env : ServerEnv κ) (k : κ) (total : List Value) (undelivered : Bytes)
    (reader : FrameReader) (view : ServerView) : Prop where
  limit : reader.maxBytes = env.maxFrameBytes
  left : view.active = true → ∃ documents frames, Framing env.maxFrameBytes documents frames
    ∧ reader.buffer ++ undelivered = frames.flatten
    ∧ total = view.replies ++ answers env.maxFrameBytes (env.handle k) view.handled documents
  stopped : view.active = false → total = view.replies

/-- There is no complete frame in the reader. -/
def Drained (reader : FrameReader) : Prop := takeFrame reader.maxBytes reader.buffer = .ok none

theorem length_encodeFrame {payload frame : Bytes} {maxBytes : UInt32}
    (h : encodeFrame payload maxBytes = .ok frame) : 0 < frame.length := by
  obtain ⟨b0, b1, b2, b3, rfl, -⟩ := encodeFrame_shape h
  exact Nat.succ_pos _

theorem next_frame {text frame rest : Bytes} {reader : FrameReader}
    (hframe : encodeFrame text reader.maxBytes = .ok frame) (hbuffer : reader.buffer = frame ++ rest) :
    reader.next = (.ok (some text), { reader with buffer := rest }) := by
  have hitem := takeFrame_encodeFrame hframe rest
  rw [FrameReader.next_eq, hbuffer,
    (frameDecoder reader.maxBytes).next_of_item hitem, List.drop_left]

theorem next_drained {reader : FrameReader} (h : Drained reader) :
    reader.next = (.ok none, reader) := by
  rw [FrameReader.next_eq, (frameDecoder reader.maxBytes).next_of_more h]

theorem Quiet.delivers_nil {reads : Nat → Result Bytes} {n : Nat} {stream : Bytes}
    (h : Quiet reads n) (hdelivers : Delivers reads n stream) : stream = [] := by
  induction hdelivers with
  | quiet => rfl
  | timeout _ _ _ ih => exact ih fun m hm => h m (Nat.le_of_succ_le hm)
  | chunk hread hnonempty _ _ => exact absurd (h _ (Nat.le_refl _) _ hread) hnonempty

section Backlogs

variable {env : ServerEnv κ} {k : κ} {total : List Value} {undelivered : Bytes}
  {reader : FrameReader} {view : ServerView}

/-- The view behind a document. -/
def ServerView.answered (maxFrameBytes : UInt32) (handle : Handlers) (view : ServerView)
    (document : Value) : ServerView :=
  let reply := (replyTo handle view.handled document).toJson
  { view with
    active := view.active && (decide (Fits maxFrameBytes reply) || !dispatched document)
    handled := view.handled + (dispatched document).toNat
    replies := if Fits maxFrameBytes reply then view.replies ++ [reply] else view.replies }

/-- A document that was answered. -/
theorem answers_answered (view : ServerView) (document : Value) (documents : List Value)
    (hactive : view.active = true) :
    view.replies ++ answers env.maxFrameBytes (env.handle k) view.handled (document :: documents)
      = (view.answered env.maxFrameBytes (env.handle k) document).replies
        ++ if (view.answered env.maxFrameBytes (env.handle k) document).active then
            answers env.maxFrameBytes (env.handle k)
              (view.answered env.maxFrameBytes (env.handle k) document).handled documents
          else [] := by
  rw [answers_cons]
  by_cases hfits : Fits env.maxFrameBytes (replyTo (env.handle k) view.handled document).toJson
  · simp [ServerView.answered, hfits, hactive]
  · cases hdispatched : dispatched document <;>
      simp [ServerView.answered, hfits, hactive, hdispatched]

/-- The answered document leaves the backlog. -/
theorem Backlog.answer {total : List Value} {undelivered rest : Bytes} {maxBytes : UInt32}
    {documents : List Value} {document : Value} {frames : List Bytes} {view : ServerView}
    (hlimit : maxBytes = env.maxFrameBytes) (hframing : Framing env.maxFrameBytes documents frames)
    (hrest : rest ++ undelivered = frames.flatten) (hactive : view.active = true)
    (htotal : total = view.replies
      ++ answers env.maxFrameBytes (env.handle k) view.handled (document :: documents)) :
    Backlog env k total undelivered { buffer := rest, maxBytes }
      (view.answered env.maxFrameBytes (env.handle k) document) := by
  rw [answers_answered view document documents hactive] at htotal
  refine ⟨hlimit, fun hstill => ⟨documents, frames, hframing, hrest, ?_⟩, fun hstopped => ?_⟩
  · rwa [if_pos hstill] at htotal
  · rwa [hstopped, if_neg Bool.false_ne_true, List.append_nil] at htotal

/-- What holds at the head of the outer loop, and behind it. -/
def Served (env : ServerEnv κ) (k : κ) (total : List Value) : Next κ → ServerView → Prop
  | .stop, view => total = view.replies
  | .serve k' reader, view =>
      k' = k ∧ ∃ undelivered, Delivers (env.readSome k) view.reads undelivered
        ∧ Backlog env k total undelivered reader view ∧ (view.active = true → Drained reader)

/-- Where all of the stream has arrived, everything is answered. -/
theorem Backlog.complete {total : List Value} {reader : FrameReader} {view : ServerView}
    (h : Backlog env k total [] reader view) (hdrained : view.active = true → Drained reader) :
    total = view.replies := by
  cases hactive : view.active with
  | false => exact h.stopped hactive
  | true =>
      obtain ⟨documents, frames, hframing, hbuffer, htotal⟩ := h.left hactive
      cases hframing with
      | nil => rwa [answers, List.append_nil] at htotal
      | @cons document frame documents frames hframe hframes =>
          obtain ⟨text, hencode, -⟩ := hframe
          have hempty := hdrained hactive
          rw [List.append_nil, List.flatten_cons] at hbuffer
          rw [← h.limit] at hencode
          rw [Drained, hbuffer, takeFrame_encodeFrame hencode] at hempty
          cases hempty

end Backlogs

/-! ### The worker of the session -/

section Worker

variable [DecidableEq κ]

/-! What the operations of the session's worker answer and do to its view, while the server runs and
all calls of `write` take something. -/

def ReadActs (env : ServerEnv κ) (k k' : κ) (view : ServerView) (answer : Result Bytes)
    (view' : ServerView) : Prop :=
  if k' = k then answer = env.readSome k view.reads ∧ view' = { view with reads := view.reads + 1 }
  else view' = view

def DeactivateActs (k k' : κ) (view view' : ServerView) : Prop :=
  view' = if k' = k then { view with active := false } else view

def HandleActs (env : ServerEnv κ) (k k' : κ) (request : Request) (view : ServerView)
    (answer : Option (Result Value × List Event)) (view' : ServerView) : Prop :=
  EventsFit env.maxFrameBytes answer
    ∧ if k' = k then
        answer = env.handle k view.handled request
          ∧ view' = { view with handled := view.handled + 1 }
      else view' = view

def SendActs (env : ServerEnv κ) (k k' : κ) (value : Value) (view : ServerView) (answer : Bool)
    (view' : ServerView) : Prop :=
  if k' = k then
    answer = decide (Fits env.maxFrameBytes value)
      ∧ view' = if Fits env.maxFrameBytes value then view.carry value else view
  else view' = view

def Acts (env : ServerEnv κ) (k : κ) :
    (op : ServerOp κ) → ServerView → ServerAnswer op → ServerView → Prop
  | .running, view, answer, view' => answer = true ∧ view' = view
  | .active k', view, answer, view' => (k' = k → answer = view.active) ∧ view' = view
  | .readSome k', view, answer, view' => ReadActs env k k' view answer view'
  | .deactivate k', view, _, view' => DeactivateActs k k' view view'
  | .handle k' request, view, answer, view' => HandleActs env k k' request view answer view'
  | .send k' value, view, answer, view' => SendActs env k k' value view answer view'
  | .subscribe _, view, _, view' | .leave _, view, _, view' | .targets, view, _, view' =>
      view' = view

variable {env : ServerEnv κ} {k : κ}


/-- A program of the session's worker. -/
abbrev Works {α : Type} (env : ServerEnv κ) (k : κ) (program : ServerAction κ α) (view : ServerView)
    (post : α → ServerView → Prop) : Prop :=
  program.Leads (fun _ _ => True) (Acts env k) view post

theorem sendActs_self {value : Value} {view view' : ServerView} {answer : Bool}
    (h : SendActs env k k value view answer view') :
    answer = decide (Fits env.maxFrameBytes value)
      ∧ view' = if Fits env.maxFrameBytes value then view.carry value else view := by
  unfold SendActs at h
  rwa [if_pos rfl] at h

theorem sendActs_other {k' : κ} (hk : k' ≠ k) {value : Value} {view view' : ServerView}
    {answer : Bool} (h : SendActs env k k' value view answer view') : view' = view := by
  unfold SendActs at h
  rwa [if_neg hk] at h

theorem sendActs_fits {value : Value} (h : Fits env.maxFrameBytes value) (view : ServerView) :
    SendActs env k k value view true (view.carry value) := by
  unfold SendActs
  rw [if_pos rfl, if_pos h, decide_eq_true h]
  exact ⟨rfl, rfl⟩

theorem sendActs_oversized (k' : κ) {value : Value} (h : ¬ Fits env.maxFrameBytes value)
    (view : ServerView) : SendActs env k k' value view false view := by
  unfold SendActs
  by_cases hk : k' = k
  · rw [if_pos hk, if_neg h, decide_eq_false h]
    exact ⟨rfl, rfl⟩
  · rw [if_neg hk]

theorem sendActs_elsewhere {k' : κ} (hk : k' ≠ k) (value : Value) (view : ServerView)
    (answer : Bool) : SendActs env k k' value view answer view := by
  unfold SendActs
  rw [if_neg hk]

theorem deactivateActs_self {view view' : ServerView} (h : DeactivateActs k k view view') :
    view' = { view with active := false } := by
  unfold DeactivateActs at h
  rwa [if_pos rfl] at h

theorem deactivateActs_other {k' : κ} (hk : k' ≠ k) {view view' : ServerView}
    (h : DeactivateActs k k' view view') : view' = view := by
  unfold DeactivateActs at h
  rwa [if_neg hk] at h

theorem readActs_self {view view' : ServerView} {answer : Result Bytes}
    (h : ReadActs env k k view answer view') :
    answer = env.readSome k view.reads ∧ view' = { view with reads := view.reads + 1 } := by
  unfold ReadActs at h
  rwa [if_pos rfl] at h

theorem handleActs_self {request : Request} {view view' : ServerView}
    {answer : Option (Result Value × List Event)}
    (h : HandleActs env k k request view answer view') :
    answer = env.handle k view.handled request
      ∧ view' = { view with handled := view.handled + 1 } := by
  have hself := h.2
  rwa [if_pos rfl] at hself

theorem harmless_event {event : Event} (hfits : Fits env.maxFrameBytes event.toJson)
    (view : ServerView) :
    Harmless (fun _ _ => True) (Acts env k) view event.toJson := by
  intro k'
  refine ⟨trivial, fun answer view' hacts => ?_⟩
  have hsend : SendActs env k k' event.toJson view answer view' := hacts
  by_cases hk : k' = k
  · subst hk
    obtain ⟨rfl, hview⟩ := sendActs_self hsend
    rw [if_pos hfits, carry_event] at hview
    exact ⟨hview, fun hfailed => absurd hfits (of_decide_eq_false hfailed)⟩
  · refine ⟨sendActs_other hk hsend, fun _ => ⟨trivial, fun _ view'' hacts' => ?_⟩⟩
    exact deactivateActs_other hk hacts'

theorem works_broadcastAll {events : List Event}
    (hfits : ∀ event ∈ events, Fits env.maxFrameBytes event.toJson) (view : ServerView) :
    Works env k (broadcastAll events) view fun _ view' => view' = view :=
  leads_broadcastAll ⟨trivial, fun _ _ hacts => hacts⟩ fun event hmem =>
    harmless_event (hfits event hmem) view

theorem works_dispatch {document : Value} {request : Request}
    (hdecode : Request.fromJson document = .ok request) (hmethod : request.method ≠ .subscribe)
    (view : ServerView) :
    Works env k (dispatch k request) view fun response view' =>
      response = replyTo (env.handle k) view.handled document
        ∧ view' = { view with handled := view.handled + 1 } := by
  apply Leads.bind
  refine ⟨trivial, fun (answer : Option (Result Value × List Event)) view' hacts => ?_⟩
  obtain ⟨hanswer, rfl⟩ := handleActs_self hacts
  have hfits : EventsFit env.maxFrameBytes answer := hacts.1
  cases answer with
  | none => exact ⟨(replyTo_unhandled hdecode hmethod hanswer.symm).symm, rfl⟩
  | some found =>
      apply Leads.bind
      refine (works_broadcastAll (hfits found.1 found.2 rfl) _).mono ?_
      rintro _ _ rfl
      exact ⟨(replyTo_handled hdecode hmethod hanswer.symm).symm, rfl⟩

/-- A reply that is sent whether or not it fits. -/
theorem works_ignored (env : ServerEnv κ) (k : κ) {document : Value}
    (hundispatched : dispatched document = false) (view : ServerView) :
    Works env k
      (send k (replyTo (env.handle k) view.handled document).toJson >>= fun _ => .done true) view
      fun more view' => more = true
        ∧ view' = view.answered env.maxFrameBytes (env.handle k) document := by
  refine ⟨trivial, fun (sent : Bool) view' hacts => ?_⟩
  obtain ⟨-, rfl⟩ := sendActs_self hacts
  refine ⟨rfl, ?_⟩
  rw [carry_response]
  simp only [ServerView.answered, hundispatched, Bool.not_false, Bool.or_true, Bool.and_true,
    Bool.toNat_false, Nat.add_zero]
  split <;> rfl

theorem works_serveFrame {text : Bytes} {document : Value}
    (hparse : Json.parse text = .ok document) (view : ServerView) (hactive : view.active = true) :
    Works env k (serveFrame k text) view fun more view' =>
      more = view'.active ∧ view' = view.answered env.maxFrameBytes (env.handle k) document := by
  have hignored : dispatched document = false →
      (view.answered env.maxFrameBytes (env.handle k) document).active = true := by
    intro hundispatched
    simp [ServerView.answered, hundispatched, hactive]
  cases hdecode : Request.fromJson document with
  | error e =>
      have hundispatched : dispatched document = false := by rw [dispatched, hdecode]
      have hworks := works_ignored env k hundispatched view
      rw [serveFrame_refused k hparse hdecode]
      rw [replyTo_refused hdecode] at hworks
      refine hworks.mono ?_
      rintro _ _ ⟨rfl, rfl⟩
      exact ⟨(hignored hundispatched).symm, rfl⟩
  | ok request =>
      by_cases hmethod : request.method = .subscribe
      · have hundispatched : dispatched document = false := by
          rw [dispatched, hdecode]
          exact decide_eq_false (not_not_intro hmethod)
        have hworks := works_ignored env k hundispatched view
        rw [serveFrame_subscribe k hparse hdecode hmethod]
        rw [replyTo_subscribe hdecode hmethod] at hworks
        refine ⟨trivial, fun _ view' hacts => ?_⟩
        obtain rfl : view' = view := hacts
        refine hworks.mono ?_
        rintro _ _ ⟨rfl, rfl⟩
        exact ⟨(hignored hundispatched).symm, rfl⟩
      · have hdispatched : dispatched document = true := by
          rw [dispatched, hdecode]
          exact decide_eq_true hmethod
        rw [serveFrame_dispatched k hparse hdecode hmethod]
        apply Leads.bind
        refine (works_dispatch hdecode hmethod view).mono ?_
        rintro _ _ ⟨rfl, rfl⟩
        refine ⟨trivial, fun (sent : Bool) view' hacts => ?_⟩
        obtain ⟨rfl, rfl⟩ := sendActs_self hacts
        rw [carry_response]
        by_cases hfits : Fits env.maxFrameBytes (replyTo (env.handle k) view.handled document).toJson
        · rw [decide_eq_true hfits, if_pos hfits]
          refine ⟨hactive.symm, ?_⟩
          simp [ServerView.answered, hdispatched, hfits]
        · rw [decide_eq_false hfits, if_neg hfits]
          refine ⟨trivial, fun _ view' hacts' => ?_⟩
          obtain rfl := deactivateActs_self hacts'
          refine ⟨rfl, ?_⟩
          simp [ServerView.answered, hdispatched, hfits]

theorem works_serveFrames {total : List Value} {undelivered : Bytes} (rounds : Nat)
    {reader : FrameReader} {view : ServerView}
    (hbacklog : Backlog env k total undelivered reader view) (hactive : view.active = true)
    (hrounds : reader.buffer.length < rounds) :
    Works env k (serveFrames k rounds reader) view fun reader' view' =>
      Backlog env k total undelivered reader' view' ∧ view'.reads = view.reads
        ∧ (view'.active = true → Drained reader') := by
  induction rounds generalizing reader view with
  | zero => exact absurd hrounds (Nat.not_lt_zero _)
  | succ rounds ih =>
      obtain ⟨documents, frames, hframing, hbuffer, htotal⟩ := hbacklog.left hactive
      have hdone : Drained reader → Works env k (serveFrames k (rounds + 1) reader) view
          fun reader' view' => Backlog env k total undelivered reader' view'
            ∧ view'.reads = view.reads ∧ (view'.active = true → Drained reader') := by
        intro hdrained
        rw [serveFrames, next_drained hdrained]
        exact ⟨hbacklog, rfl, fun _ => hdrained⟩
      cases hframing with
      | nil =>
          have hempty : reader.buffer = [] := (List.append_eq_nil_iff.mp hbuffer).1
          apply hdone
          rw [Drained, hempty]
          rfl
      | @cons document frame documents frames hframe hframes =>
          obtain ⟨text, hencode, hparse⟩ := hframe
          rw [← hbacklog.limit] at hencode
          rw [List.flatten_cons] at hbuffer
          have hsplit : (∃ rest, reader.buffer = frame ++ rest ∧ rest ++ undelivered = frames.flatten)
              ∨ Drained reader := by
            rcases List.append_eq_append_iff.mp hbuffer with
              ⟨tail, hframe, hundelivered⟩ | ⟨rest, hfull, hrest⟩
            · by_cases hcut : reader.buffer = frame
              · refine .inl ⟨[], by rw [hcut, List.append_nil], ?_⟩
                rw [hcut, List.self_eq_append_right] at hframe
                rw [hundelivered, hframe, List.nil_append, List.nil_append]
              · exact .inr (takeFrame_cut hencode ⟨tail, hframe.symm⟩ hcut)
            · exact .inl ⟨rest, hfull, hrest.symm⟩
          rcases hsplit with ⟨rest, hfull, hrest⟩ | hdrained
          · rw [serveFrames, next_frame hencode hfull]
            apply Leads.bind
            refine (works_serveFrame hparse view hactive).mono ?_
            rintro _ _ ⟨rfl, rfl⟩
            have hanswer := Backlog.answer hbacklog.limit hframes hrest hactive htotal
            split
            · rename_i hstill
              apply ih hanswer hstill
              have hlength := length_encodeFrame hencode
              rw [hfull, List.length_append] at hrounds
              change rest.length < rounds
              omega
            · rename_i hstopped
              exact ⟨hanswer, rfl, fun hstill => absurd hstill hstopped⟩
          · exact hdone hdrained

theorem works_finish (view : ServerView) :
    Works env k (finish k) view fun next view' =>
      next = .stop ∧ view' = { view with active := false } := by
  refine ⟨trivial, fun _ view' hacts => ?_⟩
  obtain rfl := deactivateActs_self hacts
  refine ⟨trivial, fun _ view'' hacts' => ?_⟩
  obtain rfl : view'' = { view with active := false } := hacts'
  exact ⟨rfl, rfl⟩

theorem works_serveChunk {total : List Value} {undelivered : Bytes} {reader : FrameReader}
    {view : ServerView} (hdelivers : Delivers (env.readSome k) view.reads undelivered)
    (hbacklog : Backlog env k total undelivered reader view)
    (hdrained : view.active = true → Drained reader) (hactive : view.active = true) :
    Works env k (serveChunk k reader (env.readSome k view.reads))
      { view with reads := view.reads + 1 } fun next view' =>
        Served env k total next view' ∧ (next = .stop ∨ view'.reads = view.reads + 1) := by
  have hagain : ∀ stream, Delivers (env.readSome k) (view.reads + 1) stream →
      Backlog env k total stream reader view → Works env k (.done (.serve k reader))
        { view with reads := view.reads + 1 } fun next view' =>
          Served env k total next view' ∧ (next = .stop ∨ view'.reads = view.reads + 1) :=
    fun stream hrest hsame => ⟨⟨rfl, stream, hrest, ⟨hsame.limit, hsame.left, hsame.stopped⟩,
      hdrained⟩, .inr rfl⟩
  cases hdelivers with
  | quiet hquiet =>
      have hend : Works env k (finish k) { view with reads := view.reads + 1 } fun next view' =>
          Served env k total next view' ∧ (next = .stop ∨ view'.reads = view.reads + 1) := by
        refine (works_finish _).mono ?_
        rintro _ _ ⟨rfl, rfl⟩
        exact ⟨hbacklog.complete hdrained, .inl rfl⟩
      cases hread : env.readSome k view.reads with
      | error e =>
          by_cases hcode : e.code = .timeout
          · rw [serveChunk, if_pos hcode]
            exact hagain [] (.quiet fun m hm => hquiet m (Nat.le_of_succ_le hm)) hbacklog
          · rw [serveChunk, if_neg hcode]
            exact hend
      | ok chunk =>
          rw [hquiet _ (Nat.le_refl _) chunk hread]
          exact hend
  | timeout hread hcode hrest =>
      rw [hread, serveChunk, if_pos hcode]
      exact hagain undelivered hrest hbacklog
  | @chunk _ chunk stream hread hnonempty hrest =>
      obtain ⟨byte, bytes, rfl⟩ := List.exists_cons_of_ne_nil hnonempty
      rw [hread]
      have hfed : Backlog env k total stream (reader.feed (byte :: bytes))
          { view with reads := view.reads + 1 } := by
        refine ⟨hbacklog.limit, fun hstill => ?_, hbacklog.stopped⟩
        obtain ⟨documents, frames, hframing, hbuffer, htotal⟩ := hbacklog.left hstill
        exact ⟨documents, frames, hframing, (List.append_assoc _ _ _).trans hbuffer, htotal⟩
      apply Leads.bind
      refine (works_serveFrames _ hfed hactive (Nat.lt_succ_self _)).mono ?_
      rintro reader' view' ⟨hleft, hreads, hdone⟩
      refine ⟨⟨rfl, stream, ?_, hleft, hdone⟩, .inr hreads⟩
      rwa [hreads]

theorem works_serveRound {total : List Value} {k' : κ} {reader : FrameReader} {view : ServerView}
    (h : Served env k total (.serve k' reader) view) :
    Works env k (serveRound k' reader) view fun next view' =>
      Served env k total next view' ∧ (next = .stop ∨ view'.reads = view.reads + 1) := by
  obtain ⟨rfl, undelivered, hdelivers, hbacklog, hdrained⟩ := h
  refine ⟨trivial, fun (running : Bool) view' hacts => ?_⟩
  obtain ⟨rfl, rfl⟩ : running = true ∧ view' = view := hacts
  refine ⟨trivial, fun (active : Bool) view'' hacts' => ?_⟩
  obtain ⟨hanswer, rfl⟩ : (k' = k' → active = view'.active) ∧ view'' = view' := hacts'
  rw [hanswer rfl]
  cases hactive : view''.active with
  | false =>
      refine (works_finish view'').mono ?_
      rintro _ _ ⟨rfl, rfl⟩
      exact ⟨hbacklog.stopped hactive, .inl rfl⟩
  | true =>
      refine ⟨trivial, fun (chunk : Result Bytes) view₁ hread => ?_⟩
      obtain ⟨rfl, rfl⟩ := readActs_self hread
      exact works_serveChunk hdelivers hbacklog hdrained hactive

end Worker

end Views

end ContextSnap.Ipc
