import ContextSnap.Ipc.Client
import ContextSnap.Proof.FrameStream

/-!
# Calls and their replies

The calls of a client share one reader. Together they take the messages of the daemon from it in
their order, and a call that returns a response took the reply to its own request last.
-/

namespace ContextSnap.Ipc

open Json (Value)

/-! ### What arrives on a connection -/

/-- The bytes of the first calls of `read_some`. -/
def arrived (reads : Nat → Result Bytes) : Nat → Bytes
  | 0 => []
  | n + 1 => arrived reads n ++ (reads n).toOption.getD []

/-- The frames of some payloads. -/
abbrev Encoded : List Bytes → List Bytes → Prop :=
  List.Forall₂ fun payload frame => encodeFrame payload kMaxFrameBytes = .ok frame

/-- Some payloads were taken from the reader, and the others are there or still to arrive. -/
structure Unread (stream : Bytes) (payloads taken : List Bytes) (reader : FrameReader)
    (received : Bytes) : Prop where
  limit : reader.maxBytes = kMaxFrameBytes
  left : ∃ left frames missing, payloads = taken ++ left ∧ Encoded left frames
    ∧ reader.buffer ++ missing = frames.flatten ∧ received ++ missing = stream

section Inbox

variable {stream received : Bytes} {payloads taken : List Bytes} {reader reader' : FrameReader}

theorem unread_start {frames : List Bytes} (h : Encoded payloads frames) :
    Unread frames.flatten payloads [] { maxBytes := kMaxFrameBytes } [] :=
  ⟨rfl, payloads, frames, frames.flatten, rfl, h, rfl, rfl⟩

theorem Unread.begins (h : Unread stream payloads taken reader received) : taken <+: payloads := by
  obtain ⟨left, frames, missing, hpayloads, -⟩ := h.left
  exact ⟨left, hpayloads.symm⟩

theorem next_some {text : Bytes} (h : reader.next = (.ok (some text), reader')) :
    ∃ n, takeFrame reader.maxBytes reader.buffer = .ok (some (text, n))
      ∧ reader' = { reader with buffer := reader.buffer.drop n } := by
  rw [FrameReader.next_eq] at h
  cases hframe : takeFrame reader.maxBytes reader.buffer with
  | error e =>
      rw [(frameDecoder reader.maxBytes).next_of_error hframe] at h
      cases h
  | ok found =>
      cases found with
      | none =>
          rw [(frameDecoder reader.maxBytes).next_of_more hframe] at h
          cases h
      | some item =>
          rw [(frameDecoder reader.maxBytes).next_of_item hframe] at h
          cases h
          exact ⟨item.2, rfl, rfl⟩

theorem next_other {answer : Result (Option Bytes)} (h : reader.next = (answer, reader'))
    (hother : ∀ text, answer ≠ .ok (some text)) : reader' = reader := by
  rw [FrameReader.next_eq] at h
  cases hframe : takeFrame reader.maxBytes reader.buffer with
  | error e =>
      rw [(frameDecoder reader.maxBytes).next_of_error hframe] at h
      cases h
      rfl
  | ok found =>
      cases found with
      | none =>
          rw [(frameDecoder reader.maxBytes).next_of_more hframe] at h
          cases h
          rfl
      | some item =>
          rw [(frameDecoder reader.maxBytes).next_of_item hframe] at h
          cases h
          exact absurd rfl (hother item.1)

/-- A frame that the reader gives is the next message. -/
theorem Unread.take (h : Unread stream payloads taken reader received) {text : Bytes}
    (hnext : reader.next = (.ok (some text), reader')) :
    Unread stream payloads (taken ++ [text]) reader' received := by
  obtain ⟨left, frames, missing, hpayloads, hframes, hbuffer, hstream⟩ := h.left
  obtain ⟨n, hitem, rfl⟩ := next_some hnext
  have hle : n ≤ reader.buffer.length := (frameDecoder reader.maxBytes).take_le hitem
  have hstable : takeFrame reader.maxBytes (reader.buffer ++ missing) = .ok (some (text, n)) :=
    (frameDecoder reader.maxBytes).stable_item missing hitem
  rw [hbuffer, h.limit] at hstable
  cases hframes with
  | nil => cases hstable
  | @cons payload frame left frames hframe hframes =>
      rw [List.flatten_cons, takeFrame_encodeFrame hframe] at hstable
      obtain ⟨rfl, rfl⟩ := Prod.mk.inj (Option.some.inj (Except.ok.inj hstable))
      refine ⟨h.limit, left, frames, missing, ?_, hframes, ?_, hstream⟩
      · rw [hpayloads, List.append_assoc]
        rfl
      · rw [List.flatten_cons] at hbuffer
        have hdrop := congrArg (List.drop frame.length) hbuffer
        rwa [List.drop_append_of_le_length hle, List.drop_left] at hdrop

/-- Bytes that arrive. -/
theorem Unread.feed (h : Unread stream payloads taken reader received) {chunk : Bytes}
    (hbegins : received ++ chunk <+: stream) :
    Unread stream payloads taken (reader.feed chunk) (received ++ chunk) := by
  obtain ⟨left, frames, missing, hpayloads, hframes, hbuffer, hstream⟩ := h.left
  obtain ⟨rest, hrest⟩ := hbegins
  have hmissing : missing = chunk ++ rest := by
    rw [← hstream, List.append_assoc] at hrest
    exact (List.append_cancel_left hrest).symm
  refine ⟨h.limit, left, frames, rest, hpayloads, hframes, ?_, hrest⟩
  rw [← hbuffer, hmissing, ← List.append_assoc]
  rfl

end Inbox

/-! ### Waiting for a reply -/

/-- A response that is returned is what the last frame means, behind frames to pass over. -/
def Concludes (id : UInt64) (taken : List Bytes) (result : Result Response) : Prop :=
  ∀ response, result = .ok response → ∃ before text, taken = before ++ [text]
    ∧ (∀ passed ∈ before, judge id passed = none) ∧ judge id text = some (.ok response)

theorem Concludes.error {id : UInt64} {taken : List Bytes} (e : Error) :
    Concludes id taken (.error e) := by
  intro response h
  cases h

theorem Concludes.cons {id : UInt64} {taken : List Bytes} {result : Result Response} {text : Bytes}
    (hpassed : judge id text = none) (h : Concludes id taken result) :
    Concludes id (text :: taken) result := by
  intro response hresult
  obtain ⟨before, last, rfl, hbefore, hlast⟩ := h response hresult
  refine ⟨text :: before, last, rfl, fun passed hmem => ?_, hlast⟩
  rcases List.mem_cons.mp hmem with rfl | hrest
  · exact hpassed
  · exact hbefore passed hrest

section Waiting

variable {env : ClientEnv} {connection : Nat} {id : UInt64} {stream : Bytes} {payloads : List Bytes}

/-- What a wait leaves: it took the next messages, and nothing else of the client changed. -/
structure Waited (env : ClientEnv) (connection : Nat) (id : UInt64) (stream : Bytes)
    (payloads before : List Bytes) (client : Client)
    (outcome : List Bytes × Result Response × Client) : Prop where
  client : ∃ reader reads, outcome.2.2 = { client with reader, reads }
  unread : Unread stream payloads (before ++ outcome.1) outcome.2.2.reader
    (arrived (env.readSome connection) outcome.2.2.reads)
  concludes : Concludes id outcome.1 outcome.2.1

/-! One round of the wait, by what the reader and the connection give. -/

section Rounds

variable {rounds : Nat} {client : Client} {reader : FrameReader} {text : Bytes}

theorem awaitReply_broken {e : Error} (hnext : client.reader.next = (.error e, reader)) :
    awaitReply env connection id (rounds + 1) client
      = ([], .error e, { client with reader }) := by
  rw [awaitReply, hnext]

theorem awaitReply_final {result : Result Response}
    (hnext : client.reader.next = (.ok (some text), reader)) (hjudge : judge id text = some result) :
    awaitReply env connection id (rounds + 1) client
      = ([text], result, { client with reader }) := by
  rw [awaitReply, hnext]
  simp only [hjudge]

theorem awaitReply_passed (hnext : client.reader.next = (.ok (some text), reader))
    (hjudge : judge id text = none) :
    awaitReply env connection id (rounds + 1) client
      = (text :: (awaitReply env connection id rounds { client with reader }).1,
          (awaitReply env connection id rounds { client with reader }).2) := by
  rw [awaitReply, hnext]
  simp only [hjudge]

theorem awaitReply_error {e : Error} (hnext : client.reader.next = (.ok none, reader))
    (hread : env.readSome connection client.reads = .error e) :
    awaitReply env connection id (rounds + 1) client
      = if e.code = .timeout then
          awaitReply env connection id rounds { client with reader, reads := client.reads + 1 }
        else ([], .error e, { client with reader, reads := client.reads + 1 }) := by
  rw [awaitReply, hnext]
  simp only [hread]

theorem awaitReply_closed (hnext : client.reader.next = (.ok none, reader))
    (hread : env.readSome connection client.reads = .ok []) :
    awaitReply env connection id (rounds + 1) client
      = ([], .error (ioError "the daemon closed the connection"),
          { client with reader, reads := client.reads + 1 }) := by
  rw [awaitReply, hnext]
  simp only [hread]

theorem awaitReply_fed {byte : UInt8} {bytes : Bytes}
    (hnext : client.reader.next = (.ok none, reader))
    (hread : env.readSome connection client.reads = .ok (byte :: bytes)) :
    awaitReply env connection id (rounds + 1) client
      = awaitReply env connection id rounds
          { client with reader := reader.feed (byte :: bytes), reads := client.reads + 1 } := by
  rw [awaitReply, hnext]
  simp only [hread]

end Rounds

theorem arrived_succ {reads : Nat → Result Bytes} {n : Nat} {chunk : Bytes}
    (h : reads n = .ok chunk) : arrived reads (n + 1) = arrived reads n ++ chunk := by
  rw [arrived, h]
  rfl

theorem arrived_error {reads : Nat → Result Bytes} {n : Nat} {e : Error} (h : reads n = .error e) :
    arrived reads (n + 1) = arrived reads n := by
  rw [arrived, h]
  exact List.append_nil _

theorem waited_stop {before : List Bytes} {client : Client} {reader : FrameReader} {reads : Nat}
    (hunread : Unread stream payloads before reader (arrived (env.readSome connection) reads))
    (e : Error) :
    Waited env connection id stream payloads before client
      ([], .error e, { client with reader, reads }) := by
  refine ⟨⟨reader, reads, rfl⟩, ?_, Concludes.error e⟩
  rwa [List.append_nil]

theorem Waited.later {before : List Bytes} {client : Client} {reader : FrameReader} {reads : Nat}
    {outcome : List Bytes × Result Response × Client}
    (h : Waited env connection id stream payloads before { client with reader, reads } outcome) :
    Waited env connection id stream payloads before client outcome := by
  obtain ⟨reader', reads', hclient⟩ := h.client
  exact ⟨⟨reader', reads', hclient⟩, h.unread, h.concludes⟩

theorem waited_awaitReply
    (hstream : ∀ n, arrived (env.readSome connection) n <+: stream) (rounds : Nat)
    {before : List Bytes} {client : Client}
    (h : Unread stream payloads before client.reader
      (arrived (env.readSome connection) client.reads)) :
    Waited env connection id stream payloads before client
      (awaitReply env connection id rounds client) := by
  induction rounds generalizing before client with
  | zero => exact waited_stop h _
  | succ rounds ih =>
      rcases hnext : client.reader.next with ⟨answer, reader⟩
      cases answer with
      | error e =>
          obtain rfl := next_other hnext fun text htext => by cases htext
          rw [awaitReply_broken hnext]
          exact waited_stop h e
      | ok found =>
          cases found with
          | some text =>
              have htaken := h.take hnext
              cases hjudge : judge id text with
              | some result =>
                  rw [awaitReply_final hnext hjudge]
                  refine ⟨⟨reader, client.reads, rfl⟩, htaken, ?_⟩
                  rintro response rfl
                  exact ⟨[], text, rfl, fun _ hmem => absurd hmem List.not_mem_nil, hjudge⟩
              | none =>
                  rw [awaitReply_passed hnext hjudge]
                  have hrest : Waited env connection id stream payloads (before ++ [text])
                      { client with reader } _ := ih htaken
                  obtain ⟨reader', reads', hclient⟩ := hrest.client
                  refine ⟨⟨reader', reads', hclient⟩, ?_, hrest.concludes.cons hjudge⟩
                  have hunread := hrest.unread
                  rwa [List.append_assoc] at hunread
          | none =>
              obtain rfl := next_other hnext fun text htext => by cases htext
              cases hread : env.readSome connection client.reads with
              | error e =>
                  have hsame : Unread stream payloads before client.reader
                      (arrived (env.readSome connection) (client.reads + 1)) := by
                    rwa [arrived_error hread]
                  rw [awaitReply_error hnext hread]
                  split
                  · exact (ih hsame).later
                  · exact waited_stop hsame e
              | ok chunk =>
                  have harrives := arrived_succ hread
                  have hbegins := hstream (client.reads + 1)
                  rw [harrives] at hbegins
                  have hfed := h.feed hbegins
                  rw [← harrives] at hfed
                  cases chunk with
                  | nil =>
                      rw [awaitReply_closed hnext hread]
                      refine waited_stop ?_ _
                      rwa [harrives, List.append_nil]
                  | cons byte bytes =>
                      rw [awaitReply_fed hnext hread]
                      exact (ih hfed).later

end Waiting

/-! ### Sequences of calls -/

/-- The id that is handed out behind `n` others. -/
def requestId (n : Nat) : UInt64 := UInt64.ofNat (n + 1)

/-- Everything that the round trips on a connection took from the reader. -/
def takenOn (connection : Nat) (log : List RoundTrip) : List Bytes :=
  ((log.filter (·.connection = connection)).map RoundTrip.taken).flatten

theorem takenOn_append (connection : Nat) (log : List RoundTrip) (trip : RoundTrip) :
    takenOn connection (log ++ [trip])
      = takenOn connection log ++ if trip.connection = connection then trip.taken else [] := by
  by_cases h : trip.connection = connection <;> simp [takenOn, h]

theorem takenOn_new {connection : Nat} {log : List RoundTrip}
    (h : ∀ trip ∈ log, trip.connection < connection) : takenOn connection log = [] := by
  have hnone : log.filter (·.connection = connection) = [] := by
    apply List.filter_eq_nil_iff.mpr
    intro trip hmem heq
    exact absurd (of_decide_eq_true heq) (Nat.ne_of_lt (h trip hmem))
  rw [takenOn, hnone]
  rfl

section Sequences

variable {env : ClientEnv} {payloads : Nat → List Bytes} {client : Client}

/-- On every connection the frames of its payloads arrive, up to some point. -/
def Streams (env : ClientEnv) (payloads : Nat → List Bytes) : Prop :=
  ∀ connection, ∃ frames, Encoded (payloads connection) frames
    ∧ ∀ n, arrived (env.readSome connection) n <+: frames.flatten

/-- The round trip took its id in its turn, and if it returned a response it took that last. -/
structure RoundTrip.Sound (trip : RoundTrip) (attempts asked : Nat) : Prop where
  connection : trip.connection < attempts
  number : trip.number < asked
  id : trip.id = requestId trip.number
  concludes : Concludes trip.id trip.taken trip.result

theorem RoundTrip.Sound.mono {trip : RoundTrip} {attempts attempts' asked asked' : Nat}
    (h : trip.Sound attempts asked) (hattempts : attempts ≤ attempts') (hasked : asked ≤ asked') :
    trip.Sound attempts' asked' :=
  ⟨Nat.lt_of_lt_of_le h.connection hattempts, Nat.lt_of_lt_of_le h.number hasked, h.id, h.concludes⟩

structure Consistent (env : ClientEnv) (payloads : Nat → List Bytes) (client : Client) : Prop where
  nextId : client.nextRequestId = requestId client.asked
  limit : client.reader.maxBytes = kMaxFrameBytes
  trips : ∀ trip ∈ client.log, trip.Sound client.attempts client.asked
  order : ∀ connection, takenOn connection client.log <+: payloads connection
  inbox : ∀ connection, client.connection = some connection → connection < client.attempts
    ∧ ∃ stream, (∀ n, arrived (env.readSome connection) n <+: stream)
      ∧ Unread stream (payloads connection) (takenOn connection client.log) client.reader
          (arrived (env.readSome connection) client.reads)

theorem consistent_start (env : ClientEnv) (payloads : Nat → List Bytes) :
    Consistent env payloads {} :=
  ⟨rfl, rfl, fun _ h => absurd h List.not_mem_nil, fun _ => List.nil_prefix, fun _ h => by cases h⟩

theorem requestId_succ (n : Nat) : requestId n + 1 = requestId (n + 1) := by
  simp [requestId, UInt64.ofNat_add]

theorem Consistent.takeId (h : Consistent env payloads client) :
    Consistent env payloads client.takeId.2 where
  nextId := by
    change client.nextRequestId + 1 = _
    rw [h.nextId, requestId_succ]
    rfl
  limit := h.limit
  trips trip hmem := (h.trips trip hmem).mono (Nat.le_refl _) (Nat.le_succ _)
  order := h.order
  inbox := h.inbox

theorem Consistent.disconnected (h : Consistent env payloads client) :
    Consistent env payloads { client with connection := none } :=
  ⟨h.nextId, h.limit, h.trips, h.order, fun _ hnone => by cases hnone⟩

/-- A new connection has nothing in the reader. -/
theorem Consistent.opened (h : Consistent env payloads client) (hstreams : Streams env payloads) :
    Consistent env payloads
      { client with
        connection := some client.attempts, attempts := client.attempts + 1, reads := 0
        reader := { maxBytes := client.reader.maxBytes } } where
  nextId := h.nextId
  limit := h.limit
  trips trip hmem := (h.trips trip hmem).mono (Nat.le_succ _) (Nat.le_refl _)
  order := h.order
  inbox := by
    rintro _ ⟨⟩
    obtain ⟨frames, hframes, hbegins⟩ := hstreams client.attempts
    refine ⟨Nat.lt_succ_self _, frames.flatten, hbegins, ?_⟩
    have hnew : takenOn client.attempts client.log = [] :=
      takenOn_new fun trip hmem => (h.trips trip hmem).connection
    rw [hnew, h.limit]
    exact unread_start hframes

theorem writeFrame_client (rounds : Nat) (bytes : Bytes) (client : Client) :
    ∃ writes, (writeFrame env rounds bytes client).2 = { client with writes } := by
  induction rounds generalizing bytes client with
  | zero => cases bytes <;> exact ⟨client.writes, rfl⟩
  | succ rounds ih =>
      cases bytes with
      | nil => exact ⟨client.writes, rfl⟩
      | cons byte bytes =>
          unfold writeFrame
          split
          · exact ⟨client.writes + 1, rfl⟩
          · exact ⟨client.writes + 1, rfl⟩
          · obtain ⟨writes, hwrites⟩ := ih _ { client with writes := client.writes + 1 }
            exact ⟨writes, hwrites⟩

/-- A wait is recorded. -/
theorem Consistent.waited (h : Consistent env payloads client) {connection : Nat} {id : UInt64}
    (hconnection : client.connection = some connection) (hid : id = requestId (client.asked - 1))
    (hasked : 0 < client.asked) {outcome : List Bytes × Result Response × Client} {stream : Bytes}
    (hstream : ∀ n, arrived (env.readSome connection) n <+: stream)
    (hwaited : Waited env connection id stream (payloads connection)
      (takenOn connection client.log) client outcome) :
    Consistent env payloads { outcome.2.2 with
      log := outcome.2.2.log ++ [{ number := outcome.2.2.asked - 1, id, connection
                                   taken := outcome.1, result := outcome.2.1 }] } := by
  obtain ⟨taken, result, client'⟩ := outcome
  obtain ⟨⟨reader, reads, rfl⟩, hunread, hconcludes⟩ := hwaited
  obtain ⟨hopen, -⟩ := h.inbox connection hconnection
  have htaken : takenOn connection (client.log
      ++ [{ number := client.asked - 1, id, connection, taken, result }])
        = takenOn connection client.log ++ taken := by
    rw [takenOn_append]
    exact congrArg (takenOn connection client.log ++ ·) (if_pos rfl)
  refine ⟨h.nextId, hunread.limit, ?_, ?_, ?_⟩
  · intro trip hmem
    rcases List.mem_append.mp hmem with hold | hnew
    · exact h.trips trip hold
    · cases List.mem_singleton.mp hnew
      exact ⟨hopen, Nat.sub_lt hasked Nat.one_pos, hid, hconcludes⟩
  · intro other
    by_cases hother : connection = other
    · subst hother
      rw [htaken]
      exact hunread.begins
    · rw [takenOn_append, if_neg hother, List.append_nil]
      exact h.order other
  · intro other hcurrent
    cases hconnection.symm.trans hcurrent
    refine ⟨hopen, stream, hstream, ?_⟩
    rw [htaken]
    exact hunread

theorem Consistent.roundTrip (h : Consistent env payloads client) {request : Request}
    (hid : request.id = requestId (client.asked - 1)) (hasked : 0 < client.asked) :
    Consistent env payloads (roundTrip env request client).2 := by
  unfold Ipc.roundTrip
  cases hconnection : client.connection with
  | none => exact h
  | some connection =>
      cases hframe : encodeFrame (request.toJson.dump (-1)) kMaxFrameBytes with
      | error e => exact h
      | ok frame =>
          obtain ⟨writes, hwrites⟩ := @writeFrame_client env frame.length frame client
          rcases hwrite : writeFrame env frame.length frame client with ⟨failure, client'⟩
          rw [hwrite] at hwrites
          obtain rfl : client' = { client with writes } := hwrites
          have hsame : Consistent env payloads { client with writes } :=
            ⟨h.nextId, h.limit, h.trips, h.order, h.inbox⟩
          simp only [hwrite]
          cases failure with
          | some e => exact hsame
          | none =>
              obtain ⟨-, stream, hstream, hunread⟩ := h.inbox connection hconnection
              exact hsame.waited hconnection hid hasked hstream
                (waited_awaitReply hstream _ hunread)

theorem connected_client (client : Client) :
    ∃ questions, (client.connected env).2 = { client with questions } := by
  unfold Client.connected
  split
  · exact ⟨client.questions + 1, rfl⟩
  · exact ⟨client.questions, rfl⟩

theorem Consistent.connected (h : Consistent env payloads client) :
    Consistent env payloads (client.connected env).2 := by
  obtain ⟨questions, hclient⟩ := @connected_client env client
  rw [hclient]
  exact ⟨h.nextId, h.limit, h.trips, h.order, h.inbox⟩

theorem Consistent.attempted (h : Consistent env payloads client) :
    Consistent env payloads { client with attempts := client.attempts + 1 } where
  nextId := h.nextId
  limit := h.limit
  trips trip hmem := (h.trips trip hmem).mono (Nat.le_succ _) (Nat.le_refl _)
  order := h.order
  inbox connection hcurrent := by
    obtain ⟨hlt, hinbox⟩ := h.inbox connection hcurrent
    exact ⟨Nat.lt_succ_of_lt hlt, hinbox⟩

/-- A request with a fresh id. -/
theorem Consistent.asks (h : Consistent env payloads client) (method : Method) (params : Value) :
    Consistent env payloads
      (Ipc.roundTrip env { id := client.takeId.1, method, params } client.takeId.2).2 :=
  h.takeId.roundTrip h.nextId (Nat.succ_pos _)

theorem Consistent.connect (h : Consistent env payloads client) (hstreams : Streams env payloads) :
    Consistent env payloads (client.connect env).2 := by
  unfold Client.connect
  have hconnected := h.connected
  rcases hask : client.connected env with ⟨answer, client₁⟩
  rw [hask] at hconnected
  cases answer with
  | true => exact hconnected
  | false =>
      cases hattempt : env.connect client₁.attempts with
      | some e =>
          simp only [hattempt]
          exact hconnected.attempted
      | none =>
          simp only [hattempt]
          have hround := (hconnected.opened hstreams).asks .hello (helloParams env)
          split
          · rename_i e client₂ heq
            rw [heq] at hround
            exact hround.disconnected
          · rename_i response client₂ heq
            rw [heq] at hround
            split
            · exact ⟨hround.nextId, hround.limit, hround.trips, hround.order, hround.inbox⟩
            · exact hround.disconnected

theorem Consistent.request (h : Consistent env payloads client) (method : Method) (params : Value) :
    Consistent env payloads (client.request env method params).2 := by
  have hround := h.asks method params
  unfold Client.request
  split
  · rename_i e client₁ heq
    rw [heq] at hround
    exact hround
  · rename_i response client₁ heq
    rw [heq] at hround
    split
    · exact hround
    · exact hround

theorem Consistent.call (h : Consistent env payloads client) (hstreams : Streams env payloads)
    (method : Method) (params : Value) :
    Consistent env payloads (client.call env method params).2 := by
  have hconnected := h.connected
  unfold Client.call
  split
  · rename_i client₁ heq
    rw [heq] at hconnected
    exact hconnected.request method params
  · rename_i client₁ heq
    rw [heq] at hconnected
    have hconnect := hconnected.connect hstreams
    split
    · rename_i e client₂ heq'
      rw [heq'] at hconnect
      exact hconnect
    · rename_i client₂ heq'
      rw [heq'] at hconnect
      exact hconnect.request method params

theorem Consistent.subscribe (h : Consistent env payloads client) :
    Consistent env payloads (client.subscribe env).2 := by
  unfold Client.subscribe
  split
  · exact h.attempted
  · exact h.attempted.takeId

theorem Consistent.disconnect (h : Consistent env payloads client) :
    Consistent env payloads client.disconnect :=
  ⟨h.nextId, h.limit, h.trips, h.order, fun _ hnone => by cases hnone⟩

theorem Consistent.step (h : Consistent env payloads client) (hstreams : Streams env payloads)
    (step : ClientStep) : Consistent env payloads (step.run env client) := by
  cases step with
  | connect => exact h.connect hstreams
  | call method params => exact h.call hstreams method params
  | subscribe => exact h.subscribe
  | disconnect => exact h.disconnect

theorem consistent_runClient (hstreams : Streams env payloads) (steps : List ClientStep) :
    Consistent env payloads (runClient env steps) := by
  have hrun : ∀ (steps : List ClientStep) (client : Client), Consistent env payloads client →
      Consistent env payloads (steps.foldl (ClientStep.run env) client) := by
    intro steps
    induction steps with
    | nil => exact fun _ h => h
    | cons step steps ih => exact fun client h => ih _ (h.step hstreams step)
  exact hrun steps {} (consistent_start env payloads)

end Sequences

/-! ### Own replies -/

/-- A message of the daemon, with the number of the request that it answers. -/
structure Sending where
  payload : Bytes
  answers : Option Nat

/-- The response in a message that is not an event. -/
def responseIn (text : Bytes) : Option Response :=
  match Json.parse text with
  | .error _ => none
  | .ok document =>
      if (document.find (str "event")).isSome then none else (Response.fromJson document).toOption

/-- A response to a request carries its id, and no other response carries the id of a request. -/
def Sending.Honest (asked : Nat) (sending : Sending) : Prop :=
  ∀ response, responseIn sending.payload = some response →
    (∃ number < asked, sending.answers = some number ∧ response.id = requestId number)
    ∨ ∀ number < asked, response.id ≠ requestId number

/-- The message that a round trip ends with is the reply to its request. -/
def RoundTrip.Paired (daemon : List Sending) (trip : RoundTrip) : Prop :=
  ∀ response, trip.result = .ok response → response.id = trip.id
    ∧ ∃ before, ∃ reply ∈ daemon, trip.taken = before ++ [reply.payload]
      ∧ responseIn reply.payload = some response ∧ reply.answers = some trip.number
      ∧ ∀ passed ∈ before, ∀ other, responseIn passed = some other → other.id ≠ trip.id

def payloadsOf (daemon : Nat → List Sending) (connection : Nat) : List Bytes :=
  (daemon connection).map Sending.payload

theorem responseIn_of_judge {id : UInt64} {text : Bytes} {response : Response}
    (h : judge id text = some (.ok response)) :
    responseIn text = some response ∧ response.id = id := by
  unfold judge at h
  unfold responseIn
  cases hparse : Json.parse text with
  | error e =>
      rw [hparse] at h
      cases h
  | ok document =>
      simp only [hparse] at h ⊢
      by_cases hevent : (document.find (str "event")).isSome
      · rw [if_pos hevent] at h
        cases h
      · rw [if_neg hevent] at h ⊢
        cases hresponse : Response.fromJson document with
        | error e =>
            rw [hresponse] at h
            cases h
        | ok found =>
            simp only [hresponse] at h
            by_cases hid : found.id = id
            · rw [if_pos hid] at h
              cases h
              exact ⟨rfl, hid⟩
            · rw [if_neg hid] at h
              cases h

theorem other_of_judge {id : UInt64} {text : Bytes} {response : Response}
    (h : judge id text = none) (hresponse : responseIn text = some response) :
    response.id ≠ id := by
  rintro rfl
  unfold responseIn at hresponse
  unfold judge at h
  cases hparse : Json.parse text with
  | error e =>
      rw [hparse] at h
      cases h
  | ok document =>
      simp only [hparse] at h hresponse
      by_cases hevent : (document.find (str "event")).isSome
      · rw [if_pos hevent] at hresponse
        cases hresponse
      · rw [if_neg hevent] at h hresponse
        cases hfound : Response.fromJson document with
        | error e =>
            rw [hfound] at h
            cases h
        | ok found =>
            rw [hfound] at hresponse
            cases hresponse
            simp [hfound] at h

theorem requestId_inj {m n : Nat} (hm : m < 2 ^ 64) (hn : n < 2 ^ 64)
    (h : requestId m = requestId n) : m = n := by
  have hnat := congrArg UInt64.toNat h
  simp only [requestId, UInt64.toNat_ofNat'] at hnat
  omega

theorem mem_takenOn {log : List RoundTrip} {trip : RoundTrip} (h : trip ∈ log) {text : Bytes}
    (htext : text ∈ trip.taken) : text ∈ takenOn trip.connection log := by
  refine List.mem_flatten.mpr ⟨trip.taken, List.mem_map.mpr ⟨trip, ?_, rfl⟩, htext⟩
  exact List.mem_filter.mpr ⟨h, decide_eq_true rfl⟩

theorem RoundTrip.Sound.paired {trip : RoundTrip} {attempts asked : Nat}
    (h : trip.Sound attempts asked) (hbound : asked ≤ 2 ^ 64) {daemon : List Sending}
    (hhonest : ∀ sending ∈ daemon, sending.Honest asked)
    (htaken : ∀ text ∈ trip.taken, text ∈ daemon.map Sending.payload) : trip.Paired daemon := by
  intro response hresult
  obtain ⟨before, text, hbefore, hpassed, hlast⟩ := h.concludes response hresult
  obtain ⟨hresponse, hid⟩ := responseIn_of_judge hlast
  have hmem : text ∈ trip.taken := by
    rw [hbefore]
    exact List.mem_append_right _ (List.mem_singleton_self _)
  obtain ⟨reply, hreply, rfl⟩ := List.mem_map.mp (htaken text hmem)
  refine ⟨hid, before, reply, hreply, hbefore, hresponse, ?_, fun passed hmem other hother =>
    other_of_judge (hpassed passed hmem) hother⟩
  have hown : response.id = requestId trip.number := hid.trans h.id
  rcases hhonest reply hreply response hresponse with ⟨number, hlt, hanswers, hnumber⟩ | hforeign
  · have hsame : number = trip.number :=
      requestId_inj (Nat.lt_of_lt_of_le hlt hbound) (Nat.lt_of_lt_of_le h.number hbound)
        (hnumber.symm.trans hown)
    rwa [← hsame]
  · exact absurd hown (hforeign trip.number h.number)

/-- Up to as many requests as there are ids, every reply goes to its own request, and the calls on
a connection take what the daemon sends there one after another. -/
theorem paired_runClient {env : ClientEnv} {daemon : Nat → List Sending}
    (hstreams : Streams env (payloadsOf daemon)) (steps : List ClientStep)
    (hhonest : ∀ connection, ∀ sending ∈ daemon connection,
      sending.Honest (runClient env steps).asked)
    (hbound : (runClient env steps).asked ≤ 2 ^ 64) :
    (∀ trip ∈ (runClient env steps).log, trip.Paired (daemon trip.connection))
    ∧ ∀ connection, takenOn connection (runClient env steps).log <+: payloadsOf daemon connection := by
  have h := consistent_runClient hstreams steps
  refine ⟨fun trip hmem => ?_, h.order⟩
  refine (h.trips trip hmem).paired hbound (hhonest trip.connection) fun text htext => ?_
  exact (h.order trip.connection).subset (mem_takenOn hmem htext)

/-! A daemon whose messages on the first connection arrive one for each read. -/

section Messages

variable (messages : List Sending) (rounds : Nat → Nat)

def onlyFirst (connection : Nat) : List Sending := if connection = 0 then messages else []

def frameOf (sending : Sending) : Bytes :=
  (encodeFrame sending.payload kMaxFrameBytes).toOption.getD []

/-- Writes take one byte at a time. -/
def messageByMessage : ClientEnv where
  version := str "1.0.0"
  connect _ := none
  isOpen _ := true
  write _ := .ok 1
  readSome connection n := .ok (((onlyFirst messages connection).map frameOf)[n]?.getD [])
  rounds
  subscription _ := .ok ()

variable {messages rounds}

theorem arrived_chunks (chunks : List Bytes) (n : Nat) :
    arrived (fun n => .ok (chunks[n]?.getD [])) n = (chunks.take n).flatten := by
  induction n with
  | zero => rfl
  | succ n ih =>
      change arrived _ n ++ chunks[n]?.getD [] = _
      rw [ih, List.take_add_one, List.flatten_append]
      cases chunks[n]? with
      | none => rfl
      | some chunk => exact congrArg (_ ++ ·) (List.append_nil chunk).symm

theorem streams_messageByMessage
    (h : ∀ sending ∈ messages, sending.payload.length ≤ kMaxFrameBytes.toNat) :
    Streams (messageByMessage messages rounds) (payloadsOf (onlyFirst messages)) := by
  intro connection
  have hencodes : ∀ sending ∈ onlyFirst messages connection,
      encodeFrame sending.payload kMaxFrameBytes = .ok (frameOf sending) := by
    intro sending hmem
    have hall : sending ∈ messages := by
      unfold onlyFirst at hmem
      split at hmem
      · exact hmem
      · cases hmem
    rw [frameOf, encodeFrame, if_neg (Nat.not_lt.mpr (h sending hall))]
    rfl
  refine ⟨(onlyFirst messages connection).map frameOf, ?_, fun n => ?_⟩
  · unfold Encoded payloadsOf
    rw [List.forall₂_map_left_iff, List.forall₂_map_right_iff]
    exact List.forall₂_same.mpr hencodes
  · have harrived := arrived_chunks ((onlyFirst messages connection).map frameOf) n
    refine ⟨(((onlyFirst messages connection).map frameOf).drop n).flatten, ?_⟩
    change arrived ((messageByMessage messages rounds).readSome connection) n = _ at harrived
    rw [harrived, ← List.flatten_append, List.take_append_drop]

end Messages

/-- The reply to a request, without a result. -/
def replyNumbered (number : Nat) : Sending where
  payload := (Response.success (requestId number) .null).toJson.dump (-1)
  answers := some number

def progressed : Sending where
  payload := (Event.toJson { type := .restoreProgress }).dump (-1)
  answers := none

theorem honest_replyNumbered {number asked : Nat} (hlt : number < asked)
    (h : responseIn (replyNumbered number).payload = some (Response.success (requestId number) .null)) :
    (replyNumbered number).Honest asked := by
  intro response hresponse
  cases h.symm.trans hresponse
  exact .inl ⟨number, hlt, rfl, rfl⟩

/-- The reply to the first call arrives during the second one. -/
def lateReply : ClientEnv :=
  messageByMessage [replyNumbered 0, replyNumbered 1, progressed, replyNumbered 2] fun asked =>
    if asked = 2 then 0 else 9

set_option maxRecDepth 10000 in
theorem paired_runClient_lateReply :
    let final := runClient lateReply [.connect, .call .ping .null, .call .ping .null]
    final.log.map (·.taken.length) = [1, 0, 3]
    ∧ (∀ trip ∈ final.log,
        trip.Paired (onlyFirst [replyNumbered 0, replyNumbered 1, progressed, replyNumbered 2] trip.connection))
    ∧ ∀ connection, takenOn connection final.log
        <+: payloadsOf (onlyFirst [replyNumbered 0, replyNumbered 1, progressed, replyNumbered 2]) connection := by
  have hasked : (runClient lateReply [.connect, .call .ping .null, .call .ping .null]).asked = 3 := by
    decide
  have hstreams : Streams lateReply
      (payloadsOf (onlyFirst [replyNumbered 0, replyNumbered 1, progressed, replyNumbered 2])) :=
    streams_messageByMessage (by decide)
  refine ⟨by decide, paired_runClient hstreams _ ?_ ?_⟩
  · rw [hasked]
    intro connection sending hmem
    unfold onlyFirst at hmem
    split at hmem
    · simp only [List.mem_cons, List.not_mem_nil, or_false] at hmem
      rcases hmem with rfl | rfl | rfl | rfl
      · exact honest_replyNumbered (by decide) rfl
      · exact honest_replyNumbered (by decide) rfl
      · intro response hresponse
        have hnone : responseIn progressed.payload = none := rfl
        rw [hnone] at hresponse
        cases hresponse
      · exact honest_replyNumbered (by decide) rfl
    · cases hmem
  · rw [hasked]
    decide

/-! ### As many calls as there are ids -/

/-- Every call between the second and the last one finds its deadline passed. -/
def overflowing : ClientEnv :=
  messageByMessage [replyNumbered 0, replyNumbered 1] fun asked =>
    if asked ≤ 1 ∨ 2 ^ 64 + 1 < asked then 9 else 0

theorem writeFrame_overflowing (rounds : Nat) {bytes : Bytes} (client : Client)
    (h : bytes.length ≤ rounds) :
    ∃ writes, writeFrame overflowing rounds bytes client = (none, { client with writes }) := by
  induction rounds generalizing bytes client with
  | zero =>
      cases List.eq_nil_of_length_eq_zero (Nat.le_zero.mp h)
      exact ⟨client.writes, rfl⟩
  | succ rounds ih =>
      cases bytes with
      | nil => exact ⟨client.writes, rfl⟩
      | cons byte bytes => exact ih { client with writes := client.writes + 1 } (Nat.le_of_succ_le_succ h)

/-- The reply to the first call is still to come. -/
structure Outstanding (n : Nat) (client : Client) : Prop where
  connection : client.connection = some 0
  reader : client.reader = { maxBytes := kMaxFrameBytes }
  reads : client.reads = 1
  asked : client.asked = n
  nextId : client.nextRequestId = requestId n

theorem outstanding_connect : Outstanding 1 (runClient overflowing [.connect]) :=
  ⟨rfl, rfl, rfl, rfl, rfl⟩

section Overflow

variable {n : Nat} {client : Client}

theorem request_client {env : ClientEnv} (method : Method) (params : Value) :
    (client.request env method params).2
      = (roundTrip env { id := client.takeId.1, method, params } client.takeId.2).2 := by
  unfold Client.request
  split
  · rename_i heq
    rw [heq]
  · rename_i heq
    rw [heq]
    split <;> rfl

theorem call_overflowing (h : client.connection = some 0) : ∃ questions,
    (client.call overflowing .ping .null).2
      = (roundTrip overflowing { id := client.nextRequestId, method := .ping }
          (Client.takeId { client with questions }).2).2 := by
  have hconnected : client.connected overflowing
      = (true, { client with questions := client.questions + 1 }) := by
    rw [Client.connected, h]
    rfl
  refine ⟨client.questions + 1, ?_⟩
  rw [Client.call, hconnected]
  exact request_client _ _

theorem Outstanding.takeId (h : Outstanding n client) (questions : Nat) :
    Outstanding (n + 1) (Client.takeId { client with questions }).2 where
  connection := h.connection
  reader := h.reader
  reads := h.reads
  asked := congrArg Nat.succ h.asked
  nextId := by
    change client.nextRequestId + 1 = _
    rw [h.nextId, requestId_succ]

theorem Outstanding.roundTrip (h : Outstanding n client) (hlow : 1 < n) (hhigh : n ≤ 2 ^ 64 + 1)
    (request : Request) : Outstanding n (roundTrip overflowing request client).2 := by
  have hrounds : overflowing.rounds client.asked = 0 := by
    rw [h.asked]
    exact if_neg (by omega)
  unfold Ipc.roundTrip
  simp only [h.connection]
  cases encodeFrame (request.toJson.dump (-1)) kMaxFrameBytes with
  | error e => exact h
  | ok frame =>
      obtain ⟨writes, hwrites⟩ := writeFrame_overflowing frame.length client (Nat.le_refl _)
      simp only [hwrites, hrounds]
      exact ⟨h.connection, h.reader, h.reads, h.asked, h.nextId⟩

theorem Outstanding.late (h : Outstanding n client) (hlow : 1 ≤ n) (hhigh : n ≤ 2 ^ 64) :
    Outstanding (n + 1) (client.call overflowing .ping .null).2 := by
  obtain ⟨questions, hcall⟩ := call_overflowing h.connection
  rw [hcall]
  exact (h.takeId questions).roundTrip (Nat.lt_succ_of_le hlow) (Nat.succ_le_succ hhigh) _

theorem Outstanding.calls (h : Outstanding 1 client) (hle : n ≤ 2 ^ 64) :
    Outstanding (n + 1)
      ((List.replicate n (.call .ping .null)).foldl (ClientStep.run overflowing) client) := by
  induction n with
  | zero => exact h
  | succ n ih =>
      rw [List.replicate_succ', List.foldl_append]
      exact (ih (Nat.le_of_succ_le hle)).late (Nat.le_add_left 1 n) hle

theorem awaitReply_overflowing (hreader : client.reader = { maxBytes := kMaxFrameBytes })
    (hreads : client.reads = 1) (rounds : Nat) :
    ∃ reader, awaitReply overflowing 0 2 (rounds + 2) client
      = ([(replyNumbered 1).payload], .ok (.success 2 .null), { client with reader, reads := 2 }) := by
  cases client
  cases hreader
  cases hreads
  exact ⟨_, rfl⟩

/-- The id of the last call is that of the first one, whose reply it takes. -/
theorem Outstanding.overtakes (h : Outstanding (2 ^ 64 + 2) client) {id : UInt64} (hid : id = 2) :
    let final := (Ipc.roundTrip overflowing { id, method := .ping } client).2
    final.asked = 2 ^ 64 + 2
      ∧ ∃ trip ∈ final.log, trip.number = 2 ^ 64 + 1 ∧ trip.result = .ok (.success 2 .null) := by
  intro final
  subst hid
  obtain ⟨frame, hframe⟩ : ∃ frame,
      encodeFrame (({ id := 2, method := .ping } : Request).toJson.dump (-1)) kMaxFrameBytes
        = .ok frame := ⟨_, rfl⟩
  obtain ⟨writes, hwrites⟩ := writeFrame_overflowing frame.length client (Nat.le_refl _)
  have hrounds : overflowing.rounds client.asked = 7 + 2 := by
    rw [h.asked]
    change (if 2 ^ 64 + 2 ≤ 1 ∨ 2 ^ 64 + 1 < 2 ^ 64 + 2 then 9 else 0) = 9
    exact if_pos (Or.inr (Nat.lt_succ_self _))
  obtain ⟨reader, hwait⟩ :=
    @awaitReply_overflowing { client with writes } h.reader h.reads 7
  unfold final Ipc.roundTrip
  rw [h.connection]
  simp only [hframe, hwrites, hrounds, hwait]
  refine ⟨h.asked, _, List.mem_append_right _ (List.mem_singleton_self _), ?_, rfl⟩
  exact congrArg (· - 1) h.asked

theorem Outstanding.last (h : Outstanding (2 ^ 64 + 1) client) :
    let final := ClientStep.run overflowing client (.call .ping .null)
    final.asked = 2 ^ 64 + 2
      ∧ ∃ trip ∈ final.log, trip.number = 2 ^ 64 + 1 ∧ trip.result = .ok (.success 2 .null) := by
  intro final
  obtain ⟨questions, hcall⟩ := call_overflowing h.connection
  unfold final
  rw [ClientStep.run, hcall]
  exact (h.takeId questions).overtakes h.nextId

theorem overflows (hn : n = 2 ^ 64) :
    let final := runClient overflowing
      (.connect :: List.replicate n (.call .ping .null) ++ [.call .ping .null])
    final.asked = 2 ^ 64 + 2
      ∧ ∃ trip ∈ final.log, trip.number = 2 ^ 64 + 1 ∧ trip.result = .ok (.success 2 .null) := by
  intro final
  have hcalls := outstanding_connect.calls (Nat.le_of_eq hn)
  have hrun : final = ClientStep.run overflowing ((List.replicate n (.call .ping .null)).foldl
      (ClientStep.run overflowing) (runClient overflowing [.connect])) (.call .ping .null) :=
    List.foldl_append
  rw [hn] at hcalls
  rw [hrun, hn]
  exact hcalls.last

end Overflow

/-- With more requests than ids a call takes the late reply to another one. -/
theorem not_paired_overflowing :
    ¬ ∀ (env : ClientEnv) (daemon : Nat → List Sending) (steps : List ClientStep),
      Streams env (payloadsOf daemon) →
      (∀ connection, ∀ sending ∈ daemon connection, sending.Honest (runClient env steps).asked) →
      (∀ connection, ((daemon connection).filterMap Sending.answers).Nodup) →
      (∀ connection connection' number, number ∈ (daemon connection).filterMap Sending.answers →
        number ∈ (daemon connection').filterMap Sending.answers → connection = connection') →
      ∀ trip ∈ (runClient env steps).log, trip.Paired (daemon trip.connection) := by
  intro h
  have hstreams : Streams overflowing (payloadsOf (onlyFirst [replyNumbered 0, replyNumbered 1])) :=
    streams_messageByMessage (by decide)
  obtain ⟨n, hn⟩ : ∃ n, n = 2 ^ 64 := ⟨_, rfl⟩
  obtain ⟨hasked, trip, hmem, hnumber, hresult⟩ := overflows hn
  have hfirst : ∀ connection sending, sending ∈ onlyFirst [replyNumbered 0, replyNumbered 1] connection →
      connection = 0 ∧ (sending = replyNumbered 0 ∨ sending = replyNumbered 1) := by
    intro connection sending hsending
    unfold onlyFirst at hsending
    split at hsending
    · rename_i hzero
      exact ⟨hzero, by simpa using hsending⟩
    · cases hsending
  have hpaired := h overflowing (onlyFirst [replyNumbered 0, replyNumbered 1]) _ hstreams ?_ ?_ ?_ trip hmem
  · obtain ⟨-, before, reply, hreply, -, -, hanswers, -⟩ := hpaired _ hresult
    rw [hnumber] at hanswers
    rcases (hfirst _ _ hreply).2 with rfl | rfl
    · cases hanswers
    · exact absurd (Option.some.inj hanswers) (by decide)
  · intro connection sending hsending
    rw [hasked]
    rcases (hfirst _ _ hsending).2 with rfl | rfl
    · exact honest_replyNumbered (by decide) rfl
    · exact honest_replyNumbered (by decide) rfl
  · intro connection
    unfold onlyFirst
    split
    · decide
    · exact List.nodup_nil
  · intro connection connection' number hone hother
    obtain ⟨sending, hsending, -⟩ := List.mem_filterMap.mp hone
    obtain ⟨sending', hsending', -⟩ := List.mem_filterMap.mp hother
    exact (hfirst _ _ hsending).1.trans (hfirst _ _ hsending').1.symm

end ContextSnap.Ipc
