import ContextSnap.Proof.ServedRequests

/-!
# Change events

What the events of the requests that write snapshots tell a subscriber. A change is announced under
the name that its request gave the snapshot, and what retention deletes is not announced.
-/

namespace ContextSnap.Daemon

open Json (Value)
open Sql (Row Tables)
open Storage (Connection Named RetainsAll Table storedIds)
open SnapshotManager (Action MakesUlids Surroundings)

/-! ### What events say -/

/-- The requests that write snapshots or take them away. -/
inductive LibraryRequest where
  | capture | importSnapshot
  | change (request : ChangeRequest)

def LibraryRequest.handler (manager : SnapshotManager) (params : Value) :
    LibraryRequest → Action Reply
  | .capture => captureSnapshot manager params
  | .importSnapshot => Daemon.importSnapshot params
  | .change request => request.handler params

def LibraryRequest.event : LibraryRequest → Ipc.EventType
  | .capture | .importSnapshot => .snapshotCreated
  | .change request => request.event

/-- The snapshot that an event names. -/
def eventId (event : Ipc.Event) : Bytes := stringParam event.payload (str "snapshot_id")

/-- The change that an event announces is the only one. -/
def Explains (event : Ipc.Event) (before after : List Row) : Prop :=
  match event.type with
  | .snapshotCreated => (∀ row ∈ before, row "id" ≠ .text (eventId event))
      ∧ ∃ row, row "id" = .text (eventId event) ∧ after = before ++ [row]
  | .snapshotDeleted => (∃ row ∈ before, row "id" = .text (eventId event))
      ∧ after = before.filter fun row => row "id" ≠ .text (eventId event)
  | .snapshotUpdated => (∃ row ∈ before, row "id" = .text (eventId event))
      ∧ ∃ edit : Row → Row, (∀ row, edit row "id" = row "id")
        ∧ (∀ row, row "id" ≠ .text (eventId event) → edit row = row) ∧ after = before.map edit
  | _ => False

/-- A request publishes one event of its kind, which names the row that changed. -/
def Announces (request : LibraryRequest) (reply : Reply) (before after : List Row) : Prop :=
  ∃ event, reply.published = [event] ∧ event.type = request.event ∧ Explains event before after

/-- The ids that a subscriber knows of behind an event. -/
def follow (ids : Set Bytes) (event : Ipc.Event) : Set Bytes :=
  match event.type with
  | .snapshotCreated => insert (eventId event) ids
  | .snapshotDeleted => ids \ {eventId event}
  | _ => ids

def idsOf (rows : List Row) : Set Bytes := {id | ∃ row ∈ rows, row "id" = .text id}

theorem follow_eq {event : Ipc.Event} {before after : List Row} (h : Explains event before after) :
    follow (idsOf before) event = idsOf after := by
  obtain ⟨type, payload⟩ := event
  set named := eventId { type, payload }
  have hsame : ∀ {id other : Bytes}, Sql.SqlValue.text id = .text other ↔ id = other := by
    simp
  cases type with
  | snapshotCreated =>
      obtain ⟨-, row, hid, rfl⟩ := h
      ext id
      change id = named ∨ id ∈ idsOf before ↔ ∃ other ∈ before ++ [row], other "id" = .text id
      simp only [List.mem_append, List.mem_singleton, or_and_right, exists_or, exists_eq_left, hid,
        hsame]
      rw [or_comm, eq_comm]
      rfl
  | snapshotDeleted =>
      obtain ⟨-, rfl⟩ := h
      ext id
      change (∃ row ∈ before, row "id" = .text id) ∧ id ≠ named
        ↔ ∃ row ∈ before.filter fun row => row "id" ≠ .text named, row "id" = .text id
      constructor
      · rintro ⟨⟨row, hrow, hid⟩, hne⟩
        refine ⟨row, List.mem_filter.mpr ⟨hrow, decide_eq_true ?_⟩, hid⟩
        rwa [hid, ne_eq, hsame]
      · rintro ⟨row, hrow, hid⟩
        obtain ⟨hrow, hkept⟩ := List.mem_filter.mp hrow
        have hother := of_decide_eq_true hkept
        rw [hid, ne_eq, hsame] at hother
        exact ⟨⟨row, hrow, hid⟩, hother⟩
  | snapshotUpdated =>
      obtain ⟨-, edit, hids, -, rfl⟩ := h
      ext id
      change (∃ row ∈ before, row "id" = .text id) ↔ ∃ row ∈ before.map edit, row "id" = .text id
      simp only [List.mem_map, exists_exists_and_eq_and, hids]
  | _ => exact h.elim

/-! ### What a request announces -/

section Requests

variable {σ : Type} {around : Surroundings σ} {manager : SnapshotManager} {params : Value}
  {s s' : σ} {c c' : Connection}

/-- The request says exactly which snapshot it is about, or retention has nothing to delete behind
it. The clock is read once for the capture, and last for its retention. -/
def Aligned (around : Surroundings σ) (manager : SnapshotManager) (params : Value)
    (before after : Connection) : LibraryRequest → Prop
  | .capture => RetainsAll manager.pruneQuery (around.storage.clock (after.readings - 1))
      (around.storage.clock before.readings) (before.tables .snapshots)
  | .importSnapshot => True
  | .change _ => stringParam params (str "snapshot_id") ∈ storedIds before.tables

theorem eventId_snapshotPayload (type : Ipc.EventType) (id : Bytes) :
    eventId { type, payload := snapshotPayload id } = id := by
  rfl

/-- What a stored capture inserted, before its retention. -/
structure Inserted (before : Connection) (snapshot : Snapshot) (after : Connection) : Prop where
  saved : after.saved = none
  valid : isValidUlid snapshot.metadata.id = true
  rows : after.tables .snapshots
    = before.tables .snapshots ++ [Storage.snapshotRow snapshot]
  fresh : ∀ row ∈ before.tables .snapshots, row "id" ≠ .text snapshot.metadata.id

theorem Inserted.explains {snapshot : Snapshot} (h : Inserted c snapshot c') {payload : Value}
    (hpayload : stringParam payload (str "snapshot_id") = snapshot.metadata.id) :
    Explains { type := .snapshotCreated, payload } (c.tables .snapshots)
      (c'.tables .snapshots) := by
  refine ⟨?_, Storage.snapshotRow snapshot, ?_, h.rows⟩
  · intro row hrow
    change row "id" ≠ .text (stringParam payload (str "snapshot_id"))
    rw [hpayload]
    exact h.fresh row hrow
  · change _ = Sql.SqlValue.text (stringParam payload (str "snapshot_id"))
    rw [hpayload]
    exact Storage.snapshotRow_id

theorem Inserted.named {snapshot : Snapshot} (h : Inserted c snapshot c')
    (hnamed : Named (c.tables .snapshots)) : Named (c'.tables .snapshots) := by
  rw [h.rows]
  exact hnamed.append Storage.snapshotRow_id h.valid h.fresh

theorem inserted_of_insert {snapshot : Snapshot} {c₁ : Connection} {id : Bytes}
    (hid : snapshot.metadata.id ≠ []) (hsame : c₁.tables = c.tables)
    (h : (Storage.insert snapshot).run.run (Storage.reentrantHandler around.storage) c₁
      = some (.ok id, c')) : Inserted c snapshot c' := by
  obtain ⟨hsaved, hvalid, hrows, hfresh⟩ := Storage.insert_served hid h
  rw [hsame] at hrows hfresh
  exact ⟨hsaved, hvalid, hrows, hfresh⟩

/-- A capture that succeeds names what it inserted, and prunes behind that. -/
theorem captureSnapshot_inv (hulids : MakesUlids around.storage) {reply : Reply}
    (h : (captureSnapshot manager params).run.run (reentrantHandler around) (s, c)
      = some (.ok reply, (s', c'))) :
    ∃ snapshot payload c₂ pruned, reply.published = [{ type := .snapshotCreated, payload }]
      ∧ stringParam payload (str "snapshot_id") = snapshot.metadata.id
      ∧ Inserted c snapshot c₂
      ∧ snapshot.metadata.createdAt = around.storage.clock c.readings
      ∧ Storage.prunable manager.pruneQuery (Storage.snapshotRow snapshot) = true
      ∧ (Storage.prune manager.pruneQuery).run.run (Storage.reentrantHandler around.storage) c₂
        = some (pruned, c') := by
  obtain ⟨snapshot, ⟨s₁, c₁⟩, hcapture, hdone⟩ := Program.run_except_bind_inv h
  cases hdone
  obtain ⟨_, herror, -⟩ | ⟨_, c₁, c₂, id, pruned, hok, hcaptured, hinsert, hprune⟩ :=
    captureAndStore_cases hcapture
  · cases herror
  cases hok
  have hid : snapshot.metadata.id ≠ [] := by
    obtain ⟨n, hn⟩ := hcaptured.id
    rw [hn]
    exact hulids.ne_nil n
  have hprunable : Storage.prunable manager.pruneQuery (Storage.snapshotRow snapshot) = true := by
    rw [Storage.prunable, Storage.snapshotRow_favorite, hcaptured.favorite]
    rfl
  exact ⟨snapshot, _, c₂, pruned, rfl, rfl, inserted_of_insert hid hcaptured.tables hinsert,
    hcaptured.createdAt, hprunable, hprune⟩

theorem importSnapshot_inv (hulids : MakesUlids around.storage) {reply : Reply}
    (h : (importSnapshot params).run.run (reentrantHandler around) (s, c)
      = some (.ok reply, (s', c'))) :
    ∃ snapshot payload, reply.published = [{ type := .snapshotCreated, payload }]
      ∧ stringParam payload (str "snapshot_id") = snapshot.metadata.id
      ∧ Inserted c snapshot c' := by
  obtain ⟨snapshot, ⟨s₁, c₁⟩, himport, hdone⟩ := Program.run_except_bind_inv h
  cases hdone
  obtain ⟨_, herror, -⟩ | ⟨_, c₁, id, hok, hid, hsame, hinsert⟩ :=
    importSnapshot_cases hulids himport
  · cases herror
  cases hok
  exact ⟨snapshot, _, rfl, rfl, inserted_of_insert hid hsame.1 hinsert⟩

/-- Behind a capture with nothing to prune the library has its row more, and with something to
prune it has not. -/
theorem captured_rows_iff (params : Value) {snapshot : Snapshot} {c₂ : Connection}
    {pruned : Result UInt32}
    (hinserted : Inserted c snapshot c₂)
    (hcreated : snapshot.metadata.createdAt = around.storage.clock c.readings)
    (hprunable : Storage.prunable manager.pruneQuery (Storage.snapshotRow snapshot) = true)
    (hprune : (Storage.prune manager.pruneQuery).run.run
      (Storage.reentrantHandler around.storage) c₂ = some (pruned, c')) :
    (Aligned around manager params c c' .capture → c'.tables = c₂.tables)
      ∧ ((∀ n, around.storage.fault n = none) →
        (c'.tables .snapshots).length = (c.tables .snapshots).length + 1 →
          Aligned around manager params c c' .capture) := by
  have hnow : Storage.Expires manager.pruneQuery (around.storage.clock (c'.readings - 1)) c₂.tables
      ↔ Storage.Expires manager.pruneQuery (around.storage.clock c₂.readings) c₂.tables := by
    by_cases hdays : manager.pruneQuery.retentionDays > 0
    · rw [Storage.prune_readings hdays hprune, Nat.add_sub_cancel]
    · exact iff_of_false (fun h => hdays h.1) fun h => hdays h.1
  have haligned : Aligned around manager params c c' .capture
      ↔ ¬ Storage.Expires manager.pruneQuery (around.storage.clock c₂.readings) c₂.tables
        ∧ ¬ Storage.Exceeds manager.pruneQuery c₂.tables := by
    rw [Aligned, ← hcreated, Storage.retainsAll_iff hinserted.rows hprunable, hnow]
  rw [haligned]
  refine ⟨fun h => Storage.prune_idle hinserted.saved h.1 h.2 hprune, fun hworks hlength => ?_⟩
  have htables := (Storage.prune_works hworks hinserted.saved hprune).2
  have hbefore : (c₂.tables .snapshots).length = (c.tables .snapshots).length + 1 := by
    simp [hinserted.rows]
  rw [htables, ← hbefore] at hlength
  have hexpired := Storage.expired_cases manager.pruneQuery (around.storage.clock c₂.readings)
    c₂.tables
  have htrimmed := Storage.trimmed_cases manager.pruneQuery
    (Storage.expired manager.pruneQuery (around.storage.clock c₂.readings) c₂.tables)
  rcases hexpired with ⟨-, hfewer⟩ | ⟨hkept, hsame⟩
  · rcases htrimmed with ⟨-, hless⟩ | ⟨-, hequal⟩
    · omega
    · rw [hequal] at hlength
      omega
  · rw [hsame] at htrimmed hlength
    rcases htrimmed with ⟨-, hless⟩ | ⟨hfits, -⟩
    · omega
    · exact ⟨hkept, hfits⟩

theorem changeRequest_inv (request : ChangeRequest) {reply : Reply}
    (h : (request.handler params).run.run (reentrantHandler around) (s, c)
      = some (.ok reply, (s', c'))) :
    reply.published = [{
        type := request.event
        payload := snapshotPayload (stringParam params (str "snapshot_id")) }]
      ∧ (request.change params (stringParam params (str "snapshot_id"))).run.run
        (reentrantHandler around) (s, c) = some (.ok (), (s', c')) := by
  obtain ⟨result, heq⟩ := request.handler_eq params
  rw [heq] at h
  obtain ⟨_, _, hchange, hdone⟩ := Program.run_except_bind_inv h
  cases hdone
  exact ⟨rfl, hchange⟩

/-- The event of a change says which row changed when its request did. -/
theorem announces_change_iff (hnamed : Named (c.tables .snapshots)) (request : ChangeRequest)
    {reply : Reply} (h : (request.handler params).run.run (reentrantHandler around) (s, c)
      = some (.ok reply, (s', c'))) :
    Announces (.change request) reply (c.tables .snapshots) (c'.tables .snapshots)
      ↔ stringParam params (str "snapshot_id") ∈ storedIds c.tables := by
  obtain ⟨hpublished, hchange⟩ := changeRequest_inv request h
  obtain ⟨id, hfound, -, heffect⟩ := change_served request hchange
  set given := stringParam params (str "snapshot_id")
  have hgiven := Storage.mem_storedIds_iff_of_resolution hnamed hfound
  have hexplains : Announces (.change request) reply (c.tables .snapshots) (c'.tables .snapshots)
      ↔ Explains { type := request.event, payload := snapshotPayload given } (c.tables .snapshots)
        (c'.tables .snapshots) := by
    rw [Announces, hpublished]
    constructor
    · rintro ⟨event, hevent, -, hexplains⟩
      cases hevent
      exact hexplains
    · exact fun hexplains => ⟨_, rfl, rfl, hexplains⟩
  rw [hexplains]
  rcases heffect with ⟨rfl, hrows⟩ | ⟨hedits, edit, hids, hothers, hrows⟩
  · constructor
    · exact fun h => (Storage.mem_storedIds hnamed).mpr h.1
    · intro hstored
      refine ⟨(Storage.mem_storedIds hnamed).mp hstored, ?_⟩
      rw [eventId_snapshotPayload, hgiven.mp hstored]
      exact hrows
  · have hevent : request.event = .snapshotUpdated := by
      cases request with
      | delete => exact absurd rfl hedits
      | _ => rfl
    rw [hevent]
    constructor
    · exact fun h => (Storage.mem_storedIds hnamed).mpr h.1
    · intro hstored
      refine ⟨(Storage.mem_storedIds hnamed).mp hstored, edit, hids, ?_, hrows⟩
      rw [eventId_snapshotPayload, hgiven.mp hstored]
      exact hothers

/-- A request that is aligned announces its change, and where SQLite works only such a request
does. -/
theorem announces_iff (hulids : MakesUlids around.storage) (hnamed : Named (c.tables .snapshots))
    (request : LibraryRequest) {reply : Reply}
    (h : (request.handler manager params).run.run (reentrantHandler around) (s, c)
      = some (.ok reply, (s', c'))) :
    (Aligned around manager params c c' request →
        Announces request reply (c.tables .snapshots) (c'.tables .snapshots))
      ∧ ((∀ n, around.storage.fault n = none) →
        Announces request reply (c.tables .snapshots) (c'.tables .snapshots) →
          Aligned around manager params c c' request) := by
  cases request with
  | capture =>
      obtain ⟨snapshot, payload, c₂, pruned, hpublished, hpayload, hinserted, hcreated, hprunable,
        hprune⟩ := captureSnapshot_inv hulids h
      obtain ⟨hidle, hlength⟩ := captured_rows_iff params hinserted hcreated hprunable hprune
      constructor
      · intro haligned
        rw [hidle haligned]
        exact ⟨_, hpublished, rfl, hinserted.explains hpayload⟩
      · rintro hworks ⟨event, hevent, -, hexplains⟩
        rw [hpublished] at hevent
        cases hevent
        obtain ⟨-, row, -, hrows⟩ := hexplains
        exact hlength hworks (by simp [hrows])
  | importSnapshot =>
      obtain ⟨snapshot, payload, hpublished, hpayload, hinserted⟩ := importSnapshot_inv hulids h
      exact ⟨fun _ => ⟨_, hpublished, rfl, hinserted.explains hpayload⟩, fun _ _ => trivial⟩
  | change request =>
      have hiff := announces_change_iff hnamed request h
      exact ⟨hiff.mpr, fun _ => hiff.mp⟩

/-! ### Runs of requests -/

def publishedBy : Result Reply → List Ipc.Event
  | .ok reply => reply.published
  | .error _ => []

/-- Requests one after another, of which those that succeed are aligned, and their events. -/
inductive Stream (around : Surroundings σ) (manager : SnapshotManager) :
    σ × Connection → List Ipc.Event → σ × Connection → Prop where
  | done (state : σ × Connection) : Stream around manager state [] state
  | request {request : LibraryRequest} {params : Value} {result : Result Reply}
      {state state' last : σ × Connection} {events : List Ipc.Event}
      (hrun : (request.handler manager params).run.run (reentrantHandler around) state
        = some (result, state'))
      (haligned : ∀ reply, result = .ok reply →
        Aligned around manager params state.2 state'.2 request)
      (hrest : Stream around manager state' events last) :
      Stream around manager state (publishedBy result ++ events) last

/-- What holds of the connection between requests. -/
structure Idle (c : Connection) : Prop where
  named : Named (c.tables .snapshots)
  saved : c.saved = none

/-- A request that fails leaves the library as it is. -/
theorem unwritten_of_failed (hulids : MakesUlids around.storage)
    (hworks : ∀ n, around.storage.fault n = none) (hidle : Idle c) (request : LibraryRequest)
    {e : Error} (h : (request.handler manager params).run.run (reentrantHandler around) (s, c)
      = some (.error e, (s', c'))) : Unwritten c c' := by
  cases request with
  | capture =>
      rcases Program.run_except_bind_cases h with ⟨_, -, hcapture⟩ | ⟨_, _, -, hdone⟩
      · obtain ⟨_, -, hstops⟩ | ⟨_, _, _, _, _, hok, -⟩ := captureAndStore_cases hcapture
        · exact hstops.unwritten hworks hidle.saved
        · cases hok
      · cases hdone
  | importSnapshot =>
      rcases Program.run_except_bind_cases h with ⟨_, -, himport⟩ | ⟨_, _, -, hdone⟩
      · obtain ⟨_, -, hstops⟩ | ⟨_, _, _, hok, -⟩ := importSnapshot_cases hulids himport
        · exact hstops.unwritten hworks hidle.saved
        · cases hok
      · cases hdone
  | change request =>
      obtain ⟨result, heq⟩ := request.handler_eq params
      change (request.handler params).run.run _ _ = _ at h
      rw [heq] at h
      rcases Program.run_except_bind_cases h with ⟨_, -, hchange⟩ | ⟨_, _, -, hdone⟩
      · exact change_failed hworks hidle.named request hchange
      · cases hdone

theorem idle_of_served (hulids : MakesUlids around.storage)
    (hworks : ∀ n, around.storage.fault n = none) (hidle : Idle c) (request : LibraryRequest)
    {reply : Reply} (h : (request.handler manager params).run.run (reentrantHandler around) (s, c)
      = some (.ok reply, (s', c'))) : Idle c' := by
  cases request with
  | capture =>
      obtain ⟨snapshot, payload, c₂, pruned, -, -, hinserted, -, -, hprune⟩ :=
        captureSnapshot_inv hulids h
      obtain ⟨hsaved, htables⟩ := Storage.prune_works hworks hinserted.saved hprune
      refine ⟨?_, hsaved⟩
      rw [htables]
      exact (hinserted.named hidle.named).sublist Storage.pruned_sublist
  | importSnapshot =>
      obtain ⟨snapshot, payload, -, -, hinserted⟩ := importSnapshot_inv hulids h
      exact ⟨hinserted.named hidle.named, hinserted.saved⟩
  | change request =>
      obtain ⟨id, -, hsaved, heffect⟩ := change_served request (changeRequest_inv request h).2
      refine ⟨?_, hsaved.trans hidle.saved⟩
      rcases heffect with ⟨-, hrows⟩ | ⟨-, edit, hids, -, hrows⟩
      · rw [hrows]
        exact hidle.named.sublist List.filter_sublist
      · rw [hrows]
        exact hidle.named.map hids

/-- One request: a subscriber that knew all ids knows all ids behind it. -/
theorem follow_request (hulids : MakesUlids around.storage)
    (hworks : ∀ n, around.storage.fault n = none) (hidle : Idle c) (request : LibraryRequest)
    {result : Result Reply}
    (h : (request.handler manager params).run.run (reentrantHandler around) (s, c)
      = some (result, (s', c')))
    (haligned : ∀ reply, result = .ok reply → Aligned around manager params c c' request) :
    Idle c' ∧ (publishedBy result).foldl follow (idsOf (c.tables .snapshots))
      = idsOf (c'.tables .snapshots) := by
  cases result with
  | error e =>
      obtain ⟨htables, hsaved⟩ := unwritten_of_failed hulids hworks hidle request h
      refine ⟨⟨htables ▸ hidle.named, hsaved.trans hidle.saved⟩, ?_⟩
      rw [htables]
      rfl
  | ok reply =>
      refine ⟨idle_of_served hulids hworks hidle request h, ?_⟩
      obtain ⟨event, hpublished, -, hexplains⟩ :=
        (announces_iff hulids hidle.named request h).1 (haligned reply rfl)
      rw [publishedBy, hpublished]
      exact follow_eq hexplains

theorem Stream.follows (hulids : MakesUlids around.storage)
    (hworks : ∀ n, around.storage.fault n = none) {state last : σ × Connection}
    {events : List Ipc.Event} (h : Stream around manager state events last) (hidle : Idle state.2) :
    events.foldl follow (idsOf (state.2.tables .snapshots))
      = idsOf (last.2.tables .snapshots) := by
  induction h with
  | done state => rfl
  | request hrun haligned hrest ih =>
      obtain ⟨hidle', hfollows⟩ := follow_request hulids hworks hidle _ hrun haligned
      rw [List.foldl_append, hfollows]
      exact ih hidle'

/-- **Change events.** A request that succeeds publishes one event, which names the snapshot that
changed, exactly when it is aligned. Whoever starts from a listing and follows the events of such
requests ends with the ids that are stored. -/
theorem changeEvents_iff (around : Surroundings σ) (hulids : MakesUlids around.storage)
    (manager : SnapshotManager) :
    (∀ (request : LibraryRequest) (params : Value) (s s' : σ) (c c' : Connection) (reply : Reply),
      Named (c.tables .snapshots) →
        (request.handler manager params).run.run (reentrantHandler around) (s, c)
          = some (.ok reply, (s', c')) →
        (Aligned around manager params c c' request →
            Announces request reply (c.tables .snapshots) (c'.tables .snapshots))
          ∧ ((∀ n, around.storage.fault n = none) →
            Announces request reply (c.tables .snapshots) (c'.tables .snapshots) →
              Aligned around manager params c c' request))
      ∧ ((∀ n, around.storage.fault n = none) →
        ∀ (state last : σ × Connection) (events : List Ipc.Event),
          Stream around manager state events last → Idle state.2 →
            events.foldl follow (idsOf (state.2.tables .snapshots))
              = idsOf (last.2.tables .snapshots)) := by
  constructor
  · intro request params s s' c c' reply hnamed hrun
    exact announces_iff hulids hnamed request hrun
  · intro hworks state last events hstream hidle
    exact hstream.follows hulids hworks hidle

end Requests

/-! ### Another spelling -/

section Spellings

open SnapshotManager (oneSecond oneSecond_ulids)
open Storage (capitalId documentOf emptyConnection smallId)

theorem importSnapshot_capitalId :
    ∃ reply c', (LibraryRequest.importSnapshot.handler {}
        (.object [(str "document", .string (documentOf capitalId))])).run.run
        (reentrantHandler oneSecond) ((), emptyConnection) = some (.ok reply, ((), c')) := by
  have hruns : ((LibraryRequest.importSnapshot.handler {}
      (.object [(str "document", .string (documentOf capitalId))])).run.run
        (reentrantHandler oneSecond) ((), emptyConnection)).any (fun outcome => outcome.1.toBool)
      = true := by
    decide +kernel
  obtain ⟨⟨result, ⟨⟩, c'⟩, hrun, hok⟩ := (Option.any_eq_true _ _).mp hruns
  cases result with
  | error e => cases hok
  | ok reply => exact ⟨reply, c', hrun⟩

/-- The event of an import into an empty library. -/
theorem changeEvents_iff_capitalId :
    ∃ reply c', (LibraryRequest.importSnapshot.handler {}
        (.object [(str "document", .string (documentOf capitalId))])).run.run
        (reentrantHandler oneSecond) ((), emptyConnection) = some (.ok reply, ((), c'))
      ∧ Announces .importSnapshot reply [] (c'.tables .snapshots)
      ∧ reply.published.foldl follow (idsOf []) = idsOf (c'.tables .snapshots) := by
  obtain ⟨reply, c', hrun⟩ := importSnapshot_capitalId
  have hnone : Named ([] : List Row) :=
    ⟨fun _ hrow => (List.not_mem_nil hrow).elim, List.nodup_nil⟩
  obtain ⟨hrequests, hstreams⟩ := changeEvents_iff oneSecond oneSecond_ulids {}
  have hannounces := (hrequests _ _ _ _ emptyConnection c' reply hnone hrun).1 trivial
  have hstream := Stream.request hrun (fun _ _ => trivial) (.done _)
  have hfollows := hstreams (fun _ => rfl) _ _ _ hstream ⟨hnone, rfl⟩
  rw [List.append_nil] at hfollows
  exact ⟨reply, c', hrun, hannounces, hfollows⟩

/-- A deletion by another spelling announces an id that was never stored. -/
theorem not_announces_smallId :
    ¬ ∀ (request : LibraryRequest) (params : Value) (c c' : Connection) (reply : Reply),
      SnapshotManager.Reachable c →
        (request.handler {} params).run.run (SnapshotManager.handler oneSecond) ((), c)
          = some (.ok reply, ((), c')) →
        Announces request reply (c.tables .snapshots) (c'.tables .snapshots) := by
  intro hall
  have hruns : ((SnapshotManager.importSnapshot (documentOf capitalId) (str "json") []).run.run
      (SnapshotManager.handler oneSecond) ((), emptyConnection)).any (fun first =>
        storedIds first.2.2.tables = [capitalId]
          && ((deleteSnapshot (.object [(str "snapshot_id", .string smallId)])).run.run
            (SnapshotManager.handler oneSecond) first.2).any fun second =>
              second.1.toOption.any fun reply => reply.published.map eventId = [smallId])
      = true := by
    decide +kernel
  obtain ⟨⟨result, ⟨⟩, c⟩, himport, hdelete⟩ := (Option.any_eq_true _ _).mp hruns
  obtain ⟨hids, hdelete⟩ := Bool.and_eq_true_iff.mp hdelete
  obtain ⟨⟨deleted, ⟨⟩, c'⟩, hrun, hdeleted⟩ := (Option.any_eq_true _ _).mp hdelete
  obtain ⟨reply, hreply, hnames⟩ := (Option.any_eq_true _ _).mp hdeleted
  cases deleted with
  | error e => cases hreply
  | ok reply' =>
      obtain rfl : reply' = reply := Option.some.inj hreply
      obtain ⟨⟨type, payload⟩, hpublished, htype, hexplains⟩ := hall (.change .delete)
        (.object [(str "snapshot_id", .string smallId)]) c c' reply'
        (.importSnapshot .empty himport) hrun
      have hnamed : [eventId { type, payload }] = [smallId] := by
        rw [hpublished] at hnames
        exact of_decide_eq_true hnames
      cases htype
      obtain ⟨⟨row, hrow, hid⟩, -⟩ := hexplains
      rw [List.singleton_inj.mp hnamed] at hid
      have hstored : (row "id").toText ∈ storedIds c.tables := List.mem_map_of_mem hrow
      rw [hid, of_decide_eq_true hids, List.mem_singleton] at hstored
      exact absurd hstored (by decide)

end Spellings

end ContextSnap.Daemon
