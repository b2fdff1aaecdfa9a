import ContextSnap.Proof.LibraryRuns
import ContextSnap.Proof.RepositoryPrune
import ContextSnap.Proof.SanitizedText
import ContextSnap.Proof.ServedRequests

/-!
# Stored URLs

Which requests store URLs that the sanitizer has not written or excludes, and that nothing but these
requests brings such URLs into a library.
-/

namespace ContextSnap.Storage

open Sql

/-! ### Rows of tabs -/

/-- The URLs of the stored tabs are all of this kind. -/
def UrlsIn (good : Bytes → Prop) (tables : Tables Table) : Prop :=
  ∀ row ∈ tables .tabs, ∃ url, row "url" = .text url ∧ good url

section Rows

variable {good : Bytes → Prop}

theorem keepsUrls_inserts {snapshot : Snapshot}
    (h : ∀ window ∈ snapshot.windows, ∀ tab ∈ window.tabs, good tab.url)
    {statement : Dml Table} {values : List SqlValue}
    (hinserts : Inserts snapshot statement values) :
    (Op.dml statement values).Keeps (UrlsIn good) := by
  intro before after changed hrun hurls
  cases hinserts with
  | @tab window tab hwindow htab now =>
      intro row hrow
      rw [runDml_insert hrun, Function.update_self] at hrow
      rcases List.mem_append.mp hrow with hold | hnew
      · exact hurls row hold
      · rw [List.mem_singleton.mp hnew]
        exact ⟨tab.url, rfl, h window hwindow tab htab⟩
  | _ =>
      intro row hrow
      rw [runDml_insert hrun, Function.update_of_ne (by decide)] at hrow
      exact hurls row hrow

theorem keepsUrls_delete (condition : Condition Table) (values : List SqlValue) :
    (Op.dml (.delete .snapshots condition) values).Keeps (UrlsIn good) := by
  intro before after changed hrun hurls row hrow
  have hafter : after .tabs
      = afterStatement (.delete .snapshots condition) values before .tabs := by
    cases hrun
    rfl
  rw [hafter, afterStatement_delete_child condition values before (by decide)] at hrow
  exact hurls row (List.mem_filter.mp hrow).1

theorem keepsUrls_insert {snapshot : Snapshot}
    (h : ∀ window ∈ snapshot.windows, ∀ tab ∈ window.tabs, good tab.url) :
    AllOps (Op.Keeps (UrlsIn good)) (insert snapshot) := by
  apply keeps_insert
  intro id statement values hvalid hinserts
  have hsame : (withId snapshot id).windows = snapshot.windows := rfl
  exact keepsUrls_inserts (hsame ▸ h) hinserts

end Rows

/-! ### Tabs of a document -/

/-- The tabs of a document that can be read. -/
def importedTabs (payload format : Bytes) : List TabInfo :=
  match formatFromString format with
  | .error _ => []
  | .ok parsed => (deserialize [] payload parsed).toOption.elim [] fun snapshot =>
      snapshot.windows.flatMap (·.tabs)

theorem metadataFromJson_ok {fresh : Bytes} {value : Json.Value} {metadata : SnapshotMetadata}
    (h : metadataFromJson fresh value = .ok metadata) (other : Bytes) :
    ∃ named, metadataFromJson other value = .ok named := by
  rw [metadataFromJson, guard_ok_iff] at h
  obtain ⟨hid, h⟩ := h
  obtain ⟨hschema, hdone⟩ := guard_ok_iff.mp h
  let id := readString value "id"
  refine ⟨{ metadata with id := if id.isEmpty then other else id }, ?_⟩
  rw [metadataFromJson, guard_ok_iff]
  refine ⟨hid, guard_ok_iff.mpr ⟨hschema, ?_⟩⟩
  cases hdone
  rfl

/-- The windows of a snapshot do not depend on the id for a document without one. -/
theorem snapshotFromJson_windows {fresh : Bytes} {value : Json.Value} {snapshot : Snapshot}
    (h : snapshotFromJson fresh value = .ok snapshot) (other : Bytes) :
    ∃ named, snapshotFromJson other value = .ok named ∧ named.windows = snapshot.windows := by
  rw [snapshotFromJson, guard_ok_iff] at h
  obtain ⟨hobject, h⟩ := h
  cases hfound : (value.find (str "metadata")).filter (·.isObject) with
  | none =>
      rw [hfound] at h
      cases h
  | some found =>
      rw [hfound] at h
      obtain ⟨metadata, hmetadata, h⟩ := except_bind_ok h
      obtain ⟨windows, hwindows, hdone⟩ := except_bind_ok h
      obtain ⟨named, hnamed⟩ := metadataFromJson_ok hmetadata other
      refine ⟨{ snapshot with metadata := named }, ?_, rfl⟩
      rw [snapshotFromJson, guard_ok_iff, hfound]
      refine ⟨hobject, ?_⟩
      dsimp only
      rw [hnamed, hwindows]
      cases hdone
      rfl

theorem deserialize_windows {fresh payload : Bytes} {format : Format} {snapshot : Snapshot}
    (h : deserialize fresh payload format = .ok snapshot) (other : Bytes) :
    ∃ named, deserialize other payload format = .ok named
      ∧ named.windows = snapshot.windows := by
  rw [deserialize, guard_ok_iff] at h
  obtain ⟨hformat, h⟩ := h
  obtain ⟨value, hvalue, h⟩ := except_bind_ok h
  have hbehind : ∀ document, snapshotFromJson fresh document = .ok snapshot →
      ∃ named, snapshotFromJson other document = .ok named
        ∧ named.windows = snapshot.windows := fun document h => snapshotFromJson_windows h other
  by_cases henvelope : value.contains (str "snapshot") = true
  · rw [if_pos henvelope] at h
    obtain ⟨document, hdocument, hsnapshot⟩ := except_bind_ok h
    obtain ⟨named, hnamed, hsame⟩ := hbehind document hsnapshot
    refine ⟨named, ?_, hsame⟩
    rw [deserialize, guard_ok_iff, hvalue]
    refine ⟨hformat, ?_⟩
    change (if value.contains (str "snapshot") = true then _ else _) = _
    rw [if_pos henvelope, hdocument]
    exact hnamed
  · rw [if_neg henvelope] at h
    obtain ⟨named, hnamed, hsame⟩ := hbehind value h
    refine ⟨named, ?_, hsame⟩
    rw [deserialize, guard_ok_iff, hvalue]
    refine ⟨hformat, ?_⟩
    change (if value.contains (str "snapshot") = true then _ else _) = _
    rw [if_neg henvelope]
    exact hnamed

theorem mem_importedTabs {fresh payload format : Bytes} {parsed : Format} {snapshot : Snapshot}
    (hformat : formatFromString format = .ok parsed)
    (h : deserialize fresh payload parsed = .ok snapshot) {window : WindowInfo} {tab : TabInfo}
    (hwindow : window ∈ snapshot.windows) (htab : tab ∈ window.tabs) :
    tab ∈ importedTabs payload format := by
  obtain ⟨named, hnamed, hwindows⟩ := deserialize_windows h []
  rw [importedTabs, hformat]
  dsimp only
  rw [hnamed]
  exact List.mem_flatMap.mpr ⟨window, hwindows ▸ hwindow, htab⟩

end ContextSnap.Storage

namespace ContextSnap.SnapshotManager

open Daemon (startManager)
open Privacy (KeepsUrl LeavesSanitized Sanitized Written sanitized_iff_written sanitized_storedUrl_iff)
open Program (Event)
open Storage (AllOps Connection Holds Table UrlsIn)
open Sql (Tables)

/-! ### Calls that keep the rows -/

/-- A call after which the tables are as they should be if they were before. -/
def Op.KeepsRows (I : Tables Table → Prop) : Op → Prop
  | .repository operation => AllOps (Storage.Op.Keeps I) operation.call
  | .direct op => op.Keeps I
  | _ => True

section Calls

variable {I : Tables Table → Prop} {σ : Type} {around : Surroundings σ} {s s' : σ}
  {c c' : Connection}

theorem Op.Outside.keepsRows {op : Op} (h : op.Outside) : op.KeepsRows I := by
  cases op with
  | direct op => cases op <;> first | exact h.elim | trivial
  | repository operation => exact h.elim
  | _ => trivial

theorem holds_answer {op : Op} (hop : op.KeepsRows I) {answer : Answer op} (h : Holds I c)
    (hanswer : handler around op (s, c) = some (answer, (s', c'))) : Holds I c' := by
  cases op with
  | hal op =>
      obtain ⟨result, -, hresult⟩ := Option.map_eq_some_iff.mp hanswer
      cases hresult
      exact h
  | getenv name =>
      cases hanswer
      exact h
  | direct op =>
      obtain ⟨result, hrun, hresult⟩ := Option.map_eq_some_iff.mp hanswer
      cases hresult
      exact h.handler hop hrun
  | repository operation =>
      obtain ⟨result, hrun, hresult⟩ := Option.map_eq_some_iff.mp hanswer
      cases hresult
      exact h.run hop hrun

theorem holds_run {α : Type} {action : Action α} (haction : action.run.All (Op.KeepsRows I))
    {result : Result α} (h : Holds I c)
    (hrun : action.run.run (handler around) (s, c) = some (result, (s', c'))) : Holds I c' := by
  refine Program.All.run_invariant (I := fun state : σ × Connection => Holds I state.2) ?_ haction
    h hrun
  rintro op ⟨s₁, c₁⟩ answer ⟨s₂, c₂⟩ hop hnow hanswer
  exact holds_answer hop hnow hanswer

end Calls

section Writes

variable {good : Bytes → Prop}

theorem keepsRows_prune (manager : SnapshotManager) :
    manager.prune.run.All (Op.KeepsRows (UrlsIn good)) :=
  Program.all_operation (Storage.keeps_prune Storage.keepsUrls_delete _)

theorem keepsRows_remove (snapshotId : Bytes) :
    (remove snapshotId).run.All (Op.KeepsRows (UrlsIn good)) :=
  Program.All.bind_except (Program.all_operation (Storage.keeps_resolveIdPrefix snapshotId))
    fun id => Program.all_operation (Storage.keeps_remove Storage.keepsUrls_delete id)

theorem keepsRows_importSnapshot {serialized format renameTo : Bytes}
    (h : ∀ tab ∈ Storage.importedTabs serialized format, good tab.url) :
    (importSnapshot serialized format renameTo).run.All (Op.KeepsRows (UrlsIn good)) := by
  apply all_importSnapshot (fun _ hop => hop.keepsRows) (fun id => Storage.keeps_load id)
  intro parsed fresh read snapshot hformat hread hwindows
  apply Storage.keepsUrls_insert
  intro window hwindow tab htab
  exact h tab (Storage.mem_importedTabs hformat hread (hwindows ▸ hwindow) htab)

end Writes

/-! ### Captures -/

section Captures

variable {σ : Type} {around : Surroundings σ} {platform : Hal.Platform} {config : Config}
  {options : CaptureOptions} {s s' : σ} {c c' : Connection}

/-- Whether the URL of a tab is stored as one that may be: as it came where a capture does not
sanitize. -/
def StoredSanitized (options : CaptureOptions) (url : Bytes) : Prop :=
  if options.sanitizeUrls then
    ∀ parsed, Privacy.parseUrl url = .ok parsed → LeavesSanitized url parsed
  else Written url ∧ KeepsUrl url

theorem Sees.sanitized_iff {events : List (Event Op Answer)} {snapshot : Snapshot}
    {sight : Sighting}
    (hsees : (startManager platform config).Sees options events snapshot sight) :
    (∀ window ∈ snapshot.windows, ∀ tab ∈ window.tabs, Sanitized tab.url)
      ↔ ∀ window ∈ attached options sight.windows sight.tabs, ∀ tab ∈ window.tabs,
        (startManager platform config).survives options tab = true →
          StoredSanitized options tab.url := by
  apply hsees.forall_url_iff Sanitized (StoredSanitized options)
  intro tab after hafter
  rw [StoredSanitized]
  by_cases hon : options.sanitizeUrls = true
  · obtain ⟨hkept, hurl⟩ := rewritten_url rfl hon hafter
    rw [if_pos hon, hurl]
    exact sanitized_storedUrl_iff hkept
  · have hsame : (if options.sanitizeUrls then ({} : Privacy.Sanitizer).sanitizeTab tab
        else some tab) = some after := hafter
    rw [if_neg hon] at hsame ⊢
    rw [← Option.some.inj hsame]
    exact sanitized_iff_written tab.url

/-- What a capture is told of and lets through is stored sanitized. -/
def CapturesSanitized (around : Surroundings σ) (manager : SnapshotManager)
    (options : CaptureOptions) (state : σ × Connection) : Prop :=
  ∀ events snapshot state' sight,
    (manager.capture options).run.record (handler around) state
        = some (events, .ok snapshot, state') →
      manager.Sees options events snapshot sight →
      ∀ window ∈ attached options sight.windows sight.tabs, ∀ tab ∈ window.tabs,
        manager.survives options tab = true → StoredSanitized options tab.url

theorem capture_sanitized
    (hcaptures : CapturesSanitized around (startManager platform config) options (s, c))
    {snapshot : Snapshot} (hrun : ((startManager platform config).capture options).run.run
      (handler around) (s, c) = some (.ok snapshot, (s', c'))) :
    ∀ window ∈ snapshot.windows, ∀ tab ∈ window.tabs, Sanitized tab.url := by
  rw [Program.run_eq_record] at hrun
  obtain ⟨⟨events, result, state'⟩, hrecord, hresult⟩ := Option.map_eq_some_iff.mp hrun
  cases hresult
  obtain ⟨sight, hsees⟩ := capture_sees hrecord
  exact hsees.sanitized_iff.mpr (hcaptures events snapshot _ sight hrecord hsees)

theorem captureAndStore_holds
    (hcaptures : CapturesSanitized around (startManager platform config) options (s, c))
    (h : Holds (UrlsIn Sanitized) c) {result : Result Snapshot}
    (hrun : ((startManager platform config).captureAndStore options).run.run (handler around) (s, c)
      = some (result, (s', c'))) : Holds (UrlsIn Sanitized) c' := by
  have houtside : ((startManager platform config).capture options).run.All
      (Op.KeepsRows (UrlsIn Sanitized)) :=
    Program.All.mono (fun _ hop => hop.keepsRows) (outside_capture _ options)
  obtain ⟨e, -, hcapture⟩ | ⟨snapshot, ⟨s₁, c₁⟩, hcapture, hrest⟩ :=
    Program.run_except_bind_cases hrun
  · exact holds_run houtside h hcapture
  · have hsanitized := capture_sanitized hcaptures hcapture
    refine holds_run ?_ (holds_run houtside h hcapture) hrest
    exact all_insertAndPrune (Storage.keepsUrls_insert hsanitized)
      (Storage.keeps_prune Storage.keepsUrls_delete _)

end Captures

end ContextSnap.SnapshotManager

namespace ContextSnap.Daemon

open Privacy (KeepsUrl Sanitized Written sanitized_iff_written)
open SnapshotManager (CapturesSanitized Surroundings captureAndStore_holds holds_run
  keepsRows_importSnapshot keepsRows_prune keepsRows_remove)
open Storage (Connection Holds UrlsIn importedTabs emptyConnection)

/-! ### Requests -/

/-- Whether a request stores sanitized URLs only. Those of a document are stored as they are. -/
def SnapshotRequest.Sanitizes {σ : Type} (manager : SnapshotManager) (around : Surroundings σ)
    (state : σ × Connection) : SnapshotRequest → Prop
  | .capture params =>
      CapturesSanitized around manager (captureOptionsFrom params manager.config) state
  | .importSnapshot params => ∀ tab ∈ importedTabs (stringParam params (str "document"))
      (stringParam params (str "format") (str "json")), Written tab.url ∧ KeepsUrl tab.url
  | .delete _ | .prune => True

/-- What requests that meet a condition make of an empty database, each in surroundings of its
own. -/
inductive Served (manager : SnapshotManager)
    (meets : (σ : Type) → Surroundings σ → σ × Connection → SnapshotRequest → Prop) :
    Connection → Prop where
  | empty : Served manager meets emptyConnection
  | request {σ : Type} {around : Surroundings σ} {request : SnapshotRequest}
      {result : Result Reply} {s s' : σ} {c c' : Connection} (h : Served manager meets c)
      (hmeets : meets σ around (s, c) request)
      (hrun : (request.handler manager).run.run (SnapshotManager.handler around) (s, c)
        = some (result, (s', c'))) : Served manager meets c'

/-- Every stored tab has a URL that the sanitizer has given back and does not exclude. -/
def StoresSanitized (c : Connection) : Prop := UrlsIn Sanitized c.tables

section Requests

variable {platform : Hal.Platform} {config : Config}

/-- One request. -/
theorem SnapshotRequest.Sanitizes.holds {σ : Type} {around : Surroundings σ}
    {request : SnapshotRequest} {s s' : σ} {c c' : Connection}
    (hmeets : request.Sanitizes (startManager platform config) around (s, c))
    (h : Holds (UrlsIn Sanitized) c) {result : Result Reply}
    (hrun : (request.handler (startManager platform config)).run.run
      (SnapshotManager.handler around) (s, c) = some (result, (s', c'))) :
    Holds (UrlsIn Sanitized) c' := by
  cases request with
  | capture params =>
      obtain ⟨e, -, hstored⟩ | ⟨snapshot, ⟨s₁, c₁⟩, hstored, hreply⟩ :=
        Program.run_except_bind_cases hrun
      · exact captureAndStore_holds hmeets h hstored
      · cases hreply
        exact captureAndStore_holds hmeets h hstored
  | importSnapshot params =>
      have hsanitized := fun tab htab => (sanitized_iff_written _).mpr (hmeets tab htab)
      refine holds_run ?_ h hrun
      exact Program.All.bind_except (keepsRows_importSnapshot hsanitized) fun _ => trivial
  | delete params =>
      refine holds_run ?_ h hrun
      exact Program.All.bind_except (keepsRows_remove _) fun _ => trivial
  | prune =>
      refine holds_run ?_ h hrun
      exact Program.All.bind_except (keepsRows_prune _) fun _ => trivial

/-- **Sanitize before persist.** Whatever requests come, as long as none of them stores other URLs,
every stored URL is one that the sanitizer gives back and does not exclude. -/
theorem served_storesSanitized {c : Connection} (h : Served (startManager platform config)
    (fun _ around state request =>
      request.Sanitizes (startManager platform config) around state) c) : StoresSanitized c := by
  have hholds : Holds (UrlsIn Sanitized) c := by
    induction h with
    | empty => exact ⟨fun _ hrow => absurd hrow List.not_mem_nil, fun _ hsaved => by cases hsaved⟩
    | request _ hmeets hrun ih => exact SnapshotRequest.Sanitizes.holds hmeets ih hrun
  exact hholds.tables

end Requests

/-! ### Documents with a tab -/

section Documents

open SnapshotManager (bankUrl oneSecond parseUrl_bank untouched_bank)

/-- A document of a snapshot with one tab. -/
def documentWithTab (url : Bytes) : Bytes :=
  str "\x7b\"metadata\":\x7b\x7d,\"windows\":[\x7b\"tabs\":[\x7b\"url\":\"" ++ url
    ++ str "\"\x7d]\x7d]\x7d"

def importOf (url : Bytes) : SnapshotRequest :=
  .importSnapshot (.object [(str "document", .string (documentWithTab url))])

def storedUrls (c : Connection) : List Sql.SqlValue := (c.tables .tabs).map (· "url")

/-- The document is imported into an empty library. -/
def Imports (url : Bytes) : Prop :=
  ∃ result c, ((importOf url).handler (startManager {} {})).run.run
      (SnapshotManager.handler oneSecond) ((), emptyConnection) = some (result, ((), c))
    ∧ storedUrls c = [.text url]

theorem imports_of_run {url : Bytes}
    (h : (((importOf url).handler (startManager {} {})).run.run
      (SnapshotManager.handler oneSecond) ((), emptyConnection)).any (fun outcome =>
        storedUrls outcome.2.2 = [.text url]) = true) : Imports url := by
  obtain ⟨⟨result, ⟨⟩, c⟩, hrun, hurls⟩ := (Option.any_eq_true _ _).mp h
  exact ⟨result, c, hrun, of_decide_eq_true hurls⟩

theorem imports_bank : Imports (str "https://bank.example/") :=
  imports_of_run (by decide +kernel)

theorem imports_vault : Imports (str "https://vault.example/") :=
  imports_of_run (by decide +kernel)

theorem sanitized_bank : Sanitized (str "https://bank.example/") := by
  have hpass : Privacy.standard.sanitizeUrl (str "https://bank.example/")
      = { url := bankUrl.toText } := by
    rw [Privacy.Sanitizer.sanitizeUrl_eq, Privacy.sanitizeUrlBy_of_parseUrl _ _ parseUrl_bank]
    exact Privacy.Sanitizer.sanitizeParsedBy_of_untouched (by decide) untouched_bank _
  have hkept : (Privacy.standard.sanitizeUrl (str "https://bank.example/")).excluded = false := by
    rw [hpass]
  refine ⟨⟨str "https://bank.example/", hkept, ?_⟩, hkept⟩
  rw [hpass]
  decide

theorem served_storesSanitized_bank :
    ∃ c, Served (startManager {} {}) (fun _ around state request =>
        request.Sanitizes (startManager {} {}) around state) c
      ∧ storedUrls c = [.text (str "https://bank.example/")] ∧ StoresSanitized c := by
  obtain ⟨result, c, hrun, hurls⟩ := imports_bank
  have htabs : (importedTabs (documentWithTab (str "https://bank.example/")) (str "json")).map
      (·.url) = [str "https://bank.example/"] := by
    decide +kernel
  have hserved : Served (startManager {} {}) (fun _ around state request =>
      request.Sanitizes (startManager {} {}) around state) c := by
    refine .request .empty ?_ hrun
    intro tab htab
    have hurl : tab.url ∈ (importedTabs (documentWithTab (str "https://bank.example/"))
        (str "json")).map (·.url) := List.mem_map_of_mem htab
    rw [htabs, List.mem_singleton] at hurl
    rw [hurl, ← sanitized_iff_written]
    exact sanitized_bank
  exact ⟨c, hserved, hurls, served_storesSanitized hserved⟩

/-- The tab of a vault comes into the library with a document. -/
theorem not_storesSanitized :
    ¬∀ (platform : Hal.Platform) (config : Config), config.privacy.sanitizeUrls = true →
      ∀ c, Served (startManager platform config) (fun _ _ _ _ => True) c → StoresSanitized c := by
  intro hall
  obtain ⟨result, c, hrun, hurls⟩ := imports_vault
  have hstored := hall {} {} rfl c (.request .empty trivial hrun)
  have hmem : (.text (str "https://vault.example/") : Sql.SqlValue) ∈ storedUrls c := by
    rw [hurls]
    exact List.mem_singleton_self _
  obtain ⟨row, hrow, hurl⟩ := List.mem_map.mp hmem
  obtain ⟨url, htext, hsanitized⟩ := hstored row hrow
  rw [hurl] at htext
  obtain rfl : str "https://vault.example/" = url := Sql.SqlValue.text.inj htext
  have hexcluded : (Privacy.standard.sanitizeUrl (str "https://vault.example/")).excluded
      = true := by
    decide
  rw [hsanitized.kept] at hexcluded
  cases hexcluded

end Documents

end ContextSnap.Daemon
