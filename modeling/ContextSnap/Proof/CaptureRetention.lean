import ContextSnap.Core.SnapshotManager
import ContextSnap.Proof.RepositoryRetention

/-!
# Captures and retention

A capture reads the clock once, is inserted, and the retention that runs behind the insert looks at
its row as at any other one. Whether it is still there afterwards is a condition on the rows that
were there before.
-/

namespace ContextSnap.SnapshotManager

open Program (run_except_bind_inv)
open Storage (Connection Operation Outlives)

section Runs

variable {σ : Type} {around : Surroundings σ}

/-! ### What a capture asks -/

/-- An operation that looks at the desktop or makes an id. -/
def Op.Observes : Op → Prop
  | .hal _ | .getenv _ | .direct .generateUlid => True
  | _ => False

/-- Nothing but the number of fresh ids changes on the connection. -/
def SameBut (before after : Connection) : Prop := ∃ ulids, after = { before with ulids }

theorem SameBut.refl (c : Connection) : SameBut c c := ⟨c.ulids, rfl⟩

theorem SameBut.trans {first second third : Connection} (h : SameBut first second)
    (h' : SameBut second third) : SameBut first third := by
  obtain ⟨_, rfl⟩ := h
  obtain ⟨ulids, rfl⟩ := h'
  exact ⟨ulids, rfl⟩

theorem handler_observes {op : Op} (h : op.Observes) {s s' : σ} {c c' : Connection}
    {answer : Answer op} (hanswer : handler around op (s, c) = some (answer, (s', c'))) :
    SameBut c c' := by
  cases op with
  | hal op =>
      obtain ⟨result, -, hresult⟩ := Option.map_eq_some_iff.mp hanswer
      cases hresult
      exact SameBut.refl c
  | repository operation => exact h.elim
  | direct op =>
      cases op <;> try exact h.elim
      cases hanswer
      exact ⟨_, rfl⟩
  | getenv name =>
      cases hanswer
      exact SameBut.refl c

/-- Every operation of the action looks at the desktop or makes an id. -/
def Observing {α : Type} (action : Action α) : Prop := action.run.All Op.Observes

section Observing

variable {α β : Type}

theorem Observing.pure (value : α) : Observing (Pure.pure value : Action α) := trivial

theorem Observing.bind {action : Action α} {next : α → Action β} (h : Observing action)
    (hnext : ∀ value, Observing (next value)) : Observing (action >>= next) :=
  Program.All.bind_except h hnext

theorem observing_platformCall (op : Hal.Op) :
    Observing (platformCall (Program.operation op : Hal.Call (Hal.Answer op))) :=
  ⟨trivial, fun _ => trivial⟩

theorem observing_orThrow (result : Result α) : Observing (orThrow result) := by
  cases result <;> exact trivial

theorem Observing.mapM {action : β → Action α} (h : ∀ value, Observing (action value))
    (values : List β) : Observing (values.mapM action) := by
  induction values with
  | nil => exact Observing.pure _
  | cons value values ih =>
      rw [List.mapM_cons]
      exact (h value).bind fun _ => ih.bind fun _ => Observing.pure _

theorem Observing.sameBut {action : Action α} (h : Observing action) {s s' : σ} {c c' : Connection}
    {result : Result α}
    (hrun : action.run.run (handler around) (s, c) = some (result, (s', c'))) : SameBut c c' := by
  refine Program.All.run_invariant (I := fun now : σ × Connection => SameBut c now.2) ?_ h
    (SameBut.refl c) hrun
  rintro op ⟨s₁, c₁⟩ answer ⟨s₂, c₂⟩ hop hnow hanswer
  exact SameBut.trans hnow (handler_observes hop hanswer)

end Observing

theorem observing_freshUlid : Observing freshUlid := ⟨trivial, fun _ => trivial⟩

theorem observing_getenv (name : Bytes) : Observing (getenv name) := ⟨trivial, fun _ => trivial⟩

theorem observing_firstSet (names : List Bytes) : Observing (firstSet names) := by
  induction names with
  | nil => exact Observing.pure _
  | cons name names ih =>
      apply (observing_getenv name).bind
      intro found
      split
      · exact Observing.pure _
      · exact ih

theorem observing_completeWindow (window : WindowInfo) : Observing (completeWindow window) := by
  apply Observing.bind ?_ fun _ => Observing.pure _
  unfold windowId
  split
  · exact observing_freshUlid
  · exact Observing.pure _

theorem observing_captureWindows (options : CaptureOptions) :
    Observing (captureWindows options) := by
  apply (observing_platformCall _).bind
  intro answer
  apply (observing_orThrow answer).bind
  intro enumerated
  exact Observing.mapM observing_completeWindow _

section Manager

variable (manager : SnapshotManager) (options : CaptureOptions)

theorem observing_captureTabs (windows : List WindowInfo) :
    Observing (manager.captureTabs windows options) := by
  unfold captureTabs attachBrowserTabs
  split_ifs
  · exact Observing.pure _
  · apply (observing_platformCall _).bind
    intro captured
    cases captured <;> exact Observing.pure _
  · exact Observing.pure _

theorem observing_observe : Observing (manager.observe options) := by
  apply (observing_platformCall _).bind
  intro answer
  apply (observing_orThrow answer).bind
  intro monitors
  apply (observing_captureWindows options).bind
  intro windows
  apply (observing_captureTabs manager options windows).bind
  intro windows
  have hcursor : Observing manager.captureCursor := by
    unfold captureCursor
    split
    · exact (observing_platformCall _).bind fun _ => Observing.pure _
    · exact Observing.pure _
  have hworkspace : Observing manager.captureWorkspace := by
    unfold captureWorkspace
    split
    · exact (observing_platformCall _).bind fun _ => Observing.pure _
    · exact Observing.pure _
  exact hcursor.bind fun _ => hworkspace.bind fun _ => Observing.pure _

end Manager

/-! ### What a capture is -/

theorem direct_inv {op : Storage.Op} {answer : Storage.Answer op} {s s' : σ} {c c' : Connection}
    (h : (direct op).run.run (handler around) (s, c) = some (.ok answer, (s', c'))) :
    Storage.handler around.storage op c = some (answer, c') := by
  have hlift : (direct op).run
      = Program.ask (Op.direct op) fun answer => Program.done (.ok answer) := rfl
  rw [hlift, Program.run_ask_eq] at h
  obtain ⟨result, hanswer, hdone⟩ := Option.bind_eq_some_iff.mp h
  obtain ⟨found, hfound, rfl⟩ := Option.map_eq_some_iff.mp hanswer
  cases hdone
  exact hfound

theorem repository_run (operation : Operation) (s : σ) (c : Connection) :
    (repository operation).run.run (handler around) (s, c)
      = (operation.call.run.run (Storage.handler around.storage) c).map fun result =>
          (result.1, (s, result.2)) := by
  have hask : (repository operation).run
      = Program.ask (Op.repository operation) Program.done := rfl
  rw [hask]
  exact (Program.run_ask_eq _ _ _ _).trans (Option.bind_fun_some _)

theorem repository_inv {operation : Operation} {result : Result operation.Output} {s s' : σ}
    {c c' : Connection}
    (h : (repository operation).run.run (handler around) (s, c) = some (result, (s', c'))) :
    operation.call.run.run (Storage.handler around.storage) c = some (result, c') := by
  rw [repository_run] at h
  obtain ⟨found, hfound, hdone⟩ := Option.map_eq_some_iff.mp h
  cases hdone
  exact hfound

theorem attempt_inv {α : Type} {action : Action α} {result : Result α} {state state' : σ × Connection}
    (h : (attempt action).run.run (handler around) state = some (.ok result, state')) :
    action.run.run (handler around) state = some (result, state') := by
  have hlift : (attempt action).run = action.run >>= fun result => pure (.ok result) := rfl
  rw [hlift, Program.run_bind] at h
  obtain ⟨found, hfound, hdone⟩ := Option.bind_eq_some_iff.mp h
  cases hdone
  exact hfound

theorem discard_inv {α : Type} {action : Action α} {state state' : σ × Connection}
    (h : (discard action).run.run (handler around) state = some (.ok (), state')) :
    ∃ value, action.run.run (handler around) state = some (.ok value, state') := by
  have hdiscard : discard action = action >>= fun _ => pure () := rfl
  rw [hdiscard] at h
  obtain ⟨value, _, hrun, hdone⟩ := run_except_bind_inv h
  cases hdone
  exact ⟨value, hrun⟩

/-- The connection behind a capture, and what retention will look at. -/
structure Captured (around : Surroundings σ) (before : Connection) (snapshot : Snapshot)
    (after : Connection) : Prop where
  tables : after.tables = before.tables
  readings : after.readings = before.readings + 1
  id : ∃ n, snapshot.metadata.id = around.storage.ulid n
  createdAt : snapshot.metadata.createdAt = around.storage.clock before.readings
  favorite : snapshot.metadata.favorite = false

theorem sanitize_metadata (manager : SnapshotManager) (snapshot : Snapshot)
    (options : CaptureOptions) : (manager.sanitize snapshot options).metadata = snapshot.metadata := by
  unfold sanitize
  cases manager.sanitizer with
  | none => rfl
  | some sanitizer =>
      dsimp only
      split <;> rfl

theorem captureMetadata_inv {manager : SnapshotManager} {s s' : σ} {c c' : Connection}
    {metadata : SnapshotMetadata}
    (h : manager.captureMetadata.run.run (handler around) (s, c) = some (.ok metadata, (s', c'))) :
    Captured around c { metadata } c' := by
  obtain ⟨id, ⟨s₁, c₁⟩, hid, h⟩ := run_except_bind_inv h
  obtain ⟨created, ⟨s₂, c₂⟩, hnow, h⟩ := run_except_bind_inv h
  obtain ⟨host, ⟨s₃, c₃⟩, hhost, h⟩ := run_except_bind_inv h
  cases h
  have hulid := direct_inv hid
  have hclock := direct_inv hnow
  obtain ⟨ulids, hsame⟩ := (observing_firstSet _).sameBut hhost
  cases hulid
  cases hclock
  rw [hsame]
  exact ⟨rfl, rfl, ⟨_, rfl⟩, rfl, rfl⟩

theorem capture_inv {manager : SnapshotManager} {options : CaptureOptions} {s s' : σ}
    {c c' : Connection} {snapshot : Snapshot}
    (h : (manager.capture options).run.run (handler around) (s, c) = some (.ok snapshot, (s', c'))) :
    Captured around c snapshot c' := by
  obtain ⟨started, ⟨s₁, c₁⟩, hstarted, h⟩ := run_except_bind_inv h
  obtain ⟨observed, ⟨s₂, c₂⟩, hobserved, h⟩ := run_except_bind_inv h
  obtain ⟨metadata, ⟨s₃, c₃⟩, hmetadata, h⟩ := run_except_bind_inv h
  obtain ⟨finished, ⟨s₄, c₄⟩, hfinished, h⟩ := run_except_bind_inv h
  cases h
  obtain ⟨_, rfl⟩ := (observing_platformCall _).sameBut hstarted
  obtain ⟨_, rfl⟩ := (observing_observe manager options).sameBut hobserved
  obtain ⟨_, rfl⟩ := (observing_platformCall _).sameBut hfinished
  have hcaptured := captureMetadata_inv hmetadata
  exact {
    tables := hcaptured.tables
    readings := hcaptured.readings
    id := by
      rw [sanitize_metadata]
      exact hcaptured.id
    createdAt := by
      rw [sanitize_metadata]
      exact hcaptured.createdAt
    favorite := by
      rw [sanitize_metadata]
      exact hcaptured.favorite }

/-! ### What retention leaves -/

/-- The ids of the environment are those that `generate_ulid` makes. -/
def MakesUlids (env : Storage.Environment) : Prop :=
  ∀ n, ∃ time randomHi randomLo, env.ulid n = generateUlid time randomHi randomLo

theorem length_base32 (count : Nat) (value : UInt64) : (base32 count value).length = count := by
  induction count generalizing value with
  | zero => rfl
  | succ count ih => simp [base32, ih]

theorem MakesUlids.ne_nil {env : Storage.Environment} (h : MakesUlids env) (n : Nat) :
    env.ulid n ≠ [] := by
  obtain ⟨time, randomHi, randomLo, hulid⟩ := h n
  intro hempty
  have hlength := congrArg List.length (hulid.symm.trans hempty)
  simp [generateUlid, length_base32, kTimestampChars] at hlength

variable {manager : SnapshotManager} {options : CaptureOptions} {s s' : σ} {c c' : Connection}
  {snapshot : Snapshot}

/-- The clock when retention runs: behind the reading of the capture there is one for every tab. -/
def pruneTime (env : Storage.Environment) (c : Connection) (snapshot : Snapshot) : Timestamp :=
  env.clock (c.readings + 1 + snapshot.tabCount)

/-- The row of a capture that was stored is there exactly when it outlives the prune behind it. -/
theorem stored_iff_outlives (hulids : MakesUlids around.storage)
    (hworks : ∀ n, around.storage.fault n = none)
    (h : (manager.captureAndStore options).run.run (handler around) (s, c)
      = some (.ok snapshot, (s', c'))) :
    c'.locked = false
      ∧ ((∃ row ∈ c'.tables .snapshots, row "id" = .text snapshot.metadata.id)
        ↔ Outlives manager.pruneQuery (pruneTime around.storage c snapshot)
          (around.storage.clock c.readings) (c.tables .snapshots)) := by
  obtain ⟨captured, ⟨s₁, c₁⟩, hcapture, h⟩ := run_except_bind_inv h
  obtain ⟨_, ⟨s₂, c₂⟩, hinsert, h⟩ := run_except_bind_inv h
  obtain ⟨_, ⟨s₃, c₃⟩, hprune, h⟩ := run_except_bind_inv h
  cases h
  have hcaptured := capture_inv hcapture
  have hid : snapshot.metadata.id ≠ [] := by
    obtain ⟨n, hn⟩ := hcaptured.id
    rw [hn]
    exact hulids.ne_nil n
  obtain ⟨id, hinsert⟩ := discard_inv hinsert
  have hstored : (Storage.insert snapshot).run.run (Storage.handler around.storage) c₁
      = some (.ok id, c₂) := repository_inv hinsert
  obtain ⟨hfree, hauto, hrows, hfresh, hreadings⟩ := Storage.insert_inv hid hstored
  obtain ⟨count, c₄, hpruned, htables, hunlocked⟩ :=
    Storage.prune_run hworks hfree hauto manager.pruneQuery
  have hlast : c₄ = c' := by
    obtain ⟨result, hattempt⟩ := discard_inv hprune
    have hsame : (Storage.prune manager.pruneQuery).run.run (Storage.handler around.storage) c₂
        = some (result, c') := repository_inv (attempt_inv hattempt)
    rw [hpruned] at hsame
    cases hsame
    rfl
  rw [← hlast]
  refine ⟨hunlocked, ?_⟩
  have hclock : around.storage.clock c₂.readings = pruneTime around.storage c snapshot := by
    rw [hreadings, hcaptured.readings]
    rfl
  have hprunable : Storage.prunable manager.pruneQuery (Storage.snapshotRow snapshot) = true := by
    rw [Storage.prunable, Storage.snapshotRow_favorite, hcaptured.favorite]
    rfl
  rw [hcaptured.tables] at hrows hfresh
  rw [htables, hclock, Storage.left_iff_outlives hrows hfresh hprunable, hcaptured.createdAt]

/-- **Captures and pruning.** A capture that was stored can be loaded immediately afterwards exactly
when its row outlives the prune that runs behind the insert. -/
theorem captureAndStore_loads_iff (hulids : MakesUlids around.storage)
    (hworks : ∀ n, around.storage.fault n = none)
    (h : (manager.captureAndStore options).run.run (handler around) (s, c)
      = some (.ok snapshot, (s', c'))) :
    (∃ loaded c'', (Storage.load snapshot.metadata.id).run.run (Storage.handler around.storage) c'
        = some (.ok loaded, c''))
      ↔ Outlives manager.pruneQuery (pruneTime around.storage c snapshot)
        (around.storage.clock c.readings) (c.tables .snapshots) := by
  obtain ⟨hfree, hstored⟩ := stored_iff_outlives hulids hworks h
  rw [Storage.load_succeeds_iff hworks hfree]
  exact hstored

end Runs

/-! ### A full library -/

/-- A desktop without windows. -/
def emptyDesk : (op : Hal.Op) → Unit → Option (Hal.Answer op × Unit)
  | .enumerateDisplays, s => some (.ok [], s)
  | .enumerateWindows _, s => some (.ok [], s)
  | .steadyNow, s => some ((0 : Int64), s)
  | _, _ => none

/-- Its clock says one second after the epoch. -/
def oneSecond : Surroundings Unit :=
  { hal := emptyDesk
    storage :=
      { clock := fun _ => 1000000000
        ulid := fun n => generateUlid 0 0 (UInt64.ofNat n) } }

/-- One snapshot is kept. -/
def keepsOne : SnapshotManager := { config := { storage := { maxSnapshots := 1 } } }

/-- A library with a snapshot from another machine, whose clock was two seconds past the epoch. -/
def importedLibrary : Connection :=
  { tables := Function.update (fun _ => []) .snapshots [Storage.snapshotRow
      { metadata := { id := str "01ARZ3NDEKTSV4RRFFQ69G5FAV", createdAt := 2000000000 } }] }

theorem oneSecond_ulids : MakesUlids oneSecond.storage := fun n => ⟨0, 0, UInt64.ofNat n, rfl⟩

theorem capture_importedLibrary :
    ∃ snapshot c', (keepsOne.captureAndStore {}).run.run (handler oneSecond) ((), importedLibrary)
      = some (.ok snapshot, ((), c')) := by
  have hstored : ((keepsOne.captureAndStore {}).run.run (handler oneSecond)
      ((), importedLibrary)).any (fun outcome => outcome.1.toOption.isSome) = true := by
    decide
  obtain ⟨⟨result, ⟨⟩, c'⟩, hrun, houtcome⟩ := (Option.any_eq_true _ _).mp hstored
  cases result with
  | error e => cases houtcome
  | ok snapshot => exact ⟨snapshot, c', hrun⟩

theorem captureAndStore_loads_iff_importedLibrary :
    MakesUlids oneSecond.storage ∧ (∀ n, oneSecond.storage.fault n = none)
      ∧ ∃ snapshot c', (keepsOne.captureAndStore {}).run.run (handler oneSecond)
          ((), importedLibrary) = some (.ok snapshot, ((), c'))
        ∧ ((∃ loaded c'', (Storage.load snapshot.metadata.id).run.run
            (Storage.handler oneSecond.storage) c' = some (.ok loaded, c''))
          ↔ Outlives keepsOne.pruneQuery (pruneTime oneSecond.storage importedLibrary snapshot)
            (oneSecond.storage.clock importedLibrary.readings)
            (importedLibrary.tables .snapshots)) := by
  refine ⟨oneSecond_ulids, fun _ => rfl, ?_⟩
  obtain ⟨snapshot, c', hrun⟩ := capture_importedLibrary
  exact ⟨snapshot, c', hrun, captureAndStore_loads_iff oneSecond_ulids (fun _ => rfl) hrun⟩

/-- The newer snapshot of the other machine is kept, and the capture is gone. -/
theorem not_captureAndStore_loads :
    ∃ snapshot c', (keepsOne.captureAndStore {}).run.run (handler oneSecond) ((), importedLibrary)
        = some (.ok snapshot, ((), c'))
      ∧ ¬ ∃ loaded c'', (Storage.load snapshot.metadata.id).run.run
        (Storage.handler oneSecond.storage) c' = some (.ok loaded, c'') := by
  obtain ⟨snapshot, c', hrun⟩ := capture_importedLibrary
  refine ⟨snapshot, c', hrun, ?_⟩
  obtain ⟨hfree, hstored⟩ := stored_iff_outlives oneSecond_ulids (fun _ => rfl) hrun
  rw [Storage.load_succeeds_iff (fun _ => rfl) hfree, hstored]
  rintro ⟨-, hmax | hrivals⟩
  · exact absurd hmax (by decide)
  · have hone : Storage.rivals keepsOne.pruneQuery 1000000000 1000000000
        (importedLibrary.tables .snapshots) = 1 := by
      decide
    exact absurd (hrivals.trans_eq (by decide)) (hone ▸ lt_irrefl 1)

end ContextSnap.SnapshotManager
