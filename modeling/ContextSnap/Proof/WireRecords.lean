import ContextSnap.Ipc.Replies
import ContextSnap.Proof.RestoreSelectors

/-!
# Records on the wire

The client writes what the daemon reads and the other way round, in different files and with members
left out where they say nothing. Each of the four records comes back as it was.
-/

namespace ContextSnap.Ipc

open Json (Value kMaxDepth)
open Storage

/-- What is read from the text of a value. -/
def readBack {α : Type} (read : Value → α) (value : Value) (indent : Int) : Result α :=
  (Json.parse (value.dump indent)).map read

theorem readBack_eq {α : Type} (read : Value → α) {value : Value} (indent : Int)
    (hdoubles : value.doubles = []) (hdepth : value.depth ≤ kMaxDepth) :
    readBack read value indent = .ok (read value) := by
  rw [readBack, show Json.parse (value.dump indent) = .ok value from
    Json.parse_serialize value indent hdepth hdoubles]
  rfl

/-! ### Replies -/

theorem stringList_stringsToJson {value : Value} {key : String} {values : List Bytes}
    (h : value.find (str key) = some (stringsToJson values)) : stringList value key = values := by
  rw [stringList, h]
  exact stringsFromJson_stringsToJson values

section Summary

variable (summary : SnapshotSummary)

theorem summaryFromJson_summaryToJson (h : WholeMillis summary.createdAt) :
    summaryFromJson (summaryToJson summary) = summary := by
  have htags : stringList (summaryToJson summary) "tags" = summary.tags :=
    stringList_stringsToJson (by simp [summaryToJson])
  have hcreated : timestampField (summaryToJson summary) "created_at" = summary.createdAt := by
    simp [timestampField, summaryToJson, timestampOr, parseTimestamp_formatTimestamp h]
  rw [summaryFromJson, htags, hcreated]
  simp [summaryToJson, stringField, unsignedField, boolField]

theorem doubles_summaryToJson : (summaryToJson summary).doubles = [] := by
  simp [summaryToJson, Value.doubles, Json.doublesOfMembers, doubles_stringsToJson]

theorem depth_summaryToJson : (summaryToJson summary).depth ≤ 2 := by
  have htags := depth_stringsToJson summary.tags
  simp only [summaryToJson, Value.depth, Json.depthOfMembers]
  omega

end Summary

section Report

variable (report : RestoreReport)

theorem reportFromJson_reportToJson : reportFromJson (reportToJson report) = report := by
  have hwarnings : stringList (reportToJson report) "warnings" = report.warnings :=
    stringList_stringsToJson (by simp [reportToJson])
  have herrors : stringList (reportToJson report) "errors" = report.errors :=
    stringList_stringsToJson (by simp [reportToJson])
  rw [reportFromJson, hwarnings, herrors]
  simp [reportToJson, stringField, unsignedField]

theorem doubles_reportToJson : (reportToJson report).doubles = [] := by
  simp [reportToJson, Value.doubles, Json.doublesOfMembers, doubles_stringsToJson]

theorem depth_reportToJson : (reportToJson report).depth ≤ 2 := by
  have hwarnings := depth_stringsToJson report.warnings
  have herrors := depth_stringsToJson report.errors
  simp only [reportToJson, Value.depth, Json.depthOfMembers]
  omega

end Report

section Plan

theorem stepKind_ofByte_toByte (kind : RestoreStepKind) :
    RestoreStepKind.ofByte kind.toByte = some kind := by
  cases kind <;> rfl

theorem stepFromJson_stepToJson (step : RestoreStep) :
    stepFromJson (stepToJson step) = some step := by
  have hkind : ((stepToJson step).find (str "kind")).elim 0 (·.asInt 0)
      = step.kind.toByte.toUInt64.toInt64 := by
    simp [stepToJson]
  have hreason : stringField (stepToJson step) "skip_reason" = step.skipReason := by
    by_cases hempty : step.skipReason = [] <;> simp [stringField, stepToJson, hempty]
  rw [stepFromJson, hkind, hreason]
  simp [stepKind_ofByte_toByte, stepToJson, stringField, boolField]

theorem mapM_stepFromJson (steps : List RestoreStep) :
    (steps.map stepToJson).mapM stepFromJson = some steps := by
  induction steps with
  | nil => rfl
  | cons step steps ih => simp [stepFromJson_stepToJson, ih]

theorem planFromJson_planToJson (plan : RestorePlan) :
    planFromJson (planToJson plan) = some plan := by
  have hsteps : itemsOf (planToJson plan) "steps" = plan.steps.map stepToJson := by
    simp [itemsOf, planToJson, Value.asArray]
  have hwarnings : stringList (planToJson plan) "warnings" = plan.warnings :=
    stringList_stringsToJson (by simp [planToJson])
  rw [planFromJson, hsteps, mapM_stepFromJson, hwarnings]
  simp [planToJson, stringField, unsignedField]

theorem doubles_stepToJson (step : RestoreStep) : (stepToJson step).doubles = [] := by
  rw [stepToJson]
  split <;> simp [Value.doubles, Json.doublesOfMembers]

theorem depth_stepToJson (step : RestoreStep) : (stepToJson step).depth ≤ 1 := by
  rw [stepToJson]
  split <;> simp [Value.depth, Json.depthOfMembers]

theorem doubles_planToJson (plan : RestorePlan) : (planToJson plan).doubles = [] := by
  simp [planToJson, Value.doubles, Json.doublesOfMembers, doubles_stringsToJson,
    Json.doublesOfItems_eq, doubles_stepToJson]

theorem depth_planToJson (plan : RestorePlan) : (planToJson plan).depth ≤ 3 := by
  have hwarnings := depth_stringsToJson plan.warnings
  have hsteps : Json.depthOfItems (plan.steps.map stepToJson) ≤ 1 := by
    apply Json.depthOfItems_le
    intro item hitem
    obtain ⟨step, -, rfl⟩ := List.mem_map.mp hitem
    exact depth_stepToJson step
  simp only [planToJson, Value.depth, Json.depthOfMembers]
  omega

end Plan

/-! ### Restore requests -/

section Restore

open Daemon (restoreOptionsFrom boolParam positiveParam intParam)

/-- A kind is spelled as the constructor that its byte has. -/
def KindsSpelled (options : RestoreOptions) : Prop :=
  ∀ selector ∈ options.selectors, SelectorKind.ofByte selector.kind.toByte = selector.kind

/-- Timeouts and the number of launches are positive. -/
structure Positive (options : RestoreOptions) : Prop where
  appLaunchTimeout : 0 < options.appLaunchTimeout
  windowSettleTimeout : 0 < options.windowSettleTimeout
  maxParallelLaunches : 0 < options.maxParallelLaunches

variable (snapshotId : Bytes) (options : RestoreOptions)

/-- The members that are always there. -/
def restoreMembers : Json.Object :=
  [(str "snapshot_id", .string snapshotId),
    (str "launch_missing_apps", .bool options.launchMissingApps),
    (str "restore_tabs", .bool options.restoreTabs),
    (str "lazy_load_tabs", .bool options.lazyLoadTabs),
    (str "restore_cursor", .bool options.restoreCursor),
    (str "restore_focus", .bool options.restoreFocus),
    (str "restore_z_order", .bool options.restoreZOrder),
    (str "restore_workspaces", .bool options.restoreWorkspaces),
    (str "close_conflicting_windows", .bool options.closeConflictingWindows),
    (str "dry_run", .bool options.dryRun),
    (str "app_launch_timeout_ms", .int options.appLaunchTimeout),
    (str "window_settle_timeout_ms", .int options.windowSettleTimeout),
    (str "max_parallel_launches", .int options.maxParallelLaunches.toUInt64.toInt64)]

theorem selectorParam_eq (selector : RestoreSelector) :
    selectorParam selector = .object
      [(str "kind", .int selector.kind.toByte.toUInt64.toInt64),
        (str "pattern", .string selector.pattern)] := by
  simp [selectorParam, Value.set, Value.setMember, Value.asObject]

theorem restoreParams_eq :
    restoreParams snapshotId options = .object (restoreMembers snapshotId options
      ++ if options.selectors = [] then []
        else [(str "selectors", .array (options.selectors.map selectorParam))]) := by
  by_cases hempty : options.selectors = []
  · rw [restoreParams, if_pos hempty, if_pos hempty, List.append_nil]
    simp [restoreMembers, Value.set, Value.setMember, Value.asObject]
  · rw [restoreParams, if_neg hempty, if_neg hempty]
    simp [restoreMembers, Value.set, Value.setMember, Value.asObject]

theorem doubles_restoreParams : (restoreParams snapshotId options).doubles = [] := by
  have hselector : ∀ selector, (selectorParam selector).doubles = [] := by
    intro selector
    simp [selectorParam_eq, Value.doubles, Json.doublesOfMembers]
  rw [restoreParams_eq, restoreMembers]
  split <;> simp [Value.doubles, Json.doublesOfMembers, Json.doublesOfItems_eq, hselector]

theorem depth_restoreParams : (restoreParams snapshotId options).depth ≤ 3 := by
  have hselectors : Json.depthOfItems (options.selectors.map selectorParam) ≤ 1 := by
    apply Json.depthOfItems_le
    intro item hitem
    obtain ⟨selector, -, rfl⟩ := List.mem_map.mp hitem
    simp [selectorParam_eq, Value.depth, Json.depthOfMembers]
  rw [restoreParams_eq, restoreMembers]
  split <;> simp only [Value.depth, Json.depthOfMembers, List.cons_append, List.nil_append,
    List.append_nil] <;> omega

theorem find_restoreParams {key : String} {value : Value}
    (h : (Value.object (restoreMembers snapshotId options)).find (str key) = some value) :
    (restoreParams snapshotId options).find (str key) = some value := by
  rw [restoreParams_eq, Json.find_object_append, h]
  rfl

theorem boolParam_restoreParams {key : String} {b : Bool} (fallback : Bool)
    (h : (Value.object (restoreMembers snapshotId options)).find (str key) = some (.bool b)) :
    boolParam (restoreParams snapshotId options) (str key) fallback = b := by
  rw [boolParam, find_restoreParams _ _ h]
  rfl

theorem intParam_restoreParams {key : String} {i : Int64}
    (h : (Value.object (restoreMembers snapshotId options)).find (str key) = some (.int i)) :
    intParam (restoreParams snapshotId options) (str key) 0 = i := by
  rw [intParam, find_restoreParams _ _ h]
  rfl

variable {options}

theorem positive_uint32 {count : UInt32} (h : 0 < count) :
    count.toUInt64.toInt64 > 0 ∧ count.toUInt64.toInt64.toUInt64.toUInt32 = count := by
  refine ⟨?_, by simp⟩
  have hsigned : count.toUInt64.toInt64.toInt = count.toNat := by
    have htoInt : count.toUInt64.toInt64.toInt = if 2 * count.toUInt64.toNat < 2 ^ 64
        then (count.toUInt64.toNat : Int) else count.toUInt64.toNat - (2 ^ 64 : Nat) :=
      BitVec.toInt_eq_toNat_cond count.toUInt64.toBitVec
    have hbound := count.toNat_lt
    rw [htoInt, UInt32.toNat_toUInt64, if_pos (by omega)]
  have hcount := UInt32.lt_iff_toNat_lt.mp h
  rw [gt_iff_lt, Int64.lt_iff_toInt_lt, hsigned]
  exact Int.ofNat_lt.mpr hcount

/-- Every field is in the parameters, so the configuration does not show. -/
theorem restoreOptionsFrom_restoreParams_eq (config : Config) (hpositive : Positive options)
    (hspelled : KindsSpelled options) :
    restoreOptionsFrom (restoreParams snapshotId options) config = options := by
  have hselectors : Daemon.selectorsFrom (restoreParams snapshotId options)
      config.restoreOptions.selectors = options.selectors :=
    Daemon.restoreOptionsFrom_restoreParams snapshotId config hspelled
  have hflag : ∀ (key : String) (b fallback : Bool),
      (Value.object (restoreMembers snapshotId options)).find (str key) = some (.bool b) →
        boolParam (restoreParams snapshotId options) (str key) fallback = b :=
    fun key b fallback h => boolParam_restoreParams snapshotId options fallback h
  have htimeout : ∀ (key : String) (i fallback : Int64), 0 < i →
      (Value.object (restoreMembers snapshotId options)).find (str key) = some (.int i) →
        positiveParam (restoreParams snapshotId options) (str key) fallback = i := by
    intro key i fallback hi h
    rw [positiveParam, intParam_restoreParams snapshotId options h]
    exact if_pos hi
  have hparallel : intParam (restoreParams snapshotId options) (str "max_parallel_launches") 0
      = options.maxParallelLaunches.toUInt64.toInt64 :=
    intParam_restoreParams snapshotId options (by simp [restoreMembers])
  obtain ⟨hcount, hnarrowed⟩ := positive_uint32 hpositive.maxParallelLaunches
  rw [restoreOptionsFrom, hselectors, hparallel,
    hflag "launch_missing_apps" options.launchMissingApps _ (by simp [restoreMembers]),
    hflag "restore_tabs" options.restoreTabs _ (by simp [restoreMembers]),
    hflag "lazy_load_tabs" options.lazyLoadTabs _ (by simp [restoreMembers]),
    hflag "restore_cursor" options.restoreCursor _ (by simp [restoreMembers]),
    hflag "restore_focus" options.restoreFocus _ (by simp [restoreMembers]),
    hflag "restore_z_order" options.restoreZOrder _ (by simp [restoreMembers]),
    hflag "restore_workspaces" options.restoreWorkspaces _ (by simp [restoreMembers]),
    hflag "close_conflicting_windows" options.closeConflictingWindows _ (by simp [restoreMembers]),
    hflag "dry_run" options.dryRun _ (by simp [restoreMembers]),
    htimeout "app_launch_timeout_ms" options.appLaunchTimeout _ hpositive.appLaunchTimeout
      (by simp [restoreMembers]),
    htimeout "window_settle_timeout_ms" options.windowSettleTimeout _
      hpositive.windowSettleTimeout (by simp [restoreMembers])]
  simp only [if_pos hcount, hnarrowed]

end Restore

/-- **Records on the wire.** What the other side reads from the text of a restore request, a plan, a
report or a summary is what was written, whatever the indentation. -/
theorem wire_records (indent : Int) :
    (∀ (snapshotId : Bytes) (options : RestoreOptions) (config : Config), Positive options →
      KindsSpelled options →
        readBack (Daemon.restoreOptionsFrom · config) (restoreParams snapshotId options) indent
          = .ok options)
      ∧ (∀ plan : RestorePlan, readBack planFromJson (planToJson plan) indent = .ok (some plan))
      ∧ (∀ report : RestoreReport, readBack reportFromJson (reportToJson report) indent = .ok report)
      ∧ ∀ summary : SnapshotSummary, WholeMillis summary.createdAt →
        readBack summaryFromJson (summaryToJson summary) indent = .ok summary := by
  refine ⟨fun snapshotId options config hpositive hspelled => ?_, fun plan => ?_, fun report => ?_,
    fun summary hcreated => ?_⟩
  · have hdepth := (depth_restoreParams snapshotId options).trans (show 3 ≤ kMaxDepth by decide)
    rw [readBack_eq _ indent (doubles_restoreParams snapshotId options) hdepth,
      restoreOptionsFrom_restoreParams_eq snapshotId config hpositive hspelled]
  · have hdepth := (depth_planToJson plan).trans (show 3 ≤ kMaxDepth by decide)
    rw [readBack_eq _ indent (doubles_planToJson plan) hdepth, planFromJson_planToJson]
  · have hdepth := (depth_reportToJson report).trans (show 2 ≤ kMaxDepth by decide)
    rw [readBack_eq _ indent (doubles_reportToJson report) hdepth, reportFromJson_reportToJson]
  · have hdepth := (depth_summaryToJson summary).trans (show 2 ≤ kMaxDepth by decide)
    rw [readBack_eq _ indent (doubles_summaryToJson summary) hdepth,
      summaryFromJson_summaryToJson summary hcreated]

/-- Options with a selector, a plan with a step that is skipped and a summary of 2025. -/
theorem wire_records_selected :
    readBack (Daemon.restoreOptionsFrom · { restore := { maxParallelLaunches := 9 } })
        (restoreParams (str "01J8") { selectors := [⟨.app, str "code"⟩], restoreTabs := false }) 2
        = .ok { selectors := [⟨.app, str "code"⟩], restoreTabs := false }
      ∧ readBack planFromJson (planToJson { steps := [{ skipped := true, skipReason := [7] }] }) 2
        = .ok (some { steps := [{ skipped := true, skipReason := [7] }] })
      ∧ readBack summaryFromJson (summaryToJson { createdAt := 1757310000123000000 }) 2
        = .ok { createdAt := 1757310000123000000 } := by
  obtain ⟨hrequest, hplan, -, hsummary⟩ := wire_records 2
  have hspelled : KindsSpelled { selectors := [⟨.app, str "code"⟩], restoreTabs := false } := by
    intro selector hselector
    rw [List.mem_singleton.mp hselector]
    rfl
  exact ⟨hrequest _ _ _ ⟨by decide, by decide, by decide⟩ hspelled, hplan _, hsummary _ (by decide)⟩

end ContextSnap.Ipc
