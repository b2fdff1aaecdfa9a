import ContextSnap.Daemon.ConfigRequests
import ContextSnap.Proof.ConfigFile

/-!
# Changing the settings

A request that is rejected should leave everything as it was, and one that is accepted should
outlast the daemon. The level of the log is set before the request is checked, and the file is
stored under an empty path, which nothing can be written to.
-/

namespace ContextSnap.Daemon

open ConfigFile (ofText_toText)
open Json (Value)

/-! ### Rejected and accepted requests -/

section AllOrNothing

variable {params : Value} {settings : Settings}

/-- An outcome either leaves configuration and level as they were, or both are what it reports. -/
structure AllOrNothing (settings : Settings) (outcome : Result Reply × Settings) : Prop where
  rejected : ∀ e, outcome.1 = .error e →
    outcome.2.config = settings.config ∧ outcome.2.level = settings.level
  accepted : ∀ reply, outcome.1 = .ok reply →
    reply.result = configToJson outcome.2.config ∧ outcome.2.level = outcome.2.config.logLevel

theorem setConfig_of_invalid {e : Error}
    (h : (configFrom params settings.config).validate settings.host = .error e) :
    (setConfig params settings).1 = .error e
      ∧ (setConfig params settings).2.config = settings.config
      ∧ (setConfig params settings).2.level
        = (if params.contains (str "log_level") then (configFrom params settings.config).logLevel
          else settings.level) := by
  unfold setConfig
  dsimp only
  rw [h]
  exact ⟨rfl, rfl, rfl⟩

theorem setConfig_of_valid (h : (configFrom params settings.config).validate settings.host = .ok ()) :
    (setConfig params settings).1 = .ok {
        result := configToJson (configFrom params settings.config)
        published := [configChanged (configFrom params settings.config)] }
      ∧ (setConfig params settings).2.config = configFrom params settings.config
      ∧ (setConfig params settings).2.level
        = (if params.contains (str "log_level") then (configFrom params settings.config).logLevel
          else settings.level) := by
  unfold setConfig
  dsimp only
  rw [h]
  exact ⟨rfl, rfl, rfl⟩

theorem configFrom_logLevel (h : params.contains (str "log_level") = false) (config : Config) :
    (configFrom params config).logLevel = config.logLevel := by
  simp [configFrom, h]

theorem validate_eq_ok_iff {host : ConfigHost} {config : Config} :
    config.validate host = .ok ()
      ↔ config.storage.databasePath ≠ []
        ∧ ¬(host.withSqlcipher = false ∧ config.storage.encrypt = true)
        ∧ ¬config.ipc.maxFrameBytes < 64 * 1024
        ∧ ¬(config.capture.autoCapture = true ∧ config.capture.autoCaptureIntervalMinutes = 0)
        ∧ ¬(config.privacy.domainAllowlist ≠ [] ∧ config.privacy.domainDenylist ≠ []) := by
  unfold Config.validate
  constructor
  · intro h
    split_ifs at h with hpath hcipher hframe hinterval hlists
    exact ⟨hpath, hcipher, hframe, hinterval, hlists⟩
  · rintro ⟨hpath, hcipher, hframe, hinterval, hlists⟩
    rw [if_neg hpath, if_neg hcipher, if_neg hframe, if_neg hinterval, if_neg hlists]

/-- Of what a request can change only the interval of automatic captures is checked. -/
theorem validate_configFrom_iff {host : ConfigHost} {config : Config}
    (hvalid : config.validate host = .ok ()) :
    (configFrom params config).validate host = .ok ()
      ↔ ¬((configFrom params config).capture.autoCapture = true
        ∧ (configFrom params config).capture.autoCaptureIntervalMinutes = 0) := by
  obtain ⟨hpath, hcipher, hframe, -, hlists⟩ := validate_eq_ok_iff.mp hvalid
  have hstorage : (configFrom params config).storage.databasePath = config.storage.databasePath
      ∧ (configFrom params config).storage.encrypt = config.storage.encrypt := by
    rw [configFrom]
    cases params.find (str "storage") <;> exact ⟨rfl, rfl⟩
  have hprivacy : (configFrom params config).privacy.domainAllowlist = config.privacy.domainAllowlist
      ∧ (configFrom params config).privacy.domainDenylist = config.privacy.domainDenylist := by
    rw [configFrom]
    cases params.find (str "privacy") <;> exact ⟨rfl, rfl⟩
  rw [validate_eq_ok_iff, hstorage.1, hstorage.2, hprivacy.1, hprivacy.2]
  constructor
  · exact fun h => h.2.2.2.1
  · exact fun h => ⟨hpath, hcipher, hframe, h, hlists⟩

end AllOrNothing

/-- Automatic captures without an interval, and another level of the log. -/
def everyZeroMinutes : Value :=
  .object [(str "capture", .object [(str "auto_capture", .bool true),
      (str "auto_capture_interval_minutes", .int 0)]),
    (str "log_level", .string (str "debug"))]

def freshSettings : Settings := { config := .withDefaults {}, level := .info, host := {} }

section Runs

variable {params : Value} {requests : List Value} {settings : Settings}

def settingsAfter (requests : List Value) (settings : Settings) : Settings :=
  requests.foldl (fun settings params => (setConfig params settings).2) settings

/-- Nothing is stored under the empty path. -/
theorem save_nil (config : Config) (host : ConfigHost) : (config.save host []).2 = host := by
  unfold Config.save
  cases host.ensureDirectory (parentPath []) with
  | error e => rfl
  | ok created => rfl

theorem setConfig_host (params : Value) (settings : Settings) :
    (setConfig params settings).2.host = settings.host := by
  unfold setConfig
  dsimp only
  cases (configFrom params settings.config).validate settings.host with
  | error e => rfl
  | ok valid => exact save_nil _ _

/-- However many requests there are, the file is as it was before the first one. -/
theorem settingsAfter_host (requests : List Value) (settings : Settings) :
    (settingsAfter requests settings).host = settings.host := by
  induction requests generalizing settings with
  | nil => rfl
  | cons params requests ih =>
      change (settingsAfter requests (setConfig params settings).2).host = settings.host
      rw [ih, setConfig_host]

theorem AllOrNothing.level_eq (h : AllOrNothing settings (setConfig params settings))
    (hlevel : settings.level = settings.config.logLevel) :
    (setConfig params settings).2.level = (setConfig params settings).2.config.logLevel := by
  cases hvalid : (configFrom params settings.config).validate settings.host with
  | error e =>
      have hkept := h.rejected e (setConfig_of_invalid hvalid).1
      rw [hkept.1, hkept.2, hlevel]
  | ok valid => exact (h.accepted _ (setConfig_of_valid hvalid).1).2

/-- The log has the level of the configuration, as long as no rejected request names another. -/
theorem settingsAfter_level (hlevel : settings.level = settings.config.logLevel)
    (hrun : ∀ front params back, requests = front ++ params :: back →
      AllOrNothing (settingsAfter front settings)
        (setConfig params (settingsAfter front settings))) :
    (settingsAfter requests settings).level = (settingsAfter requests settings).config.logLevel := by
  induction requests using List.reverseRecOn with
  | nil => exact hlevel
  | append_singleton front params ih =>
      have hfront := ih fun before p behind hsplit =>
        hrun before p (behind ++ [params]) (by rw [hsplit, List.append_assoc]; rfl)
      have hlast := (hrun front params [] rfl).level_eq hfront
      rw [settingsAfter, List.foldl_append]
      exact hlast

end Runs

/-! ### The next start -/

/-- The settings of a configuration that a report shows and a request is about. -/
def shownSettings (config : Config) :=
  ((config.storage.databasePath, config.storage.encrypt, config.storage.retentionDays,
      config.storage.maxSnapshots),
    (config.capture.autoCapture, config.capture.autoCaptureIntervalMinutes,
      config.capture.includeMinimized, config.capture.includeIncognito,
      config.capture.browserTimeoutMs),
    (config.restore.launchMissingApps, config.restore.lazyLoadTabs, config.restore.restoreCursor,
      config.restore.restoreZOrder),
    config.privacy.sanitizeUrls, config.logLevel)

/-- The sections of a report that are about these settings. -/
def shownSections : List Bytes :=
  [str "storage", str "capture", str "restore", str "privacy", str "log_level"]

/-- The next start reads what was reported. -/
def Survives (reported : Value) (host : ConfigHost) : Prop :=
  ∃ loaded, Config.load host [] = .ok loaded
    ∧ ∀ name ∈ shownSections, (configToJson loaded).find name = reported.find name

theorem uint32Value_inj {a b : UInt32} : uint32Value a = uint32Value b ↔ a = b := by
  constructor
  · intro h
    have hint : a.toUInt64.toInt64 = b.toUInt64.toInt64 := by
      simpa [uint32Value] using h
    have hback := congrArg (fun i : Int64 => i.toUInt64.toUInt32) hint
    simpa using hback
  · rintro rfl
    rfl

theorem logLevel_toText_inj {a b : LogLevel} : a.toText = b.toText ↔ a = b := by
  constructor
  · intro htext
    have hlevel := congrArg (fun text => LogLevel.ofText (str text)) htext
    rwa [ofText_toText, ofText_toText] at hlevel
  · rintro rfl
    rfl

theorem forall_mem_shownSections {P : Bytes → Prop} :
    (∀ name ∈ shownSections, P name)
      ↔ P (str "storage") ∧ P (str "capture") ∧ P (str "restore") ∧ P (str "privacy")
        ∧ P (str "log_level") := by
  simp [shownSections]

/-- Reports are the same in these sections exactly for the same settings. -/
theorem forall_shownSections_iff (a b : Config) :
    (∀ name ∈ shownSections, (configToJson a).find name = (configToJson b).find name)
      ↔ shownSettings a = shownSettings b := by
  have hsections : (∀ name ∈ shownSections, (configToJson a).find name = (configToJson b).find name)
      ↔ some (storageToJson a.storage) = some (storageToJson b.storage)
        ∧ some (captureToJson a.capture) = some (captureToJson b.capture)
        ∧ some (restoreToJson a.restore) = some (restoreToJson b.restore)
        ∧ some (Value.object [(str "sanitize_urls", .bool a.privacy.sanitizeUrls)])
          = some (Value.object [(str "sanitize_urls", .bool b.privacy.sanitizeUrls)])
        ∧ some (Value.string (str a.logLevel.toText)) = some (Value.string (str b.logLevel.toText)) :=
    forall_mem_shownSections
  rw [hsections]
  simp [storageToJson, captureToJson, restoreToJson, uint32Value_inj, logLevel_toText_inj,
    shownSettings]

/-- **Settings across a restart.** What an accepted request reports is read by the next start exactly
if the file, or the defaults without one, said the same before the request. -/
theorem survives_setConfig_iff (params : Value) (settings : Settings) {reply : Reply}
    (haccepted : (setConfig params settings).1 = .ok reply) :
    Survives reply.result (setConfig params settings).2.host
      ↔ ∃ stored, Config.load settings.host [] = .ok stored
        ∧ shownSettings stored = shownSettings (configFrom params settings.config) := by
  have hresult : reply.result = configToJson (configFrom params settings.config) := by
    cases hvalid : (configFrom params settings.config).validate settings.host with
    | error e =>
        rw [(setConfig_of_invalid hvalid).1] at haccepted
        cases haccepted
    | ok valid =>
        rw [(setConfig_of_valid hvalid).1] at haccepted
        rw [← Except.ok.inj haccepted]
  rw [Survives, hresult, setConfig_host]
  apply exists_congr
  intro stored
  rw [forall_shownSections_iff]

/-- A week of retention. -/
def sevenDays : Value :=
  .object [(str "storage", .object [(str "retention_days", .int 7)])]

theorem sevenDays_valid :
    (configFrom sevenDays freshSettings.config).validate freshSettings.host = .ok () :=
  validate_eq_ok_iff.mpr (by decide)

theorem survives_sevenDays :
    Survives (configToJson (configFrom sevenDays freshSettings.config))
        (setConfig sevenDays freshSettings).2.host
      ↔ ∃ stored, Config.load freshSettings.host [] = .ok stored
        ∧ shownSettings stored = shownSettings (configFrom sevenDays freshSettings.config) :=
  survives_setConfig_iff sevenDays freshSettings (setConfig_of_valid sevenDays_valid).1

/-- The daemon keeps a week, and three months after its next start. -/
theorem not_survives_setConfig :
    ¬∀ (params : Value) (settings : Settings) (reply : Reply),
      (∀ path, settings.host.ensureDirectory path = .ok ()) →
      (∀ path, settings.host.writable path = true) → (∀ name, settings.host.env name = []) →
      (setConfig params settings).1 = .ok reply →
      Survives reply.result (setConfig params settings).2.host := by
  intro h
  have hsurvives := h sevenDays freshSettings _ (fun _ => rfl) (fun _ => rfl) (fun _ => rfl)
    (setConfig_of_valid sevenDays_valid).1
  rw [setConfig_host] at hsurvives
  obtain ⟨loaded, hload, hreport⟩ := hsurvives
  have hdefaults : Config.load freshSettings.host [] = .ok freshSettings.config := rfl
  obtain rfl := Except.ok.inj (hdefaults.symm.trans hload)
  have hshown := (forall_shownSections_iff _ _).mp hreport
  have hdays := congrArg (fun shown => shown.1.2.2.1) hshown
  revert hdays
  decide

end ContextSnap.Daemon
