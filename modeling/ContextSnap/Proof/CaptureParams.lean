import ContextSnap.Proof.JsonRoundTrip
import ContextSnap.Proof.RestoreSelectors

/-!
# Capture options on the wire

The client leaves empty members out, and for members that are missing the daemon takes what its
configuration says. For names and tags that is nothing, for the exclusions it need not be.
-/

namespace ContextSnap.Daemon

open Ipc (captureParams setUnlessEmpty)
open Json (Value)

/-! ### Objects that grow -/

section Members

variable {object value : Value} {key name : Bytes} {α : Type} {items : List α}

theorem find_setUnlessEmpty :
    (setUnlessEmpty object key items value).find name
      = if key = name ∧ items ≠ [] then some value else object.find name := by
  cases items with
  | nil => simp [setUnlessEmpty]
  | cons item items => simp [setUnlessEmpty, find_set]

/-- A document without doubles that is not deep. -/
structure Flat (value : Value) : Prop where
  depth : value.depth ≤ 2
  doubles : value.doubles = []

theorem depthOfMembers_setMember (members : Json.Object) :
    Json.depthOfMembers (Value.setMember key value members)
      ≤ max (Json.depthOfMembers members) value.depth := by
  induction members with
  | nil => simp [Value.setMember, Json.depthOfMembers]
  | cons member members ih =>
      rw [Value.setMember]
      split <;> simp only [Json.depthOfMembers] at * <;> omega

theorem doublesOfMembers_setMember {members : Json.Object}
    (h : Json.doublesOfMembers members = []) (hvalue : value.doubles = []) :
    Json.doublesOfMembers (Value.setMember key value members) = [] := by
  induction members with
  | nil => simp [Value.setMember, Json.doublesOfMembers, hvalue]
  | cons member members ih =>
      simp only [Json.doublesOfMembers, List.append_eq_nil_iff] at h
      rw [Value.setMember]
      split
      · simp [Json.doublesOfMembers, hvalue, h.2]
      · simp [Json.doublesOfMembers, h.1, ih h.2]

theorem flat_set {object : Value} (h : Flat object) (key : Bytes) (hdepth : value.depth ≤ 1)
    (hdoubles : value.doubles = []) : Flat (object.set key value) := by
  have hset : ∀ {members : Json.Object}, Json.depthOfMembers members ≤ 1 →
      Json.doublesOfMembers members = [] →
      Flat (.object (Value.setMember key value members)) := by
    intro members hbefore hnone
    have hmembers := @depthOfMembers_setMember value key members
    refine ⟨?_, doublesOfMembers_setMember hnone hdoubles⟩
    change Json.depthOfMembers (Value.setMember key value members) + 1 ≤ 2
    omega
  cases object with
  | object members => exact hset (Nat.le_of_succ_le_succ h.depth) h.doubles
  | _ => exact hset (Nat.zero_le 1) rfl

theorem flat_setUnlessEmpty (h : Flat object) (key : Bytes) (items : List α)
    (hdepth : value.depth ≤ 1) (hdoubles : value.doubles = []) :
    Flat (setUnlessEmpty object key items value) := by
  cases items with
  | nil => exact h
  | cons item items => exact flat_set h key hdepth hdoubles

theorem flat_foldl_set {pairs : List (Bytes × Value)} (h : Flat object)
    (hpairs : ∀ pair ∈ pairs, pair.2.depth ≤ 1 ∧ pair.2.doubles = []) :
    Flat (pairs.foldl (fun params (key, value) => params.set key value) object) := by
  induction pairs generalizing object with
  | nil => exact h
  | cons pair pairs ih =>
      have hpair := hpairs pair (by simp)
      exact ih (flat_set h pair.1 hpair.1 hpair.2)
        fun pair' hpair' => hpairs pair' (List.mem_cons_of_mem _ hpair')

end Members

/-! ### The wire -/

attribute [ext] CaptureOptions

variable {o : CaptureOptions}

theorem captureParams_flat (o : CaptureOptions) : Flat (captureParams o) := by
  have hlist : ∀ values, (Storage.stringsToJson values).depth ≤ 1
      ∧ (Storage.stringsToJson values).doubles = [] :=
    fun values => ⟨Storage.depth_stringsToJson values, Storage.doubles_stringsToJson values⟩
  have hname : (Value.string o.name).depth ≤ 1 := Nat.zero_le 1
  apply flat_setUnlessEmpty _ _ _ (hlist _).1 (hlist _).2
  apply flat_setUnlessEmpty _ _ _ (hlist _).1 (hlist _).2
  apply flat_setUnlessEmpty _ _ _ (hlist _).1 (hlist _).2
  apply flat_setUnlessEmpty _ _ _ hname rfl
  apply flat_foldl_set ⟨by decide, rfl⟩
  simp [Value.depth, Value.doubles]

/-- A list that is left out when it is empty. -/
theorem list_of_find {params : Value} {key : Bytes} {values : List Bytes}
    (h : params.find key = if values = [] then none else some (Storage.stringsToJson values))
    (fallback : List Bytes) :
    (if params.contains key then stringList params key else fallback)
      = if values = [] then fallback else values := by
  by_cases hempty : values = []
  · simp [Value.contains, h, hempty]
  · simp [Value.contains, stringList, h, hempty, Storage.stringsToJson, Function.comp_def,
      Value.asString]

theorem find_captureParams (o : CaptureOptions) (name : Bytes) :
    (captureParams o).find name
      = if str "excluded_url_patterns" = name ∧ o.excludedUrlPatterns ≠ [] then
          some (Storage.stringsToJson o.excludedUrlPatterns)
        else if str "excluded_app_ids" = name ∧ o.excludedAppIds ≠ [] then
          some (Storage.stringsToJson o.excludedAppIds)
        else if str "tags" = name ∧ o.tags ≠ [] then some (Storage.stringsToJson o.tags)
        else if str "name" = name ∧ o.name ≠ [] then some (.string o.name)
        else if str "browser_timeout_ms" = name then some (.int o.browserTimeout)
        else if str "automatic" = name then some (.bool o.automatic)
        else if str "sanitize_urls" = name then some (.bool o.sanitizeUrls)
        else if str "include_all_workspaces" = name then some (.bool o.includeAllWorkspaces)
        else if str "include_incognito" = name then some (.bool o.includeIncognito)
        else if str "include_cursor" = name then some (.bool o.includeCursor)
        else if str "include_minimized" = name then some (.bool o.includeMinimized)
        else if str "include_tabs" = name then some (.bool o.includeTabs)
        else none := by
  simp only [captureParams, find_setUnlessEmpty, List.foldl, find_set]
  rfl

/-- What the daemon reads from the members that the client sent. -/
theorem captureOptionsFrom_captureParams (config : Config) (htimeout : 0 < o.browserTimeout) :
    captureOptionsFrom (captureParams o) config
      = { o with
          excludedAppIds :=
            if o.excludedAppIds = [] then config.capture.excludedAppIds else o.excludedAppIds
          excludedUrlPatterns :=
            if o.excludedUrlPatterns = [] then config.capture.excludedUrlPatterns
            else o.excludedUrlPatterns } := by
  have hlist : ∀ {key : Bytes} {values : List Bytes} (fallback : List Bytes),
      (captureParams o).find key
        = (if values = [] then none else some (Storage.stringsToJson values)) →
      (if (captureParams o).contains key then stringList (captureParams o) key else fallback)
        = if values = [] then fallback else values := fun fallback h => list_of_find h fallback
  have hflag : ∀ {key : Bytes} {flag : Bool} (fallback : Bool),
      (captureParams o).find key = some (.bool flag) →
      boolParam (captureParams o) key fallback = flag := by
    intro key flag fallback h
    rw [boolParam, h]
    rfl
  have hname : stringParam (captureParams o) (str "name") [] = o.name := by
    by_cases hempty : o.name = [] <;>
      simp [stringParam, find_captureParams, str_inj, hempty, Value.asString]
  have htime : positiveParam (captureParams o) (str "browser_timeout_ms")
      config.captureOptions.browserTimeout = o.browserTimeout := by
    simp [positiveParam, intParam, find_captureParams, str_inj, Value.asInt, htimeout]
  apply CaptureOptions.ext
  · exact hflag _ (by simp [find_captureParams, str_inj])
  · exact hflag _ (by simp [find_captureParams, str_inj])
  · exact hflag _ (by simp [find_captureParams, str_inj])
  · exact hflag _ (by simp [find_captureParams, str_inj])
  · exact hflag _ (by simp [find_captureParams, str_inj])
  · exact hflag _ (by simp [find_captureParams, str_inj])
  · exact htime
  · exact hlist _ (by simp [find_captureParams, str_inj])
  · exact hlist _ (by simp [find_captureParams, str_inj])
  · exact hname
  · have htags := hlist [] (by simp [find_captureParams, str_inj] :
      (captureParams o).find (str "tags")
        = if o.tags = [] then none else some (Storage.stringsToJson o.tags))
    exact htags.trans (by split_ifs with hempty <;> simp [hempty])
  · exact hflag _ (by simp [find_captureParams, str_inj])

/-- **Capture options on the wire.** What the client asked for is what the daemon captures, but for
empty exclusions, for which the daemon takes its own. -/
theorem captureOptions_wire (o : CaptureOptions) (config : Config) (indent : Int)
    (htimeout : 0 < o.browserTimeout) :
    ∃ params, Json.parse (Json.serialize (captureParams o) indent) = .ok params
      ∧ captureOptionsFrom params config
        = { o with
            excludedAppIds :=
              if o.excludedAppIds = [] then config.capture.excludedAppIds else o.excludedAppIds
            excludedUrlPatterns :=
              if o.excludedUrlPatterns = [] then config.capture.excludedUrlPatterns
              else o.excludedUrlPatterns } :=
  ⟨captureParams o,
    Json.parse_serialize _ indent ((captureParams_flat o).depth.trans (by decide))
      (captureParams_flat o).doubles,
    captureOptionsFrom_captureParams config htimeout⟩

/-- The default options. -/
theorem captureOptions_wire_default :
    ∃ params, Json.parse (Json.serialize (captureParams {}) (-1)) = .ok params
      ∧ captureOptionsFrom params { capture := { excludedAppIds := [str "vault"] } }
        = { excludedAppIds := [str "vault"] } :=
  captureOptions_wire {} { capture := { excludedAppIds := [str "vault"] } } (-1) (by decide)

/-- Who excludes nothing gets what the daemon excludes. -/
theorem captureOptions_wire_excludes :
    ¬ ∀ (o : CaptureOptions) (config : Config), 0 < o.browserTimeout →
      ∃ params, Json.parse (Json.serialize (captureParams o) (-1)) = .ok params
        ∧ captureOptionsFrom params config = o := by
  intro h
  obtain ⟨params, hparse, hsame⟩ :=
    h {} { capture := { excludedAppIds := [str "vault"] } } (by decide)
  have hroundtrip : Json.parse (Json.serialize (captureParams {}) (-1)) = .ok (captureParams {}) :=
    Json.parse_serialize _ (-1) ((captureParams_flat {}).depth.trans (by decide))
      (captureParams_flat {}).doubles
  obtain rfl := Except.ok.inj (hroundtrip.symm.trans hparse)
  rw [captureOptionsFrom_captureParams _ (by decide)] at hsame
  exact absurd hsame (by decide)

end ContextSnap.Daemon
