import ContextSnap.Cli.CommandLine
import ContextSnap.Daemon.Requests
import ContextSnap.Ipc.Client
import ContextSnap.Proof.Serialization

/-!
# Selectors of a request

Entries that do not parse are dropped, and a structured entry that says too little is filled up with
defaults. Neither narrows: no selectors stand for everything, and so does the default kind.
-/

namespace ContextSnap.Daemon

open Json (Value)
open Restore (parseSelector selectorAccepts selectorMatches)

/-! ### Entries -/

/-- The kinds that a number names. -/
def namedKind (number : Int64) : Option SelectorKind :=
  if 0 ≤ number ∧ number ≤ 5 then some (.ofByte number.toUInt64.toUInt8) else none

/-- What an entry of `selectors` says: a text that parses, or an object with the number of a kind and
a pattern, which may be missing where everything is meant. -/
def entrySelector (entry : Value) : Option RestoreSelector :=
  match entry with
  | .string text => (parseSelector text).toOption
  | _ =>
      match entry.find (str "kind"), entry.find (str "pattern") with
      | some (.int number), some (.string pattern) =>
          (namedKind number).map fun kind => { kind, pattern }
      | some (.int number), none => if number = 0 then some {} else none
      | _, _ => none

/-- A window that one of the entries that say something accepts. -/
def AcceptedBy (entries : List Value) (window : WindowInfo) : Prop :=
  ∃ entry ∈ entries, ∃ selector, entrySelector entry = some selector
    ∧ selectorAccepts window selector = true

/-- The windows of a snapshot that a plan is made for. -/
def planSelection (options : RestoreOptions) (saved : Snapshot) : List WindowInfo :=
  saved.windows.filter (selectorMatches · options.selectors)

/-- The daemon reads what an entry says. -/
theorem decodeSelector_of_entrySelector {entry : Value} {selector : RestoreSelector}
    (h : entrySelector entry = some selector) : decodeSelector entry = some selector := by
  unfold entrySelector at h
  split at h
  · exact h
  · rename_i hnot
    have hdecode : decodeSelector entry = some {
        kind := .ofByte (intParam entry (str "kind") 0).toUInt64.toUInt8
        pattern := stringParam entry (str "pattern") } := by
      unfold decodeSelector
      split
      · exact absurd rfl (hnot _)
      · rfl
    rw [hdecode]
    split at h
    · rename_i number pattern hkind hpattern
      obtain ⟨kind, hnamed, rfl⟩ := Option.map_eq_some_iff.mp h
      unfold namedKind at hnamed
      split_ifs at hnamed
      rw [← Option.some.inj hnamed]
      simp [intParam, stringParam, hkind, hpattern]
    · rename_i number hkind hpattern
      split_ifs at h with hzero
      rw [← Option.some.inj h]
      simp [intParam, stringParam, hkind, hpattern, hzero]
      rfl
    · simp at h

/-- Some entry yields a selector, and one that says nothing yields none that accepts more windows
than the other entries do. -/
def Narrowing (entries : List Value) : Prop :=
  (∃ entry ∈ entries, (decodeSelector entry).isSome = true)
    ∧ ∀ entry ∈ entries, entrySelector entry = none → ∀ selector,
      decodeSelector entry = some selector →
      ∀ window, selectorAccepts window selector = true → AcceptedBy entries window

theorem selectorMatches_eq_true {window : WindowInfo} {selectors : List RestoreSelector} :
    selectorMatches window selectors = true
      ↔ selectors = [] ∨ ∃ selector ∈ selectors, selectorAccepts window selector = true := by
  simp [selectorMatches]

/-- The entries narrow exactly when no window gets past them. -/
theorem narrowing_iff (entries : List Value) :
    (∀ window, selectorMatches window (entries.filterMap decodeSelector) = true →
      AcceptedBy entries window) ↔ Narrowing entries := by
  constructor
  · intro h
    refine ⟨?_, ?_⟩
    · by_contra hnone
      have hempty : entries.filterMap decodeSelector = [] := by
        apply List.filterMap_eq_nil_iff.mpr
        intro entry hentry
        exact Option.not_isSome_iff_eq_none.mp fun hsome => hnone ⟨entry, hentry, hsome⟩
      obtain ⟨entry, hentry, selector, hsays, -⟩ :=
        h {} (selectorMatches_eq_true.mpr (.inl hempty))
      exact hnone ⟨entry, hentry, by rw [decodeSelector_of_entrySelector hsays]; rfl⟩
    · intro entry hentry _ selector hdecode window haccepts
      exact h window (selectorMatches_eq_true.mpr
        (.inr ⟨selector, List.mem_filterMap.mpr ⟨entry, hentry, hdecode⟩, haccepts⟩))
  · rintro ⟨⟨some', hsome, hyields⟩, hrest⟩ window hmatches
    rcases selectorMatches_eq_true.mp hmatches with hempty | ⟨selector, hselector, haccepts⟩
    · have hnone := List.filterMap_eq_nil_iff.mp hempty some' hsome
      simp [hnone] at hyields
    · obtain ⟨entry, hentry, hdecode⟩ := List.mem_filterMap.mp hselector
      cases hsays : entrySelector entry with
      | none => exact hrest entry hentry hsays selector hdecode window haccepts
      | some said =>
          have heq := decodeSelector_of_entrySelector hsays
          rw [hdecode] at heq
          exact ⟨entry, hentry, said, hsays, Option.some.inj heq ▸ haccepts⟩

/-! ### The command line -/

theorem toOption_eq_some {α : Type} {result : Result α} {value : α} :
    result.toOption = some value ↔ result = .ok value := by
  cases result <;> simp [Except.toOption]

theorem find_set (object : Value) (key name : Bytes) (value : Value) :
    (object.set key value).find name = if key = name then some value else object.find name := by
  have hmembers : ∀ members : Json.Object,
      (Value.object (Value.setMember key value members)).find name
        = if key = name then some value else (Value.object members).find name := by
    intro members
    induction members with
    | nil => simp [Value.setMember, Json.find_object_cons]
    | cons member members ih =>
        obtain ⟨other, held⟩ := member
        rw [Value.setMember]
        by_cases hkey : other = key
        · rw [if_pos hkey, Json.find_object_cons, Json.find_object_cons, hkey]
          split_ifs <;> rfl
        · rw [if_neg hkey, Json.find_object_cons, Json.find_object_cons, ih]
          by_cases hname : other = name
          · have hne : key ≠ name := fun h => hkey (hname.trans h.symm)
            simp [hname, hne]
          · simp [hname]
  cases object <;> exact hmembers _

theorem find_foldl_set {pairs : List (Bytes × Value)} {name : Bytes}
    (h : ∀ pair ∈ pairs, pair.1 ≠ name) (object : Value) :
    (pairs.foldl (fun params (key, value) => params.set key value) object).find name
      = object.find name := by
  induction pairs generalizing object with
  | nil => rfl
  | cons pair pairs ih =>
      rw [List.foldl_cons, ih fun p hp => h p (List.mem_cons_of_mem _ hp), find_set,
        if_neg (h pair (by simp))]

/-- The kind of a selector that was parsed is one of those with a name. -/
theorem ofByte_toByte_of_parseSelector {text : Bytes} {selector : RestoreSelector}
    (h : parseSelector text = .ok selector) :
    SelectorKind.ofByte selector.kind.toByte = selector.kind := by
  unfold parseSelector at h
  split at h
  · split_ifs at h <;> rw [← Except.ok.inj h] <;> rfl
  · simp only at h
    split_ifs at h <;> (rw [← Except.ok.inj h]; rfl)

/-- What the client sends for a selector the daemon reads as that selector. -/
theorem decodeSelector_selectorParam {selector : RestoreSelector}
    (hnamed : SelectorKind.ofByte selector.kind.toByte = selector.kind) :
    decodeSelector (Ipc.selectorParam selector) = some selector := by
  have hkind : (Ipc.selectorParam selector).find (str "kind")
      = some (.int selector.kind.toByte.toUInt64.toInt64) := by
    rw [Ipc.selectorParam, find_set, if_neg (by decide), find_set, if_pos rfl]
  have hpattern : (Ipc.selectorParam selector).find (str "pattern")
      = some (.string selector.pattern) := by
    rw [Ipc.selectorParam, find_set, if_pos rfl]
  have hdecode : decodeSelector (Ipc.selectorParam selector) = some {
      kind := .ofByte (intParam (Ipc.selectorParam selector) (str "kind") 0).toUInt64.toUInt8
      pattern := stringParam (Ipc.selectorParam selector) (str "pattern") } := rfl
  rw [hdecode, intParam, hkind, stringParam, hpattern]
  simp [hnamed]

/-- **The wire keeps selectors.** -/
theorem restoreOptionsFrom_restoreParams (snapshotId : Bytes) {options : RestoreOptions}
    (config : Config)
    (hnamed : ∀ selector ∈ options.selectors,
      SelectorKind.ofByte selector.kind.toByte = selector.kind) :
    (restoreOptionsFrom (Ipc.restoreParams snapshotId options) config).selectors
      = options.selectors := by
  change selectorsFrom (Ipc.restoreParams snapshotId options) [] = _
  unfold Ipc.restoreParams selectorsFrom
  by_cases hempty : options.selectors = []
  · simp only [hempty, if_true]
    rw [find_foldl_set (by simp [str_inj])]
    rfl
  · simp only [if_neg hempty]
    rw [find_set, if_pos rfl]
    calc (options.selectors.map Ipc.selectorParam).filterMap decodeSelector
        = options.selectors.filterMap some := by
          rw [List.filterMap_map]
          exact List.filterMap_congr fun selector hselector =>
            decodeSelector_selectorParam (hnamed selector hselector)
      _ = options.selectors := List.filterMap_some

/-- The selectors of a plan that the command line asks for are those that parse. -/
theorem cli_selectors {args : Cli.Args} (honly : args.has (str "only") = true) (snapshotId : Bytes)
    (cliConfig config : Config) :
    (restoreOptionsFrom (Ipc.restoreParams snapshotId (Cli.restoreOptions args cliConfig))
        config).selectors
      = Cli.parseSelectors (args.value (str "only")) := by
  have hselectors : (Cli.restoreOptions args cliConfig).selectors
      = Cli.parseSelectors (args.value (str "only")) := if_pos honly
  rw [restoreOptionsFrom_restoreParams, hselectors]
  intro selector hselector
  rw [hselectors] at hselector
  obtain ⟨entry, -, hparse⟩ := List.mem_filterMap.mp hselector
  exact ofByte_toByte_of_parseSelector (toOption_eq_some.mp hparse)

/-- `--only browser:firefox`, whose only entry does not parse. -/
def onlyBrowser : Cli.Args :=
  { options := fun name => if name = str "only" then some (str "browser:firefox") else none }

/-- The same entry in a request. -/
def requestBrowser : Value :=
  .object [(str "selectors", .array [.string (str "browser:firefox")])]

end ContextSnap.Daemon
