import ContextSnap.Browser.SessionFirefox

/-!
# The tabs of a recovery document

A window lists its tabs and, by position in that list, the selected one. Tabs without history or
without a URL do not reach the parsed window, but the position of the selected tab is looked up
among those that do; and a tab without a URL takes a number before it is dropped.
-/

namespace ContextSnap.Browser.Session

open Json (Value)

/-! ### What a document says -/

def documentTabs (entry : Value) : List Value := (entry.find (str "tabs")).elim [] (·.asArray)

/-- The position of the selected tab, counted from one. -/
def selectedTab (entry : Value) : Int :=
  (entry.find (str "selected")).elim 0 fun selected => (selected.asInt 0).toInt

def visibleUrl (tab : Value) : Bytes :=
  ((visibleEntry tab).find (str "url")).elim [] (·.asString [])

def visibleTitle (tab : Value) : Bytes :=
  ((visibleEntry tab).find (str "title")).elim [] (·.asString [])

def hasHistory (tab : Value) : Bool := !(historyEntries tab).isEmpty

def restorable (tab : Value) : Bool := hasHistory tab && !(visibleUrl tab).isEmpty

def withoutUrl (tab : Value) : Bool := hasHistory tab && (visibleUrl tab).isEmpty

/-- How many tabs before the `n`-th one are restorable. -/
def placeOf (tabs : List Value) (n : Nat) : Nat := (tabs.take n).countP restorable

/-- The tabs of a parsed window are those of the document: each restorable one in its place, the
numbers without gaps, and the selected one active if it is restorable. -/
structure RightTabs (entry : Value) (tabs : List TabInfo) : Prop where
  length : tabs.length = (documentTabs entry).countP restorable
  made : ∀ (n : Nat) (tab : Value), (documentTabs entry)[n]? = some tab → restorable tab →
    ∃ info, tabs[placeOf (documentTabs entry) n]? = some info ∧ info.url = visibleUrl tab ∧
      info.title = visibleTitle tab
  index : ∀ (i : Nat) (info : TabInfo), tabs[i]? = some info → info.index.toInt = i
  active : ∀ (n : Nat) (tab : Value), selectedTab entry = n + 1 →
    (documentTabs entry)[n]? = some tab → restorable tab →
    ∀ (i : Nat) (info : TabInfo), tabs[i]? = some info →
      (info.active = true ↔ i = placeOf (documentTabs entry) n)

/-- Every tab before the selected one is restorable if that one is. Before a restorable tab there
are no tabs without a URL, or so many that the counter is back where it was, and less than 2^31
restorable ones. -/
structure WellPlaced (entry : Value) : Prop where
  selected : ∀ (n : Nat) (tab : Value), selectedTab entry = n + 1 →
    (documentTabs entry)[n]? = some tab → restorable tab →
    ∀ other ∈ (documentTabs entry).take n, restorable other
  numbers : ∀ (n : Nat) (tab : Value), (documentTabs entry)[n]? = some tab → restorable tab →
    2 ^ 32 ∣ ((documentTabs entry).take n).countP withoutUrl ∧
      placeOf (documentTabs entry) n < 2 ^ 31

/-! ### The loop -/

section Loop

variable {tabs : List Value} {tab : Value} {infos : List TabInfo} {index : Int32} {n i start : Nat}

theorem sessionTab_url (index : Int32) (tab : Value) :
    (sessionTab index tab).url = visibleUrl tab := rfl

theorem appendTabs_cons_skipped (h : hasHistory tab = false) (index : Int32) (tabs : List Value) :
    appendTabs index (tab :: tabs) = appendTabs index tabs := by
  rw [hasHistory, Bool.not_eq_false', List.isEmpty_iff] at h
  rw [appendTabs, if_pos h]

theorem appendTabs_cons_dropped (h : withoutUrl tab = true) (index : Int32) (tabs : List Value) :
    appendTabs index (tab :: tabs) = appendTabs (index + 1) tabs := by
  simp only [withoutUrl, hasHistory, Bool.and_eq_true, Bool.not_eq_true', List.isEmpty_iff,
    List.isEmpty_eq_false_iff] at h
  rw [appendTabs, if_neg h.1]
  simp only [sessionTab_url, h.2, if_true]

theorem appendTabs_cons_restorable (h : restorable tab = true) (index : Int32)
    (tabs : List Value) :
    appendTabs index (tab :: tabs) = sessionTab index tab :: appendTabs (index + 1) tabs := by
  simp only [restorable, hasHistory, Bool.and_eq_true, Bool.not_eq_true',
    List.isEmpty_eq_false_iff] at h
  rw [appendTabs, if_neg h.1]
  simp only [sessionTab_url, h.2, if_false]

theorem tab_cases (tab : Value) :
    (hasHistory tab = false ∧ restorable tab = false ∧ withoutUrl tab = false) ∨
      (hasHistory tab = true ∧ restorable tab = false ∧ withoutUrl tab = true) ∨
      (hasHistory tab = true ∧ restorable tab = true ∧ withoutUrl tab = false) := by
  rw [restorable, withoutUrl]
  cases hasHistory tab <;> cases (visibleUrl tab).isEmpty <;> simp

theorem countP_hasHistory (tabs : List Value) :
    tabs.countP hasHistory = tabs.countP restorable + tabs.countP withoutUrl := by
  induction tabs with
  | nil => rfl
  | cons tab tabs ih =>
      simp only [List.countP_cons, ih]
      obtain ⟨h₁, h₂, h₃⟩ | ⟨h₁, h₂, h₃⟩ | ⟨h₁, h₂, h₃⟩ := tab_cases tab <;>
        simp only [h₁, h₂, h₃] <;> simp <;> omega

theorem length_appendTabs (index : Int32) (tabs : List Value) :
    (appendTabs index tabs).length = tabs.countP restorable := by
  induction tabs generalizing index with
  | nil => rfl
  | cons tab tabs ih =>
      obtain ⟨hskip, hno, -⟩ | ⟨-, hno, hdrop⟩ | ⟨-, hyes, -⟩ := tab_cases tab
      · rw [appendTabs_cons_skipped hskip, ih, List.countP_cons_of_neg (by simp [hno])]
      · rw [appendTabs_cons_dropped hdrop, ih, List.countP_cons_of_neg (by simp [hno])]
      · rw [appendTabs_cons_restorable hyes, List.length_cons, ih, List.countP_cons_of_pos hyes]

/-- A restorable tab is in its place, with the number of tabs that have a history before it. -/
theorem getElem?_appendTabs (start : Nat) (hn : tabs[n]? = some tab)
    (htab : restorable tab = true) : (appendTabs (Int32.ofNat start) tabs)[placeOf tabs n]?
      = some (sessionTab (Int32.ofNat (start + (tabs.take n).countP hasHistory)) tab) := by
  induction tabs generalizing start n with
  | nil => simp at hn
  | cons first tabs ih =>
      have hnext : Int32.ofNat start + 1 = Int32.ofNat (start + 1) := (Int32.ofNat_add start 1).symm
      cases n with
      | zero =>
          obtain rfl : first = tab := Option.some.inj hn
          rw [appendTabs_cons_restorable htab]
          rfl
      | succ n =>
          rw [List.getElem?_cons_succ] at hn
          rw [placeOf, List.take_succ_cons]
          obtain ⟨hskip, hno, -⟩ | ⟨hhas, hno, hdrop⟩ | ⟨hhas, hyes, -⟩ := tab_cases first
          · rw [appendTabs_cons_skipped hskip, List.countP_cons_of_neg (by simp [hno]),
              List.countP_cons_of_neg (by simp [hskip])]
            exact ih start hn
          · rw [appendTabs_cons_dropped hdrop, List.countP_cons_of_neg (by simp [hno]),
              List.countP_cons_of_pos hhas, hnext]
            have h := ih (start + 1) hn
            rw [Nat.add_right_comm] at h
            exact h
          · rw [appendTabs_cons_restorable hyes, List.countP_cons_of_pos hyes,
              List.countP_cons_of_pos hhas, hnext, List.getElem?_cons_succ]
            have h := ih (start + 1) hn
            rw [Nat.add_right_comm] at h
            exact h

theorem exists_placeOf (h : i < tabs.countP restorable) :
    ∃ n tab, tabs[n]? = some tab ∧ restorable tab = true ∧ placeOf tabs n = i := by
  induction tabs generalizing i with
  | nil => simp at h
  | cons first tabs ih =>
      by_cases hfirst : restorable first = true
      · rw [List.countP_cons_of_pos hfirst] at h
        cases i with
        | zero => exact ⟨0, first, rfl, hfirst, rfl⟩
        | succ i =>
            obtain ⟨n, tab, hn, htab, hplace⟩ := ih (Nat.lt_of_succ_lt_succ h)
            refine ⟨n + 1, tab, hn, htab, ?_⟩
            rw [placeOf, List.take_succ_cons, List.countP_cons_of_pos hfirst, ← placeOf, hplace]
      · rw [List.countP_cons_of_neg hfirst] at h
        obtain ⟨n, tab, hn, htab, hplace⟩ := ih h
        refine ⟨n + 1, tab, hn, htab, ?_⟩
        rw [placeOf, List.take_succ_cons, List.countP_cons_of_neg hfirst, ← placeOf, hplace]

theorem getElem?_activateTab (selected : Int64) (infos : List TabInfo) (i : Nat) :
    (activateTab selected infos)[i]? = infos[i]?.map fun info =>
      if selected.toUInt64.toNat = i + 1 then { info with active := true } else info := by
  rw [activateTab]
  split
  next h =>
    rw [List.getElem?_modify]
    congr 1
    funext info
    simp only [show selected.toUInt64.toNat - 1 = i ↔ selected.toUInt64.toNat = i + 1 by omega]
  next h =>
    cases hi : infos[i]? with
    | none => rfl
    | some info =>
        have hlt := (List.getElem?_eq_some_iff.mp hi).1
        rw [Option.map_some, if_neg (by omega)]

end Loop

/-! ### One window -/

section Window

variable {entry : Value} {profile : Bytes} {selectedWindow ordinal : Int64} {tab : Value}
  {info : TabInfo} {n i : Nat}

def selectedPosition (entry : Value) : Nat :=
  (entry.find (str "selected")).elim 0 fun selected => (selected.asInt 0).toUInt64.toNat

theorem selectedPosition_eq (h : selectedTab entry = n + 1) : selectedPosition entry = n + 1 := by
  rw [selectedTab] at h
  rw [selectedPosition]
  cases hselected : entry.find (str "selected") with
  | none =>
      rw [hselected] at h
      simp at h
      omega
  | some selected =>
      rw [hselected] at h
      simp only [Option.elim_some] at h ⊢
      have hunsigned : (selected.asInt 0).toUInt64.toNat = (selected.asInt 0).toBitVec.toNat := rfl
      have hlt := (selected.asInt 0).toBitVec.isLt
      rw [← Int64.toInt_toBitVec, BitVec.toInt_eq_toNat_cond] at h
      split at h <;> omega

theorem getElem?_tabs (profile : Bytes) (selectedWindow ordinal : Int64) (entry : Value) (i : Nat) :
    (recoveredWindow profile selectedWindow ordinal entry).tabs[i]?
      = (appendTabs 0 (documentTabs entry))[i]?.map fun info =>
        if selectedPosition entry = i + 1 then { info with active := true } else info := by
  cases hselected : entry.find (str "selected") with
  | none => simp [recoveredWindow, selectedPosition, documentTabs, hselected]
  | some selected =>
      simp only [recoveredWindow, selectedPosition, hselected, Option.elim_some]
      exact getElem?_activateTab _ _ i

theorem length_tabs (profile : Bytes) (selectedWindow ordinal : Int64) (entry : Value) :
    (recoveredWindow profile selectedWindow ordinal entry).tabs.length
      = (documentTabs entry).countP restorable := by
  rw [← length_appendTabs 0]
  cases hselected : entry.find (str "selected") with
  | none => simp [recoveredWindow, documentTabs, hselected]
  | some selected =>
      simp only [recoveredWindow, hselected, Option.elim_some, activateTab]
      split <;> simp [documentTabs]

theorem getElem?_tabs_placeOf (profile : Bytes) (selectedWindow ordinal : Int64)
    (hn : (documentTabs entry)[n]? = some tab) (htab : restorable tab = true) :
    ∃ info,
      (recoveredWindow profile selectedWindow ordinal entry).tabs[placeOf (documentTabs entry) n]?
        = some info ∧
      info.url = visibleUrl tab ∧ info.title = visibleTitle tab ∧
      info.id = [info.index.toUInt32.toUInt8] ∧
      info.index = Int32.ofNat (((documentTabs entry).take n).countP hasHistory) ∧
      (info.active = true ↔ selectedPosition entry = placeOf (documentTabs entry) n + 1) := by
  have hmade := getElem?_appendTabs 0 hn htab
  rw [Nat.zero_add] at hmade
  rw [getElem?_tabs, show (0 : Int32) = Int32.ofNat 0 from rfl, hmade]
  refine ⟨_, rfl, ?_⟩
  split
  next h => exact ⟨rfl, rfl, rfl, rfl, by simp [h]⟩
  next h => exact ⟨rfl, rfl, rfl, rfl, by simp [h, sessionTab]⟩

/-- A counter at `place + gap` shows `place` exactly if `place` has an `int` and the gap is none. -/
theorem toInt_counter_iff (place gap : Nat) :
    (Int32.ofNat (place + gap)).toInt = place ↔ 2 ^ 32 ∣ gap ∧ place < 2 ^ 31 := by
  rw [Int32.toInt_ofNat', Int32.size, Int.bmod_def]
  split <;> omega

theorem placeOf_eq_self_iff {tabs : List Value} (hn : tabs[n]? = some tab) :
    placeOf tabs n = n ↔ ∀ other ∈ tabs.take n, restorable other = true := by
  have hlt := (List.getElem?_eq_some_iff.mp hn).1
  have hlength : (tabs.take n).length = n := List.length_take_of_le (Nat.le_of_lt hlt)
  rw [placeOf, ← List.countP_eq_length, hlength]

theorem exists_restorable {i : Nat} {info : TabInfo} (profile : Bytes)
    (selectedWindow ordinal : Int64)
    (hi : (recoveredWindow profile selectedWindow ordinal entry).tabs[i]? = some info) :
    ∃ n tab, (documentTabs entry)[n]? = some tab ∧ restorable tab = true ∧
      i = placeOf (documentTabs entry) n ∧
      info.index = Int32.ofNat (((documentTabs entry).take n).countP hasHistory) ∧
      (info.active = true ↔ selectedPosition entry = i + 1) := by
  have hlt := (List.getElem?_eq_some_iff.mp hi).1
  rw [length_tabs] at hlt
  obtain ⟨n, tab, hn, htab, rfl⟩ := exists_placeOf hlt
  obtain ⟨made, hmade, -, -, -, hindex, hactive⟩ :=
    getElem?_tabs_placeOf profile selectedWindow ordinal hn htab
  obtain rfl : made = info := Option.some.inj (hmade.symm.trans hi)
  exact ⟨n, tab, hn, htab, rfl, hindex, hactive⟩

theorem RightTabs.wellPlaced {profile : Bytes} {selectedWindow ordinal : Int64}
    (h : RightTabs entry (recoveredWindow profile selectedWindow ordinal entry).tabs) :
    WellPlaced entry where
  selected n tab hselected hn htab := by
    obtain ⟨info, hinfo, -, -, -, -, hactive⟩ :=
      getElem?_tabs_placeOf profile selectedWindow ordinal hn htab
    have hposition := hactive.mp ((h.active n tab hselected hn htab _ info hinfo).mpr rfl)
    rw [selectedPosition_eq hselected] at hposition
    exact (placeOf_eq_self_iff hn).mp (Nat.succ.inj hposition).symm
  numbers n tab hn htab := by
    obtain ⟨info, hinfo, -, -, -, hindex, -⟩ :=
      getElem?_tabs_placeOf profile selectedWindow ordinal hn htab
    have hcounter := h.index _ info hinfo
    rw [hindex, countP_hasHistory] at hcounter
    exact (toInt_counter_iff _ _).mp hcounter

theorem WellPlaced.rightTabs (h : WellPlaced entry) (profile : Bytes)
    (selectedWindow ordinal : Int64) :
    RightTabs entry (recoveredWindow profile selectedWindow ordinal entry).tabs where
  length := length_tabs profile selectedWindow ordinal entry
  made n tab hn htab := by
    obtain ⟨info, hinfo, hurl, htitle, -⟩ :=
      getElem?_tabs_placeOf profile selectedWindow ordinal hn htab
    exact ⟨info, hinfo, hurl, htitle⟩
  index i info hi := by
    obtain ⟨n, tab, hn, htab, rfl, hindex, -⟩ :=
      exists_restorable profile selectedWindow ordinal hi
    rw [hindex, countP_hasHistory]
    exact (toInt_counter_iff _ _).mpr (h.numbers n tab hn htab)
  active n tab hselected hn htab i info hi := by
    obtain ⟨-, -, -, -, -, -, hactive⟩ := exists_restorable profile selectedWindow ordinal hi
    have hplace := (placeOf_eq_self_iff hn).mpr (h.selected n tab hselected hn htab)
    rw [hactive, selectedPosition_eq hselected, hplace]
    omega

theorem rightTabs_iff (profile : Bytes) (selectedWindow ordinal : Int64) (entry : Value) :
    RightTabs entry (recoveredWindow profile selectedWindow ordinal entry).tabs
      ↔ WellPlaced entry :=
  ⟨RightTabs.wellPlaced, fun h => h.rightTabs profile selectedWindow ordinal⟩

end Window

/-! ### The document -/

def recoveryEntries (text : Bytes) : List Value :=
  match Json.parse text with
  | .ok document =>
      match document.find (str "windows") with
      | some (.array entries) => entries
      | _ => []
  | .error _ => []

def hasRestorable (entry : Value) : Bool := (documentTabs entry).any restorable

theorem tabs_eq_nil_iff (profile : Bytes) (selectedWindow ordinal : Int64) (entry : Value) :
    (recoveredWindow profile selectedWindow ordinal entry).tabs = []
      ↔ hasRestorable entry = false := by
  rw [← List.length_eq_zero_iff, length_tabs, List.countP_eq_zero, hasRestorable,
    List.any_eq_false]

theorem WellPlaced.of_hasRestorable {entry : Value} (h : hasRestorable entry = false) :
    WellPlaced entry := by
  rw [hasRestorable, List.any_eq_false] at h
  exact ⟨fun n tab _ hn htab => absurd htab (h tab (List.mem_of_getElem? hn)),
    fun n tab hn htab => absurd htab (h tab (List.mem_of_getElem? hn))⟩

theorem forall₂_recoveredWindows_iff (profile : Bytes) (selectedWindow ordinal : Int64)
    (entries : List Value) :
    List.Forall₂ (fun entry window => RightTabs entry window.tabs)
        (entries.filter hasRestorable) (recoveredWindows profile selectedWindow ordinal entries)
      ↔ ∀ entry ∈ entries, WellPlaced entry := by
  induction entries generalizing ordinal with
  | nil => simp [recoveredWindows]
  | cons entry entries ih =>
      rw [recoveredWindows, List.forall_mem_cons]
      by_cases h : hasRestorable entry = true
      · rw [List.filter_cons_of_pos h, if_neg, List.forall₂_cons, rightTabs_iff, ih]
        rw [tabs_eq_nil_iff, h]
        decide
      · have hnone := Bool.eq_false_iff.mpr h
        rw [List.filter_cons_of_neg h, if_pos ((tabs_eq_nil_iff _ _ _ _).mpr hnone), ih]
        exact (and_iff_right (WellPlaced.of_hasRestorable hnone)).symm

theorem length_recoveredWindows (profile : Bytes) (selectedWindow ordinal : Int64)
    (entries : List Value) :
    (recoveredWindows profile selectedWindow ordinal entries).length
      = (entries.filter hasRestorable).length := by
  induction entries generalizing ordinal with
  | nil => rfl
  | cons entry entries ih =>
      rw [recoveredWindows]
      by_cases h : hasRestorable entry = true
      · rw [List.filter_cons_of_pos h, if_neg, List.length_cons, List.length_cons, ih]
        rw [tabs_eq_nil_iff, h]
        decide
      · rw [List.filter_cons_of_neg h, if_pos ((tabs_eq_nil_iff _ _ _ _).mpr
          (Bool.eq_false_iff.mpr h)), ih]

theorem parseFirefoxRecovery_cases (text profile : Bytes) :
    ∃ selectedWindow,
      (recoveredWindows profile selectedWindow 0 (recoveryEntries text) ≠ [] ∧
        parseFirefoxRecovery text profile
          = .ok (recoveredWindows profile selectedWindow 0 (recoveryEntries text))) ∨
      (recoveredWindows profile selectedWindow 0 (recoveryEntries text) = [] ∧
        ∃ error, parseFirefoxRecovery text profile = .error error) := by
  rw [parseFirefoxRecovery, recoveryEntries]
  cases Json.parse text with
  | error error => exact ⟨0, .inr ⟨rfl, error, rfl⟩⟩
  | ok document =>
      simp only [bind, Except.bind]
      cases document.find (str "windows") with
      | none => exact ⟨0, .inr ⟨rfl, _, rfl⟩⟩
      | some windows =>
          cases windows with
          | array entries =>
              refine ⟨(document.find (str "selectedWindow")).elim 1 (·.asInt 0), ?_⟩
              by_cases hnone : recoveredWindows profile
                  ((document.find (str "selectedWindow")).elim 1 (·.asInt 0)) 0 entries = []
              · exact .inr ⟨hnone, _, if_pos hnone⟩
              · exact .inl ⟨hnone, if_neg hnone⟩
          | _ => exact ⟨0, .inr ⟨rfl, _, rfl⟩⟩

/-- **The selected tab.** The windows that a document is parsed to have the tabs that it says
exactly if the tabs of each of its windows are well placed. -/
theorem firefoxTabs_iff (text profile : Bytes) :
    (∀ windows, parseFirefoxRecovery text profile = .ok windows →
        List.Forall₂ (fun entry window => RightTabs entry window.tabs)
          ((recoveryEntries text).filter hasRestorable) windows)
      ↔ ∀ entry ∈ recoveryEntries text, WellPlaced entry := by
  obtain ⟨selectedWindow, ⟨-, hparse⟩ | ⟨hnone, error, hparse⟩⟩ :=
    parseFirefoxRecovery_cases text profile
  · rw [hparse, ← forall₂_recoveredWindows_iff profile selectedWindow 0]
    constructor
    · intro h
      exact h _ rfl
    · intro h windows hwindows
      exact Except.ok.inj hwindows ▸ h
  · have hempty : (recoveryEntries text).filter hasRestorable = [] := by
      rw [← List.length_eq_zero_iff, ← length_recoveredWindows profile selectedWindow 0, hnone]
      rfl
    rw [hparse]
    constructor
    · intro _ entry hentry
      refine WellPlaced.of_hasRestorable (Bool.eq_false_iff.mpr ?_)
      exact List.filter_eq_nil_iff.mp hempty entry hentry
    · intro _ windows hwindows
      cases hwindows

/-- A window whose second tab is selected and whose first tab is still empty. -/
def emptyFirstTab : Bytes :=
  str "\x7b\"windows\":[\x7b\"tabs\":[\x7b\x7d,"
    ++ str "\x7b\"entries\":[\x7b\"url\":\"a\"\x7d]\x7d],\"selected\":2\x7d]\x7d"

theorem not_rightTabs :
    ¬∀ text profile windows, parseFirefoxRecovery text profile = .ok windows →
      List.Forall₂ (fun entry window => RightTabs entry window.tabs)
        ((recoveryEntries text).filter hasRestorable) windows := by
  intro h
  let tab : Value := .object [(str "entries", .array [.object [(str "url", .string (str "a"))]])]
  let entry : Value := .object [(str "tabs", .array [.object [], tab]), (str "selected", .int 2)]
  have hentries : (recoveryEntries emptyFirstTab).filter hasRestorable = [entry] := rfl
  have hparse : parseFirefoxRecovery emptyFirstTab []
      = .ok [recoveredWindow [] 1 1 entry] := rfl
  have hright := h emptyFirstTab [] _ hparse
  rw [hentries, List.forall₂_cons] at hright
  have hactive := (hright.1.active 1 tab rfl rfl rfl 0 (sessionTab 0 tab) rfl).mpr rfl
  exact absurd hactive (by decide)

end ContextSnap.Browser.Session
