import ContextSnap.Proof.FirefoxTabs
import ContextSnap.Proof.ReloadedSnapshots
import ContextSnap.Proof.SessionWindows

/-!
# The ids of session tabs

The id of a tab is a text and part of the primary key of its row. Both session parsers assign it an
integer, which leaves the text with one character, the low byte of the integer. A window can be
stored as long as the low bytes of its tabs differ.
-/

namespace ContextSnap.Browser.Session

open Json (Value)
open Storage

/-! ### Storing -/

/-- A snapshot whose windows have tabs of these windows, and whose other keys are in order. -/
structure Carries (windows : List BrowserWindow) (snapshot : Snapshot) : Prop where
  monitorIds : (snapshot.monitors.map (·.id)).Nodup
  windowIds : (snapshot.windows.map (·.id)).Nodup
  scaleFactors : ∀ monitor ∈ snapshot.monitors, monitor.scaleFactor.isNaN = false
  opacities : ∀ window ∈ snapshot.windows, window.opacity.isNaN = false
  tabs : ∀ window ∈ snapshot.windows, window.tabs = [] ∨ ∃ source ∈ windows,
    (window.tabs.map (·.id)).Sublist (source.tabs.map (·.id))

/-- The ids of the tabs of a window differ, and no insert of the tabs fails in a database that
works. -/
structure Storable (windows : List BrowserWindow) : Prop where
  distinct : ∀ window ∈ windows, (window.tabs.map (·.id)).Nodup
  inserted : ∀ (env : Environment) (c : Connection) (snapshot : Snapshot),
    (∀ n, env.fault n = none) → c.locked = false → c.saved = none →
    Unused snapshot.metadata.id c.tables → isValidUlid snapshot.metadata.id = true →
    Carries windows snapshot →
    ∃ c', (insert snapshot).run.run (handler env) c = some (.ok snapshot.metadata.id, c')

variable {windows : List BrowserWindow} {snapshot : Snapshot}

theorem Carries.insertable (h : Carries windows snapshot)
    (hdistinct : ∀ window ∈ windows, (window.tabs.map (·.id)).Nodup) : Insertable snapshot where
  monitorIds := h.monitorIds
  windowIds := h.windowIds
  tabIds window hwindow := by
    obtain hnone | ⟨source, hsource, hsublist⟩ := h.tabs window hwindow
    · rw [hnone]
      exact List.nodup_nil
    · exact (hdistinct source hsource).sublist hsublist
  scaleFactors := h.scaleFactors
  opacities := h.opacities

theorem storable_iff :
    Storable windows ↔ ∀ window ∈ windows, (window.tabs.map (·.id)).Nodup := by
  refine ⟨Storable.distinct, fun hdistinct => ⟨hdistinct, ?_⟩⟩
  intro env c snapshot hworks hfree hauto hunused hvalid hcarries
  obtain ⟨c', -, hinsert, -⟩ :=
    insert_added hworks hfree hauto hunused hvalid (hcarries.insertable hdistinct)
  exact ⟨c', hinsert⟩

/-! ### Chromium -/

def DistinctLowBytes (events : List SessionEvent) : Prop :=
  ∀ windowId first second, InWindow events windowId first → InWindow events windowId second →
    first.toInt % 256 = second.toInt % 256 → first = second

theorem toNat_lowByte (n : Int32) : (n.toUInt32.toUInt8.toNat : Int) = n.toInt % 256 := by
  have hbits : n.toUInt32.toNat = n.toBitVec.toNat := rfl
  have hlt := n.toBitVec.isLt
  rw [UInt32.toNat_toUInt8, hbits, ← Int32.toInt_toBitVec, BitVec.toInt_eq_toNat_cond]
  split <;> omega

theorem assignChar_eq_iff (first second : Int32) :
    assignChar first = assignChar second ↔ first.toInt % 256 = second.toInt % 256 := by
  rw [assignChar, assignChar, List.singleton_inj, ← UInt8.toNat_inj, ← toNat_lowByte,
    ← toNat_lowByte, Int.natCast_inj]

section Chromium

variable {events : List SessionEvent} {browser : BrowserKind} {profile : Bytes}

theorem map_id_restoredTabs {ids : List Int32} {tabs : List TabInfo}
    (h : List.Forall₂ (RestoredTab events) ids tabs) :
    tabs.map (·.id) = ids.map assignChar := by
  induction h with
  | nil => rfl
  | cons htab _ ih => rw [List.map_cons, List.map_cons, htab.id, ih]

theorem RestoredWindow.map_id {windowId : Int32} {window : BrowserWindow}
    (h : RestoredWindow events browser profile windowId window) :
    ∃ ids, Enumerates ids (InWindow events windowId) ∧
      window.tabs.map (·.id) = ids.map assignChar := by
  obtain ⟨ids, hids, htabs⟩ := h.tabs
  exact ⟨ids, hids, map_id_restoredTabs htabs⟩

theorem Restored.nodup_iff (h : Restored events browser profile windows) :
    (∀ window ∈ windows, (window.tabs.map (·.id)).Nodup) ↔ DistinctLowBytes events := by
  constructor
  · intro hnodup windowId first second hfirst hsecond heq
    obtain ⟨window, hmem, hwindow⟩ := h.exists_window hfirst
    obtain ⟨ids, hids, hmap⟩ := hwindow.map_id
    have hdistinct := hnodup window hmem
    rw [hmap] at hdistinct
    exact List.inj_on_of_nodup_map hdistinct ((hids.complete first).mpr hfirst)
      ((hids.complete second).mpr hsecond) ((assignChar_eq_iff first second).mpr heq)
  · intro hdistinct window hmem
    obtain ⟨windowIds, -, hall⟩ := h
    obtain ⟨i, hi, rfl⟩ := List.getElem_of_mem hmem
    have hi' : i < windowIds.length := hall.length_eq ▸ hi
    obtain ⟨ids, hids, hmap⟩ := (hall.get hi' hi).map_id
    rw [List.get_eq_getElem] at hmap
    rw [hmap]
    refine List.Nodup.map_on (fun first hfirst second hsecond heq => ?_) hids.nodup
    exact hdistinct _ first second ((hids.complete first).mp hfirst)
      ((hids.complete second).mp hsecond) ((assignChar_eq_iff first second).mp heq)

end Chromium

/-! ### Firefox -/

/-- No two restorable tabs of a window have numbers that leave the same remainder by 256, where the
number of a tab is that of the tabs with a history before it. -/
def DistinctNumbers (entry : Value) : Prop :=
  ∀ (first second : Nat) (tab other : Value), (documentTabs entry)[first]? = some tab →
    (documentTabs entry)[second]? = some other → restorable tab → restorable other →
    ((documentTabs entry).take first).countP hasHistory % 256
      = ((documentTabs entry).take second).countP hasHistory % 256 → first = second

section Firefox

variable {entry : Value} {tabs : List Value} {first second : Nat} {tab other : Value}

theorem placeOf_lt (hfirst : tabs[first]? = some tab) (htab : restorable tab = true)
    (hlt : first < second) : placeOf tabs first < placeOf tabs second := by
  have hsublist : ((tabs.take (first + 1)).Sublist (tabs.take second)) :=
    List.take_sublist_take_left hlt
  have hnext : placeOf tabs (first + 1) = placeOf tabs first + 1 := by
    rw [placeOf, List.take_add_one, hfirst, List.countP_append, ← placeOf]
    simp [htab]
  have hle : placeOf tabs (first + 1) ≤ placeOf tabs second := hsublist.countP_le
  omega

theorem placeOf_inj (hfirst : tabs[first]? = some tab) (hsecond : tabs[second]? = some other)
    (htab : restorable tab = true) (hother : restorable other = true)
    (heq : placeOf tabs first = placeOf tabs second) : first = second := by
  rcases Nat.lt_trichotomy first second with hlt | h | hlt
  · exact absurd heq (Nat.ne_of_lt (placeOf_lt hfirst htab hlt))
  · exact h
  · exact absurd heq.symm (Nat.ne_of_lt (placeOf_lt hsecond hother hlt))

theorem getElem?_map_id (profile : Bytes) (selectedWindow ordinal : Int64)
    (hfirst : (documentTabs entry)[first]? = some tab) (htab : restorable tab = true) :
    ((recoveredWindow profile selectedWindow ordinal entry).tabs.map
        (·.id))[placeOf (documentTabs entry) first]?
      = some [UInt8.ofNat (((documentTabs entry).take first).countP hasHistory)] := by
  obtain ⟨info, hinfo, -, -, hid, hindex, -⟩ :=
    getElem?_tabs_placeOf profile selectedWindow ordinal hfirst htab
  rw [List.getElem?_map, hinfo, Option.map_some, hid, hindex]
  congr 2
  rw [← UInt8.toNat_inj, ← Int.natCast_inj, toNat_lowByte, Int32.toInt_ofNat', Int32.size,
    UInt8.toNat_ofNat', Int.bmod_def]
  split <;> omega

theorem nodup_recoveredWindow_iff (profile : Bytes) (selectedWindow ordinal : Int64)
    (entry : Value) :
    ((recoveredWindow profile selectedWindow ordinal entry).tabs.map (·.id)).Nodup
      ↔ DistinctNumbers entry := by
  have hid {first : Nat} {tab : Value} (hfirst : (documentTabs entry)[first]? = some tab)
      (htab : restorable tab = true) :=
    getElem?_map_id profile selectedWindow ordinal hfirst htab
  constructor
  · intro hnodup first second tab other hfirst hsecond htab hother heq
    have hbyte : UInt8.ofNat (((documentTabs entry).take first).countP hasHistory)
        = UInt8.ofNat (((documentTabs entry).take second).countP hasHistory) := by
      rw [← UInt8.toNat_inj, UInt8.toNat_ofNat', UInt8.toNat_ofNat']
      exact heq
    have hplaces := (hid hfirst htab).trans (hbyte ▸ (hid hsecond hother).symm)
    have hlt := (List.getElem?_eq_some_iff.mp (hid hfirst htab)).1
    exact placeOf_inj hfirst hsecond htab hother ((List.getElem?_inj hlt hnodup).mp hplaces)
  · intro hdistinct
    rw [List.nodup_iff_getElem?_ne_getElem?]
    intro i j hij hj heq
    rw [List.length_map, length_tabs] at hj
    obtain ⟨first, tab, hfirst, htab, rfl⟩ := exists_placeOf (Nat.lt_trans hij hj)
    obtain ⟨second, other, hsecond, hother, rfl⟩ := exists_placeOf hj
    rw [hid hfirst htab, hid hsecond hother, Option.some.injEq, List.singleton_inj,
      ← UInt8.toNat_inj, UInt8.toNat_ofNat', UInt8.toNat_ofNat'] at heq
    obtain rfl := hdistinct first second tab other hfirst hsecond htab hother heq
    exact absurd hij (Nat.lt_irrefl _)

theorem recoveredWindows_nodup_iff (profile : Bytes) (selectedWindow ordinal : Int64)
    (entries : List Value) :
    (∀ window ∈ recoveredWindows profile selectedWindow ordinal entries,
        (window.tabs.map (·.id)).Nodup) ↔ ∀ entry ∈ entries, DistinctNumbers entry := by
  induction entries generalizing ordinal with
  | nil => simp [recoveredWindows]
  | cons entry entries ih =>
      rw [recoveredWindows, List.forall_mem_cons, ← ih (ordinal + 1),
        ← nodup_recoveredWindow_iff profile selectedWindow (ordinal + 1)]
      split
      next hnone =>
        rw [hnone]
        exact (and_iff_right List.nodup_nil).symm
      next => exact List.forall_mem_cons

end Firefox

/-- A navigation of the tab 257. -/
def navigationOf257 : SnssCommand where
  id := 6
  payload := [0, 0, 0, 0, 1, 1, 0, 0, 0, 0, 0, 0, 4, 0, 0, 0, 104, 116, 116, 112]

end ContextSnap.Browser.Session
