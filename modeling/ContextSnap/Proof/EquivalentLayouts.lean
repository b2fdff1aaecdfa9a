import ContextSnap.Core.Geometry
import Mathlib.Data.List.Perm.Basic

/-!
# Equivalent layouts

Two layouts have the same size, and each monitor of the first finds one like itself in the second.
Monitors with the same id find each other. Those without a counterpart are not bound to find
different ones, and need not be found themselves.
-/

namespace ContextSnap.Geometry

/-- What a layout is about: where a monitor is, and how dense it is. -/
def geometry (monitor : MonitorInfo) : Rect × Rect × UInt32 :=
  (monitor.bounds, monitor.workArea, monitor.dpi)

theorem matchesGeometry_iff {monitor found : MonitorInfo} :
    matchesGeometry monitor found = true ↔ geometry found = geometry monitor := by
  simp [matchesGeometry, geometry]

/-- The best match of a monitor is one like itself. -/
def FindsItself (monitor : MonitorInfo) (layout : List MonitorInfo) : Prop :=
  (bestMatch monitor layout).any (matchesGeometry monitor) = true

/-- No monitor of the other layout has the id. -/
def unshared (layout other : List MonitorInfo) : List MonitorInfo :=
  layout.filter fun monitor => other.all fun found => found.id ≠ monitor.id

/-- What has the same id is the same monitor. -/
def SharedAgree (a b : List MonitorInfo) : Prop :=
  ∀ monitor ∈ a, ∀ found ∈ b, found.id = monitor.id → geometry found = geometry monitor

section Shared

variable {a b : List MonitorInfo}

theorem SharedAgree.symm (h : SharedAgree a b) : SharedAgree b a :=
  fun found hfound monitor hmonitor hid => (h monitor hmonitor found hfound hid.symm).symm

theorem mem_unshared {monitor : MonitorInfo} :
    monitor ∈ unshared a b ↔ monitor ∈ a ∧ ∀ found ∈ b, found.id ≠ monitor.id := by
  simp [unshared]

/-- The id comes before everything else. -/
theorem bestMatch_of_id (hb : (b.map MonitorInfo.id).Nodup) {monitor found : MonitorInfo}
    (hfound : found ∈ b) (hid : found.id = monitor.id) : bestMatch monitor b = some found := by
  have hfind : b.find? (·.id = monitor.id) = some found := by
    have hsome : (b.find? (·.id = monitor.id)).isSome = true :=
      List.find?_isSome.mpr ⟨found, hfound, decide_eq_true hid⟩
    obtain ⟨first, hfirst⟩ := Option.isSome_iff_exists.mp hsome
    have hsame := List.find?_some hfirst
    rw [decide_eq_true_iff, ← hid] at hsame
    rw [hfirst, List.inj_on_of_nodup_map hb (List.mem_of_find?_eq_some hfirst) hfound hsame]
  rw [bestMatch, hfind, Option.some_or]

theorem findsItself_of_id (hb : (b.map MonitorInfo.id).Nodup) {monitor found : MonitorInfo}
    (hfound : found ∈ b) (hid : found.id = monitor.id) :
    FindsItself monitor b ↔ geometry found = geometry monitor := by
  rw [FindsItself, bestMatch_of_id hb hfound hid, Option.any_some, matchesGeometry_iff]

/-- **What is compared** beside the sizes: the monitors with the same id, and the others with their
best matches. -/
theorem layoutsEquivalent_iff (hb : (b.map MonitorInfo.id).Nodup) :
    layoutsEquivalent a b = true ↔ a.length = b.length ∧ SharedAgree a b
      ∧ ∀ monitor ∈ unshared a b, FindsItself monitor b := by
  rw [layoutsEquivalent, decide_eq_true_iff, List.all_eq_true]
  refine and_congr_right fun _ => ⟨fun h => ⟨?_, ?_⟩, fun h monitor hmonitor => ?_⟩
  · exact fun monitor hmonitor found hfound hid =>
      (findsItself_of_id hb hfound hid).mp (h monitor hmonitor)
  · exact fun monitor hmonitor => h monitor (mem_unshared.mp hmonitor).1
  · by_cases hshared : ∃ found ∈ b, found.id = monitor.id
    · obtain ⟨found, hfound, hid⟩ := hshared
      exact (findsItself_of_id hb hfound hid).mpr (h.1 monitor hmonitor found hfound hid)
    · exact h.2 monitor (mem_unshared.mpr ⟨hmonitor, by simpa using hshared⟩)

/-! ### The same monitors -/

/-- The monitors with an id of the other layout. -/
def shared (layout other : List MonitorInfo) : List MonitorInfo :=
  layout.filter fun monitor => !other.all fun found => found.id ≠ monitor.id

theorem mem_shared {monitor : MonitorInfo} :
    monitor ∈ shared a b ↔ monitor ∈ a ∧ ∃ found ∈ b, found.id = monitor.id := by
  simp [shared]

theorem shared_append_unshared_perm (a b : List MonitorInfo) :
    (shared a b ++ unshared a b).Perm a := by
  have h := List.filter_append_perm
    (fun monitor => !b.all fun found => decide (found.id ≠ monitor.id)) a
  simp only [Bool.not_not] at h
  exact h

theorem mem_shared_image (h : SharedAgree a b) {id : Bytes} {place : Rect × Rect × UInt32}
    (hmem : (id, place) ∈ (shared a b).map fun monitor => (monitor.id, geometry monitor)) :
    (id, place) ∈ (shared b a).map fun monitor => (monitor.id, geometry monitor) := by
  obtain ⟨monitor, hmonitor, heq⟩ := List.mem_map.mp hmem
  obtain ⟨hmonitor, found, hfound, hid⟩ := mem_shared.mp hmonitor
  refine List.mem_map.mpr ⟨found, mem_shared.mpr ⟨hfound, monitor, hmonitor, hid.symm⟩, ?_⟩
  rw [← heq, hid, h monitor hmonitor found hfound hid]

theorem shared_image_nodup (ha : (a.map MonitorInfo.id).Nodup) (b : List MonitorInfo) :
    ((shared a b).map fun monitor => (monitor.id, geometry monitor)).Nodup := by
  apply List.Nodup.of_map Prod.fst
  rw [List.map_map]
  exact ha.sublist (List.filter_sublist.map _)

/-- The shared monitors are the same in both layouts. -/
theorem shared_geometry_perm (ha : (a.map MonitorInfo.id).Nodup)
    (hb : (b.map MonitorInfo.id).Nodup) (h : SharedAgree a b) :
    ((shared a b).map geometry).Perm ((shared b a).map geometry) := by
  have himages := (List.perm_ext_iff_of_nodup (shared_image_nodup ha b)
    (shared_image_nodup hb a)).mpr fun _ => ⟨mem_shared_image h, mem_shared_image h.symm⟩
  have hplaces := himages.map Prod.snd
  rwa [List.map_map, List.map_map] at hplaces

/-- Only the others can differ. -/
theorem geometry_perm_iff (ha : (a.map MonitorInfo.id).Nodup) (hb : (b.map MonitorInfo.id).Nodup)
    (h : SharedAgree a b) : (a.map geometry).Perm (b.map geometry)
      ↔ ((unshared a b).map geometry).Perm ((unshared b a).map geometry) := by
  have hfirst := (shared_append_unshared_perm a b).map geometry
  have hsecond := (shared_append_unshared_perm b a).map geometry
  rw [List.map_append] at hfirst hsecond
  have hshared := (shared_geometry_perm ha hb h).append_right ((unshared b a).map geometry)
  calc (a.map geometry).Perm (b.map geometry)
    _ ↔ ((shared a b).map geometry ++ (unshared a b).map geometry).Perm (b.map geometry) :=
        (hfirst.congr_left _).symm
    _ ↔ ((shared a b).map geometry ++ (unshared a b).map geometry).Perm
          ((shared b a).map geometry ++ (unshared b a).map geometry) :=
        (hsecond.congr_right _).symm
    _ ↔ ((shared a b).map geometry ++ (unshared a b).map geometry).Perm
          ((shared a b).map geometry ++ (unshared b a).map geometry) :=
        (hshared.congr_right _).symm
    _ ↔ ((unshared a b).map geometry).Perm ((unshared b a).map geometry) :=
        List.perm_append_left_iff _

end Shared

/-! ### Symmetry -/

section Symmetry

variable {a b : List MonitorInfo}

/-- One layout rearranged is the other one. -/
def SameMonitors (a b : List MonitorInfo) : Prop :=
  ∃ rearranged : List MonitorInfo, rearranged.Perm b
    ∧ List.Forall₂ (fun monitor found => geometry found = geometry monitor) a rearranged

structure IsEquivalence (a b : List MonitorInfo) : Prop where
  symm : layoutsEquivalent a b = layoutsEquivalent b a
  same : layoutsEquivalent a b = true → SameMonitors a b

theorem sameMonitors_iff : SameMonitors a b ↔ (a.map geometry).Perm (b.map geometry) := by
  constructor
  · rintro ⟨rearranged, hperm, hsame⟩
    have heq : a.map geometry = rearranged.map geometry := by
      rw [← List.forall₂_eq_eq_eq, List.forall₂_map_left_iff, List.forall₂_map_right_iff]
      exact hsame.imp fun _ _ => Eq.symm
    exact heq ▸ hperm.map geometry
  · intro hperm
    have hsame : List.Forall₂ (fun place found => geometry found = place) (b.map geometry) b :=
      List.forall₂_map_left_iff.mpr (List.forall₂_same.mpr fun _ _ => rfl)
    obtain ⟨rearranged, hfound, hrearranged⟩ := List.perm_comp_forall₂ hperm hsame
    exact ⟨rearranged, hrearranged, List.forall₂_map_left_iff.mp hfound⟩

/-- What becomes of the monitors without a counterpart: on either side one of them finds another
monitor, or on neither, and both sides have the same of them. -/
def UnsharedBalanced (a b : List MonitorInfo) : Prop :=
  ((∃ monitor ∈ unshared a b, ¬FindsItself monitor b)
      ∧ ∃ monitor ∈ unshared b a, ¬FindsItself monitor a)
    ∨ (∀ monitor ∈ unshared a b, FindsItself monitor b)
      ∧ (∀ monitor ∈ unshared b a, FindsItself monitor a)
      ∧ ((unshared a b).map geometry).Perm ((unshared b a).map geometry)

/-- **Layouts are equivalent to each other** exactly if their sizes or two monitors of one id tell
them apart, or else the monitors without a counterpart are balanced. -/
theorem layoutsEquivalent_isEquivalence_iff (ha : (a.map MonitorInfo.id).Nodup)
    (hb : (b.map MonitorInfo.id).Nodup) :
    IsEquivalence a b ↔ a.length ≠ b.length ∨ ¬SharedAgree a b ∨ UnsharedBalanced a b := by
  have hforth : layoutsEquivalent a b = true ↔ _ := layoutsEquivalent_iff hb
  have hback : layoutsEquivalent b a = true ↔ _ := layoutsEquivalent_iff ha
  have hdiffer : ¬layoutsEquivalent a b = true ∧ ¬layoutsEquivalent b a = true →
      IsEquivalence a b := by
    rintro ⟨hab, hba⟩
    rw [Bool.not_eq_true] at hab hba
    exact ⟨hab.trans hba.symm, fun h => absurd (hab.symm.trans h) Bool.false_ne_true⟩
  by_cases hlength : a.length = b.length
  · by_cases hshared : SharedAgree a b
    · have hsame := sameMonitors_iff.trans (geometry_perm_iff ha hb hshared)
      rw [and_iff_right hlength, and_iff_right hshared] at hforth
      rw [and_iff_right hlength.symm, and_iff_right hshared.symm] at hback
      rw [or_iff_right (not_not.mpr hlength), or_iff_right (not_not.mpr hshared)]
      constructor
      · rintro ⟨hsymm, himp⟩
        by_cases heq : layoutsEquivalent a b = true
        · exact .inr ⟨hforth.mp heq, hback.mp (hsymm ▸ heq), hsame.mp (himp heq)⟩
        · have hab := mt hforth.mpr heq
          have hba := mt hback.mpr (hsymm ▸ heq)
          push Not at hab hba
          exact .inl ⟨hab, hba⟩
      · rintro (⟨⟨monitor, hmonitor, hlost⟩, found, hfound, hlost'⟩ | ⟨hab, hba, hperm⟩)
        · exact hdiffer ⟨fun h => hlost (hforth.mp h monitor hmonitor),
            fun h => hlost' (hback.mp h found hfound)⟩
        · exact ⟨(hforth.mpr hab).trans (hback.mpr hba).symm, fun _ => hsame.mpr hperm⟩
    · refine iff_of_true (hdiffer ⟨fun h => hshared (hforth.mp h).2.1, fun h => ?_⟩)
        (.inr (.inl hshared))
      exact hshared (hback.mp h).2.1.symm
  · exact iff_of_true (hdiffer ⟨fun h => hlength (hforth.mp h).1,
      fun h => hlength (hback.mp h).1.symm⟩) (.inl hlength)

end Symmetry

/-! ### Mirrored monitors -/

def mirrorMonitor (id : String) (primary : Bool) : MonitorInfo :=
  { id := str id, bounds := { width := 1920, height := 1080 }
    workArea := { width := 1920, height := 1080 }, primary }

def wideMonitor (id : String) : MonitorInfo :=
  { id := str id, bounds := { x := 1920, width := 2560, height := 1440 }
    workArea := { x := 1920, width := 2560, height := 1440 } }

/-- A projector shows what the desk does. -/
def mirroredLayout : List MonitorInfo := [mirrorMonitor "hdmi-1" true, mirrorMonitor "dp-1" false]

def extendedLayout : List MonitorInfo := [mirrorMonitor "hdmi-2" true, wideMonitor "dp-2"]

theorem layoutsEquivalent_isEquivalence_iff_extended :
    IsEquivalence extendedLayout extendedLayout
      ↔ extendedLayout.length ≠ extendedLayout.length ∨ ¬SharedAgree extendedLayout extendedLayout
        ∨ UnsharedBalanced extendedLayout extendedLayout :=
  layoutsEquivalent_isEquivalence_iff (by decide) (by decide)

/-- Both mirrored monitors find the one of their size, and the wide one is not found. -/
theorem not_layoutsEquivalent_isEquivalence :
    ¬∀ a b : List MonitorInfo, (a.map MonitorInfo.id).Nodup → (b.map MonitorInfo.id).Nodup →
      a.countP (·.primary) ≤ 1 → b.countP (·.primary) ≤ 1 → IsEquivalence a b := by
  intro h
  have hsymm := (h mirroredLayout extendedLayout (by decide) (by decide) (by decide)
    (by decide)).symm
  revert hsymm
  decide

end ContextSnap.Geometry
