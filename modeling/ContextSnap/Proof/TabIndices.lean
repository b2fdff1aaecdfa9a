import ContextSnap.Proof.CaptureRuns

/-!
# The numbers of stored tabs

The sanitizer numbers the tabs that it keeps, and the excluded patterns then take more of them away.
The numbers stay those of the positions exactly as long as nothing is taken away in front of a tab
that stays.
-/

namespace ContextSnap

open Privacy (Sanitizer globMatch)

/-! ### Numbers and filters -/

/-- The tabs are numbered from `first` on, in 32 bits. -/
def NumberedFrom (first : Nat) (tabs : List TabInfo) : Prop :=
  ∀ i tab, tabs[i]? = some tab → tab.index = Int32.ofNat (first + i)

theorem numberedFrom_cons {first : Nat} {tab : TabInfo} {tabs : List TabInfo} :
    NumberedFrom first (tab :: tabs)
      ↔ tab.index = Int32.ofNat first ∧ NumberedFrom (first + 1) tabs := by
  constructor
  · intro h
    refine ⟨h 0 tab rfl, fun i other hother => ?_⟩
    rw [h (i + 1) other hother, Nat.add_assoc, Nat.add_comm 1]
  · rintro ⟨hfirst, hrest⟩ i other hother
    cases i with
    | zero =>
        cases hother
        exact hfirst
    | succ i => rw [hrest i other hother, Nat.add_assoc, Nat.add_comm 1]

/-- What holds of every entry of a list with those in front of it. -/
theorem forall_split_cons {α : Type} {P : List α → α → Prop} {x : α} {xs : List α} :
    (∀ front y back, x :: xs = front ++ y :: back → P front y)
      ↔ P [] x ∧ ∀ front y back, xs = front ++ y :: back → P (x :: front) y := by
  constructor
  · intro h
    refine ⟨h [] x xs rfl, fun front y back hsplit => h (x :: front) y back ?_⟩
    rw [hsplit, List.cons_append]
  · rintro ⟨hfirst, hrest⟩ front y back hsplit
    cases front with
    | nil =>
        cases hsplit
        exact hfirst
    | cons z front =>
        obtain ⟨rfl, hrest'⟩ := List.cons.inj hsplit
        exact hrest front y back hrest'

theorem numberedFrom_filter_iff (keep : TabInfo → Bool)
    (hkeep : ∀ tab index, keep { tab with index := index } = keep tab) (tabs : List TabInfo)
    (position first : Nat) :
    NumberedFrom first (((tabs.zipIdx position).map
        fun entry => { entry.1 with index := Int32.ofNat entry.2 }).filter keep)
      ↔ ∀ front tab back, tabs = front ++ tab :: back → keep tab = true →
          Int32.ofNat (position + front.length) = Int32.ofNat (first + front.countP keep) := by
  induction tabs generalizing position first with
  | nil => simp [NumberedFrom]
  | cons tab tabs ih =>
      rw [forall_split_cons, List.zipIdx_cons, List.map_cons, List.filter_cons, hkeep]
      by_cases h : keep tab = true
      · rw [if_pos h, numberedFrom_cons, ih]
        simp only [h, List.length_cons, List.countP_cons_of_pos, List.length_nil, List.countP_nil,
          forall_const, Nat.add_zero, Nat.add_assoc, Nat.add_comm 1]
      · rw [if_neg h, ih]
        simp only [h, List.length_cons, List.countP_cons_of_neg, not_false_eq_true,
          Bool.false_eq_true, false_implies, true_and, Nat.add_assoc, Nat.add_comm 1]

theorem reindex_map_id (tabs : List TabInfo) :
    (Sanitizer.reindex tabs).map (·.id) = tabs.map (·.id) := by
  rw [Sanitizer.reindex, List.map_map]
  change tabs.zipIdx.map (TabInfo.id ∘ Prod.fst) = _
  rw [← List.map_map, List.zipIdx_map_fst]

theorem sanitizeTab_id {sanitizer : Sanitizer} {tab kept : TabInfo}
    (h : sanitizer.sanitizeTab tab = some kept) : kept.id = tab.id := by
  rw [Sanitizer.sanitizeTab] at h
  split_ifs at h
  · cases h
    rfl
  · cases h
    rfl

theorem filterMap_map_sublist {α β : Type} {f : α → Option α} {key : α → β}
    (hkey : ∀ x y, f x = some y → key y = key x) (xs : List α) :
    ((xs.filterMap f).map key).Sublist (xs.map key) := by
  induction xs with
  | nil => exact List.Sublist.refl _
  | cons x xs ih =>
      cases hx : f x with
      | none =>
          rw [List.filterMap_cons_none hx]
          exact ih.cons _
      | some y =>
          rw [List.filterMap_cons_some hx, List.map_cons, List.map_cons, hkey x y hx]
          exact ih.cons_cons _

namespace SnapshotManager

section Numbers

variable {manager : SnapshotManager} {options : CaptureOptions}

/-- Whether the second pass drops a tab. -/
def matchesExcluded (options : CaptureOptions) (tab : TabInfo) : Bool :=
  options.excludedUrlPatterns.any fun pattern => globMatch pattern tab.url

/-- The tabs of each window are some of those before in their order, numbered by their positions. -/
def TabsNumbered (before after : List WindowInfo) : Prop :=
  List.Forall₂ (fun was is => (is.tabs.map (·.id)).Sublist (was.tabs.map (·.id))
    ∧ NumberedFrom 0 is.tabs) before after

/-- Of the tabs that the sanitizer keeps, the patterns drop none in front of one that they keep, or
as many as 32 bits do not see. -/
def KeepsNumbers (manager : SnapshotManager) (options : CaptureOptions) (window : WindowInfo) :
    Prop :=
  match manager.sanitizer with
  | none => NumberedFrom 0 window.tabs
  | some sanitizer => ∀ front tab back,
      window.tabs.filterMap sanitizer.sanitizeTab = front ++ tab :: back →
        matchesExcluded options tab = false → 2 ^ 32 ∣ front.countP (matchesExcluded options)

theorem ofNat_length_eq_iff (drop : TabInfo → Bool) (front : List TabInfo) :
    Int32.ofNat (0 + front.length) = Int32.ofNat (0 + front.countP fun tab => !drop tab)
      ↔ 2 ^ 32 ∣ front.countP drop := by
  have hlength := List.length_eq_countP_add_countP drop (l := front)
  have hnot : front.countP (fun tab => !drop tab)
      = front.countP fun tab => decide ¬drop tab = true := by
    apply List.countP_congr
    intro tab _
    simp
  rw [← Int32.toBitVec_inj, ← BitVec.toNat_inj, Int32.toBitVec_ofNat', Int32.toBitVec_ofNat',
    BitVec.toNat_ofNat, BitVec.toNat_ofNat, hnot]
  omega

theorem storedWindow_sublist (window : WindowInfo) :
    ((manager.storedWindow options window).tabs.map (·.id)).Sublist (window.tabs.map (·.id)) := by
  unfold storedWindow
  cases manager.sanitizer with
  | none => exact List.Sublist.refl _
  | some sanitizer =>
      dsimp only
      split_ifs
      · have hkept := (List.filter_sublist (p := fun tab => !matchesExcluded options tab)
          (l := Sanitizer.reindex (window.tabs.filterMap sanitizer.sanitizeTab))).map TabInfo.id
        rw [reindex_map_id] at hkept
        exact hkept.trans (filterMap_map_sublist (fun _ _ => sanitizeTab_id) window.tabs)
      · exact List.Sublist.refl _

theorem storedWindow_numbered_iff (hon : options.sanitizeUrls = true) (window : WindowInfo) :
    NumberedFrom 0 (manager.storedWindow options window).tabs
      ↔ manager.KeepsNumbers options window := by
  unfold storedWindow KeepsNumbers
  cases manager.sanitizer with
  | none => exact Iff.rfl
  | some sanitizer =>
      dsimp only
      rw [if_pos hon]
      have hiff := numberedFrom_filter_iff (fun tab => !matchesExcluded options tab)
        (fun _ _ => rfl) (window.tabs.filterMap sanitizer.sanitizeTab) 0 0
      refine hiff.trans ?_
      simp only [ofNat_length_eq_iff, Bool.not_eq_true']

/-- **Numbers.** The tabs of every window stay in order, and they have the numbers of their positions
exactly if the patterns take no tab away in front of one that stays. -/
theorem tabsNumbered_sanitize_iff (hon : options.sanitizeUrls = true) (snapshot : Snapshot) :
    TabsNumbered snapshot.windows (manager.sanitize snapshot options).windows
      ↔ ∀ window ∈ snapshot.windows, manager.KeepsNumbers options window := by
  rw [sanitize_windows, TabsNumbered, List.forall₂_map_right_iff, List.forall₂_same]
  simp only [storedWindow_sublist, storedWindow_numbered_iff hon, true_and]

end Numbers

def tabA : TabInfo := { id := str "1", url := str "https://a.example/" }

def tabB : TabInfo := { id := str "2", url := str "https://b.example/" }

/-- One window with both tabs. -/
def twoTabs : Snapshot := { metadata := {}, windows := [{ tabs := [tabA, tabB] }] }

set_option maxRecDepth 10000 in
/-- The last tab goes. -/
theorem tabsNumbered_withoutB :
    TabsNumbered twoTabs.windows
      (sanitize {} twoTabs { excludedUrlPatterns := [str "https://b*"] }).windows := by
  refine (tabsNumbered_sanitize_iff rfl twoTabs).mpr fun window hwindow => ?_
  have htabs : window.tabs = [tabA, tabB] := by rw [List.mem_singleton.mp hwindow]
  have hkept : [tabA, tabB].filterMap (Sanitizer.sanitizeTab {}) = [tabA, tabB] := by decide
  change ∀ front tab back, window.tabs.filterMap (Sanitizer.sanitizeTab {}) = front ++ tab :: back → _
  rw [htabs, hkept, forall_split_cons, forall_split_cons]
  refine ⟨fun _ => dvd_zero _, fun hstays => absurd hstays (by decide), ?_⟩
  exact fun front tab back hsplit => absurd hsplit (by simp)

set_option maxRecDepth 10000 in
/-- The first tab goes, and the other one keeps its number. -/
theorem not_tabsNumbered :
    ¬∀ (manager : SnapshotManager) (snapshot : Snapshot) (options : CaptureOptions),
      options.sanitizeUrls = true →
      TabsNumbered snapshot.windows (manager.sanitize snapshot options).windows := by
  intro h
  have hnumbered := h {} twoTabs { excludedUrlPatterns := [str "https://a*"] } rfl
  have hwindows : (sanitize {} twoTabs { excludedUrlPatterns := [str "https://a*"] }).windows
      = [{ tabs := [{ tabB with index := 1 }] }] := by decide
  rw [hwindows] at hnumbered
  obtain ⟨⟨-, hnumbers⟩, -⟩ := List.forall₂_cons.mp hnumbered
  have hfirst : (1 : Int32) = Int32.ofNat 0 := hnumbers 0 { tabB with index := 1 } rfl
  exact absurd hfirst (by decide)

end SnapshotManager

end ContextSnap
