import ContextSnap.Lib.Int32Ops
import ContextSnap.Proof.HeadlessRestore

/-!
# The stack of the null platform

A raise gives its window a number above all others. So the windows that a restore raises end above
those that it does not, and among themselves in the order of the snapshot, which numbers them the
same way.
-/

namespace ContextSnap.Restore

open Hal (NullPlatformState onNullPlatform)
open Hal.NullPlatformState

section Raise

variable {s : NullPlatformState} {handle : UInt64} {raised : List UInt64}

/-! ### The top of the stack -/

theorem toInt_foldl_max_le {bound : ℤ} (windows : List WindowInfo) (start : Int32) :
    (windows.foldl (fun top window => max top window.zOrder) start).toInt ≤ bound
      ↔ start.toInt ≤ bound ∧ ∀ window ∈ windows, window.zOrder.toInt ≤ bound := by
  induction windows generalizing start with
  | nil => simp
  | cons window windows ih =>
      rw [List.foldl_cons, ih, toInt_max, max_le_iff, and_assoc, List.forall_mem_cons]

theorem toInt_top_le {bound : ℤ} :
    s.top.toInt ≤ bound ↔ 0 ≤ bound ∧ ∀ native ∈ s.windows, native.zOrder.toInt ≤ bound :=
  toInt_foldl_max_le s.windows 0

theorem le_top {native : WindowInfo} (h : native ∈ s.windows) :
    native.zOrder.toInt ≤ s.top.toInt := (toInt_top_le.mp (le_refl _)).2 native h

theorem toInt_lift (hroom : s.top.toInt + 1 < 2 ^ 31) (native : WindowInfo) :
    (lift s native).zOrder.toInt = s.top.toInt + 1 := by
  have hzero : 0 ≤ s.top.toInt := (toInt_top_le.mp (le_refl _)).1
  have hrange : (Int32Op.add s.top 1).InRange :=
    ⟨Int.le_trans (by norm_num) (Int.add_nonneg hzero Int.one_nonneg), hroom⟩
  exact Int32Op.toInt_value hrange

/-- The window that is raised is the new top. -/
theorem toInt_top_changing (hhandles : (s.windows.map (·.nativeHandle)).Nodup)
    (hmem : handle ∈ s.windows.map (·.nativeHandle)) (hroom : s.top.toInt + 1 < 2 ^ 31) :
    (s.changing handle (lift s)).top.toInt = s.top.toInt + 1 := by
  apply le_antisymm
  · refine toInt_top_le.mpr ⟨?_, fun native hnative => ?_⟩
    · have hzero : 0 ≤ s.top.toInt := (toInt_top_le.mp (le_refl _)).1
      omega
    · rcases mem_changed hnative with hold | ⟨old, -, -, rfl⟩
      · exact le_trans (le_top hold) (by omega)
      · exact (toInt_lift hroom old).le
  · obtain ⟨old, hold, hhandle⟩ := List.mem_map.mp hmem
    rw [← toInt_lift hroom old]
    apply le_top
    rw [changing, changed_eq_map hhandles]
    exact List.mem_map.mpr ⟨old, hold, if_pos hhandle⟩

/-! ### Raising one after another -/

/-- **Raising.** What is not raised stays as it was, what is raised ends above, in the order in which
it is raised. -/
theorem raiseAll_stacks (hhandles : (s.windows.map (·.nativeHandle)).Nodup)
    (hnodup : raised.Nodup) (hmem : ∀ handle ∈ raised, handle ∈ s.windows.map (·.nativeHandle))
    (hroom : s.top.toInt + raised.length < 2 ^ 31) :
    (∀ native ∈ (raiseAll s raised).windows,
        (native.nativeHandle ∉ raised → native ∈ s.windows)
        ∧ (native.nativeHandle ∈ raised → s.top.toInt < native.zOrder.toInt))
      ∧ raised.Pairwise fun lower upper =>
        ∀ x ∈ (raiseAll s raised).windows, ∀ y ∈ (raiseAll s raised).windows,
          x.nativeHandle = lower → y.nativeHandle = upper → x.zOrder < y.zOrder := by
  induction raised generalizing s with
  | nil => exact ⟨fun native hnative => ⟨fun _ => hnative, fun h => absurd h List.not_mem_nil⟩, .nil⟩
  | cons handle raised ih =>
      have hlift : ∀ native, (lift s native).nativeHandle = native.nativeHandle := fun _ => rfl
      rw [List.length_cons, Nat.cast_succ] at hroom
      have htop := toInt_top_changing hhandles (hmem handle (List.mem_cons_self ..)) (by omega)
      have hchanging : (s.changing handle (lift s)).windows.map (·.nativeHandle)
          = s.windows.map (·.nativeHandle) := handles_changing hlift
      obtain ⟨hfresh, hrest⟩ := List.nodup_cons.mp hnodup
      obtain ⟨hwindows, hpairs⟩ := @ih (s.changing handle (lift s)) (hchanging.symm ▸ hhandles) hrest
        (by rw [hchanging]; exact fun other hother => hmem other (List.mem_cons_of_mem _ hother))
        (by rw [htop]; omega)
      have hkept : ∀ native ∈ (raiseAll (s.changing handle (lift s)) raised).windows,
          native.nativeHandle ∉ raised → ∃ old ∈ s.windows,
            (if old.nativeHandle = handle then lift s old else old) = native := by
        intro native hnative hnot
        have hmiddle := (hwindows native hnative).1 hnot
        rw [changing, changed_eq_map hhandles] at hmiddle
        exact List.mem_map.mp hmiddle
      rw [raiseAll, List.foldl_cons, ← raiseAll]
      refine ⟨fun native hnative => ⟨fun hnot => ?_, fun hin => ?_⟩, hpairs.cons ?_⟩
      · rw [List.mem_cons, not_or] at hnot
        obtain ⟨old, hold, rfl⟩ := hkept native hnative hnot.2
        split_ifs at hnot ⊢ with hhandle
        · exact absurd hhandle hnot.1
        · exact hold
      · by_cases hraised : native.nativeHandle ∈ raised
        · have habove := (hwindows native hnative).2 hraised
          rw [htop] at habove
          omega
        · have hhandle := (List.mem_cons.mp hin).resolve_right hraised
          obtain ⟨old, -, rfl⟩ := hkept native hnative hraised
          split_ifs at hhandle ⊢ with hold
          · rw [toInt_lift (by omega) old]
            omega
          · exact absurd hhandle hold
      · intro upper hupper x hx y hy hxhandle hyhandle
        have habove := (hwindows y hy).2 (hyhandle ▸ hupper)
        have hbelow := le_top ((hwindows x hx).1 (hxhandle ▸ hfresh))
        exact Int32.lt_iff_toInt_lt.mpr (lt_of_le_of_lt hbelow habove)

end Raise

/-! ### Whole restores -/

section Restore

variable {τ : Type} (others : (op : Hal.Op) → τ → Hal.Answer op × τ) {s : NullPlatformState}
  {saved : Snapshot} (options : RestoreOptions) (bridge : Bool)

def stackEntry (window : WindowInfo) : UInt64 × Int32 := (window.nativeHandle, window.zOrder)

theorem stackEntry_focus (s : NullPlatformState) (handle : UInt64) :
    (s.focus handle).2.windows.map stackEntry = s.windows.map stackEntry := by
  have hfocus : ∀ window, stackEntry (withFocus true window) = stackEntry window := fun _ => rfl
  unfold focus
  split
  · split
    · rfl
    · dsimp only
      rw [map_changed stackEntry hfocus, List.map_map]
      rfl
  · rfl

/-- Behind the raises, the closing steps leave the stack alone. -/
theorem stackEntry_afterClosing {context : Context} (handles : Handles)
    (hrestore : context.options.restoreZOrder = true) :
    (afterClosing context handles s).windows.map stackEntry
      = (raiseAll s (raisedHandles context handles)).windows.map stackEntry := by
  have hfocusing : ∀ s, (focusing context handles s).windows.map stackEntry
      = s.windows.map stackEntry := by
    intro s
    unfold focusing
    split
    · exact stackEntry_focus ..
    · rfl
  unfold afterClosing
  rw [if_pos hrestore]
  simp only [apply_ite fun s : NullPlatformState => s.windows.map stackEntry, hfocusing, warp_windows,
    ite_self]

theorem top_afterWindows (context : Context) (handles : Handles) (items : List (WindowInfo × Bool)) :
    (afterWindows context handles items s).top = s.top := by
  have hz : ∀ native,
      (arranged context (driven context handles items) native).zOrder = native.zOrder := by
    intro native
    unfold arranged
    split <;> rfl
  rw [top, top, afterWindows, List.foldl_map]
  simp only [hz]

/-- No native window is raised twice. -/
theorem raisedHandles_nodup (hids : (saved.windows.map (·.id)).Nodup) :
    (raisedHandles (restoringContext s saved options bridge)
      (prematch saved.windows s.windows)).Nodup := by
  have horder : ((raiseOrder options saved.windows).map (·.id)).Nodup := by
    have hfilter : ((saved.windows.filter (selectorMatches · options.selectors)).map (·.id)).Nodup :=
      hids.sublist (List.filter_sublist.map _)
    exact ((List.perm_insertionSort _ _).map fun window : WindowInfo => window.id).nodup_iff.mpr
      hfilter
  rw [List.Nodup, raisedHandles, List.pairwise_filterMap]
  refine (List.pairwise_map.mp horder).imp_of_mem ?_
  intro a b ha hb hne handle hhandle handle' hhandle' heq
  exact prematch_apart saved s.windows a (mem_raiseOrder.mp ha).1 b (mem_raiseOrder.mp hb).1 hne
    handle hhandle (heq ▸ hhandle')

theorem length_raisedHandles_le (context : Context) (handles : Handles) :
    (raisedHandles context handles).length ≤ context.snapshot.windows.length :=
  calc
    (raisedHandles context handles).length
      ≤ (raiseOrder context.options context.snapshot.windows).length := List.length_filterMap_le ..
    _ = (context.snapshot.windows.filter (selectorMatches · context.options.selectors)).length :=
      (List.perm_insertionSort _ _).length_eq
    _ ≤ context.snapshot.windows.length := List.length_filter_le ..

/-- Behind a window, only windows with no smaller number are raised. -/
theorem raisedHandles_split {context : Context} {handles : Handles} {upper : WindowInfo}
    {high : UInt64} (hupper : upper ∈ raiseOrder context.options context.snapshot.windows)
    (hhigh : handles upper.id = some high) :
    ∃ front back, raisedHandles context handles = front ++ high :: back
      ∧ ∀ handle ∈ back, ∃ window ∈ raiseOrder context.options context.snapshot.windows,
        handles window.id = some handle ∧ upper.zOrder ≤ window.zOrder := by
  obtain ⟨front, back, hsplit⟩ := List.append_of_mem hupper
  have hsorted := raiseOrder_sorted context.options context.snapshot.windows
  rw [hsplit] at hsorted
  have hbehind := (List.pairwise_cons.mp (List.pairwise_append.mp hsorted).2.1).1
  refine ⟨front.filterMap fun window => handles window.id,
    back.filterMap fun window => handles window.id, ?_, fun handle hhandle => ?_⟩
  · rw [raisedHandles, hsplit, List.filterMap_append, List.filterMap_cons, hhigh]
  · obtain ⟨window, hwindow, hfound⟩ := List.mem_filterMap.mp hhandle
    refine ⟨window, ?_, hfound, hbehind window hwindow⟩
    rw [hsplit]
    exact List.mem_append_right _ (List.mem_cons_of_mem _ hwindow)

/-- A window that is raised ends above every other one that is not raised behind it. -/
theorem zOrder_lt_last (h : Restorable saved s) (hrestore : options.restoreZOrder = true)
    (hroom : s.top.toInt + saved.windows.length < 2 ^ 31) (t : τ) {front back : List UInt64}
    {x y : WindowInfo}
    (hx : x ∈ ((restoring s saved options bridge).trace (onNullPlatform others)
      (s, t)).2.2.1.windows)
    (hy : y ∈ ((restoring s saved options bridge).trace (onNullPlatform others)
      (s, t)).2.2.1.windows)
    (hsplit : raisedHandles (restoringContext s saved options bridge)
      (prematch saved.windows s.windows) = front ++ y.nativeHandle :: back)
    (hbehind : x.nativeHandle ∉ y.nativeHandle :: back) : x.zOrder < y.zOrder := by
  obtain ⟨hlast, -⟩ := restoring_outcome others options bridge h t
  have hnodup := raisedHandles_nodup (s := s) options bridge h.ids
  have hlength := length_raisedHandles_le (restoringContext s saved options bridge)
    (prematch saved.windows s.windows)
  have hmem : ∀ handle ∈ raisedHandles (restoringContext s saved options bridge)
      (prematch saved.windows s.windows), handle ∈ s.windows.map (·.nativeHandle) := by
    intro handle hhandle
    obtain ⟨window, -, hwindow⟩ := List.mem_filterMap.mp hhandle
    exact prematch_mem hwindow
  generalize hcontext : restoringContext s saved options bridge = context at *
  generalize restoringItems s saved options = items at hlast
  have hsaved : context.snapshot = saved := hcontext ▸ rfl
  have hoptions : context.options = options := hcontext ▸ rfl
  rw [hsaved] at hlength
  have hsame := map_handle_eq
    (@identity_afterWindows context (prematch saved.windows s.windows) s items)
  obtain ⟨hwindows, hpairs⟩ := @raiseAll_stacks
    (afterWindows context (prematch saved.windows s.windows) items s) _ (hsame.symm ▸ h.handles)
    hnodup (hsame.symm ▸ hmem) (by rw [top_afterWindows]; omega)
  have hstack := @stackEntry_afterClosing
    (afterWindows context (prematch saved.windows s.windows) items s) context
    (prematch saved.windows s.windows) (hoptions ▸ hrestore)
  rw [← hlast] at hstack
  generalize (raiseAll (afterWindows context (prematch saved.windows s.windows) items s)
    (raisedHandles context (prematch saved.windows s.windows))).windows = stacked
    at hwindows hpairs hstack
  have hentry : ∀ native ∈ ((restoring s saved options bridge).trace (onNullPlatform others)
      (s, t)).2.2.1.windows, ∃ same ∈ stacked,
        same.nativeHandle = native.nativeHandle ∧ same.zOrder = native.zOrder := by
    intro native hnative
    obtain ⟨same, hsame, heq⟩ := List.mem_map.mp (hstack ▸ List.mem_map_of_mem hnative)
    exact ⟨same, hsame, congrArg Prod.fst heq, congrArg Prod.snd heq⟩
  obtain ⟨x', hx', hxhandle, hxz⟩ := hentry x hx
  obtain ⟨y', hy', hyhandle, hyz⟩ := hentry y hy
  rw [← hxz, ← hyz]
  rw [← hxhandle] at hbehind
  by_cases hfront : x'.nativeHandle ∈ front
  · rw [hsplit] at hpairs
    have hbefore := (List.pairwise_append.mp hpairs).2.2 _ hfront _ (List.mem_cons_self ..)
    exact hbefore x' hx' y' hy' rfl hyhandle
  · have hraised : y'.nativeHandle ∈ raisedHandles context (prematch saved.windows s.windows) := by
      rw [hsplit, hyhandle]
      exact List.mem_append_right _ (List.mem_cons_self ..)
    have hnot : x'.nativeHandle ∉ raisedHandles context (prematch saved.windows s.windows) := by
      rw [hsplit, List.mem_append, not_or]
      exact ⟨hfront, hbehind⟩
    exact Int32.lt_iff_toInt_lt.mpr
      (lt_of_le_of_lt (le_top ((hwindows x' hx').1 hnot)) ((hwindows y' hy').2 hraised))

/-- **A restore keeps the saved stack.** Of two selected windows that are on screen, the one with the
smaller number in the snapshot ends with the smaller number, and both end above every window that is
on screen for no selected one. -/
theorem restoring_stacks (h : Restorable saved s) (hrestore : options.restoreZOrder = true)
    (hroom : s.top.toInt + saved.windows.length < 2 ^ 31) (t : τ) :
    let last := ((restoring s saved options bridge).trace (onNullPlatform others) (s, t)).2.2.1
    let OnScreen := fun window native : WindowInfo => window ∈ saved.windows
      ∧ selectorMatches window options.selectors = true
      ∧ prematch saved.windows s.windows window.id = some native.nativeHandle
    ∀ x ∈ last.windows, ∀ y ∈ last.windows, ∀ upper, OnScreen upper y →
      (∀ lower, OnScreen lower x → lower.zOrder < upper.zOrder) → x.zOrder < y.zOrder := by
  intro last OnScreen x hx y hy upper hupper hlower
  obtain ⟨front, back, hsplit, hback⟩ := @raisedHandles_split
    (restoringContext s saved options bridge) _ _ _ (mem_raiseOrder.mpr ⟨hupper.1, hupper.2.1⟩)
    hupper.2.2
  refine zOrder_lt_last others options bridge h hrestore hroom t hx hy hsplit fun hbehind => ?_
  rcases List.mem_cons.mp hbehind with hself | hbehind
  · exact Int32.lt_irrefl (hlower upper ⟨hupper.1, hupper.2.1, hself ▸ hupper.2.2⟩)
  · obtain ⟨lower, hmem, hfound, hle⟩ := hback _ hbehind
    obtain ⟨hsaved, hselected⟩ := mem_raiseOrder.mp hmem
    exact Int32.not_lt.mpr hle (hlower lower ⟨hsaved, hselected, hfound⟩)

theorem restoring_stacks_sample :
    let s := Hal.sampleNullState (str "editor") (str "browser")
    let last := ((restoring s sampleSaved {} false).trace (onNullPlatform (obliging (.ok [])))
      (s, ())).2.2.1
    let OnScreen := fun window native : WindowInfo => window ∈ sampleSaved.windows
      ∧ selectorMatches window ([] : List RestoreSelector) = true
      ∧ prematch sampleSaved.windows s.windows window.id = some native.nativeHandle
    ∀ x ∈ last.windows, ∀ y ∈ last.windows, ∀ upper, OnScreen upper y →
      (∀ lower, OnScreen lower x → lower.zOrder < upper.zOrder) → x.zOrder < y.zOrder :=
  restoring_stacks _ _ _ restorable_sample rfl (by decide) ()

/-! ### The focus -/

theorem focused_changed {windows : List WindowInfo} {handle : UInt64} {now : WindowInfo}
    (hhandles : (windows.map (·.nativeHandle)).Nodup)
    (hnow : now ∈ changed (windows.map (withFocus false)) handle (withFocus true)) :
    now.focused = true ↔ now.nativeHandle = handle := by
  have hunfocused : ((windows.map (withFocus false)).map (·.nativeHandle)).Nodup := by
    rwa [List.map_map]
  rw [changed_eq_map hunfocused, List.map_map] at hnow
  obtain ⟨old, -, rfl⟩ := List.mem_map.mp hnow
  dsimp only [Function.comp_apply]
  split_ifs with hhandle
  · exact ⟨fun _ => hhandle, fun _ => rfl⟩
  · exact ⟨fun hfocused => absurd hfocused Bool.false_ne_true, fun heq => absurd heq hhandle⟩

theorem mem_changed_focused {windows : List WindowInfo} {target : WindowInfo}
    (hhandles : (windows.map (·.nativeHandle)).Nodup) (hmem : target ∈ windows) :
    withFocus true target
      ∈ changed (windows.map (withFocus false)) target.nativeHandle (withFocus true) := by
  have hunfocused : ((windows.map (withFocus false)).map (·.nativeHandle)).Nodup := by
    rwa [List.map_map]
  rw [changed_eq_map hunfocused, List.map_map]
  exact List.mem_map.mpr ⟨target, hmem, if_pos rfl⟩

theorem allowMutation_warp (s : NullPlatformState) (x y : Int32) :
    (s.warp x y).2.allowMutation = s.allowMutation := by
  unfold warp
  split <;> rfl

/-- Before the focus, the closing steps leave the windows what they are and warp the cursor. -/
theorem afterClosing_focused {context : Context} {handles : Handles}
    (hfocus : context.options.restoreFocus = true) (hmutable : s.allowMutation = true) :
    ∃ pointed : NullPlatformState, afterClosing context handles s = focusing context handles pointed
      ∧ pointed.windows.map unstacked = s.windows.map unstacked ∧ pointed.allowMutation = true
      ∧ (context.options.restoreCursor = true →
        pointed.cursor.x = context.snapshot.cursor.x
          ∧ pointed.cursor.y = context.snapshot.cursor.y) := by
  have hstacked : (if context.options.restoreZOrder then raiseAll s (raisedHandles context handles)
      else s).allowMutation = true := by
    split
    · rwa [allowMutation_raiseAll]
    · exact hmutable
  unfold afterClosing
  rw [if_pos hfocus]
  refine ⟨_, rfl, ?_, ?_, fun hcursor => ?_⟩
  · simp only [apply_ite fun s : NullPlatformState => s.windows.map unstacked, warp_windows,
      unstacked_raiseAll, ite_self]
  · split
    · exact (allowMutation_warp ..).trans hstacked
    · exact hstacked
  · rw [if_pos hcursor, warp, if_pos hstacked]
    exact ⟨rfl, rfl⟩

/-- The last thing that a restore does is to give a window the focus. -/
theorem focused_last (h : Restorable saved s) (hfocus : options.restoreFocus = true) {id : Bytes}
    {handle : UInt64} (hid : saved.cursor.focusedWindowId = some id)
    (hhandle : prematch saved.windows s.windows id = some handle) (t : τ) :
    ∃ pointed : NullPlatformState, ∃ target ∈ pointed.windows, target.nativeHandle = handle
      ∧ (pointed.windows.map (·.nativeHandle)).Nodup
      ∧ ((restoring s saved options bridge).trace (onNullPlatform others) (s, t)).2.2.1
        = { pointed with
            windows := changed (pointed.windows.map (withFocus false)) handle (withFocus true)
            cursor := { pointed.cursor with focusedWindowId := some target.id } }
      ∧ (options.restoreCursor = true →
        pointed.cursor.x = saved.cursor.x ∧ pointed.cursor.y = saved.cursor.y) := by
  obtain ⟨hlast, -⟩ := restoring_outcome others options bridge h t
  generalize hcontext : restoringContext s saved options bridge = context at hlast
  generalize restoringItems s saved options = items at hlast
  have hsaved : context.snapshot = saved := hcontext ▸ rfl
  have hoptions : context.options = options := hcontext ▸ rfl
  obtain ⟨pointed, hclosing, hwindows, hmutable, hcursor⟩ :=
    @afterClosing_focused (afterWindows context (prematch saved.windows s.windows) items s) context
      (prematch saved.windows s.windows) (hoptions ▸ hfocus) h.mutable
  have hhandles : pointed.windows.map (·.nativeHandle) = s.windows.map (·.nativeHandle) := by
    have hread := congrArg (List.map fun window : WindowInfo => window.nativeHandle) hwindows
    rw [List.map_map, List.map_map] at hread
    exact hread.trans (map_handle_eq (identity_afterWindows items))
  have hfocusing : focusing context (prematch saved.windows s.windows) pointed
      = (pointed.focus handle).2 := by
    rw [focusing, hsaved, hid, Option.bind_some, hhandle]
  obtain ⟨target, htarget, htargetHandle, hcall⟩ := focus_of_mem hmutable
    (hhandles.symm ▸ prematch_mem hhandle)
  refine ⟨pointed, target, htarget, htargetHandle, hhandles.symm ▸ h.handles, ?_, fun hrestore => ?_⟩
  · rw [hlast, hclosing, hfocusing, hcall]
  · exact hsaved ▸ hcursor (hoptions ▸ hrestore)

/-- **A restore gives the focus back.** The window that had it in the snapshot, if it is on screen,
ends as the only one with the focus, and the cursor knows it. -/
theorem restoring_focuses (h : Restorable saved s) (hfocus : options.restoreFocus = true) {id : Bytes}
    {handle : UInt64} (hid : saved.cursor.focusedWindowId = some id)
    (hhandle : prematch saved.windows s.windows id = some handle) (t : τ) :
    let last := ((restoring s saved options bridge).trace (onNullPlatform others) (s, t)).2.2.1
    (∀ now ∈ last.windows, now.focused = true ↔ now.nativeHandle = handle)
      ∧ (∃ now ∈ last.windows, now.nativeHandle = handle
        ∧ last.cursor.focusedWindowId = some now.id)
      ∧ (options.restoreCursor = true →
        last.cursor.x = saved.cursor.x ∧ last.cursor.y = saved.cursor.y) := by
  intro last
  obtain ⟨pointed, target, htarget, rfl, hhandles, hlast, hcursor⟩ :=
    focused_last others options bridge h hfocus hid hhandle t
  simp only [last]
  rw [hlast]
  refine ⟨fun now hnow => focused_changed hhandles hnow, ?_, hcursor⟩
  exact ⟨withFocus true target, mem_changed_focused hhandles htarget, rfl, rfl⟩

theorem restoring_focuses_sample :
    let s := Hal.sampleNullState (str "editor") (str "browser")
    let last := ((restoring s sampleSaved {} false).trace (onNullPlatform (obliging (.ok [])))
      (s, ())).2.2.1
    (∀ now ∈ last.windows, now.focused = true ↔ now.nativeHandle = 1002)
      ∧ (∃ now ∈ last.windows, now.nativeHandle = 1002
        ∧ last.cursor.focusedWindowId = some now.id)
      ∧ (true = true → last.cursor.x = 3 ∧ last.cursor.y = 4) :=
  restoring_focuses _ _ _ restorable_sample rfl rfl (by decide +kernel) ()

end Restore

end ContextSnap.Restore
