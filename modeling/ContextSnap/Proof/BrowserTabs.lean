import ContextSnap.Browser.Bridge

/-!
# How tabs come to windows

Both passes over the windows of a capture give a window the tabs of a browser window that no window
has yet. Which one they choose does not matter here: what counts is that an index is consumed once,
and that the second pass goes on as long as there is one left.
-/

namespace ContextSnap.Browser

/-- Lists that are related element by element, twice. -/
theorem forall₂_trans {α β γ : Type} {R : α → β → Prop} {S : β → γ → Prop} {T : α → γ → Prop}
    (htrans : ∀ a b c, R a b → S b c → T a c) {first : List α} {second : List β} {third : List γ}
    (h : List.Forall₂ R first second) (h' : List.Forall₂ S second third) :
    List.Forall₂ T first third := by
  induction h generalizing third with
  | nil =>
      cases h'
      exact .nil
  | cons hhead _ ih =>
      cases h' with
      | cons hhead' htail' => exact .cons (htrans _ _ _ hhead hhead') (ih htail')

theorem forall₂_mem_right {α β : Type} {R : α → β → Prop} {first : List α} {second : List β}
    (h : List.Forall₂ R first second) {b : β} (hb : b ∈ second) : ∃ a ∈ first, R a b := by
  induction h with
  | nil => exact absurd hb List.not_mem_nil
  | cons hhead _ ih =>
      rcases List.mem_cons.mp hb with rfl | hb
      · exact ⟨_, List.mem_cons_self .., hhead⟩
      · obtain ⟨a, ha, hR⟩ := ih hb
        exact ⟨a, List.mem_cons_of_mem _ ha, hR⟩

/-- As many different numbers below a bound as there are: all of them. -/
theorem mem_of_nodup {numbers : List Nat} {n : Nat} (hnodup : numbers.Nodup)
    (hlt : ∀ i ∈ numbers, i < n) (hlength : n ≤ numbers.length) {i : Nat} (hi : i < n) :
    i ∈ numbers := by
  have hsub : numbers ⊆ List.range n := fun j hj => List.mem_range.mpr (hlt j hj)
  have hperm := (List.subperm_of_subset hnodup hsub).perm_of_length_le (by simpa using hlength)
  exact hperm.mem_iff.mpr (List.mem_range.mpr hi)

/-- The tabs came from `captured`, a window of the same browser. -/
structure Fits (reported : List BrowserWindow) (window : WindowInfo)
    (captured : BrowserWindow) (index : Nat) : Prop where
  reported : reported[index]? = some captured
  browser : captured.browser = window.browser
  isBrowser : window.browser ≠ .none

/-- A choice that gives a window only what is not consumed. -/
def Chooses (reported : List BrowserWindow)
    (choose : List Nat → WindowInfo → Option (BrowserWindow × Nat)) : Prop :=
  ∀ consumed window captured index, choose consumed window = some (captured, index) →
    Fits reported window captured index ∧ index ∉ consumed

section Choices

variable (reported : List BrowserWindow)

/-- `bestByGeometry` with any score in the place of the proximity of the frames. -/
def bestBy {L : Type} [LT L] [DecidableLT L] (score : WindowInfo → BrowserWindow → L) (start : L)
    (consumed : List Nat) (window : WindowInfo) : Option (BrowserWindow × Nat) :=
  if window.browser = .none then none
  else
    (reported.zipIdx.foldl (fun (best : L × Option (BrowserWindow × Nat)) entry =>
      if entry.2 ∈ consumed ∨ entry.1.browser ≠ window.browser then best
      else if score window entry.1 > best.1 then (score window entry.1, some entry)
      else best) (start, none)).2

theorem chooses_bestBy {L : Type} [LT L] [DecidableLT L]
    (score : WindowInfo → BrowserWindow → L) (start : L) :
    Chooses reported (bestBy reported score start) := by
  intro consumed window captured index h
  rw [bestBy] at h
  by_cases hnone : window.browser = .none
  · rw [if_pos hnone] at h
    cases h
  · rw [if_neg hnone] at h
    -- What the fold holds is an entry of the list that it has been through.
    have hbest : ∀ (entries : List (BrowserWindow × Nat)) (best : L × Option (BrowserWindow × Nat)),
        (∀ entry ∈ best.2, entry ∈ reported.zipIdx ∧ entry.2 ∉ consumed
          ∧ entry.1.browser = window.browser) →
        (∀ entry ∈ entries, entry ∈ reported.zipIdx) →
        ∀ entry ∈ (entries.foldl (fun (best : L × Option (BrowserWindow × Nat)) entry =>
          if entry.2 ∈ consumed ∨ entry.1.browser ≠ window.browser then best
          else if score window entry.1 > best.1 then (score window entry.1, some entry)
          else best) best).2, entry ∈ reported.zipIdx ∧ entry.2 ∉ consumed
            ∧ entry.1.browser = window.browser := by
      intro entries
      induction entries with
      | nil =>
          intro best hbest _
          exact hbest
      | cons first entries ih =>
          intro best hbest hentries
          rw [List.foldl_cons]
          apply ih _ _ fun entry hentry => hentries entry (List.mem_cons_of_mem _ hentry)
          by_cases hskip : first.2 ∈ consumed ∨ first.1.browser ≠ window.browser
          · rw [if_pos hskip]
            exact hbest
          · rw [if_neg hskip]
            by_cases hbetter : score window first.1 > best.1
            · rw [if_pos hbetter]
              intro entry hentry
              cases hentry
              rw [not_or, not_not] at hskip
              exact ⟨hentries first (List.mem_cons_self ..), hskip.1, hskip.2⟩
            · rw [if_neg hbetter]
              exact hbest
    obtain ⟨hmem, hunused, hbrowser⟩ := hbest reported.zipIdx (start, none) (by simp)
      (fun entry hentry => hentry) (captured, index) h
    exact ⟨⟨List.mem_zipIdx_iff_getElem?.mp hmem, hbrowser, hnone⟩, hunused⟩

theorem chooses_bestByGeometry : Chooses reported (bestByGeometry reported) :=
  chooses_bestBy reported attachScore 0.55

theorem chooses_nextByOrder : Chooses reported (nextByOrder reported) := by
  intro consumed window captured index h
  rw [nextByOrder] at h
  by_cases hskip : window.browser = .none ∨ window.tabs ≠ []
  · rw [if_pos hskip] at h
    cases h
  · rw [if_neg hskip] at h
    have hfound := List.find?_some h
    rw [decide_eq_true_eq] at hfound
    rw [not_or] at hskip
    exact ⟨⟨List.mem_zipIdx_iff_getElem?.mp (List.mem_of_find?_eq_some h), hfound.2, hskip.1⟩,
      hfound.1⟩

end Choices

/-! ### One pass -/

section Pass

variable {reported : List BrowserWindow}
  {choose : List Nat → WindowInfo → Option (BrowserWindow × Nat)}

theorem attachPass_some {consumed : List Nat} {window : WindowInfo} {captured : BrowserWindow}
    {index : Nat} (h : choose consumed window = some (captured, index)) (rest : List WindowInfo) :
    attachPass choose consumed (window :: rest)
      = ((attachPass choose (index :: consumed) rest).1,
          withTabs window captured :: (attachPass choose (index :: consumed) rest).2) := by
  simp only [attachPass, h]

theorem attachPass_none {consumed : List Nat} {window : WindowInfo}
    (h : choose consumed window = none) (rest : List WindowInfo) :
    attachPass choose consumed (window :: rest)
      = ((attachPass choose consumed rest).1, window :: (attachPass choose consumed rest).2) := by
  simp only [attachPass, h]

/-- A window keeps its tabs or gets those of a reported window. Nothing else changes but the
profile. -/
structure Receives (reported : List BrowserWindow) (window after : WindowInfo) : Prop where
  same : after = { window with tabs := after.tabs, browserProfile := after.browserProfile }
  tabs : after.tabs = window.tabs
    ∨ ∃ captured index, Fits reported window captured index ∧ after.tabs = captured.tabs

theorem Receives.refl (reported : List BrowserWindow) (window : WindowInfo) :
    Receives reported window window := ⟨rfl, .inl rfl⟩

theorem Receives.trans {first second third : WindowInfo} (h : Receives reported first second)
    (h' : Receives reported second third) : Receives reported first third where
  same := by
    rw [h'.same, h.same]
  tabs := by
    rcases h'.tabs with hkept | ⟨captured, index, hfits, htabs⟩
    · rw [hkept]
      exact h.tabs
    · have hbrowser : second.browser = first.browser := by rw [h.same]
      exact .inr ⟨captured, index,
        ⟨hfits.reported, hfits.browser.trans hbrowser, hbrowser ▸ hfits.isBrowser⟩, htabs⟩

theorem attachPass_each (hchoose : Chooses reported choose) (consumed : List Nat)
    (windows : List WindowInfo) :
    List.Forall₂ (Receives reported) windows (attachPass choose consumed windows).2 := by
  induction windows generalizing consumed with
  | nil => exact .nil
  | cons window rest ih =>
      cases hchosen : choose consumed window with
      | none =>
          rw [attachPass_none hchosen]
          exact .cons (Receives.refl _ _) (ih _)
      | some chosen =>
          obtain ⟨captured, index⟩ := chosen
          rw [attachPass_some hchosen]
          have hfits := (hchoose _ _ _ _ hchosen).1
          exact .cons ⟨rfl, .inr ⟨captured, index, hfits, rfl⟩⟩ (ih _)

/-- Every index is consumed once. -/
theorem attachPass_nodup (hchoose : Chooses reported choose) {consumed : List Nat}
    (hnodup : consumed.Nodup) (hlt : ∀ index ∈ consumed, index < reported.length)
    (windows : List WindowInfo) :
    (attachPass choose consumed windows).1.Nodup
      ∧ ∀ index ∈ (attachPass choose consumed windows).1, index < reported.length := by
  induction windows generalizing consumed with
  | nil => exact ⟨hnodup, hlt⟩
  | cons window rest ih =>
      cases hchosen : choose consumed window with
      | none =>
          rw [attachPass_none hchosen]
          exact ih hnodup hlt
      | some chosen =>
          obtain ⟨captured, index⟩ := chosen
          obtain ⟨hfits, hunused⟩ := hchoose _ _ _ _ hchosen
          rw [attachPass_some hchosen]
          apply ih (List.nodup_cons.mpr ⟨hunused, hnodup⟩)
          intro other hother
          rcases List.mem_cons.mp hother with rfl | hother
          · exact (List.getElem?_eq_some_iff.mp hfits.reported).1
          · exact hlt other hother

/-- The tabs behind an index that the pass consumed are in one of the windows. -/
theorem attachPass_consumed (hchoose : Chooses reported choose) {consumed : List Nat}
    {windows : List WindowInfo} {index : Nat}
    (h : index ∈ (attachPass choose consumed windows).1) :
    index ∈ consumed ∨ ∃ captured, reported[index]? = some captured
      ∧ ∃ after ∈ (attachPass choose consumed windows).2, after.tabs = captured.tabs := by
  induction windows generalizing consumed with
  | nil => exact .inl h
  | cons window rest ih =>
      cases hchosen : choose consumed window with
      | none =>
          rw [attachPass_none hchosen] at h ⊢
          rcases ih h with hbefore | ⟨captured, hreported, after, hafter, htabs⟩
          · exact .inl hbefore
          · exact .inr ⟨captured, hreported, after, List.mem_cons_of_mem _ hafter, htabs⟩
      | some chosen =>
          obtain ⟨captured, taken⟩ := chosen
          rw [attachPass_some hchosen] at h ⊢
          rcases ih h with hbefore | ⟨found, hreported, after, hafter, htabs⟩
          · rcases List.mem_cons.mp hbefore with rfl | hbefore
            · exact .inr ⟨captured, (hchoose _ _ _ _ hchosen).1.reported, _,
                List.mem_cons_self .., rfl⟩
            · exact .inl hbefore
          · exact .inr ⟨found, hreported, after, List.mem_cons_of_mem _ hafter, htabs⟩

/-- A window without tabs that has some afterwards has consumed an index. -/
theorem length_attachPass (consumed : List Nat) {windows : List WindowInfo}
    (hempty : ∀ window ∈ windows, window.tabs = []) :
    consumed.length
        + ((attachPass choose consumed windows).2.filter fun after => after.tabs ≠ []).length
      ≤ (attachPass choose consumed windows).1.length := by
  induction windows generalizing consumed with
  | nil => simp [attachPass]
  | cons window rest ih =>
      have hrest := fun consumed =>
        ih consumed fun other hother => hempty other (List.mem_cons_of_mem _ hother)
      cases hchosen : choose consumed window with
      | none =>
          rw [attachPass_none hchosen]
          have hnone : window.tabs = [] := hempty window (List.mem_cons_self ..)
          simpa [hnone] using hrest consumed
      | some chosen =>
          obtain ⟨captured, index⟩ := chosen
          rw [attachPass_some hchosen, List.filter_cons]
          have := hrest (index :: consumed)
          rw [List.length_cons] at this
          change _ ≤ (attachPass choose (index :: consumed) rest).1.length
          split
          · rw [List.length_cons]
            omega
          · omega

end Pass

/-! ### The second pass -/

section Order

variable {reported : List BrowserWindow}

theorem nextByOrder_tabs {consumed : List Nat} {window : WindowInfo} (h : window.tabs ≠ []) :
    nextByOrder reported consumed window = none := if_pos (.inr h)

/-- A window that has tabs keeps them. -/
theorem mem_attachPass_nextByOrder {window : WindowInfo} (htabs : window.tabs ≠ [])
    (consumed : List Nat) {windows : List WindowInfo} (h : window ∈ windows) :
    window ∈ (attachPass (nextByOrder reported) consumed windows).2 := by
  induction windows generalizing consumed with
  | nil => exact absurd h List.not_mem_nil
  | cons first rest ih =>
      rcases List.mem_cons.mp h with rfl | hrest
      · rw [attachPass_none (nextByOrder_tabs htabs)]
        exact List.mem_cons_self ..
      · cases hchosen : nextByOrder reported consumed first with
        | none =>
            rw [attachPass_none hchosen]
            exact List.mem_cons_of_mem _ (ih consumed hrest)
        | some chosen =>
            rw [attachPass_some hchosen]
            exact List.mem_cons_of_mem _ (ih _ hrest)

/-- The indices that were consumed before stay consumed. -/
theorem mem_attachPass_of_mem {choose : List Nat → WindowInfo → Option (BrowserWindow × Nat)}
    {consumed : List Nat} {index : Nat} (h : index ∈ consumed) (windows : List WindowInfo) :
    index ∈ (attachPass choose consumed windows).1 := by
  induction windows generalizing consumed with
  | nil => exact h
  | cons window rest ih =>
      cases hchosen : choose consumed window with
      | none =>
          rw [attachPass_none hchosen]
          exact ih h
      | some chosen =>
          rw [attachPass_some hchosen]
          exact ih (List.mem_cons_of_mem _ h)

/-- While a window of the browser is left, every window without tabs consumes an index. -/
theorem length_attachPass_nextByOrder {consumed : List Nat} {windows : List WindowInfo}
    {captured : BrowserWindow} {index : Nat} (hreported : reported[index]? = some captured)
    (hkind : captured.browser ≠ .none) (hbrowser : ∀ window ∈ windows, window.browser = captured.browser)
    (hleft : index ∉ (attachPass (nextByOrder reported) consumed windows).1) :
    consumed.length + (windows.filter fun window => window.tabs = []).length
      ≤ (attachPass (nextByOrder reported) consumed windows).1.length := by
  induction windows generalizing consumed with
  | nil => simp [attachPass]
  | cons window rest ih =>
      have hrest := fun consumed => @ih consumed fun other hother =>
        hbrowser other (List.mem_cons_of_mem _ hother)
      by_cases htabs : window.tabs = []
      · -- The window could take the one that is left.
        have hunused : index ∉ consumed := fun hmem =>
          hleft (mem_attachPass_of_mem hmem (window :: rest))
        have hsame := hbrowser window (List.mem_cons_self ..)
        have hsome : (nextByOrder reported consumed window).isSome = true := by
          rw [nextByOrder, if_neg (by simp [hsame, hkind, htabs]), List.find?_isSome]
          refine ⟨(captured, index), List.mem_zipIdx_iff_getElem?.mpr hreported, ?_⟩
          exact decide_eq_true ⟨hunused, hsame.symm⟩
        obtain ⟨chosen, hchosen⟩ := Option.isSome_iff_exists.mp hsome
        rw [attachPass_some hchosen] at hleft ⊢
        have := hrest _ hleft
        rw [List.length_cons] at this
        simp only [List.filter_cons, htabs, decide_true, if_true, List.length_cons]
        omega
      · rw [attachPass_none (nextByOrder_tabs htabs)] at hleft ⊢
        simpa [htabs] using hrest _ hleft

end Order

/-! ### Both passes -/

section Both

variable (capture : TabCapture)

theorem attachTabsToWindows_snd (windows : List WindowInfo) :
    (attachTabsToWindows capture windows).2
      = (attachPass (nextByOrder capture.windows)
          (attachPass (bestByGeometry capture.windows) [] windows).1
          (attachPass (bestByGeometry capture.windows) [] windows).2).2 := rfl

theorem attachTabsToWindows_each (windows : List WindowInfo) :
    List.Forall₂ (Receives capture.windows) windows (attachTabsToWindows capture windows).2 := by
  rw [attachTabsToWindows_snd]
  have hfirst := attachPass_each (chooses_bestByGeometry capture.windows) [] windows
  have hsecond := attachPass_each (chooses_nextByOrder capture.windows)
    (attachPass (bestByGeometry capture.windows) [] windows).1
    (attachPass (bestByGeometry capture.windows) [] windows).2
  exact forall₂_trans (fun _ _ _ h h' => h.trans h') hfirst hsecond

/-- A window of the desktop, as one that lists no tabs. -/
def bareWindow (browser : BrowserKind) : WindowInfo := { browser }

/-- With as many windows of a browser as there are reported, each of them is used up. -/
theorem attachTabsToWindows_reaches {captured : BrowserWindow} {index : Nat}
    (hreported : capture.windows[index]? = some captured) (hkind : captured.browser ≠ .none)
    (htabs : captured.tabs ≠ []) {bare : List WindowInfo}
    (hsame : ∀ window ∈ bare, window.browser = captured.browser)
    (hempty : ∀ window ∈ bare, window.tabs = [])
    (hcount : bare.length = capture.windows.length) :
    ∃ after ∈ (attachTabsToWindows capture bare).2, after.tabs = captured.tabs := by
  rw [attachTabsToWindows_snd]
  have heach := attachPass_each (chooses_bestByGeometry capture.windows) [] bare
  have hfirst := @length_attachPass (bestByGeometry capture.windows) [] bare hempty
  obtain ⟨hnodup, hlt⟩ := attachPass_nodup (chooses_bestByGeometry capture.windows)
    List.nodup_nil (by simp) bare
  have hconsumed := @attachPass_consumed _ _ (chooses_bestByGeometry capture.windows) [] bare index
  generalize attachPass (bestByGeometry capture.windows) [] bare = first at *
  by_cases hused : index ∈ (attachPass (nextByOrder capture.windows) first.1 first.2).1
  · rcases attachPass_consumed (chooses_nextByOrder capture.windows) hused with hbefore | hnow
    · rcases hconsumed hbefore with hnone | ⟨found, hfound, after, hafter, heq⟩
      · exact absurd hnone List.not_mem_nil
      · rw [hreported] at hfound
        cases hfound
        exact ⟨after, mem_attachPass_nextByOrder (heq ▸ htabs) _ hafter, heq⟩
    · obtain ⟨found, hfound, after, hafter, heq⟩ := hnow
      rw [hreported] at hfound
      cases hfound
      exact ⟨after, hafter, heq⟩
  · -- Every window has consumed an index of its own, and there are as many of both.
    exfalso
    have hbrowser : ∀ window ∈ first.2, window.browser = captured.browser := by
      intro window hwindow
      obtain ⟨before, hbefore, hreceives⟩ := forall₂_mem_right heach hwindow
      rw [hreceives.same]
      exact hsame before hbefore
    have hsecond := length_attachPass_nextByOrder hreported hkind hbrowser hused
    obtain ⟨hnodup, hlt⟩ := attachPass_nodup (chooses_nextByOrder capture.windows) hnodup hlt first.2
    have hsplit := List.length_eq_length_filter_add (l := first.2) fun window => window.tabs = []
    have hlength : first.2.length = capture.windows.length := by
      rw [← heach.length_eq, hcount]
    apply hused
    apply mem_of_nodup hnodup hlt
    · simp only [← decide_not, ne_eq, List.length_nil] at hsplit hfirst
      omega
    · exact (List.getElem?_eq_some_iff.mp hreported).1

end Both

end ContextSnap.Browser
