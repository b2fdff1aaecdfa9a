import ContextSnap.Lib.Interleaving
import ContextSnap.Proof.BrowserTabs
import Mathlib.Data.List.Sigma

/-!
# Which browser window a window gets

The two passes as a record of the browser windows that each window is given. The second pass takes
a window without tabs for one that has been given none, so a window that geometry gave an empty
browser window gets a second one, if there is any left.
-/

namespace ContextSnap.Browser

/-! ### The record of the passes -/

/-- A window, and what it is given in the order in which it is. -/
structure Attachment where
  window : WindowInfo
  received : List (BrowserWindow × Nat) := []
  deriving DecidableEq

def Attachment.after (attachment : Attachment) : WindowInfo :=
  attachment.received.foldl (fun window entry => withTabs window entry.1) attachment.window

def receivePass (choose : List Nat → WindowInfo → Option (BrowserWindow × Nat)) :
    List Nat → List Attachment → List Nat × List Attachment
  | consumed, [] => (consumed, [])
  | consumed, attachment :: rest =>
      match choose consumed attachment.after with
      | some entry =>
          let (consumed, rest) := receivePass choose (entry.2 :: consumed) rest
          (consumed, { attachment with received := attachment.received ++ [entry] } :: rest)
      | none =>
          let (consumed, rest) := receivePass choose consumed rest
          (consumed, attachment :: rest)

section Passes

variable {L : Type} [LT L] [DecidableLT L] (score : WindowInfo → BrowserWindow → L) (start : L)
  (capture : TabCapture) (windows : List WindowInfo)

/-- `attach_tabs_to_windows` with any score in the place of the proximity of the frames. -/
def attachBy : Nat × List WindowInfo :=
  let (consumed, windows) := attachPass (bestBy capture.windows score start) [] windows
  let (consumed, windows) := attachPass (nextByOrder capture.windows) consumed windows
  (consumed.length, windows)

theorem attachTabsToWindows_eq_attachBy :
    attachTabsToWindows capture windows = attachBy attachScore 0.55 capture windows := rfl

/-- What geometry gives to the windows. -/
def firstPass : List Nat × List Attachment :=
  receivePass (bestBy capture.windows score start) [] (windows.map fun window => { window })

def bothPasses : List Nat × List Attachment :=
  receivePass (nextByOrder capture.windows) (firstPass score start capture windows).1
    (firstPass score start capture windows).2

end Passes

section Receive

variable {choose : List Nat → WindowInfo → Option (BrowserWindow × Nat)}
  {reported : List BrowserWindow} {consumed : List Nat} {attachment : Attachment}

theorem after_concat (entry : BrowserWindow × Nat) :
    ({ attachment with received := attachment.received ++ [entry] } : Attachment).after
      = withTabs attachment.after entry.1 := by
  simp [Attachment.after]

theorem receivePass_some {entry : BrowserWindow × Nat}
    (h : choose consumed attachment.after = some entry) (rest : List Attachment) :
    receivePass choose consumed (attachment :: rest)
      = ((receivePass choose (entry.2 :: consumed) rest).1,
          { attachment with received := attachment.received ++ [entry] }
            :: (receivePass choose (entry.2 :: consumed) rest).2) := by
  simp only [receivePass, h]

theorem receivePass_none (h : choose consumed attachment.after = none) (rest : List Attachment) :
    receivePass choose consumed (attachment :: rest)
      = ((receivePass choose consumed rest).1,
          attachment :: (receivePass choose consumed rest).2) := by
  simp only [receivePass, h]

/-- The record says what the pass does. -/
theorem attachPass_eq_receivePass (choose : List Nat → WindowInfo → Option (BrowserWindow × Nat))
    (consumed : List Nat) (attachments : List Attachment) :
    attachPass choose consumed (attachments.map Attachment.after)
      = ((receivePass choose consumed attachments).1,
          (receivePass choose consumed attachments).2.map Attachment.after) := by
  induction attachments generalizing consumed with
  | nil => rfl
  | cons attachment rest ih =>
      rw [List.map_cons]
      cases hchosen : choose consumed attachment.after with
      | none =>
          rw [attachPass_none hchosen, receivePass_none hchosen, ih, List.map_cons]
      | some entry =>
          rw [attachPass_some hchosen, receivePass_some hchosen, ih, List.map_cons, after_concat]

/-- The indices that the windows are given. -/
def givenIndices (attachments : List Attachment) : List Nat :=
  attachments.flatMap fun attachment => attachment.received.map Prod.snd

/-- What is consumed was given to one of the windows. -/
theorem receivePass_perm (choose : List Nat → WindowInfo → Option (BrowserWindow × Nat))
    {consumed before : List Nat} {attachments : List Attachment}
    (h : consumed.Perm (before ++ givenIndices attachments)) :
    (receivePass choose consumed attachments).1.Perm
      (before ++ givenIndices (receivePass choose consumed attachments).2) := by
  induction attachments generalizing consumed before with
  | nil => exact h
  | cons attachment rest ih =>
      rw [givenIndices, List.flatMap_cons, ← List.append_assoc] at h
      cases hchosen : choose consumed attachment.after with
      | none =>
          rw [receivePass_none hchosen, givenIndices, List.flatMap_cons, ← List.append_assoc]
          exact ih h
      | some entry =>
          rw [receivePass_some hchosen, givenIndices, List.flatMap_cons, ← List.append_assoc]
          apply ih
          have hmiddle := (h.cons entry.2).trans List.perm_middle.symm
          rw [List.map_append, ← List.append_assoc, List.append_assoc _ (List.map _ [entry])]
          exact hmiddle

theorem receivePass_window (choose : List Nat → WindowInfo → Option (BrowserWindow × Nat))
    (consumed : List Nat) (attachments : List Attachment) :
    (receivePass choose consumed attachments).2.map Attachment.window
      = attachments.map Attachment.window := by
  induction attachments generalizing consumed with
  | nil => rfl
  | cons attachment rest ih =>
      cases hchosen : choose consumed attachment.after with
      | none => rw [receivePass_none hchosen, List.map_cons, List.map_cons, ih]
      | some entry => rw [receivePass_some hchosen, List.map_cons, List.map_cons, ih]

theorem browser_after (attachment : Attachment) :
    attachment.after.browser = attachment.window.browser := by
  obtain ⟨window, received⟩ := attachment
  induction received using List.reverseRecOn with
  | nil => rfl
  | append_singleton received entry ih =>
      have hstep := @after_concat ⟨window, received⟩ entry
      exact (congrArg WindowInfo.browser hstep).trans ih

/-- A window is only given windows of its browser. -/
def Attachment.Fitting (reported : List BrowserWindow) (attachment : Attachment) : Prop :=
  ∀ entry ∈ attachment.received, Fits reported attachment.window entry.1 entry.2

theorem receivePass_fitting (hchoose : Chooses reported choose) {attachments : List Attachment}
    (h : ∀ attachment ∈ attachments, attachment.Fitting reported) (consumed : List Nat) :
    ∀ attachment ∈ (receivePass choose consumed attachments).2, attachment.Fitting reported := by
  induction attachments generalizing consumed with
  | nil => exact h
  | cons attachment rest ih =>
      obtain ⟨hfirst, hrest⟩ := List.forall_mem_cons.mp h
      cases hchosen : choose consumed attachment.after with
      | none =>
          rw [receivePass_none hchosen]
          exact List.forall_mem_cons.mpr ⟨hfirst, ih hrest _⟩
      | some entry =>
          rw [receivePass_some hchosen]
          refine List.forall_mem_cons.mpr ⟨fun given hgiven => ?_, ih hrest _⟩
          rcases List.mem_append.mp hgiven with hbefore | hnow
          · exact hfirst given hbefore
          · obtain rfl := List.mem_singleton.mp hnow
            obtain ⟨hfits, -⟩ := hchoose _ _ _ _ hchosen
            have hbrowser := browser_after attachment
            exact ⟨hfits.reported, hfits.browser.trans hbrowser, hbrowser ▸ hfits.isBrowser⟩

/-- Each pass gives a window at most one. -/
theorem length_received_receivePass {n : Nat} {attachments : List Attachment}
    (h : ∀ attachment ∈ attachments, attachment.received.length ≤ n) (consumed : List Nat) :
    ∀ attachment ∈ (receivePass choose consumed attachments).2,
      attachment.received.length ≤ n + 1 := by
  induction attachments generalizing consumed with
  | nil => exact fun attachment hnil => absurd hnil List.not_mem_nil
  | cons attachment rest ih =>
      obtain ⟨hfirst, hrest⟩ := List.forall_mem_cons.mp h
      cases hchosen : choose consumed attachment.after with
      | none =>
          rw [receivePass_none hchosen]
          exact List.forall_mem_cons.mpr ⟨hfirst.trans (Nat.le_succ n), ih hrest _⟩
      | some entry =>
          rw [receivePass_some hchosen]
          refine List.forall_mem_cons.mpr ⟨?_, ih hrest _⟩
          rw [List.length_append]
          exact Nat.succ_le_succ hfirst

end Receive

/-! ### What is left for the second pass -/

section Leftover

variable {reported : List BrowserWindow}

def leftOver (reported : List BrowserWindow) (consumed : List Nat) (browser : BrowserKind) :
    List (BrowserWindow × Nat) :=
  reported.zipIdx.filter fun entry => entry.2 ∉ consumed ∧ entry.1.browser = browser

theorem nextByOrder_eq_head? {consumed : List Nat} {window : WindowInfo}
    (hbrowser : window.browser ≠ .none) (htabs : window.tabs = []) :
    nextByOrder reported consumed window
      = (leftOver reported consumed window.browser).head? := by
  rw [nextByOrder, if_neg (by simp [hbrowser, htabs]), leftOver, List.head?_filter]

/-- One of the windows of a browser less. -/
theorem length_leftOver_cons {consumed : List Nat} {browser : BrowserKind}
    {entry : BrowserWindow × Nat} (h : entry ∈ leftOver reported consumed browser) :
    (leftOver reported (entry.2 :: consumed) browser).length + 1
      = (leftOver reported consumed browser).length := by
  have hnodup : reported.zipIdx.Nodup := (List.nodup_zipIdx_map_snd reported).of_map
  have herase : leftOver reported (entry.2 :: consumed) browser
      = (leftOver reported consumed browser).erase entry := by
    rw [leftOver, leftOver, (hnodup.filter _).erase_eq_filter, List.filter_filter]
    apply List.filter_congr
    intro other hother
    have hsame : other = entry ↔ other.2 = entry.2 := by
      refine ⟨congrArg Prod.snd, fun hindex => ?_⟩
      have hentry := List.mem_zipIdx_iff_getElem?.mp (List.mem_of_mem_filter h)
      rw [← hindex, List.mem_zipIdx_iff_getElem?.mp hother] at hentry
      exact Prod.ext (Option.some.inj hentry) hindex
    by_cases hindex : other.2 = entry.2
    · simp [hsame.mpr hindex]
    · simp [hindex, mt hsame.mp hindex]
  rw [herase, List.length_erase_of_mem h]
  exact Nat.sub_add_cancel (List.length_pos_of_mem h)

theorem leftOver_cons_of_ne {consumed : List Nat} {browser kind : BrowserKind}
    {entry : BrowserWindow × Nat} (h : entry ∈ leftOver reported consumed browser)
    (hne : kind ≠ browser) :
    leftOver reported (entry.2 :: consumed) kind = leftOver reported consumed kind := by
  apply List.filter_congr
  intro candidate hcandidate
  obtain ⟨hentry, hbrowser⟩ := List.mem_filter.mp h
  by_cases hindex : candidate.2 = entry.2
  · rw [List.mem_zipIdx_iff_getElem?] at hcandidate hentry
    rw [hindex, hentry, Option.some.injEq] at hcandidate
    have hkind : candidate.1.browser ≠ kind := by
      rw [← hcandidate, (of_decide_eq_true hbrowser).2]
      exact hne.symm
    simp [hkind]
  · simp [hindex]

/-- Nothing is left for a window that got an empty browser window, once those in front of it that
got none have had their turn. -/
def Spared (reported : List BrowserWindow) (consumed : List Nat) (front : List Attachment)
    (attachment : Attachment) : Prop :=
  attachment.received ≠ [] → attachment.after.tabs = [] →
    (leftOver reported consumed attachment.window.browser).length
      ≤ front.countP fun other => other.received = []
        ∧ other.window.browser = attachment.window.browser

variable {consumed : List Nat} {first attachment : Attachment} {front : List Attachment}

theorem spared_cons_of_received (h : first.received ≠ []) :
    Spared reported consumed (first :: front) attachment
      ↔ Spared reported consumed front attachment := by
  rw [Spared, Spared, List.countP_cons_of_neg (by simp [h])]

theorem spared_cons_of_none (hempty : first.window.tabs = []) (hreceived : first.received = [])
    (hfits : attachment.Fitting reported)
    (hnone : nextByOrder reported consumed first.after = none) :
    Spared reported consumed (first :: front) attachment
      ↔ Spared reported consumed front attachment := by
  refine forall_congr' fun hgiven => ?_
  obtain ⟨entry, hentry⟩ := List.exists_mem_of_ne_nil _ hgiven
  have hbrowser := (hfits entry hentry).isBrowser
  by_cases hkind : first.window.browser = attachment.window.browser
  · have hafter : first.after = first.window := by simp [Attachment.after, hreceived]
    rw [hafter, nextByOrder_eq_head? (hkind ▸ hbrowser) hempty, List.head?_eq_none_iff, hkind]
      at hnone
    simp [hnone]
  · rw [List.countP_cons_of_neg (by simp [hkind])]

theorem spared_cons_of_some {entry : BrowserWindow × Nat} (hreceived : first.received = [])
    (hentry : entry ∈ leftOver reported consumed first.window.browser) :
    Spared reported consumed (first :: front) attachment
      ↔ Spared reported (entry.2 :: consumed) front attachment := by
  by_cases hkind : first.window.browser = attachment.window.browser
  · have hlength := length_leftOver_cons hentry
    rw [hkind] at hlength
    rw [Spared, Spared, List.countP_cons_of_pos (by simp [hreceived, hkind]), ← hlength,
      Nat.add_le_add_iff_right]
  · rw [Spared, Spared, List.countP_cons_of_neg (by simp [hkind]),
      leftOver_cons_of_ne hentry (Ne.symm hkind)]

/-- **The second pass** gives nothing to a window that has been given something, exactly if all of
these are spared. -/
theorem single_receivePass_iff {attachments : List Attachment} (consumed : List Nat)
    (hempty : ∀ attachment ∈ attachments, attachment.window.tabs = [])
    (hfitting : ∀ attachment ∈ attachments, attachment.Fitting reported)
    (hsingle : ∀ attachment ∈ attachments, attachment.received.length ≤ 1) :
    (∀ attachment ∈ (receivePass (nextByOrder reported) consumed attachments).2,
        attachment.received.length ≤ 1)
      ↔ ∀ front attachment back, attachments = front ++ attachment :: back →
          Spared reported consumed front attachment := by
  induction attachments generalizing consumed with
  | nil => simp [receivePass]
  | cons first rest ih =>
      obtain ⟨hempty, hempties⟩ := List.forall_mem_cons.mp hempty
      obtain ⟨hfits, hfitting⟩ := List.forall_mem_cons.mp hfitting
      obtain ⟨hsingle, hsingles⟩ := List.forall_mem_cons.mp hsingle
      rw [Interleaving.forall_split_cons]
      by_cases hreceived : first.received = []
      · have hspared : Spared reported consumed [] first := fun hne => absurd hreceived hne
        have hafter : first.after = first.window := by simp [Attachment.after, hreceived]
        cases hchosen : nextByOrder reported consumed first.after with
        | none =>
            rw [receivePass_none hchosen, List.forall_mem_cons, ih _ hempties hfitting hsingles]
            refine and_congr (iff_of_true hsingle hspared) ?_
            refine forall₄_congr fun front attachment back hsplit => ?_
            have hmem : attachment ∈ rest := by simp [hsplit]
            exact (spared_cons_of_none hempty hreceived (hfitting attachment hmem) hchosen).symm
        | some entry =>
            rw [receivePass_some hchosen, List.forall_mem_cons, ih _ hempties hfitting hsingles]
            refine and_congr (iff_of_true (by simp [hreceived]) hspared) ?_
            have hbrowser := (chooses_nextByOrder reported _ _ _ _ hchosen).1.isBrowser
            rw [hafter] at hchosen hbrowser
            rw [nextByOrder_eq_head? hbrowser hempty] at hchosen
            have hentry := List.mem_of_head? hchosen
            exact forall₄_congr fun front attachment back _ =>
              (spared_cons_of_some hreceived hentry).symm
      · obtain ⟨given, hgiven⟩ := List.exists_mem_of_ne_nil _ hreceived
        have hbrowser : first.after.browser ≠ .none := by
          rw [browser_after]
          exact (hfits given hgiven).isBrowser
        have hhead : first.after.tabs = [] → nextByOrder reported consumed first.after
            = (leftOver reported consumed first.window.browser).head? := fun htabs =>
          browser_after first ▸ nextByOrder_eq_head? hbrowser htabs
        cases hchosen : nextByOrder reported consumed first.after with
        | none =>
            rw [receivePass_none hchosen, List.forall_mem_cons, ih _ hempties hfitting hsingles]
            refine and_congr (iff_of_true hsingle fun _ htabs => ?_) ?_
            · have hnil := List.head?_eq_none_iff.mp ((hhead htabs).symm.trans hchosen)
              rw [hnil]
              exact Nat.zero_le _
            · exact forall₄_congr fun _ _ _ _ => (spared_cons_of_received hreceived).symm
        | some entry =>
            rw [receivePass_some hchosen, List.forall_mem_cons]
            have htabs : first.after.tabs = [] := by
              by_contra htabs
              rw [nextByOrder_tabs htabs] at hchosen
              cases hchosen
            have hentry := List.mem_of_head? ((hhead htabs).symm.trans hchosen)
            have hpos := List.length_pos_of_mem hentry
            refine iff_of_false (fun h => ?_) fun h => ?_
            · have hlength := h.1
              rw [List.length_append] at hlength
              have hzero := Nat.le_zero.mp (Nat.le_of_succ_le_succ hlength)
              exact hreceived (List.length_eq_zero_iff.mp hzero)
            · exact absurd (h.1 hreceived htabs) (Nat.not_le.mpr hpos)

end Leftover

/-! ### Both passes -/

section Both

variable {L : Type} [LT L] [DecidableLT L] (score : WindowInfo → BrowserWindow → L) (start : L)
  (capture : TabCapture) (windows : List WindowInfo)

/-- The passes of `attach_tabs_to_windows` assign browser windows one to one. -/
structure OneToOne : Prop where
  windows_eq : (bothPasses score start capture windows).2.map Attachment.window = windows
  result_eq : (attachBy score start capture windows).2
    = (bothPasses score start capture windows).2.map Attachment.after
  once : (givenIndices (bothPasses score start capture windows).2).Nodup
  single : ∀ attachment ∈ (bothPasses score start capture windows).2,
    attachment.received.length ≤ 1
  ownKind : ∀ attachment ∈ (bothPasses score start capture windows).2,
    attachment.Fitting capture.windows
  unchanged : ∀ attachment ∈ (bothPasses score start capture windows).2,
    attachment.window.browser = .none → attachment.after = attachment.window
  contents : ∀ attachment ∈ (bothPasses score start capture windows).2,
    ∀ entry ∈ attachment.received, attachment.after.tabs = entry.1.tabs
      ∧ (entry.1.profile ≠ [] → attachment.after.browserProfile = some entry.1.profile)
  count_eq : (attachBy score start capture windows).1
    = (bothPasses score start capture windows).2.countP fun attachment => attachment.received ≠ []
  count_le : (attachBy score start capture windows).1 ≤ windows.length

/-- Where geometry gave a window an empty browser window, all that is left of its browser goes to
windows in front of it. -/
def NothingLeft : Prop :=
  ∀ front attachment back, (firstPass score start capture windows).2 = front ++ attachment :: back →
    Spared capture.windows (firstPass score start capture windows).1 front attachment

variable {score start capture windows}

theorem attachPass_eq_firstPass :
    attachPass (bestBy capture.windows score start) [] windows
      = ((firstPass score start capture windows).1,
          (firstPass score start capture windows).2.map Attachment.after) := by
  have hbare : (windows.map fun window => ({ window } : Attachment)).map Attachment.after
      = windows := by
    rw [List.map_map]
    exact List.map_id' windows
  have h := attachPass_eq_receivePass (bestBy capture.windows score start) []
    (windows.map fun window => { window })
  rwa [hbare] at h

theorem attachPass_eq_bothPasses :
    attachPass (nextByOrder capture.windows) (firstPass score start capture windows).1
        ((firstPass score start capture windows).2.map Attachment.after)
      = ((bothPasses score start capture windows).1,
          (bothPasses score start capture windows).2.map Attachment.after) :=
  attachPass_eq_receivePass _ _ _

theorem attachBy_eq : attachBy score start capture windows
    = ((bothPasses score start capture windows).1.length,
        (bothPasses score start capture windows).2.map Attachment.after) := by
  rw [attachBy, attachPass_eq_firstPass]
  change ((attachPass _ _ _).1.length, (attachPass _ _ _).2) = _
  rw [attachPass_eq_bothPasses]

theorem fitting_firstPass : ∀ attachment ∈ (firstPass score start capture windows).2,
    attachment.Fitting capture.windows := by
  apply receivePass_fitting (chooses_bestBy capture.windows score start)
  intro attachment hattachment
  obtain ⟨window, -, rfl⟩ := List.mem_map.mp hattachment
  exact fun entry hentry => absurd hentry List.not_mem_nil

theorem single_firstPass : ∀ attachment ∈ (firstPass score start capture windows).2,
    attachment.received.length ≤ 1 := by
  apply length_received_receivePass (n := 0)
  intro attachment hattachment
  obtain ⟨window, -, rfl⟩ := List.mem_map.mp hattachment
  exact le_rfl

theorem windows_firstPass :
    (firstPass score start capture windows).2.map Attachment.window = windows := by
  rw [firstPass, receivePass_window, List.map_map]
  exact List.map_id' windows

theorem empty_firstPass (hempty : ∀ window ∈ windows, window.tabs = []) :
    ∀ attachment ∈ (firstPass score start capture windows).2, attachment.window.tabs = [] := by
  intro attachment hattachment
  have hwindow := List.mem_map_of_mem (f := Attachment.window) hattachment
  rw [windows_firstPass] at hwindow
  exact hempty _ hwindow

theorem windows_bothPasses :
    (bothPasses score start capture windows).2.map Attachment.window = windows := by
  rw [bothPasses, receivePass_window, windows_firstPass]

/-- Every index that is consumed was given to a window. -/
theorem perm_bothPasses : (bothPasses score start capture windows).1.Perm
    (givenIndices (bothPasses score start capture windows).2) := by
  have hnone : [].Perm
      ([] ++ givenIndices (windows.map fun window => ({ window } : Attachment))) := by
    simp [givenIndices]
  have hfirst : (firstPass score start capture windows).1.Perm
      ([] ++ givenIndices (firstPass score start capture windows).2) := receivePass_perm _ hnone
  exact receivePass_perm _ hfirst

theorem nodup_bothPasses : (bothPasses score start capture windows).1.Nodup := by
  obtain ⟨hnodup, hlt⟩ := attachPass_nodup (chooses_bestBy capture.windows score start)
    List.nodup_nil (by simp) windows
  rw [attachPass_eq_firstPass] at hnodup hlt
  have h := attachPass_nodup (chooses_nextByOrder capture.windows) hnodup hlt
    ((firstPass score start capture windows).2.map Attachment.after)
  rw [attachPass_eq_bothPasses] at h
  exact h.1

/-- As many indices as windows that are given something, if each is given one. -/
theorem length_givenIndices {attachments : List Attachment}
    (h : ∀ attachment ∈ attachments, attachment.received.length ≤ 1) :
    (givenIndices attachments).length
      = attachments.countP fun attachment => attachment.received ≠ [] := by
  induction attachments with
  | nil => rfl
  | cons attachment rest ih =>
      obtain ⟨hfirst, hrest⟩ := List.forall_mem_cons.mp h
      rw [givenIndices, List.flatMap_cons, List.length_append, List.length_map]
      rcases Nat.le_one_iff_eq_zero_or_eq_one.mp hfirst with hlength | hlength
      · have hnil := List.length_eq_zero_iff.mp hlength
        rw [List.countP_cons_of_neg (by simp [hnil]), hlength, Nat.zero_add]
        exact ih hrest
      · have hne : attachment.received ≠ [] := List.ne_nil_of_length_pos (hlength ▸ Nat.one_pos)
        rw [List.countP_cons_of_pos (by simp [hne]), hlength, Nat.add_comm]
        exact congrArg (· + 1) (ih hrest)

/-- **Tabs are assigned one to one** exactly if nothing is left for a window that got an empty
browser window. -/
theorem attachBy_oneToOne_iff (score : WindowInfo → BrowserWindow → L) (start : L)
    (capture : TabCapture) (hempty : ∀ window ∈ windows, window.tabs = []) :
    OneToOne score start capture windows ↔ NothingLeft score start capture windows := by
  have hbare : ∀ attachment ∈ (firstPass score start capture windows).2,
      attachment.window.tabs = [] := empty_firstPass hempty
  have hsecond := single_receivePass_iff (firstPass score start capture windows).1 hbare
    fitting_firstPass single_firstPass
  refine ⟨fun h => hsecond.mp h.single, fun h => ?_⟩
  have hsingle := hsecond.mpr h
  have hfitting : ∀ attachment ∈ (bothPasses score start capture windows).2,
      attachment.Fitting capture.windows :=
    receivePass_fitting (chooses_nextByOrder capture.windows) fitting_firstPass _
  have hcount : (attachBy score start capture windows).1
      = (bothPasses score start capture windows).2.countP
          fun attachment => attachment.received ≠ [] := by
    rw [attachBy_eq, perm_bothPasses.length_eq]
    exact length_givenIndices hsingle
  refine ⟨windows_bothPasses, congrArg Prod.snd attachBy_eq,
    perm_bothPasses.nodup_iff.mp nodup_bothPasses, hsingle, hfitting, ?_, ?_, hcount, ?_⟩
  · intro attachment hattachment hnone
    have hnil : attachment.received = [] := by
      by_contra hne
      obtain ⟨entry, hentry⟩ := List.exists_mem_of_ne_nil _ hne
      exact (hfitting attachment hattachment entry hentry).isBrowser hnone
    rw [Attachment.after, hnil, List.foldl_nil]
  · intro attachment hattachment entry hentry
    have hreceived : attachment.received = [entry] := by
      obtain ⟨only, honly⟩ := List.length_eq_one_iff.mp
        (Nat.le_antisymm (hsingle attachment hattachment) (List.length_pos_of_mem hentry))
      rw [honly, List.mem_singleton] at hentry
      rw [honly, hentry]
    rw [Attachment.after, hreceived, List.foldl_cons, List.foldl_nil]
    exact ⟨rfl, fun hprofile => if_neg hprofile⟩
  · have hlength := congrArg List.length
      (windows_bothPasses : (bothPasses score start capture windows).2.map _ = windows)
    rw [List.length_map] at hlength
    rw [hcount, ← hlength]
    exact List.countP_le_length

end Both

/-! ### An empty browser window -/

/-- A frame is as near to itself as can be, and not near to any other one. -/
def frameScore (window : WindowInfo) (captured : BrowserWindow) : Nat :=
  if window.frame = captured.frame then 75 else 0

def shopFrame : Rect := { width := 800, height := 600 }

/-- A private window whose tabs were cleared, and another one. -/
def clearedCapture : TabCapture :=
  { windows := [{ browser := .firefox, frame := shopFrame, incognito := true },
      { browser := .firefox, tabs := [{ url := str "https://a.org" }] }] }

def shopWindow : WindowInfo := { browser := .firefox, frame := shopFrame }

/-- As many windows as there are browser windows. -/
theorem attachBy_oneToOne_iff_two :
    OneToOne frameScore 55 clearedCapture [bareWindow .firefox, shopWindow]
      ↔ NothingLeft frameScore 55 clearedCapture [bareWindow .firefox, shopWindow] :=
  attachBy_oneToOne_iff frameScore 55 clearedCapture (by decide)

/-- One window is given both. -/
theorem not_attachBy_oneToOne :
    ¬∀ (score : WindowInfo → BrowserWindow → Nat) (start : Nat) (capture : TabCapture)
      (windows : List WindowInfo), (∀ window ∈ windows, window.tabs = []) →
      OneToOne score start capture windows := by
  intro h
  have hone := h frameScore 55 clearedCapture [shopWindow] (by decide)
  have hcount : (attachBy frameScore 55 clearedCapture [shopWindow]).1 = 2 := by decide
  exact absurd (hcount ▸ hone.count_le) (by decide)

end ContextSnap.Browser
