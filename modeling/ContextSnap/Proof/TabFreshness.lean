import ContextSnap.Proof.HostTurns

/-!
# How old captured tabs are

A capture returns all windows of the inbox once some message has come. They are as new as the
capture exactly as long as nothing old is left in the inbox when a message comes, and no message has
come before the capture begins.
-/

namespace ContextSnap.Daemon

open Browser (BrowserWindow)

section Freshness

variable {ι : Type} [DecidableEq ι] {env : BrowserEnv} {calls : ι → Call} {p : Party ι}
  {s s' : BrowserState ι} {event : BrowserEvent} {schedule : List (Party ι)}

/-! ### What was published -/

def observePublished (since : ι → List BrowserWindow) :
    Party ι × BrowserEvent → ι → List BrowserWindow
  | (.caller i, .began) => Function.update since i []
  | (.host _, .published windows) => fun i => since i ++ windows
  | _ => since

/-- The windows that were published after the wait of a caller began. -/
def publishedSince (log : List (Party ι × BrowserEvent)) : ι → List BrowserWindow :=
  log.foldl observePublished fun _ => []

theorem publishedSince_append (log : List (Party ι × BrowserEvent))
    (entry : Party ι × BrowserEvent) :
    publishedSince (log ++ [entry]) = observePublished (publishedSince log) entry := by
  rw [publishedSince, List.foldl_append]
  rfl

/-- What a call of `take_tabs` returns was published since it began. One that does not wait returns
what was published before. -/
def TakesFresh (before : List (Party ι × BrowserEvent)) : Party ι × BrowserEvent → Prop
  | (.caller i, .took windows) => ∀ window ∈ windows, window ∈ publishedSince before i
  | (.caller _, .tookAtOnce windows) => windows = []
  | _ => True

def AllTakeFresh (s : BrowserState ι) : Prop :=
  ∀ before entry after, s.log = before ++ entry :: after → TakesFresh before entry

def BrowserThread.waitsForTabs : BrowserThread → Bool
  | .caller (.waitingTabs _) => true
  | _ => false

/-- A call that finds the flag raised finds no windows, and a message leaves none in the inbox that
are older than one of the waiting calls. -/
def NothingStale (s : BrowserState ι) : Party ι × BrowserEvent → Prop
  | (.caller _, .tookAtOnce _) => s.shared.inbox.tabs = []
  | (.host k, .published _) =>
      ∀ i, (s.threads (.caller i)).waitsForTabs = true →
        ∀ window ∈ s.shared.inbox.tabs, window.profile ≠ hostId k →
          window ∈ publishedSince s.log i
  | _ => True

/-! ### Steps -/

/-- While the flag is up, the inbox holds nothing that is older than a waiting call. -/
def WaitersCovered (s : BrowserState ι) : Prop :=
  ∀ i, (s.threads (.caller i)).waitsForTabs = true → s.shared.inbox.tabsFresh = true →
    ∀ window ∈ s.shared.inbox.tabs, window ∈ publishedSince s.log i

/-- A turn that leaves the tabs, the flag and the callers that wait alone. -/
theorem waitersCovered_of_eq {connectionId : Bytes} {next : BrowserThread}
    (hcovered : WaitersCovered s)
    (htabs : (event.apply connectionId s.shared).inbox.tabs = s.shared.inbox.tabs)
    (hfresh : (event.apply connectionId s.shared).inbox.tabsFresh = s.shared.inbox.tabsFresh)
    (hsince : observePublished (publishedSince s.log) (p, event) = publishedSince s.log)
    (hwaits : next.waitsForTabs = true → (s.threads p).waitsForTabs = true) :
    WaitersCovered (afterTurn s p connectionId next event) := by
  intro i hi
  rw [afterTurn_shared, afterTurn_log, publishedSince_append, htabs, hfresh, hsince]
  apply hcovered
  by_cases hp : .caller i = p
  · rw [hp, afterTurn_self] at hi
    rw [hp]
    exact hwaits hi
  · rwa [afterTurn_of_ne hp] at hi

/-- With the flag down no call is covered by anything. -/
theorem waitersCovered_of_stale (h : s.shared.inbox.tabsFresh = false) : WaitersCovered s :=
  fun _ _ hfresh => absurd (h.symm.trans hfresh) Bool.false_ne_true

theorem waitersCovered_step (hcovered : WaitersCovered s) (hstale : NothingStale s (p, event))
    (h : BrowserStep s p event s') : WaitersCovered s' := by
  cases h with
  | @host k thread next event hthread hnumber hnext hmove =>
      cases hmove with
      | worked | registered | accepted | acknowledged | polled | collected | poppedNone | popped
      | delivered =>
          exact waitersCovered_of_eq hcovered rfl rfl rfl fun h => by cases h
      | left =>
          have hinbox := inbox_left (hostId k) s.shared thread.registered.isSome
          exact waitersCovered_of_eq hcovered (by rw [hinbox]) (by rw [hinbox]) rfl
            fun h => by cases h
      | @published windows h _ _ =>
          intro i hi _ window hwindow
          have hne : Party.caller i ≠ .host k := by simp
          rw [afterTurn_of_ne hne] at hi
          rw [afterTurn_log, publishedSince_append]
          change window ∈ publishedSince s.log i ++ windows
          rcases List.mem_append.mp hwindow with hold | hnew
          · obtain ⟨hmem, hprofile⟩ := List.mem_filter.mp hold
            exact List.mem_append_left _ (hstale i hi window hmem (by simpa using hprofile))
          · exact List.mem_append_right _ hnew
  | @caller i thread next event hthread hmove =>
      cases hmove with
      | began hdown => exact waitersCovered_of_stale hdown
      | tookAtOnce | took => exact waitersCovered_of_stale rfl
      | enqueued | requested | gaveUp | answered | unanswered | waitedRestore =>
          exact waitersCovered_of_eq hcovered rfl rfl rfl fun h => by cases h
      | waited hdown =>
          exact waitersCovered_of_eq hcovered rfl rfl rfl fun _ => by rw [hthread]; rfl

theorem allTakeFresh_step (hcovered : WaitersCovered s) (hfresh : AllTakeFresh s)
    (hstale : NothingStale s (p, event)) (h : BrowserStep s p event s') : AllTakeFresh s' := by
  unfold AllTakeFresh
  rw [h.log_eq]
  refine (Interleaving.forall_split_concat (P := fun before entry _ => TakesFresh before entry)).mpr
    ⟨?_, hfresh⟩
  cases h with
  | @host k thread next event hthread hnumber hnext hmove => exact trivial
  | @caller i thread next event hthread hmove =>
      cases hmove with
      | tookAtOnce => exact hstale
      | took hup => exact hcovered i (by rw [hthread]; rfl) hup
      | _ => trivial

/-- **Freshness.** As long as nothing stale is in the inbox when a call begins or a message comes,
every window that `take_tabs` returns was published after the call began. -/
theorem allTakeFresh_of_nothingStale
    (h : Interleaving.Always (BrowserThread.advance env)
      (Interleaving.OnEvent (BrowserThread.advance env) NothingStale) schedule
      (browserStart env calls)) :
    Interleaving.Throughout (BrowserThread.advance env) AllTakeFresh schedule
      (browserStart env calls) := by
  have hgood : ∀ (p : Party ι) (s s' : BrowserState ι), (Placed s ∧ WaitersCovered s) →
      AllTakeFresh s →
      Interleaving.OnEvent (BrowserThread.advance env) NothingStale p s →
      Interleaving.step (BrowserThread.advance env) p s = some s' →
      (Placed s' ∧ WaitersCovered s') ∧ AllTakeFresh s' := by
    rintro p s s' ⟨hs, hcovered⟩ hfresh hcondition hstep
    obtain ⟨event, hevent, hiff⟩ := step_inv hs hstep
    have hstale := (hiff _).mp hcondition
    exact ⟨⟨hs.step hevent, waitersCovered_step hcovered hstale hevent⟩,
      allTakeFresh_step hcovered hfresh hstale hevent⟩
  refine Interleaving.throughout_of_always hgood
    ⟨placed_browserStart, waitersCovered_of_stale rfl⟩ ?_ h
  intro before entry after hlog
  exact absurd hlog (by simp [browserStart])

instance [Fintype ι] (s : BrowserState ι) (entry : Party ι × BrowserEvent) :
    Decidable (NothingStale s entry) := by
  obtain ⟨_ | _, event⟩ := entry <;> cases event <;> unfold NothingStale <;> infer_instance

end Freshness

/-- An extension that reports its one window. -/
def reportingOnce : BrowserEnv :=
  scripted fun _ => [extensionFrame "tabs" (.object [(str "windows", .array [.object []])])]

set_option maxRecDepth 10000 in
/-- A capture that begins in front of the report, and takes what was reported. -/
theorem allTakeFresh_reportingOnce :
    Interleaving.Throughout (BrowserThread.advance reportingOnce) AllTakeFresh
      [.host 0, .host 0, .caller (), .host 0, .host 0, .caller ()]
      (browserStart reportingOnce fun _ : Unit => .takeTabs 0) :=
  allTakeFresh_of_nothingStale (Interleaving.always_of_checkEvent (by decide))

/-- A call that returns windows without a wait. -/
def takesOld : Party Unit × BrowserEvent → Bool
  | (.caller _, .tookAtOnce windows) => !windows.isEmpty
  | _ => false

set_option maxRecDepth 10000 in
/-- A capture that begins behind a late report takes it for the answer. -/
theorem not_allTakeFresh :
    ¬∀ (env : BrowserEnv) (calls : Unit → Call) (schedule : List (Party Unit)),
      Interleaving.Throughout (BrowserThread.advance env) AllTakeFresh schedule
        (browserStart env calls) := by
  intro h
  have hthroughout := h reportingOnce (fun _ => .takeTabs 0)
    [.host 0, .host 0, .host 0, .host 0, .caller ()]
  have hrun : (Interleaving.run (BrowserThread.advance reportingOnce)
      [.host 0, .host 0, .host 0, .host 0, .caller ()]
      (browserStart reportingOnce fun _ => .takeTabs 0)).map (·.log.any takesOld) = some true := by
    decide
  obtain ⟨s, hlast, hany⟩ := Option.map_eq_some_iff.mp hrun
  obtain ⟨⟨p, event⟩, hmem, hold⟩ := List.any_eq_true.mp hany
  obtain ⟨before, after, hlog⟩ := List.append_of_mem hmem
  have hfresh := hthroughout.last hlast before (p, event) after hlog
  unfold takesOld at hold
  split at hold
  · next heq =>
      cases heq
      rw [hfresh] at hold
      exact absurd hold (by decide)
  · cases hold

end ContextSnap.Daemon
