import ContextSnap.Proof.HostTurns

/-!
# Where restores are sent

All connections share one queue, and the first one to poll takes what is in front of it. A restore
is sent to its browser as long as only connections of that browser poll in front of it.
-/

namespace ContextSnap.Daemon

open Browser (PendingRestore)

section Routing

variable {ι : Type} [DecidableEq ι] {env : BrowserEnv} {calls : ι → Call}
  {schedule : List (Party ι)} {p : Party ι} {s s' : BrowserState ι} {event : BrowserEvent}

/-- What a connection was registered as. -/
def BrowserThread.registered : BrowserThread → Option HostConnection
  | .host thread => thread.registered
  | .caller _ => none

/-- Nothing is sent, not even in part, but to a connection that was registered as the browser of
the windows. -/
def RestoresRouted (s : BrowserState ι) : Prop :=
  ∀ before entry after, s.log = before ++ entry :: after →
    ∀ k pending sent, entry = (.host k, .delivered pending sent) →
      ∀ window ∈ pending.windows, ∃ connection,
        (.host k, .registered connection) ∈ before ∧ connection.browser = window.browser

/-- A connection that takes a restore was registered as the browser of its windows. -/
def TakesOwn (s : BrowserState ι) : Party ι × BrowserEvent → Prop
  | (.host k, .popped (some pending)) => ∀ window ∈ pending.windows,
      (s.threads (.host k)).registered.map HostConnection.browser = some window.browser
  | _ => True

/-- What connections were registered as is in the log, and what they have in their hands is for
them. -/
structure HandsOwn (s : BrowserState ι) : Prop where
  registered : ∀ k thread connection, s.threads (.host k) = .host thread →
    thread.registered = some connection → (.host k, .registered connection) ∈ s.log
  hands : ∀ k thread pending, s.threads (.host k) = .host thread →
    thread.phase = .sending pending → ∀ window ∈ pending.windows,
      thread.registered.map HostConnection.browser = some window.browser

theorem HostMove.registered_cases {side : BrowserSide} {thread next : HostThread}
    (h : HostMove side thread next event) :
    next.registered = thread.registered
      ∨ ∃ connection, event = .registered connection ∧ next.registered = some connection := by
  cases h with
  | registered _ _ hregistered _ => exact .inr ⟨_, rfl, hregistered⟩
  | worked _ _ hregistered => exact .inl hregistered
  | accepted _ _ _ hregistered => exact .inl hregistered
  | published _ _ hregistered => exact .inl hregistered
  | acknowledged _ _ hregistered => exact .inl hregistered
  | polled _ _ hregistered => exact .inl hregistered
  | collected _ _ hregistered => exact .inl hregistered
  | poppedNone _ _ _ hregistered => exact .inl hregistered
  | popped _ _ _ hregistered => exact .inl hregistered
  | delivered _ _ hregistered => exact .inl hregistered
  | left _ _ hregistered => exact .inl hregistered

/-- Only a turn that takes a restore puts it into the hands. -/
theorem HostMove.popped_of_sending {side : BrowserSide} {thread next : HostThread}
    (h : HostMove side thread next event) {pending : PendingRestore}
    (hphase : next.phase = .sending pending) :
    event = .popped (some pending) ∧ next.registered = thread.registered := by
  cases h with
  | popped _ _ hnext hregistered =>
      cases hnext.symm.trans hphase
      exact ⟨rfl, hregistered⟩
  | worked _ hnext _ =>
      rcases hnext with hnext | hnext | hnext | hnext <;> cases hnext.symm.trans hphase
  | polled _ hnext _ =>
      rw [hnext] at hphase
      split_ifs at hphase
  | collected _ hnext _ =>
      rw [hnext] at hphase
      split_ifs at hphase
  | delivered _ hnext _ =>
      rw [hnext] at hphase
      split_ifs at hphase
  | accepted _ _ hnext _ => cases hnext.symm.trans hphase
  | registered _ hnext _ _ => cases hnext.symm.trans hphase
  | published _ hnext _ => cases hnext.symm.trans hphase
  | acknowledged _ hnext _ => cases hnext.symm.trans hphase
  | poppedNone _ _ hnext _ => cases hnext.symm.trans hphase
  | left _ hnext _ => cases hnext.symm.trans hphase

theorem HandsOwn.step (hown : HandsOwn s) (htakes : TakesOwn s (p, event))
    (h : BrowserStep s p event s') : HandsOwn s' where
  registered := by
    intro k next connection hnext hconnection
    rw [h.log_eq]
    rcases h.host_cases hnext with ⟨-, hthread⟩ | ⟨rfl, thread, hthread, hmove⟩
    · exact List.mem_append_left _ (hown.registered k next connection hthread hconnection)
    · rcases hmove.registered_cases with hsame | ⟨connection', rfl, hregistered⟩
      · have hbefore := hown.registered k thread connection hthread (hsame ▸ hconnection)
        exact List.mem_append_left _ hbefore
      · cases hregistered.symm.trans hconnection
        exact List.mem_append_right _ List.mem_cons_self
  hands := by
    intro k next pending hnext hphase
    rcases h.host_cases hnext with ⟨-, hthread⟩ | ⟨rfl, thread, hthread, hmove⟩
    · exact hown.hands k next pending hthread hphase
    · obtain ⟨rfl, hsame⟩ := hmove.popped_of_sending hphase
      intro window hwindow
      have hbrowser := htakes window hwindow
      rw [hthread] at hbrowser
      rw [hsame]
      exact hbrowser

theorem restoresRouted_step (hown : HandsOwn s) (hrouted : RestoresRouted s)
    (h : BrowserStep s p event s') : RestoresRouted s' := by
  unfold RestoresRouted
  rw [h.log_eq]
  refine Interleaving.forall_split_concat.mpr ⟨?_, hrouted⟩
  intro k pending sent hentry window hwindow
  obtain ⟨rfl, rfl⟩ := Prod.mk.inj hentry
  cases h with
  | @host k thread next event hthread hnumber hnext hmove =>
      cases hmove with
      | delivered hphase _ _ =>
          obtain ⟨connection, hregistered, hbrowser⟩ :=
            Option.map_eq_some_iff.mp (hown.hands k thread pending hthread hphase window hwindow)
          exact ⟨connection, hown.registered k thread connection hthread hregistered, hbrowser⟩

/-- **Routing.** As long as every restore is taken by a connection of its browser, it is only sent
to one. -/
theorem restoresRouted_of_takesOwn
    (h : Interleaving.Always (BrowserThread.advance env)
      (Interleaving.OnEvent (BrowserThread.advance env) TakesOwn) schedule
      (browserStart env calls)) :
    Interleaving.Throughout (BrowserThread.advance env) RestoresRouted schedule
      (browserStart env calls) := by
  have hgood : ∀ (p : Party ι) (s s' : BrowserState ι), (Placed s ∧ HandsOwn s) →
      RestoresRouted s →
      Interleaving.OnEvent (BrowserThread.advance env) TakesOwn p s →
      Interleaving.step (BrowserThread.advance env) p s = some s' →
      (Placed s' ∧ HandsOwn s') ∧ RestoresRouted s' := by
    rintro p s s' ⟨hs, hown⟩ hrouted hcondition hstep
    obtain ⟨event, hevent, hiff⟩ := step_inv hs hstep
    exact ⟨⟨hs.step hevent, hown.step ((hiff _).mp hcondition) hevent⟩,
      restoresRouted_step hown hrouted hevent⟩
  have hown : HandsOwn (browserStart env calls) :=
    { registered := fun k thread connection hthread hregistered => by
        cases hthread
        cases hregistered
      hands := fun k thread pending hthread hphase => by
        cases hthread
        cases hphase }
  refine Interleaving.throughout_of_always hgood ⟨placed_browserStart, hown⟩ ?_ h
  exact fun before entry after hlog => absurd hlog (by simp [browserStart])

instance (s : BrowserState ι) (entry : Party ι × BrowserEvent) : Decidable (TakesOwn s entry) := by
  obtain ⟨_ | _, event⟩ := entry <;> rcases event with _ | _ | _ | _ | _ | _ | _ | (_ | _) <;>
    unfold TakesOwn <;> infer_instance

end Routing

/-- Chrome connects first, then Firefox. -/
def chromeAndFirefox : BrowserEnv :=
  scripted fun k => [extensionFrame "hello"
    (.object [(str "browser", .string (str (if k = 0 then "chrome" else "firefox")))])]

/-- Both are accepted and greeted. -/
def bothGreeted : List (Party Unit) :=
  List.replicate 4 (.host 0) ++ List.replicate 4 (.host 1) ++ [.caller ()]

def restoringFirefox : Unit → Call := fun _ => .restoreTabs [{ browser := .firefox }] true 0

set_option maxRecDepth 10000 in
/-- Firefox is the first one to poll. -/
theorem restoresRouted_firefox :
    Interleaving.Throughout (BrowserThread.advance chromeAndFirefox) RestoresRouted
      (bothGreeted ++ List.replicate 4 (.host 1))
      (browserStart chromeAndFirefox restoringFirefox) :=
  restoresRouted_of_takesOwn (Interleaving.always_of_checkEvent (by decide))

set_option maxRecDepth 10000 in
/-- Chrome is the first one to poll, and opens what Firefox had. -/
theorem not_restoresRouted :
    ¬∀ (env : BrowserEnv) (calls : Unit → Call) (schedule : List (Party Unit)),
      Interleaving.Throughout (BrowserThread.advance env) RestoresRouted schedule
        (browserStart env calls) := by
  intro h
  let pending : PendingRestore := { id := str "restore-1", windows := [{ browser := .firefox }] }
  let before : List (Party Unit × BrowserEvent) :=
    [(.host 0, .accepted), (.host 0, .worked), (.host 0, .worked),
      (.host 0, .registered { browser := .chrome }), (.host 1, .accepted), (.host 1, .worked),
      (.host 1, .worked), (.host 1, .registered { browser := .firefox }),
      (.caller (), .enqueued pending), (.host 0, .worked), (.host 0, .polled false),
      (.host 0, .popped (some pending))]
  have hthroughout := h chromeAndFirefox restoringFirefox
    (bothGreeted ++ List.replicate 4 (.host 0))
  have hrun : (Interleaving.run (BrowserThread.advance chromeAndFirefox)
      (bothGreeted ++ List.replicate 4 (.host 0))
      (browserStart chromeAndFirefox restoringFirefox)).map (·.log)
        = some (before ++ [(.host 0, .delivered pending true)]) := by
    decide
  obtain ⟨s, hlast, hlog⟩ := Option.map_eq_some_iff.mp hrun
  obtain ⟨connection, hregistered, hbrowser⟩ := hthroughout.last hlast before _ [] hlog 0 pending
    true rfl { browser := .firefox } (by simp [pending])
  have hchrome : connection = { browser := .chrome } := by simpa [before] using hregistered
  rw [hchrome] at hbrowser
  cases hbrowser

end ContextSnap.Daemon
