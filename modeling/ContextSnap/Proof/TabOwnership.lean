import ContextSnap.Lib.Shares
import ContextSnap.Proof.HostTurns

/-!
# Who owns the windows of the inbox

The inbox holds the windows of the last `tabs` message of every live connection exactly as long as
a message replaces nothing but its own connection's windows, and those that leave have none.
-/

namespace ContextSnap.Daemon

open Browser (BrowserWindow)

section Ownership

variable {ι : Type} [DecidableEq ι] {env : BrowserEnv} {calls : ι → Call} {p : Party ι}
  {s s' : BrowserState ι} {event : BrowserEvent}

/-! ### Shares -/

def observeTabs (held : Nat → List BrowserWindow) :
    Party ι × BrowserEvent → Nat → List BrowserWindow
  | (.host k, .published windows) => Function.update held k windows
  | (.host k, .left _) => Function.update held k []
  | _ => held

/-- The windows of the last `tabs` message of a connection, as long as it is live. -/
def owned (log : List (Party ι × BrowserEvent)) : Nat → List BrowserWindow :=
  log.foldl observeTabs fun _ => []

omit [DecidableEq ι] in
@[simp]
theorem owned_append (log : List (Party ι × BrowserEvent)) (entry : Party ι × BrowserEvent) :
    owned (log ++ [entry]) = observeTabs (owned log) entry := by
  rw [owned, List.foldl_append]
  rfl

/-- The inbox holds what the connections that were accepted own, once. -/
def TabsOwned (s : BrowserState ι) : Prop :=
  s.shared.inbox.tabs.Perm ((List.range s.shared.accepted).flatMap (owned s.log))

/-- A message replaces all windows of its own connection and none of another one, and a connection
leaves without windows. -/
def Separates (s : BrowserState ι) : Party ι × BrowserEvent → Prop
  | (.host k, .published _) =>
      (∀ window ∈ owned s.log k, window.profile = hostId k) ∧
        ∀ j < s.shared.accepted, j ≠ k → ∀ window ∈ owned s.log j, window.profile ≠ hostId k
  | (.host k, .left _) => owned s.log k = []
  | _ => True

/-! ### Steps -/

/-- Connections that were not accepted own nothing. -/
def UnacceptedOwnNothing (s : BrowserState ι) : Prop :=
  ∀ k, s.shared.accepted ≤ k → owned s.log k = []

theorem tabsOwned_of_eq {connectionId : Bytes} {next : BrowserThread}
    (htabs : (event.apply connectionId s.shared).inbox.tabs = s.shared.inbox.tabs)
    (haccepted : (event.apply connectionId s.shared).accepted = s.shared.accepted)
    (howned : observeTabs (owned s.log) (p, event) = owned s.log) :
    TabsOwned (afterTurn s p connectionId next event) ↔ TabsOwned s := by
  rw [TabsOwned, afterTurn_shared, afterTurn_log, owned_append, htabs, haccepted, howned, TabsOwned]

theorem tabsOwned_published_iff {k : Nat} (hk : k ∈ List.range s.shared.accepted)
    (howned : TabsOwned s) (windows : List BrowserWindow) (next : BrowserThread) :
    TabsOwned (afterTurn s (.host k) (hostId k) next (.published windows))
      ↔ Separates s (.host k, .published windows) := by
  have hnew := flatMap_update_perm (owned s.log) List.nodup_range hk windows
  have hfilter := filter_append_perm_iff (p := fun window => window.profile ≠ hostId k)
    (howned.trans (flatMap_perm_erase _ hk)) windows
  change (s.shared.inbox.tabs.filter (fun window => window.profile ≠ hostId k) ++ windows).Perm
    ((List.range s.shared.accepted).flatMap (owned (s.log ++ [(.host k, .published windows)]))) ↔ _
  rw [owned_append]
  change _ ↔ _ ∧ _
  constructor
  · intro hperm
    obtain ⟨hown, hothers⟩ := hfilter.mp (hperm.trans hnew)
    refine ⟨fun window hwindow => by simpa using hown window hwindow, ?_⟩
    intro j hj hne window hwindow
    have hmem := (mem_flatMap_erase _ List.nodup_range).mpr ⟨j, List.mem_range.mpr hj, hne, hwindow⟩
    simpa using hothers window hmem
  · rintro ⟨hown, hothers⟩
    refine (hfilter.mpr ⟨fun window hwindow => ?_, fun window hwindow => ?_⟩).trans hnew.symm
    · simpa using hown window hwindow
    · obtain ⟨j, hj, hne, hmem⟩ := (mem_flatMap_erase _ List.nodup_range).mp hwindow
      simpa using hothers j (List.mem_range.mp hj) hne window hmem

theorem tabsOwned_left_iff {k : Nat} (hk : k ∈ List.range s.shared.accepted)
    (howned : TabsOwned s) (registered : Bool) (next : BrowserThread) :
    TabsOwned (afterTurn s (.host k) (hostId k) next (.left registered))
      ↔ Separates s (.host k, .left registered) := by
  have hparts := howned.trans (flatMap_perm_erase _ hk)
  have hnew := flatMap_update_perm (owned s.log) List.nodup_range hk []
  have haccepted := accepted_apply (hostId k) s.shared
    (by simp : BrowserEvent.left registered ≠ .accepted)
  rw [TabsOwned, afterTurn_shared, afterTurn_log, owned_append, inbox_left, haccepted]
  change s.shared.inbox.tabs.Perm
    ((List.range s.shared.accepted).flatMap (Function.update (owned s.log) k []))
      ↔ owned s.log k = []
  constructor
  · intro hperm
    have hlength := (hparts.symm.trans (hperm.trans hnew)).length_eq
    rw [List.length_append, List.nil_append] at hlength
    exact List.length_eq_zero_iff.mp (by omega)
  · intro hnone
    rw [hnone] at hparts
    exact hparts.trans hnew.symm

/-- **One step.** -/
theorem tabsOwned_step_iff (hs : Placed s) (hnone : UnacceptedOwnNothing s) (howned : TabsOwned s)
    (h : BrowserStep s p event s') : TabsOwned s' ↔ Separates s (p, event) := by
  cases h with
  | @host k thread next event hthread hnumber hnext hmove =>
      have hk : thread.phase ≠ .unaccepted → k ∈ List.range s.shared.accepted :=
        fun hphase => List.mem_range.mpr (hs.lt_accepted hthread hphase)
      cases hmove with
      | worked | registered | acknowledged | polled | collected | poppedNone | popped | delivered =>
          exact (tabsOwned_of_eq rfl rfl rfl).trans (iff_of_true howned trivial)
      | accepted _ haccepted _ _ =>
          refine iff_of_true ?_ trivial
          have hlast : owned s.log s.shared.accepted = [] := hnone _ le_rfl
          change s.shared.inbox.tabs.Perm
            ((List.range (s.shared.accepted + 1)).flatMap (owned (s.log ++ [(.host k, .accepted)])))
          rw [owned_append, List.range_succ, List.flatMap_append, List.flatMap_singleton]
          change s.shared.inbox.tabs.Perm
            ((List.range s.shared.accepted).flatMap (owned s.log) ++ owned s.log s.shared.accepted)
          rwa [hlast, List.append_nil]
      | published h _ _ => exact tabsOwned_published_iff (hk (by simp [h])) howned _ _
      | left h _ _ => exact tabsOwned_left_iff (hk (by simp [h])) howned _ _
  | @caller i thread next event hthread hmove =>
      cases hmove <;> exact (tabsOwned_of_eq rfl rfl rfl).trans (iff_of_true howned trivial)

omit [DecidableEq ι] in
theorem observeTabs_of_ne (held : Nat → List BrowserWindow) {j k : Nat} (h : j ≠ k) :
    observeTabs held (Party.host (ι := ι) k, event) j = held j := by
  cases event with
  | published windows => exact Function.update_of_ne h _ _
  | left registered => exact Function.update_of_ne h _ _
  | _ => rfl

theorem UnacceptedOwnNothing.step (hs : Placed s) (hnone : UnacceptedOwnNothing s)
    (h : BrowserStep s p event s') : UnacceptedOwnNothing s' := by
  cases h with
  | @host k thread next event hthread hnumber hnext hmove =>
      intro j hj
      rw [afterTurn_log, owned_append]
      by_cases hevent : event = .accepted
      · subst hevent
        exact hnone j ((Nat.le_succ _).trans hj)
      · rw [afterTurn_shared, accepted_apply _ _ hevent] at hj
        have hk := hs.lt_accepted hthread fun hphase => hevent (hmove.phase_iff.2.mp hphase)
        rw [observeTabs_of_ne _ (by omega : j ≠ k)]
        exact hnone j hj
  | @caller i thread next event hthread hmove =>
      intro j hj
      rw [afterTurn_shared, accepted_apply _ _ hmove.event_ne] at hj
      rw [afterTurn_log, owned_append]
      exact hnone j hj

/-- **Ownership.** In every state of a run, the windows of the inbox are those of the last message
of each live connection, exactly if no message is published over other windows than those of its
own connection, and over all of these, and every connection leaves without windows. -/
theorem tabsOwned_iff (env : BrowserEnv) (calls : ι → Call) (schedule : List (Party ι)) :
    Interleaving.Throughout (BrowserThread.advance env) TabsOwned schedule (browserStart env calls)
      ↔ Interleaving.Always (BrowserThread.advance env)
          (Interleaving.OnEvent (BrowserThread.advance env) Separates) schedule
          (browserStart env calls) := by
  have hgood : ∀ (p : Party ι) (s s' : BrowserState ι),
      (Placed s ∧ UnacceptedOwnNothing s) → TabsOwned s →
      Interleaving.OnEvent (BrowserThread.advance env) Separates p s →
      Interleaving.step (BrowserThread.advance env) p s = some s' →
      (Placed s' ∧ UnacceptedOwnNothing s') ∧ TabsOwned s' := by
    rintro p s s' ⟨hs, hnone⟩ howned hcondition hstep
    obtain ⟨event, hevent, hiff⟩ := step_inv hs hstep
    exact ⟨⟨hs.step hevent, hnone.step hs hevent⟩,
      (tabsOwned_step_iff hs hnone howned hevent).mpr ((hiff _).mp hcondition)⟩
  refine Interleaving.throughout_iff_always hgood ?_ ⟨placed_browserStart, fun _ _ => rfl⟩
    (List.Perm.refl _)
  rintro p s s' ⟨hs, hnone⟩ howned hstep howned'
  obtain ⟨event, hevent, hiff⟩ := step_inv hs hstep
  exact (hiff _).mpr ((tabsOwned_step_iff hs hnone howned hevent).mp howned')

end Ownership

/-- An extension that reports its one window twice. -/
def reportingTwice : BrowserEnv :=
  scripted fun _ =>
    [extensionFrame "tabs" (.object [(str "windows", .array [.object []])])
      ++ extensionFrame "tabs" (.object [(str "windows", .array [.object []])])]

set_option maxRecDepth 10000 in
/-- The window is there twice. -/
theorem not_tabsOwned :
    ¬∀ (env : BrowserEnv) (calls : Empty → Call) (schedule : List (Party Empty)),
      Interleaving.Throughout (BrowserThread.advance env) TabsOwned schedule
        (browserStart env calls) := by
  intro h
  have hthroughout := h reportingTwice Empty.elim (List.replicate 5 (.host 0))
  have hrun : (Interleaving.run (BrowserThread.advance reportingTwice) (List.replicate 5 (.host 0))
      (browserStart reportingTwice Empty.elim)).map (fun s => (s.shared.inbox.tabs.length,
        ((List.range s.shared.accepted).flatMap (owned s.log)).length)) = some (2, 1) := by
    decide
  obtain ⟨s, hlast, hlengths⟩ := Option.map_eq_some_iff.mp hrun
  have hlength := (hthroughout.last hlast).length_eq
  rw [(Prod.mk.inj hlengths).1, (Prod.mk.inj hlengths).2] at hlength
  exact absurd hlength (by decide)

end ContextSnap.Daemon
