import ContextSnap.Lib.Shares
import ContextSnap.Proof.HostTurns

/-!
# What becomes of queued restores

A restore that was queued is in the queue, in the hands of one connection, or was delivered once,
exactly as long as no connection fails to send the restore that it has taken.
-/

namespace ContextSnap.Daemon

open Browser (PendingRestore)

section Restores

variable {ι : Type} [DecidableEq ι] {env : BrowserEnv} {calls : ι → Call} {p : Party ι}
  {s s' : BrowserState ι} {event : BrowserEvent} {k : Nat}

/-! ### Where restores are -/

def BrowserEvent.enqueues : BrowserEvent → Option PendingRestore
  | .enqueued pending => some pending
  | _ => none

def BrowserEvent.pops : BrowserEvent → Option PendingRestore
  | .popped pending => pending
  | _ => none

/-- What was written in full. -/
def BrowserEvent.delivers : BrowserEvent → Option PendingRestore
  | .delivered pending true => some pending
  | _ => none

/-- The restores that some events of a log are about, in order. -/
def restoresOf (about : BrowserEvent → Option PendingRestore)
    (log : List (Party ι × BrowserEvent)) : List PendingRestore :=
  log.filterMap fun entry => about entry.2

omit [DecidableEq ι] in
@[simp]
theorem restoresOf_append (about : BrowserEvent → Option PendingRestore)
    (log : List (Party ι × BrowserEvent)) :
    restoresOf about (log ++ [(p, event)]) = restoresOf about log ++ (about event).toList := by
  rw [restoresOf, restoresOf, List.filterMap_append]
  cases h : about event <;> simp [h]

/-- The restore that a connection has taken and not sent. -/
def HostPhase.hand : HostPhase → List PendingRestore
  | .sending pending => [pending]
  | _ => []

def inHand (s : BrowserState ι) : List PendingRestore :=
  (List.range s.shared.accepted).flatMap fun k => (s.threads (.host k)).phase.hand

structure RestoresKept (s : BrowserState ι) : Prop where
  /-- What was queued and not taken is in the queue, in order. -/
  queue : restoresOf BrowserEvent.enqueues s.log
    = restoresOf BrowserEvent.pops s.log ++ s.shared.inbox.restores
  /-- What was taken was delivered once, or is in one connection's hands. -/
  taken : (restoresOf BrowserEvent.pops s.log).Perm
    (restoresOf BrowserEvent.delivers s.log ++ inHand s)
  /-- `restore_result` returns what was acknowledged for the same id. -/
  answers : ∀ before entry after, s.log = before ++ entry :: after →
    ∀ requestId tabsRestored, entry.2 = .answered requestId tabsRestored →
      ∃ k, (.host k, .acknowledged requestId tabsRestored) ∈ before

/-- No connection fails to send a restore. -/
def SendsInFull (_ : BrowserState ι) : Party ι × BrowserEvent → Prop
  | (_, .delivered _ sent) => sent = true
  | _ => True

/-- Results were acknowledged. -/
def ResultsAcknowledged (s : BrowserState ι) : Prop :=
  ∀ requestId tabsRestored, s.shared.inbox.results requestId = some tabsRestored →
    ∃ k, (.host k, .acknowledged requestId tabsRestored) ∈ s.log

/-! ### Steps -/

/-- The turn of a connection moves what it has in its hands, and nothing else. -/
theorem inHand_turn {thread next : HostThread} (hk : k < s.shared.accepted)
    (hthread : s.threads (.host k) = .host thread) (hevent : event ≠ .accepted) :
    ∃ others, (inHand s).Perm (thread.phase.hand ++ others)
      ∧ (inHand (afterTurn s (.host k) (hostId k) (.host next) event)).Perm
        (next.phase.hand ++ others) := by
  have hmem := List.mem_range.mpr hk
  let share := fun k => (s.threads (.host k)).phase.hand
  have hshare : share k = thread.phase.hand := by
    change (s.threads (.host k)).phase.hand = _
    rw [hthread]
    rfl
  have hafter : (fun j => ((afterTurn s (.host k) (hostId k) (.host next) event).threads
      (.host j)).phase.hand) = Function.update share k next.phase.hand := by
    funext j
    by_cases hj : j = k
    · subst hj
      rw [afterTurn_self, Function.update_self]
      rfl
    · have hne : Party.host (ι := ι) j ≠ .host k := by simp [hj]
      rw [afterTurn_of_ne hne, Function.update_of_ne hj]
  refine ⟨((List.range s.shared.accepted).erase k).flatMap share, ?_, ?_⟩
  · rw [← hshare]
    exact flatMap_perm_erase share hmem
  · unfold inHand
    rw [hafter, afterTurn_shared, accepted_apply _ _ hevent]
    exact flatMap_update_perm share List.nodup_range hmem _

theorem inHand_caller {i : ι} {next : BrowserThread} (hevent : event ≠ .accepted) :
    inHand (afterTurn s (.caller i) [] next event) = inHand s := by
  unfold inHand
  rw [afterTurn_shared, accepted_apply _ _ hevent]
  apply List.flatMap_congr
  intro k _
  have hne : Party.host k ≠ .caller i := by simp
  rw [afterTurn_of_ne hne]

theorem inHand_accepted {next : HostThread} (hk : s.shared.accepted = k)
    (hnext : next.phase = .greeting) :
    inHand (afterTurn s (.host k) (hostId k) (.host next) .accepted) = inHand s := by
  subst hk
  change (List.range (s.shared.accepted + 1)).flatMap _ = _
  rw [List.range_succ, List.flatMap_append, List.flatMap_singleton, afterTurn_self]
  change _ ++ next.phase.hand = _
  rw [hnext]
  change _ ++ [] = _
  rw [List.append_nil]
  apply List.flatMap_congr
  intro j hj
  have hne : Party.host (ι := ι) j ≠ .host s.shared.accepted := by
    have hlt := List.mem_range.mp hj
    simp [hlt.ne]
  rw [afterTurn_of_ne hne]

theorem queue_step (h : BrowserStep s p event s')
    (hqueue : restoresOf BrowserEvent.enqueues s.log
      = restoresOf BrowserEvent.pops s.log ++ s.shared.inbox.restores) :
    restoresOf BrowserEvent.enqueues s'.log
      = restoresOf BrowserEvent.pops s'.log ++ s'.shared.inbox.restores := by
  rw [h.log_eq, restoresOf_append, restoresOf_append, hqueue]
  cases h with
  | @host k thread next event hthread hnumber hnext hmove =>
      cases hmove with
      | worked | accepted | registered | published | acknowledged | polled | collected | poppedNone
      | delivered => simp [BrowserEvent.enqueues, BrowserEvent.pops, BrowserEvent.apply,
          Browser.Inbox.publishTabs, Browser.Inbox.acknowledgeRestore,
          Browser.Inbox.consumeCollectionRequest]
      | left => simp [BrowserEvent.enqueues, BrowserEvent.pops, inbox_left]
      | popped _ hrestores =>
          simp [BrowserEvent.enqueues, BrowserEvent.pops, BrowserEvent.apply,
            Browser.Inbox.nextRestore, hrestores]
  | @caller i thread next event hthread hmove =>
      cases hmove <;> simp [BrowserEvent.enqueues, BrowserEvent.pops, BrowserEvent.apply,
        Browser.Inbox.requestCollection, Browser.Inbox.takeTabs, Browser.Inbox.takeResult,
        Browser.Inbox.enqueueRestore]

omit [DecidableEq ι] in
/-- What a turn takes goes into the hands, and what it sends in full comes out of them. -/
theorem HostMove.hand_iff {side : BrowserSide} {thread next : HostThread}
    (h : HostMove side thread next event) (s : BrowserState ι) (p : Party ι) :
    (thread.phase.hand ++ event.pops.toList).Perm (event.delivers.toList ++ next.phase.hand)
      ↔ SendsInFull s (p, event) := by
  cases h with
  | worked h hnext _ =>
      have hnone : thread.phase.hand = [] ∧ next.phase.hand = [] := by
        constructor
        · rcases h with h | h | h <;> rw [h] <;> rfl
        · rcases hnext with hnext | hnext | hnext | hnext <;> rw [hnext] <;> rfl
      rw [hnone.1, hnone.2]
      exact iff_of_true (List.Perm.refl _) trivial
  | accepted h _ hnext _ =>
      rw [h, hnext]
      exact iff_of_true (List.Perm.refl _) trivial
  | registered h hnext _ _ =>
      rw [h, hnext]
      exact iff_of_true (List.Perm.refl _) trivial
  | published h hnext _ =>
      rw [h, hnext]
      exact iff_of_true (List.Perm.refl _) trivial
  | acknowledged h hnext _ =>
      rw [h, hnext]
      exact iff_of_true (List.Perm.refl _) trivial
  | polled h hnext _ =>
      have hnone : next.phase.hand = [] := by
        rw [hnext]
        split_ifs <;> rfl
      rw [h, hnone]
      exact iff_of_true (List.Perm.refl _) trivial
  | collected h hnext _ =>
      have hnone : next.phase.hand = [] := by
        rw [hnext]
        split_ifs <;> rfl
      rw [h, hnone]
      exact iff_of_true (List.Perm.refl _) trivial
  | poppedNone h _ hnext _ =>
      rw [h, hnext]
      exact iff_of_true (List.Perm.refl _) trivial
  | popped h _ hnext _ =>
      rw [h, hnext]
      exact iff_of_true (List.Perm.refl _) trivial
  | @delivered pending sent h hnext _ =>
      rw [h, hnext]
      cases sent with
      | true => exact iff_of_true (List.Perm.refl _) rfl
      | false => exact iff_of_false (fun hperm => by cases hperm.length_eq) (by simp [SendsInFull])
  | left h hnext _ =>
      rw [h, hnext]
      exact iff_of_true (List.Perm.refl _) trivial

/-- What the turn of a connection takes and delivers, against what it has in its hands. -/
theorem taken_step_iff (hs : Placed s) (h : BrowserStep s p event s')
    (htaken : (restoresOf BrowserEvent.pops s.log).Perm
      (restoresOf BrowserEvent.delivers s.log ++ inHand s)) :
    (restoresOf BrowserEvent.pops s'.log).Perm
        (restoresOf BrowserEvent.delivers s'.log ++ inHand s')
      ↔ SendsInFull s (p, event) := by
  rw [h.log_eq, restoresOf_append, restoresOf_append]
  cases h with
  | @host k thread next event hthread hnumber hnext hmove =>
      by_cases haccepted : event = .accepted
      · subst haccepted
        cases hmove with
        | accepted _ hcount hgreeting _ =>
            rw [inHand_accepted (hcount.trans hnumber) hgreeting]
            exact iff_of_true (by simpa [BrowserEvent.pops, BrowserEvent.delivers]) trivial
      have hk := hs.lt_accepted hthread fun hphase => haccepted (hmove.phase_iff.2.mp hphase)
      obtain ⟨others, hbefore, hafter⟩ :=
        @inHand_turn _ _ s event k thread next hk hthread haccepted
      rw [hafter.append_left _ |>.congr_right,
        append_perm_append_iff (htaken.trans (hbefore.append_left _))]
      exact hmove.hand_iff s _
  | @caller i thread next event hthread hmove =>
      rw [inHand_caller hmove.event_ne]
      cases hmove <;>
        exact iff_of_true (by simpa [BrowserEvent.pops, BrowserEvent.delivers]) trivial

omit [DecidableEq ι] in
theorem ResultsAcknowledged.mono (h : ResultsAcknowledged s) {entry : Party ι × BrowserEvent}
    (hlog : s'.log = s.log ++ [entry]) {requestId : Bytes} {tabsRestored : UInt32}
    (hresult : s.shared.inbox.results requestId = some tabsRestored) :
    ∃ k, (.host k, .acknowledged requestId tabsRestored) ∈ s'.log := by
  obtain ⟨k, hk⟩ := h requestId tabsRestored hresult
  rw [hlog]
  exact ⟨k, List.mem_append_left _ hk⟩

theorem ResultsAcknowledged.step (hresults : ResultsAcknowledged s) (h : BrowserStep s p event s') :
    ResultsAcknowledged s' := by
  intro requestId tabsRestored hresult
  have hkept : s.shared.inbox.results requestId = some tabsRestored →
      ∃ k, (.host k, .acknowledged requestId tabsRestored) ∈ s'.log := hresults.mono h.log_eq
  cases h with
  | @host k thread next event hthread hnumber hnext hmove =>
      cases hmove with
      | left =>
          rw [afterTurn_shared, inbox_left] at hresult
          exact hkept hresult
      | @acknowledged answered count _ _ _ =>
          by_cases hid : requestId = answered
          · subst hid
            change Function.update _ _ _ _ = _ at hresult
            rw [Function.update_self] at hresult
            cases hresult
            exact ⟨k, by simp⟩
          · change Function.update _ _ _ _ = _ at hresult
            rw [Function.update_of_ne hid] at hresult
            exact hkept hresult
      | _ => exact hkept hresult
  | @caller i thread next event hthread hmove =>
      cases hmove with
      | @answered taken patience count htaken =>
          by_cases hid : requestId = taken
          · subst hid
            change Function.update _ _ _ _ = _ at hresult
            rw [Function.update_self] at hresult
            cases hresult
          · change Function.update _ _ _ _ = _ at hresult
            rw [Function.update_of_ne hid] at hresult
            exact hkept hresult
      | _ => exact hkept hresult

/-- **One step.** -/
theorem restoresKept_step_iff (hs : Placed s) (hresults : ResultsAcknowledged s)
    (hkept : RestoresKept s) (h : BrowserStep s p event s') :
    RestoresKept s' ↔ SendsInFull s (p, event) := by
  rw [← taken_step_iff hs h hkept.taken]
  refine ⟨RestoresKept.taken, fun htaken => ⟨queue_step h hkept.queue, htaken, ?_⟩⟩
  rw [h.log_eq, Interleaving.forall_split_concat]
  refine ⟨fun requestId tabsRestored hanswered => ?_, hkept.answers⟩
  change event = _ at hanswered
  subst hanswered
  cases h with
  | host _ _ _ hmove => cases hmove
  | caller _ hmove =>
      cases hmove with
      | answered hresult => exact hresults _ _ hresult

/-- **Restores.** In every state of a run all queued restores are in the queue, in one connection's
hands or delivered once, exactly if no connection fails to send a restore it has taken. -/
theorem restoresKept_iff (env : BrowserEnv) (calls : ι → Call) (schedule : List (Party ι)) :
    Interleaving.Throughout (BrowserThread.advance env) RestoresKept schedule
        (browserStart env calls)
      ↔ Interleaving.Always (BrowserThread.advance env)
          (Interleaving.OnEvent (BrowserThread.advance env) SendsInFull) schedule
          (browserStart env calls) := by
  have hgood : ∀ (p : Party ι) (s s' : BrowserState ι),
      (Placed s ∧ ResultsAcknowledged s) → RestoresKept s →
      Interleaving.OnEvent (BrowserThread.advance env) SendsInFull p s →
      Interleaving.step (BrowserThread.advance env) p s = some s' →
      (Placed s' ∧ ResultsAcknowledged s') ∧ RestoresKept s' := by
    rintro p s s' ⟨hs, hresults⟩ hkept hcondition hstep
    obtain ⟨event, hevent, hiff⟩ := step_inv hs hstep
    exact ⟨⟨hs.step hevent, hresults.step hevent⟩,
      (restoresKept_step_iff hs hresults hkept hevent).mpr ((hiff _).mp hcondition)⟩
  have hresults : ResultsAcknowledged (browserStart env calls) :=
    fun _ _ hresult => by cases hresult
  have hkept : RestoresKept (browserStart env calls) :=
    { queue := rfl
      taken := List.Perm.refl _
      answers := fun before _ _ hlog => by cases before <;> cases hlog }
  refine Interleaving.throughout_iff_always hgood ?_ ⟨placed_browserStart, hresults⟩ hkept
  rintro p s s' ⟨hs, hresults⟩ hkept hstep hkept'
  obtain ⟨event, hevent, hiff⟩ := step_inv hs hstep
  exact (hiff _).mpr ((restoresKept_step_iff hs hresults hkept hevent).mp hkept')

end Restores

/-- A connection on which every `write` fails. -/
def refusing : BrowserEnv := { scripted (fun _ => []) with takes := fun _ _ => none }

set_option maxRecDepth 10000 in
/-- The restore that it takes is gone. -/
theorem not_restoresKept :
    ¬∀ (env : BrowserEnv) (calls : Unit → Call) (schedule : List (Party Unit)),
      Interleaving.Throughout (BrowserThread.advance env) RestoresKept schedule
        (browserStart env calls) := by
  intro h
  let calls : Unit → Call := fun _ => .restoreTabs [] true 0
  let schedule : List (Party Unit) :=
    [.host 0, .host 0, .caller (), .host 0, .host 0, .host 0, .host 0, .host 0]
  have hthroughout := h refusing calls schedule
  have hrun : (Interleaving.run (BrowserThread.advance refusing) schedule
      (browserStart refusing calls)).map (fun s => ((restoresOf BrowserEvent.pops s.log).length,
        (restoresOf BrowserEvent.delivers s.log ++ inHand s).length)) = some (1, 0) := by
    decide
  obtain ⟨s, hlast, hlengths⟩ := Option.map_eq_some_iff.mp hrun
  have hlength := (hthroughout.last hlast).taken.length_eq
  rw [(Prod.mk.inj hlengths).1, (Prod.mk.inj hlengths).2] at hlength
  exact absurd hlength (by decide)

end ContextSnap.Daemon
