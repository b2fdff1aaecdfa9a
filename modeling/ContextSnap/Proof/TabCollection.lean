import ContextSnap.Proof.HostTurns

/-!
# Whom a request to collect reaches

One flag stands for the requests to all connections, and the first connection that polls takes it
down. A request reaches every connection that it was made to as long as the flag is only taken by a
connection that is alone.
-/

namespace ContextSnap.Daemon

open Interleaving (Follows follows_concat)

section Collection

variable {ι : Type} [DecidableEq ι] {env : BrowserEnv} {calls : ι → Call} {p : Party ι}
  {s s' : BrowserState ι} {event : BrowserEvent} {schedule : List (Party ι)}
  {log before after : List (Party ι × BrowserEvent)} {entry : Party ι × BrowserEvent} {j k : Nat}

/-! ### Requests -/

/-- `take_tabs` begins, or `request_collection`. -/
def BrowserEvent.requestsCollection : BrowserEvent → Bool
  | .began | .tookAtOnce _ | .requested => true
  | _ => false

def Live (log : List (Party ι × BrowserEvent)) (k : Nat) : Prop :=
  (.host k, .accepted) ∈ log ∧ ∀ registered, (.host k, .left registered) ∉ log

/-- A connection has found the flag raised, and was sent a `collect_tabs` message for it. -/
def Asked (log : List (Party ι × BrowserEvent)) (k : Nat) : Prop :=
  Follows (.host k, .polled true) (.host k, .collected true) log

/-- A connection was at its outbound section, from the beginning to the end. -/
def RanOutbound (log : List (Party ι × BrowserEvent)) (k : Nat) : Prop :=
  ∃ requested pending, Follows (.host k, .polled requested) (.host k, .popped pending) log

/-- A live connection that has run its outbound section since a request was asked since. -/
def RequestsReach (s : BrowserState ι) : Prop :=
  ∀ before entry after, s.log = before ++ entry :: after → entry.2.requestsCollection = true →
    ∀ k, Live before k → Live s.log k → RanOutbound after k → Asked after k

/-- A call that returns windows and has asked a connection has asked all of them. -/
def TakesFromAll (front : List (Party ι × BrowserEvent)) : Party ι × BrowserEvent → Prop
  | (p, .took windows) => windows ≠ [] → ∀ before event middle,
      front = before ++ (p, event) :: middle → event.requestsCollection = true →
        ∀ j k, Asked middle j → Live before k → Live front k → Asked middle k
  | _ => True

structure CollectsFromAll (s : BrowserState ι) : Prop where
  reach : RequestsReach s
  takes : ∀ front entry rest, s.log = front ++ entry :: rest → TakesFromAll front entry

/-- Whoever takes the flag down is the only connection that has not ended. -/
def PollsAlone (s : BrowserState ι) : Party ι × BrowserEvent → Prop
  | (.host k, .polled true) =>
      ∀ j < s.shared.accepted, j ≠ k → (s.threads (.host j)).phase = .ended
  | _ => True

/-! ### What a request has come to -/

/-- No connection has polled since a request, and the flag is up for it. -/
def Unpolled (s : BrowserState ι) (after : List (Party ι × BrowserEvent)) : Prop :=
  s.shared.inbox.collectionRequested = true ∧ ∀ k requested, (.host k, .polled requested) ∉ after

/-- A connection has taken the flag for a request and is about to send, or has failed to. -/
structure Asking (s : BrowserState ι) (after : List (Party ι × BrowserEvent)) (k : Nat) :
    Prop where
  phase : (s.threads (.host k)).phase = .collecting ∨ (s.threads (.host k)).phase = .leaving
  polled : (.host k, .polled true) ∈ after
  unfinished : ¬RanOutbound after k
  unasked : ¬Asked after k
  alone : ∀ j, (.host j, .polled true) ∈ after → j = k

/-- Every connection that was live at a request and still is was asked, or is about to be. -/
def Polled (s : BrowserState ι) (before after : List (Party ι × BrowserEvent)) : Prop :=
  ∀ k, Live before k → Live s.log k → Asked after k ∨ Asking s after k

def RequestsTracked (s : BrowserState ι) : Prop :=
  ∀ before entry after, s.log = before ++ entry :: after → entry.2.requestsCollection = true →
    Unpolled s after ∨ Polled s before after

/-- Who is live was accepted and has not ended. -/
def LivePlaced (s : BrowserState ι) : Prop :=
  ∀ k, Live s.log k → k < s.shared.accepted ∧ (s.threads (.host k)).phase ≠ .ended

omit [DecidableEq ι] in
theorem Live.of_concat (h : Live (log ++ [entry]) k) (hne : entry ≠ (.host k, .accepted)) :
    Live log k := by
  obtain ⟨haccepted, hleft⟩ := h
  refine ⟨?_, fun registered hmem => hleft registered (List.mem_append_left _ hmem)⟩
  rcases List.mem_append.mp haccepted with hmem | hmem
  · exact hmem
  · exact absurd (List.mem_singleton.mp hmem).symm hne

omit [DecidableEq ι] in
theorem Asked.concat (h : Asked log k) (entry : Party ι × BrowserEvent) :
    Asked (log ++ [entry]) k :=
  follows_concat.mpr (.inl h)

omit [DecidableEq ι] in
theorem ranOutbound_concat (hentry : ∀ pending, entry ≠ (.host k, .popped pending)) :
    RanOutbound (log ++ [entry]) k → RanOutbound log k := by
  rintro ⟨requested, pending, hfollows⟩
  rcases follows_concat.mp hfollows with hfollows | ⟨heq, -⟩
  · exact ⟨requested, pending, hfollows⟩
  · exact absurd heq (hentry pending)

omit [DecidableEq ι] in
theorem not_ranOutbound_of_unpolled (h : ∀ requested, (.host k, .polled requested) ∉ log) :
    ¬RanOutbound log k := by
  rintro ⟨requested, pending, hfollows⟩
  exact h requested hfollows.mem

/-! ### Steps -/

theorem LivePlaced.step (hs : Placed s) (hlive : LivePlaced s) (h : BrowserStep s p event s') :
    LivePlaced s' := by
  have hs' := hs.step h
  cases h with
  | @host k thread next event hthread hnumber hnext hmove =>
      intro j hj
      by_cases hjk : j = k
      · subst hjk
        refine ⟨hs'.lt_accepted (afterTurn_self _ _) hmove.phase_iff.1, ?_⟩
        rw [afterTurn_self]
        intro hended
        obtain ⟨registered, rfl⟩ := hmove.left_of_ended hended
        exact hj.2 registered (by simp)
      · have hold := hlive j (hj.of_concat (by simp [Ne.symm hjk]))
        have hne : Party.host (ι := ι) j ≠ .host k := by simp [hjk]
        rw [afterTurn_of_ne hne]
        obtain ⟨thread', hthread', -, hphase'⟩ := hs.host j
        obtain ⟨thread'', hthread'', -, hphase''⟩ := hs'.host j
        rw [afterTurn_of_ne hne] at hthread''
        obtain rfl : thread' = thread'' :=
          BrowserThread.host.inj (hthread'.symm.trans hthread'')
        refine ⟨Nat.lt_of_not_le fun hle => ?_, hold.2⟩
        exact absurd (hphase'.mp (hphase''.mpr hle)) (Nat.not_le.mpr hold.1)
  | @caller i thread next event hthread hmove =>
      intro j hj
      have hold := hlive j (hj.of_concat (by simp))
      have hne : Party.host j ≠ .caller i := by simp
      rw [afterTurn_of_ne hne, afterTurn_shared, accepted_apply _ _ hmove.event_ne]
      exact hold

theorem flag_apply (connectionId : Bytes) {side : BrowserSide}
    (h : side.inbox.collectionRequested = true) (hne : ∀ requested, event ≠ .polled requested) :
    (event.apply connectionId side).inbox.collectionRequested = true := by
  unfold BrowserEvent.apply
  split
  all_goals first
    | exact h
    | exact absurd rfl (hne _)
    | rfl

theorem flag_of_request (connectionId : Bytes) {side : BrowserSide}
    (h : event.requestsCollection = true) :
    (event.apply connectionId side).inbox.collectionRequested = true := by
  unfold BrowserEvent.requestsCollection at h
  split at h
  all_goals first
    | rfl
    | cases h

theorem Asking.other (h : Asking s after k) {connectionId : Bytes} {next : BrowserThread}
    (hp : p ≠ .host k) (hpolled : ∀ i, p = .host i → event ≠ .polled true) :
    Asking (afterTurn s p connectionId next event) (after ++ [(p, event)]) k where
  phase := by
    rw [afterTurn_of_ne hp.symm]
    exact h.phase
  polled := List.mem_append_left _ h.polled
  unfinished := fun hran =>
    h.unfinished (ranOutbound_concat (fun _ heq => hp (congrArg Prod.fst heq)) hran)
  unasked := by
    intro hasked
    rcases follows_concat.mp hasked with hasked | ⟨heq, -⟩
    · exact h.unasked hasked
    · exact hp (congrArg Prod.fst heq)
  alone := by
    intro i hi
    rcases List.mem_append.mp hi with hi | hi
    · exact h.alone i hi
    · have heq := (List.mem_singleton.mp hi).symm
      exact absurd (congrArg Prod.snd heq) (hpolled i (congrArg Prod.fst heq))

/-- Where a connection is about to send, its turn sends or leaves, and others do not take the flag
down. -/
theorem Asking.step (hlive : LivePlaced s) (halone : PollsAlone s (p, event))
    (h : BrowserStep s p event s') (hk : Live s'.log k) (hasking : Asking s after k) :
    Asked (after ++ [(p, event)]) k ∨ Asking s' (after ++ [(p, event)]) k := by
  cases h with
  | @host i thread next event hthread hnumber hnext hmove =>
      by_cases hik : i = k
      · subst hik
        have hphase := hasking.phase
        rw [hthread] at hphase
        rcases hphase with hcollecting | hleaving
        · cases hmove with
          | worked h _ _ => rcases h with h | h | h <;> cases h.symm.trans hcollecting
          | @collected sent _ hsent _ =>
              cases sent with
              | true => exact .inl (follows_concat.mpr (.inr ⟨rfl, hasking.polled⟩))
              | false =>
                  refine .inr ⟨.inr ?_, List.mem_append_left _ hasking.polled,
                    fun hran => hasking.unfinished (ranOutbound_concat (by simp) hran),
                    fun hasked => ?_, fun j hj => hasking.alone j (by simpa using hj)⟩
                  · rw [afterTurn_self]
                    exact hsent
                  · rcases follows_concat.mp hasked with hasked | ⟨heq, -⟩
                    · exact hasking.unasked hasked
                    · cases heq
          | accepted h | registered h | published h | acknowledged h | polled h | poppedNone h
          | popped h | delivered h | left h => cases h.symm.trans hcollecting
        · cases hmove with
          | worked h _ _ => rcases h with h | h | h <;> cases h.symm.trans hleaving
          | left => exact absurd (by simp) (hk.2 thread.registered.isSome)
          | accepted h | registered h | published h | acknowledged h | polled h | collected h
          | poppedNone h | popped h | delivered h => cases h.symm.trans hleaving
      · refine .inr (hasking.other (by simp [hik]) fun i' hi' heq => ?_)
        obtain rfl := Party.host.inj hi'
        subst heq
        obtain ⟨hlt, hne⟩ := hlive k (hk.of_concat (by simp))
        exact hne (halone k hlt (Ne.symm hik))
  | @caller i thread next event hthread hmove =>
      exact .inr (hasking.other (by simp) fun i' hi' => by cases hi')

theorem Polled.step (hlive : LivePlaced s) (halone : PollsAlone s (p, event))
    (h : BrowserStep s p event s') (hpolled : Polled s before after)
    (hbefore : ∀ k, Live before k → Live s'.log k → Live s.log k) :
    Polled s' before (after ++ [(p, event)]) := by
  intro k hk hk'
  rcases hpolled k hk (hbefore k hk hk') with hasked | hasking
  · exact .inl (hasked.concat _)
  · exact hasking.step hlive halone h hk'

/-- The first connection that polls takes the flag down, and no other one is live. -/
theorem Unpolled.step (hlive : LivePlaced s) (halone : PollsAlone s (p, event))
    (h : BrowserStep s p event s') (hunpolled : Unpolled s after) :
    Unpolled s' (after ++ [(p, event)]) ∨ Polled s' before (after ++ [(p, event)]) := by
  obtain ⟨hflag, hnone⟩ := hunpolled
  cases h with
  | @host i thread next event hthread hnumber hnext hmove =>
      by_cases hevent : ∃ requested, event = .polled requested
      · obtain ⟨requested, rfl⟩ := hevent
        cases hmove with
        | polled h hphase _ =>
            right
            intro k _ hk
            rw [hflag] at halone hk ⊢
            obtain ⟨hlt, hne⟩ := hlive k (hk.of_concat (by simp))
            have hki : k = i := by_contra fun hki => hne (halone k hlt hki)
            subst hki
            rw [hflag, if_pos rfl] at hphase
            refine .inr ⟨.inl ?_, by simp, fun hran => ?_, fun hasked => ?_, fun j hj => ?_⟩
            · rw [afterTurn_self]
              exact hphase
            · exact not_ranOutbound_of_unpolled (hnone k) (ranOutbound_concat (by simp) hran)
            · rcases follows_concat.mp hasked with hasked | ⟨heq, -⟩
              · exact hnone k true hasked.mem
              · cases heq
            · rcases List.mem_append.mp hj with hj | hj
              · exact absurd hj (hnone j true)
              · exact Party.host.inj (congrArg Prod.fst (List.mem_singleton.mp hj))
      · left
        rw [not_exists] at hevent
        refine ⟨flag_apply _ hflag hevent, fun k requested hmem => ?_⟩
        rcases List.mem_append.mp hmem with hmem | hmem
        · exact hnone k requested hmem
        · exact hevent requested (congrArg Prod.snd (List.mem_singleton.mp hmem)).symm
  | @caller i thread next event hthread hmove =>
      left
      have hevent : ∀ requested, event ≠ .polled requested := by
        rintro requested rfl
        cases hmove
      refine ⟨flag_apply _ hflag hevent, fun k requested hmem => ?_⟩
      rcases List.mem_append.mp hmem with hmem | hmem
      · exact hnone k requested hmem
      · cases congrArg Prod.fst (List.mem_singleton.mp hmem)

theorem RequestsTracked.step (hlive : LivePlaced s)
    (halone : PollsAlone s (p, event)) (h : BrowserStep s p event s')
    (htracked : RequestsTracked s) : RequestsTracked s' := by
  unfold RequestsTracked
  rw [h.log_eq]
  refine (Interleaving.forall_split_concat (P := fun before entry after =>
    entry.2.requestsCollection = true → Unpolled s' after ∨ Polled s' before after)).mpr ⟨?_, ?_⟩
  · intro hrequest
    refine .inl ⟨?_, fun k requested => List.not_mem_nil⟩
    cases h <;> exact flag_of_request _ hrequest
  · intro before entry after hlog hrequest
    rcases htracked before entry after hlog hrequest with hunpolled | hpolled
    · exact hunpolled.step hlive halone h
    · refine .inr (hpolled.step hlive halone h fun k hk hk' => ?_)
      have hmem : (Party.host k, BrowserEvent.accepted) ∈ s.log := by
        rw [hlog]
        exact List.mem_append_left _ hk.1
      refine ⟨hmem, fun registered hleft => hk'.2 registered ?_⟩
      rw [h.log_eq]
      exact List.mem_append_left _ hleft

omit [DecidableEq ι] in
/-- A request that is tracked has reached whom it should. -/
theorem RequestsTracked.reach (htracked : RequestsTracked s) : RequestsReach s := by
  intro before entry after hlog hrequest k hbefore hk hran
  rcases htracked before entry after hlog hrequest with hunpolled | hpolled
  · exact absurd hran (not_ranOutbound_of_unpolled (hunpolled.2 k))
  · rcases hpolled k hbefore hk with hasked | hasking
    · exact hasked
    · exact absurd hran hasking.unfinished

omit [DecidableEq ι] in
theorem RequestsTracked.takes (htracked : RequestsTracked s) (entry : Party ι × BrowserEvent) :
    TakesFromAll s.log entry := by
  unfold TakesFromAll
  split
  · intro _ before event middle hlog hrequest j k hj hbefore hk
    rcases htracked before _ middle hlog hrequest with hunpolled | hpolled
    · exact absurd hj.mem (hunpolled.2 j true)
    · rcases hpolled k hbefore hk with hasked | hasking
      · exact hasked
      · obtain rfl := hasking.alone j hj.mem
        exact hj
  · trivial

/-- **Collection.** As long as the flag is only taken down by a connection that is alone, every
request reaches all connections that it was made to. -/
theorem collectsFromAll_of_pollsAlone
    (h : Interleaving.Always (BrowserThread.advance env)
      (Interleaving.OnEvent (BrowserThread.advance env) PollsAlone) schedule
      (browserStart env calls)) :
    Interleaving.Throughout (BrowserThread.advance env) CollectsFromAll schedule
      (browserStart env calls) := by
  have hgood : ∀ (p : Party ι) (s s' : BrowserState ι),
      (Placed s ∧ LivePlaced s ∧ RequestsTracked s) → CollectsFromAll s →
      Interleaving.OnEvent (BrowserThread.advance env) PollsAlone p s →
      Interleaving.step (BrowserThread.advance env) p s = some s' →
      (Placed s' ∧ LivePlaced s' ∧ RequestsTracked s') ∧ CollectsFromAll s' := by
    rintro p s s' ⟨hs, hlive, htracked⟩ hcollects hcondition hstep
    obtain ⟨event, hevent, hiff⟩ := step_inv hs hstep
    have halone := (hiff _).mp hcondition
    have htracked' := htracked.step hlive halone hevent
    refine ⟨⟨hs.step hevent, hlive.step hs hevent, htracked'⟩, htracked'.reach, ?_⟩
    rw [hevent.log_eq]
    exact (Interleaving.forall_split_concat
      (P := fun front entry _ => TakesFromAll front entry)).mpr
        ⟨htracked.takes _, hcollects.takes⟩
  refine Interleaving.throughout_of_always hgood ⟨placed_browserStart, ?_, ?_⟩ ⟨?_, ?_⟩ h
  · exact fun k hk => absurd hk.1 List.not_mem_nil
  · exact fun before entry after hlog => absurd hlog (by simp [browserStart])
  · exact fun before entry after hlog => absurd hlog (by simp [browserStart])
  · exact fun front entry rest hlog => absurd hlog (by simp [browserStart])

instance (s : BrowserState ι) (entry : Party ι × BrowserEvent) :
    Decidable (PollsAlone s entry) := by
  obtain ⟨_ | _, event⟩ := entry <;> rcases event with _ | _ | _ | _ | _ | (_ | _) <;>
    unfold PollsAlone <;> infer_instance

end Collection

set_option maxRecDepth 10000 in
/-- One connection, which is asked for a request. -/
theorem collectsFromAll_one :
    Interleaving.Throughout (BrowserThread.advance (scripted fun _ => [])) CollectsFromAll
      ([.host 0, .host 0, .caller ()] ++ List.replicate 5 (.host 0))
      (browserStart (scripted fun _ => []) fun _ : Unit => .requestCollection) :=
  collectsFromAll_of_pollsAlone (Interleaving.always_of_checkEvent (by decide))

/-- Two connections, a request, and a round of either one. -/
def twoPolls : List (Party Unit) :=
  [.host 0, .host 1, .host 0, .host 1, .caller ()] ++ List.replicate 5 (.host 0)
    ++ List.replicate 4 (.host 1)

set_option maxRecDepth 10000 in
/-- The second connection polls, and is not asked. -/
theorem not_collectsFromAll :
    ¬∀ (env : BrowserEnv) (calls : Unit → Call) (schedule : List (Party Unit)),
      Interleaving.Throughout (BrowserThread.advance env) CollectsFromAll schedule
        (browserStart env calls) := by
  intro h
  have hthroughout := h (scripted fun _ => []) (fun _ => .requestCollection) twoPolls
  have hrun : (Interleaving.run (BrowserThread.advance (scripted fun _ => [])) twoPolls
      (browserStart (scripted fun _ => []) fun _ => .requestCollection)).map (·.log) = some
        ([(.host 0, .accepted), (.host 1, .accepted), (.host 0, .worked), (.host 1, .worked)]
          ++ (.caller (), .requested) ::
            [(.host 0, .worked), (.host 0, .worked), (.host 0, .polled true),
              (.host 0, .collected true), (.host 0, .popped none), (.host 1, .worked),
              (.host 1, .worked), (.host 1, .polled false), (.host 1, .popped none)]) := by
    decide
  obtain ⟨s, hlast, hlog⟩ := Option.map_eq_some_iff.mp hrun
  have hasked := (hthroughout.last hlast).reach _ _ _ hlog rfl 1 ⟨by simp, by simp⟩
    ⟨by simp [hlog], by simp [hlog]⟩
    ⟨false, none, [(.host 0, .worked), (.host 0, .worked), (.host 0, .polled true),
      (.host 0, .collected true), (.host 0, .popped none), (.host 1, .worked), (.host 1, .worked)],
      [(.host 1, .popped none)], rfl, by simp⟩
  exact absurd hasked.mem (by simp)

end ContextSnap.Daemon
