import ContextSnap.Ipc.Server

/-!
# Framing of what the server writes

The mutex keeps the frames of different threads apart, so that a connection carries them one after
the other. What may go wrong is behind a frame that was cut short: the thread that failed may be the
only one that knows, and it does not always stop.
-/

namespace ContextSnap.Ipc

open Json (Value)
open Interleaving (Always Throughout)

/-! ### Frames on a connection -/

def Sent.written (sent : Sent) : Bytes := sent.frame.take sent.wrote

/-- Some of the frame was written, but not all of it. -/
def Sent.Cut (sent : Sent) : Prop := 0 < sent.wrote ∧ sent.wrote < sent.frame.length

instance (sent : Sent) : Decidable sent.Cut := inferInstanceAs (Decidable (_ ∧ _))

def ClientSession.written (session : ClientSession) : Bytes :=
  (session.sent.map Sent.written).flatten

/-- Nothing is written behind a frame that was cut short. -/
def CutLast (session : ClientSession) : Prop :=
  session.sent.Pairwise fun earlier later => earlier.Cut → later.wrote = 0

instance (session : ClientSession) : Decidable (CutLast session) :=
  inferInstanceAs (Decidable (session.sent.Pairwise _))

/-- The bytes on a connection are a prefix of whole frames, and none are behind one that was cut. -/
def Framed (maxFrameBytes : UInt32) (session : ClientSession) : Prop :=
  (∃ frames : List Bytes, (∀ frame ∈ frames, ∃ payload, encodeFrame payload maxFrameBytes = .ok frame)
      ∧ session.written <+: frames.flatten)
    ∧ CutLast session

/-- A frame of this server, with at most all of it written. -/
def Sent.Sound (maxFrameBytes : UInt32) (sent : Sent) : Prop :=
  encodeFrame (sent.value.dump (-1)) maxFrameBytes = .ok sent.frame
    ∧ sent.wrote ≤ sent.frame.length

/-- The frames that were begun. -/
def begunFrames (sent : List Sent) : List Bytes := (sent.filter (0 < ·.wrote)).map Sent.frame

theorem written_nil {sent : List Sent} (h : ∀ message ∈ sent, message.wrote = 0) :
    (sent.map Sent.written).flatten = [] := by
  rw [List.flatten_eq_nil_iff]
  intro bytes hbytes
  obtain ⟨message, hmem, rfl⟩ := List.mem_map.mp hbytes
  rw [Sent.written, h message hmem, List.take_zero]

theorem written_prefix {sent : List Sent} (hle : ∀ message ∈ sent, message.wrote ≤ message.frame.length)
    (hcut : sent.Pairwise fun earlier later => earlier.Cut → later.wrote = 0) :
    (sent.map Sent.written).flatten <+: (begunFrames sent).flatten := by
  induction sent with
  | nil => exact List.prefix_rfl
  | cons first rest ih =>
      obtain ⟨hfirst, hrest⟩ := List.pairwise_cons.mp hcut
      have hprefix := ih (fun message hmem => hle message (List.mem_cons_of_mem _ hmem)) hrest
      rw [List.map_cons, List.flatten_cons]
      by_cases hbegun : 0 < first.wrote
      · have hbegins : begunFrames (first :: rest) = first.frame :: begunFrames rest := by
          simp [begunFrames, hbegun]
        rw [hbegins, List.flatten_cons]
        by_cases hwhole : first.wrote < first.frame.length
        · rw [written_nil fun message hmem => hfirst message hmem ⟨hbegun, hwhole⟩, List.append_nil]
          exact (List.take_prefix _ _).trans (List.prefix_append _ _)
        · rw [Sent.written, List.take_of_length_le (Nat.not_lt.mp hwhole)]
          exact (List.prefix_append_right_inj _).mpr hprefix
      · have hzero : first.wrote = 0 := Nat.eq_zero_of_not_pos hbegun
        have hbegins : begunFrames (first :: rest) = begunFrames rest := by
          simp [begunFrames, hzero]
        rwa [hbegins, Sent.written, hzero, List.take_zero, List.nil_append]

theorem framed_of_pairwise {maxFrameBytes : UInt32} {session : ClientSession}
    (hsound : ∀ message ∈ session.sent, message.Sound maxFrameBytes)
    (hcut : CutLast session) :
    Framed maxFrameBytes session := by
  refine ⟨⟨begunFrames session.sent, ?_, ?_⟩, hcut⟩
  · intro frame hframe
    obtain ⟨message, hmem, rfl⟩ := List.mem_map.mp hframe
    exact ⟨_, (hsound message (List.mem_filter.mp hmem).1).1⟩
  · exact written_prefix (fun message hmem => (hsound message hmem).2) hcut

/-! ### Updates of a session -/

section Updates

variable {session : ClientSession} {sent : Sent}

theorem sent_free (h : session.current = none) : session.sent = session.carried := by
  rw [ClientSession.sent, h, Option.toList_none, List.append_nil]

theorem sent_held (h : session.current = some sent) : session.sent = session.carried ++ [sent] := by
  rw [ClientSession.sent, h, Option.toList_some]

theorem sent_begin (h : session.current = none) (value : Value) (frame : Bytes) :
    (session.begin value frame).sent
      = session.sent ++ [{ value := value, frame := frame }] := by
  rw [sent_free h]
  rfl

theorem sent_write (h : session.current = some sent) (count : Nat) :
    (session.write count).sent
      = session.carried ++ [{ sent with wrote := sent.wrote + count }] := by
  apply sent_held
  rw [ClientSession.write, h, Option.map_some]

theorem sent_release (session : ClientSession) : session.release.sent = session.sent :=
  sent_free rfl

theorem sent_fail (h : session.current = some sent) :
    (session.write 0).release.sent = session.sent := by
  rw [sent_release, sent_write h, sent_held h]
  rfl

variable {κ : Type} [DecidableEq κ] {hub : Hub κ} {change : ClientSession → ClientSession}

theorem Hub.update_self (hub : Hub κ) (k : κ) (change : ClientSession → ClientSession) :
    (hub.update k change).sessions k = change (hub.sessions k) :=
  Function.update_self _ _ _

theorem Hub.update_of_ne {k k' : κ} (h : k' ≠ k) :
    (hub.update k change).sessions k' = hub.sessions k' :=
  Function.update_of_ne h _ _

/-- What is so of a session and of its change is so of all. -/
theorem Hub.update_all {p : κ → ClientSession → Prop} {k : κ} (h : ∀ k', p k' (hub.sessions k'))
    (hchange : p k (change (hub.sessions k))) (k' : κ) :
    p k' ((hub.update k change).sessions k') := by
  by_cases hk : k' = k
  · subst hk
    rw [Hub.update_self]
    exact hchange
  · rw [Hub.update_of_ne hk]
    exact h k'

end Updates

/-! ### Turns -/

section Turns

variable {κ : Type} [DecidableEq κ] {env : ServerEnv κ} {hub hub' : Hub κ}
  {thread thread' : ServerThread κ}

/-- What a turn may do. -/
inductive Moves (env : ServerEnv κ) (hub : Hub κ) : ServerThread κ → ServerThread κ → Hub κ → Prop
  | loops (k : κ) (reader : FrameReader) :
      Moves env hub (.outside (.done (.serve k reader))) (.outside (serveRound k reader)) hub
  | asks {op : ServerOp κ} {answer : ServerAnswer op} {hub' : Hub κ}
      (next : ServerAnswer op → ServerAction κ (Next κ))
      (answers : serverHandler env op hub = some (answer, hub')) :
      Moves env hub (.outside (.ask op next)) (.outside (next answer)) hub'
  | oversized {k : κ} {value : Value} {e : Error} (next : Bool → ServerAction κ (Next κ))
      (long : encodeFrame (value.dump (-1)) env.maxFrameBytes = .error e) :
      Moves env hub (.outside (.ask (.send k value) next)) (.outside (next false)) hub
  | begins {k : κ} {value : Value} {frame : Bytes} (next : Bool → ServerAction κ (Next κ))
      (encoded : encodeFrame (value.dump (-1)) env.maxFrameBytes = .ok frame)
      (free : (hub.sessions k).current = none) :
      Moves env hub (.outside (.ask (.send k value) next)) (.writing k frame next)
        (hub.update k (·.begin value frame))
  | ends (k : κ) (next : Bool → ServerAction κ (Next κ)) :
      Moves env hub (.writing k [] next) (.outside (next true)) (hub.update k (·.release))
  | fails {k : κ} {bytes : Bytes} (next : Bool → ServerAction κ (Next κ)) (left : bytes ≠ [])
      (refused : env.takes k (hub.sessions k).writes = none
        ∨ env.takes k (hub.sessions k).writes = some 0) :
      Moves env hub (.writing k bytes next) (.outside (next false))
        (hub.update k fun session => (session.write 0).release)
  | takes {k : κ} {bytes : Bytes} {count : Nat} (next : Bool → ServerAction κ (Next κ))
      (left : bytes ≠ []) (taken : env.takes k (hub.sessions k).writes = some (count + 1)) :
      Moves env hub (.writing k bytes next) (.writing k (bytes.drop (count + 1)) next)
        (hub.update k (·.write (min (count + 1) bytes.length)))

theorem startSend_moves {k : κ} {value : Value} {next : Bool → ServerAction κ (Next κ)}
    {event : Unit} (h : startSend env k value next hub = some (event, thread', hub')) :
    Moves env hub (.outside (.ask (.send k value) next)) thread' hub' := by
  unfold startSend at h
  cases hencode : encodeFrame (value.dump (-1)) env.maxFrameBytes with
  | error e =>
      rw [hencode] at h
      cases h
      exact .oversized next hencode
  | ok frame =>
      rw [hencode] at h
      cases hcurrent : (hub.sessions k).current with
      | some sent => simp [hcurrent] at h
      | none =>
          simp only [hcurrent, Option.isSome_none, Bool.false_eq_true, if_false] at h
          cases h
          exact .begins next hencode hcurrent

theorem writeSome_moves (env : ServerEnv κ) (hub : Hub κ) (k : κ) {bytes : Bytes}
    (next : Bool → ServerAction κ (Next κ)) (hleft : bytes ≠ []) :
    Moves env hub (.writing k bytes next) (writeSome env k bytes next hub).1
      (writeSome env k bytes next hub).2 := by
  unfold writeSome
  cases htakes : env.takes k (hub.sessions k).writes with
  | none => exact .fails next hleft (.inl htakes)
  | some count =>
      cases count with
      | zero => exact .fails next hleft (.inr htakes)
      | succ count => exact .takes next hleft htakes

theorem advance_ask {op : ServerOp κ} {next : ServerAnswer op → ServerAction κ (Next κ)}
    (hop : ∀ k value, op ≠ .send k value) :
    (ServerThread.outside (.ask op next)).advance env hub
      = (serverHandler env op hub).map fun result => ((), .outside (next result.1), result.2) := by
  cases op with
  | send k value => exact absurd rfl (hop k value)
  | _ => rfl

theorem advance_moves {event : Unit} (h : thread.advance env hub = some (event, thread', hub')) :
    Moves env hub thread thread' hub' := by
  cases thread with
  | outside rest =>
      cases rest with
      | done next =>
          cases next with
          | stop => cases h
          | serve k reader =>
              cases h
              exact .loops k reader
      | ask op next =>
          by_cases hsend : ∃ k value, op = .send k value
          · obtain ⟨k, value, rfl⟩ := hsend
            exact startSend_moves h
          · rw [advance_ask fun k value hop => hsend ⟨k, value, hop⟩] at h
            obtain ⟨⟨answer, hub₁⟩, hanswer, hdone⟩ := Option.map_eq_some_iff.mp h
            cases hdone
            exact .asks next hanswer
  | writing k bytes next =>
      cases bytes with
      | nil =>
          cases h
          exact .ends k next
      | cons byte bytes =>
          have hdone : writeSome env k (byte :: bytes) next hub = (thread', hub') :=
            (Prod.mk.inj (Option.some.inj h)).2
          have hmoves := writeSome_moves env hub k next (List.cons_ne_nil byte bytes)
          rwa [hdone] at hmoves

end Turns

/-! ### Senders and their frames -/

section Senders

variable {ι κ : Type} {env : ServerEnv κ} {s : ServerState ι κ}

/-- A thread in the loop of `send` holds the mutex, and what it has left is the rest of its frame. -/
structure Orderly (env : ServerEnv κ) (s : ServerState ι κ) : Prop where
  holds : ∀ i k bytes next, s.threads i = .writing k bytes next →
    ∃ sent, (s.shared.sessions k).current = some sent ∧ bytes = sent.frame.drop sent.wrote
  alone : ∀ i j k bytes next bytes' next', s.threads i = .writing k bytes next →
    s.threads j = .writing k bytes' next' → i = j
  sound : ∀ k, ∀ sent ∈ (s.shared.sessions k).sent, sent.Sound env.maxFrameBytes

/-- A call of `write` that takes bytes finds no frame cut short before. -/
def Gentle (env : ServerEnv κ) (i : ι) (s : ServerState ι κ) : Prop :=
  ∀ k bytes next count, s.threads i = .writing k bytes next → bytes ≠ [] →
    env.takes k (s.shared.sessions k).writes = some (count + 1) →
    ∀ sent ∈ (s.shared.sessions k).carried, ¬ sent.Cut

theorem Orderly.others (h : Orderly env s) {i j : ι} {k : κ} {bytes : Bytes}
    {next : Bool → ServerAction κ (Next κ)} (hi : s.threads i = .writing k bytes next)
    (hne : j ≠ i) (bytes' : Bytes) (next' : Bool → ServerAction κ (Next κ)) :
    s.threads j ≠ .writing k bytes' next' := fun hj =>
  hne (h.alone j i k bytes' next' bytes next hj hi)

theorem orderly_start (roles : ι → ServerRole κ) (listed : List κ) :
    Orderly env (serverStart env roles listed) := by
  have hthread : ∀ i k bytes next,
      (serverStart env roles listed).threads i ≠ .writing k bytes next := by
    intro i k bytes next hi
    change (roles i).thread env.maxFrameBytes = .writing k bytes next at hi
    cases hrole : roles i <;> rw [hrole] at hi <;> cases hi
  exact
    { holds := fun i k bytes next hi => absurd hi (hthread i k bytes next)
      alone := fun i _ k bytes next _ _ hi => absurd hi (hthread i k bytes next)
      sound := fun _ _ hmem => absurd hmem List.not_mem_nil }

section Whole

variable [DecidableEq κ]

/-- Outside of sends nothing is written. -/
theorem serverHandler_sent {op : ServerOp κ} {hub hub' : Hub κ} {answer : ServerAnswer op}
    (h : serverHandler env op hub = some (answer, hub')) (k : κ) :
    (hub'.sessions k).current = (hub.sessions k).current
      ∧ (hub'.sessions k).sent = (hub.sessions k).sent := by
  have hupdate : ∀ (k' : κ) (change : ClientSession → ClientSession),
      ((change (hub.sessions k')).current = (hub.sessions k').current
        ∧ (change (hub.sessions k')).sent = (hub.sessions k').sent) →
      ((hub.update k' change).sessions k).current = (hub.sessions k).current
        ∧ ((hub.update k' change).sessions k).sent = (hub.sessions k).sent := fun k' change hsame =>
    Hub.update_all (p := fun k found => found.current = (hub.sessions k).current
      ∧ found.sent = (hub.sessions k).sent) (fun _ => ⟨rfl, rfl⟩) hsame k
  cases op with
  | send => cases h
  | readSome k' =>
      cases h
      exact hupdate k' _ ⟨rfl, rfl⟩
  | subscribe k' =>
      cases h
      exact hupdate k' _ ⟨rfl, rfl⟩
  | deactivate k' =>
      cases h
      exact hupdate k' _ ⟨rfl, rfl⟩
  | handle k' request =>
      cases h
      exact hupdate k' _ ⟨rfl, rfl⟩
  | _ =>
      cases h
      exact ⟨rfl, rfl⟩

theorem cutLast_moves {i : ι} {thread' : ServerThread κ} {hub' : Hub κ} (h : Orderly env s)
    (hcut : ∀ k, CutLast (s.shared.sessions k)) (hgentle : Gentle env i s)
    (hmoves : Moves env s.shared (s.threads i) thread' hub') (k : κ) : CutLast (hub'.sessions k) := by
  generalize hi : s.threads i = thread at hmoves
  cases hmoves with
  | loops => exact hcut k
  | asks next answers =>
      rw [CutLast, (serverHandler_sent answers k).2]
      exact hcut k
  | oversized => exact hcut k
  | @begins k' value frame next encoded free =>
      refine Hub.update_all (p := fun _ => CutLast) hcut ?_ k
      rw [CutLast, sent_begin free]
      refine List.pairwise_append.mpr ⟨hcut k', List.pairwise_singleton _ _, ?_⟩
      intro earlier _ later hlater _
      cases List.mem_singleton.mp hlater
      rfl
  | ends k' next =>
      refine Hub.update_all (p := fun _ => CutLast) hcut ?_ k
      rw [CutLast, sent_release]
      exact hcut k'
  | @fails k' bytes next left refused =>
      obtain ⟨sent, hheld, -⟩ := h.holds i k' bytes next hi
      refine Hub.update_all (p := fun _ => CutLast) hcut ?_ k
      rw [CutLast, sent_fail hheld]
      exact hcut k'
  | @takes k' bytes count next left taken =>
      obtain ⟨sent, hheld, -⟩ := h.holds i k' bytes next hi
      have hbefore := hcut k'
      rw [CutLast, sent_held hheld] at hbefore
      refine Hub.update_all (p := fun _ => CutLast) hcut ?_ k
      rw [CutLast, sent_write hheld]
      refine List.pairwise_append.mpr
        ⟨(List.pairwise_append.mp hbefore).1, List.pairwise_singleton _ _, ?_⟩
      intro earlier hearlier later _ hshort
      exact absurd hshort (hgentle k' bytes next count hi left taken earlier hearlier)

/-- Bytes that are taken behind a frame that was cut short show. -/
theorem gentle_of_cutLast {i : ι} {thread' : ServerThread κ} {hub' : Hub κ} (h : Orderly env s)
    (hmoves : Moves env s.shared (s.threads i) thread' hub')
    (hcut : ∀ k, CutLast (hub'.sessions k)) : Gentle env i s := by
  intro k bytes next count hi left taken earlier hearlier hshort
  rw [hi] at hmoves
  cases hmoves with
  | ends => exact left rfl
  | fails _ _ refused =>
      rw [taken] at refused
      rcases refused with hnone | hzero
      · cases hnone
      · cases hzero
  | @takes _ _ count' _ _ taken' =>
      obtain ⟨sent, hheld, -⟩ := h.holds i k bytes next hi
      have hafter := hcut k
      rw [Hub.update_self, CutLast, sent_write hheld] at hafter
      have hzero := (List.pairwise_append.mp hafter).2.2 earlier hearlier _
        (List.mem_singleton_self _) hshort
      have hpos : 0 < bytes.length := List.length_pos_iff.mpr left
      change sent.wrote + min (count' + 1) bytes.length = 0 at hzero
      omega

end Whole

variable [DecidableEq ι]

/-- A turn that leaves the frames of all others alone. -/
theorem Orderly.turn (h : Orderly env s) {i : ι} {thread' : ServerThread κ} {hub' : Hub κ}
    {log : List (ι × Unit)}
    (hown : ∀ k bytes next, thread' = .writing k bytes next →
      (∃ sent, (hub'.sessions k).current = some sent ∧ bytes = sent.frame.drop sent.wrote)
        ∧ ∀ j bytes' next', j ≠ i → s.threads j ≠ .writing k bytes' next')
    (hothers : ∀ j k bytes next, j ≠ i → s.threads j = .writing k bytes next →
      (hub'.sessions k).current = (s.shared.sessions k).current)
    (hsound : ∀ k, ∀ sent ∈ (hub'.sessions k).sent, sent.Sound env.maxFrameBytes) :
    Orderly env { shared := hub', threads := Function.update s.threads i thread', log } := by
  refine ⟨?_, ?_, hsound⟩
  · intro j k bytes next hj
    change Function.update s.threads i thread' j = _ at hj
    by_cases hji : j = i
    · subst hji
      rw [Function.update_self] at hj
      exact (hown k bytes next hj).1
    · rw [Function.update_of_ne hji] at hj
      obtain ⟨sent, hcurrent, hbytes⟩ := h.holds j k bytes next hj
      exact ⟨sent, (hothers j k bytes next hji hj).trans hcurrent, hbytes⟩
  · intro j j' k bytes next bytes' next' hj hj'
    change Function.update s.threads i thread' j = _ at hj
    change Function.update s.threads i thread' j' = _ at hj'
    by_cases hji : j = i
    · by_cases hji' : j' = i
      · exact hji.trans hji'.symm
      · subst hji
        rw [Function.update_self] at hj
        rw [Function.update_of_ne hji'] at hj'
        exact absurd hj' ((hown k bytes next hj).2 j' bytes' next' hji')
    · rw [Function.update_of_ne hji] at hj
      by_cases hji' : j' = i
      · subst hji'
        rw [Function.update_self] at hj'
        exact absurd hj ((hown k bytes' next' hj').2 j bytes next hji)
      · rw [Function.update_of_ne hji'] at hj'
        exact h.alone j j' k bytes next bytes' next' hj hj'

variable [DecidableEq κ]

section Orders

variable {i : ι} {k : κ} {bytes : Bytes} {next : Bool → ServerAction κ (Next κ)}
  {change : ClientSession → ClientSession} {log : List (ι × Unit)}

/-- The state after a turn of a thread. -/
abbrev turned (s : ServerState ι κ) (i : ι) (thread' : ServerThread κ) (hub' : Hub κ)
    (log : List (ι × Unit)) : ServerState ι κ :=
  { shared := hub', threads := Function.update s.threads i thread', log }

/-- A change of the session that a thread writes to. -/
theorem Orderly.update (h : Orderly env s) (hi : s.threads i = .writing k bytes next)
    {thread' : ServerThread κ}
    (hown : ∀ k' bytes' next', thread' = .writing k' bytes' next' → k' = k
      ∧ ∃ sent, (change (s.shared.sessions k)).current = some sent
        ∧ bytes' = sent.frame.drop sent.wrote)
    (hsound : ∀ sent ∈ (change (s.shared.sessions k)).sent, sent.Sound env.maxFrameBytes) :
    Orderly env (turned s i thread' (s.shared.update k change) log) := by
  refine h.turn ?_ ?_ ?_
  · intro k' bytes' next' hthread
    obtain ⟨rfl, hheld⟩ := hown k' bytes' next' hthread
    rw [Hub.update_self]
    exact ⟨hheld, fun j bytes'' next'' hne => h.others hi hne bytes'' next''⟩
  · intro j k' bytes' next' hne hj
    have hk : k' ≠ k := by
      rintro rfl
      exact h.others hi hne bytes' next' hj
    rw [Hub.update_of_ne hk]
  · exact Hub.update_all (p := fun _ session => ∀ sent ∈ session.sent,
      sent.Sound env.maxFrameBytes) h.sound hsound

theorem Orderly.begin (h : Orderly env s) {value : Value} {frame : Bytes}
    (hencoded : encodeFrame (value.dump (-1)) env.maxFrameBytes = .ok frame)
    (hfree : (s.shared.sessions k).current = none) :
    Orderly env (turned s i (.writing k frame next) (s.shared.update k (·.begin value frame)) log) := by
  have hnone : ∀ j bytes' next', s.threads j ≠ .writing k bytes' next' := by
    intro j bytes' next' hj
    obtain ⟨sent, hheld, -⟩ := h.holds j k bytes' next' hj
    rw [hfree] at hheld
    cases hheld
  refine h.turn ?_ ?_ ?_
  · rintro _ _ _ ⟨⟩
    refine ⟨⟨{ value, frame }, ?_, rfl⟩, fun j bytes' next' _ => hnone j bytes' next'⟩
    rw [Hub.update_self]
    rfl
  · intro j k' bytes' next' _ hj
    have hk : k' ≠ k := by
      rintro rfl
      exact hnone j bytes' next' hj
    rw [Hub.update_of_ne hk]
  · refine Hub.update_all (p := fun _ session => ∀ sent ∈ session.sent,
      sent.Sound env.maxFrameBytes) h.sound ?_
    intro sent hsent
    rw [sent_begin hfree] at hsent
    rcases List.mem_append.mp hsent with hold | hnew
    · exact h.sound k sent hold
    · cases List.mem_singleton.mp hnew
      exact ⟨hencoded, Nat.zero_le _⟩

theorem drop_written (frame : Bytes) (wrote count : Nat) :
    (frame.drop wrote).drop count = frame.drop (wrote + min count (frame.drop wrote).length) := by
  rw [List.drop_drop, List.length_drop]
  by_cases hle : count ≤ frame.length - wrote
  · rw [Nat.min_eq_left hle]
  · rw [Nat.min_eq_right (by omega), List.drop_of_length_le (by omega),
      List.drop_of_length_le (by omega)]

theorem Orderly.take (h : Orderly env s) (hi : s.threads i = .writing k bytes next) (count : Nat) :
    Orderly env (turned s i (.writing k (bytes.drop count) next)
      (s.shared.update k (·.write (min count bytes.length))) log) := by
  obtain ⟨sent, hheld, rfl⟩ := h.holds i k bytes next hi
  have hsent := h.sound k
  rw [sent_held hheld] at hsent
  apply h.update hi
  · rintro _ _ _ ⟨⟩
    refine ⟨rfl, _, by rw [ClientSession.write, hheld, Option.map_some], ?_⟩
    exact drop_written sent.frame sent.wrote count
  · intro message hmessage
    rw [sent_write hheld] at hmessage
    rcases List.mem_append.mp hmessage with hold | hnew
    · exact hsent message (List.mem_append_left _ hold)
    · cases List.mem_singleton.mp hnew
      obtain ⟨hframe, hle⟩ := hsent sent (List.mem_append_right _ (List.mem_singleton_self _))
      refine ⟨hframe, ?_⟩
      change sent.wrote + min count (sent.frame.drop sent.wrote).length ≤ sent.frame.length
      rw [List.length_drop]
      omega

/-- Every turn keeps the senders in order. -/
theorem Orderly.moves (h : Orderly env s) {thread' : ServerThread κ} {hub' : Hub κ}
    (hmoves : Moves env s.shared (s.threads i) thread' hub') :
    Orderly env (turned s i thread' hub' log) := by
  generalize hi : s.threads i = thread at hmoves
  cases hmoves with
  | loops k reader =>
      exact h.turn (fun _ _ _ hthread => by cases hthread) (fun _ _ _ _ _ _ => rfl) h.sound
  | asks next answers =>
      refine h.turn (fun _ _ _ hthread => by cases hthread)
        (fun _ k _ _ _ _ => (serverHandler_sent answers k).1) ?_
      intro k
      rw [(serverHandler_sent answers k).2]
      exact h.sound k
  | oversized next long =>
      exact h.turn (fun _ _ _ hthread => by cases hthread) (fun _ _ _ _ _ _ => rfl) h.sound
  | begins next encoded free => exact h.begin encoded free
  | ends k next =>
      apply h.update hi (fun _ _ _ hthread => by cases hthread)
      rw [sent_release]
      exact h.sound k
  | @fails k bytes next left refused =>
      obtain ⟨sent, hheld, -⟩ := h.holds i k bytes next hi
      apply h.update hi (fun _ _ _ hthread => by cases hthread)
      rw [sent_fail hheld]
      exact h.sound k
  | takes next left taken => exact h.take hi _

end Orders

/-- **Framing.** Whatever the connections take, and however workers and broadcasts take turns, all
connections carry a prefix of whole frames throughout, with nothing behind a frame that was cut
short, exactly when no call of `write` behind such a frame takes anything. -/
theorem framed_iff_gentle (env : ServerEnv κ) (roles : ι → ServerRole κ) (listed : List κ)
    (schedule : List ι) :
    Throughout (ServerThread.advance env)
        (fun s => ∀ k, Framed env.maxFrameBytes (s.shared.sessions k)) schedule
        (serverStart env roles listed)
      ↔ Always (ServerThread.advance env) (Gentle env) schedule (serverStart env roles listed) := by
  apply @Interleaving.throughout_iff_always _ _ _ _ _ _ _ (Orderly env)
  · intro i s s' horderly hframed hgentle hstep
    obtain ⟨event, thread', hub', hadvance, rfl⟩ := Interleaving.step_eq_some hstep
    have hmoves := advance_moves hadvance
    have hafter : Orderly env (turned s i thread' hub' (s.log ++ [(i, event)])) :=
      horderly.moves hmoves
    refine ⟨hafter, fun k => framed_of_pairwise (hafter.sound k) ?_⟩
    exact cutLast_moves horderly (fun k => (hframed k).2) hgentle hmoves k
  · intro i s s' horderly _ hstep hframed
    obtain ⟨event, thread', hub', hadvance, rfl⟩ := Interleaving.step_eq_some hstep
    exact gentle_of_cutLast horderly (advance_moves hadvance) fun k => (hframed k).2
  · exact orderly_start roles listed
  · exact fun k => framed_of_pairwise (fun _ hmem => absurd hmem List.not_mem_nil) .nil

end Senders

/-- A client that sends two frames with a request that has no method, over a connection that takes
five bytes, then fails once, and then takes everything. -/
def flakyClient : ServerEnv Unit where
  running _ := true
  readSome _ _ := .ok ([2, 0, 0, 0] ++ str "{}" ++ [2, 0, 0, 0] ++ str "{}")
  takes _ call := if call = 0 then some 5 else if call = 1 then none else some 1000
  handle _ _ _ := none

set_option maxRecDepth 10000 in
/-- The second refusal is written behind five bytes of the first one. -/
theorem not_framed_flakyClient :
    ¬ ∀ (env : ServerEnv Unit) (roles : Unit → ServerRole Unit) (listed : List Unit)
      (schedule : List Unit),
      Throughout (ServerThread.advance env)
        (fun s => ∀ k, Framed env.maxFrameBytes (s.shared.sessions k)) schedule
        (serverStart env roles listed) := by
  intro h
  have hruns : ((Interleaving.run (ServerThread.advance flakyClient) (List.replicate 8 ())
      (serverStart flakyClient (fun _ => .worker ()) [()])).any fun s =>
        !decide (CutLast (s.shared.sessions ()))) = true := by
    decide
  obtain ⟨s, hrun, hbehind⟩ := (Option.any_eq_true _ _).mp hruns
  have hframed := (h flakyClient (fun _ => .worker ()) [()] (List.replicate 8 ())).last hrun ()
  have hcut : decide (CutLast (s.shared.sessions ())) = true := decide_eq_true hframed.2
  rw [hcut] at hbehind
  cases hbehind

end ContextSnap.Ipc
