import ContextSnap.Ipc.Client
import ContextSnap.Proof.FrameStream
import ContextSnap.Proof.MessageCodec

/-!
# Events of a subscription

A message whose `event` is no name of this build is read as the first type of all. Where every
message names its event, what the callback of a subscription gets is what the daemon said, however
the stream was cut and wherever it ended.
-/

namespace ContextSnap.Ipc

open Json (Value)

/-! ### One message -/

/-- The member `event`, if it is a text, is the name of a type. -/
def NamesEvent (value : Value) : Prop :=
  ∀ name, value.find (str "event") = some (.string name) →
    ∃ type : EventType, str type.toText = name

/-- No event is made up: a type is read only from its name, and an unknown name is an error. -/
structure ReadAsSaid (value : Value) : Prop where
  named : ∀ event, Event.fromJson value = .ok event →
    value.find (str "event") = some (.string (str event.type.toText))
  refused : ∀ name, value.find (str "event") = some (.string name) →
    (∀ type : EventType, str type.toText ≠ name) → ∃ e, Event.fromJson value = .error e

section Messages

variable {value : Value}

theorem fromJson_of_text {name : Bytes} (h : value.find (str "event") = some (.string name)) :
    Event.fromJson value = .ok
      { type := eventTypeFromText name, payload := (value.find (str "payload")).getD .null } := by
  rw [Event.fromJson, h]

theorem text_of_fromJson {event : Event} (h : Event.fromJson value = .ok event) :
    ∃ name, value.find (str "event") = some (.string name) := by
  rw [Event.fromJson] at h
  split at h
  · next name hname => exact ⟨name, hname⟩
  · cases h

theorem readAsSaid_iff_namesEvent : ReadAsSaid value ↔ NamesEvent value := by
  constructor
  · intro hsaid name hname
    have hfound := hsaid.named _ (fromJson_of_text hname)
    exact ⟨_, (Value.string.inj (Option.some.inj (hname.symm.trans hfound))).symm⟩
  · intro hnames
    refine ⟨fun event hevent => ?_, fun name hname hunknown => ?_⟩
    · obtain ⟨name, hname⟩ := text_of_fromJson hevent
      obtain ⟨type, rfl⟩ := hnames name hname
      rw [fromJson_of_text hname, eventTypeFromText_toText] at hevent
      rw [hname, ← Except.ok.inj hevent]
    · obtain ⟨type, htype⟩ := hnames name hname
      exact absurd htype (hunknown type)

/-- The event that a message says, by its name. -/
def saidBy (value : Value) : Option Event :=
  match value.find (str "event") with
  | some (.string name) =>
      (EventType.all.find? fun type => str type.toText = name).map fun type =>
        { type, payload := (value.find (str "payload")).getD .null }
  | _ => none

section Said

variable {event : Event} {name : Bytes}

theorem find_type_eq_none_iff :
    (EventType.all.find? fun type => str type.toText = name) = none
      ↔ ¬∃ type : EventType, str type.toText = name := by
  have hall : ∀ type : EventType, type ∈ EventType.all := by
    intro type
    cases type <;> decide
  rw [List.find?_eq_none]
  constructor
  · rintro hnone ⟨type, htype⟩
    exact hnone type (hall type) (decide_eq_true htype)
  · intro hunknown type _ hname
    exact hunknown ⟨type, of_decide_eq_true hname⟩

theorem saidBy_of_text (h : value.find (str "event") = some (.string name)) :
    saidBy value = (EventType.all.find? fun type => str type.toText = name).map fun type =>
      { type, payload := (value.find (str "payload")).getD .null } := by
  rw [saidBy, h]

/-- What a message says is read from it. -/
theorem fromJson_of_saidBy (h : saidBy value = some event) : Event.fromJson value = .ok event := by
  have htext : ∃ name, value.find (str "event") = some (.string name) := by
    rw [saidBy] at h
    split at h
    · next name hname => exact ⟨name, hname⟩
    · cases h
  obtain ⟨name, hname⟩ := htext
  rw [saidBy_of_text hname] at h
  obtain ⟨type, htype, rfl⟩ := Option.map_eq_some_iff.mp h
  rw [fromJson_of_text hname, eventTypeFromText, htype]
  rfl

theorem saidBy_eq_none_iff (h : value.find (str "event") = some (.string name)) :
    saidBy value = none ↔ ¬∃ type : EventType, str type.toText = name := by
  rw [saidBy_of_text h, Option.map_eq_none_iff, find_type_eq_none_iff]

/-- Nothing else is read exactly if the message names its event. -/
theorem fromJson_eq_saidBy_iff :
    (Event.fromJson value).toOption = saidBy value ↔ NamesEvent value := by
  constructor
  · intro hsame name hname
    by_contra hunknown
    rw [fromJson_of_text hname, (saidBy_eq_none_iff hname).mpr hunknown] at hsame
    cases hsame
  · intro hnames
    cases hread : Event.fromJson value with
    | ok event =>
        obtain ⟨name, hname⟩ := text_of_fromJson hread
        cases hsaid : saidBy value with
        | some other =>
            rw [fromJson_of_saidBy hsaid] at hread
            rw [Except.ok.inj hread]
            rfl
        | none => exact absurd (hnames name hname) ((saidBy_eq_none_iff hname).mp hsaid)
    | error e =>
        cases hsaid : saidBy value with
        | some other =>
            rw [fromJson_of_saidBy hsaid] at hread
            cases hread
        | none => rfl

end Said

end Messages

/-! ### One frame -/

/-- The event that a frame says. -/
def saidEvent (text : Bytes) : Option Event := (Json.parse text).toOption.bind saidBy

/-- The message in a frame, if there is one, names its event. -/
def NamesItsEvent (text : Bytes) : Prop :=
  ∀ document, Json.parse text = .ok document → NamesEvent document

section Frames

variable {text : Bytes} {document : Value}

theorem calledBack_of_parse (h : Json.parse text = .ok document) :
    calledBack text = (Event.fromJson document).toOption := by
  rw [calledBack, h]

theorem calledBack_of_not_parse {e : Error} (h : Json.parse text = .error e) :
    calledBack text = none := by
  rw [calledBack, h]

theorem saidEvent_of_parse (h : Json.parse text = .ok document) :
    saidEvent text = saidBy document := by
  rw [saidEvent, h]
  rfl

theorem saidEvent_of_not_parse {e : Error} (h : Json.parse text = .error e) :
    saidEvent text = none := by
  rw [saidEvent, h]
  rfl

/-- What a frame says is called back. -/
theorem calledBack_of_saidEvent {event : Event} (h : saidEvent text = some event) :
    calledBack text = some event := by
  cases hdocument : Json.parse text with
  | error e =>
      rw [saidEvent_of_not_parse hdocument] at h
      cases h
  | ok document =>
      rw [saidEvent_of_parse hdocument] at h
      rw [calledBack_of_parse hdocument, fromJson_of_saidBy h]
      rfl

/-- **One frame**: nothing else is called back exactly if the frame names its event. -/
theorem calledBack_eq_saidEvent_iff : calledBack text = saidEvent text ↔ NamesItsEvent text := by
  cases hdocument : Json.parse text with
  | error e =>
      rw [calledBack_of_not_parse hdocument, saidEvent_of_not_parse hdocument]
      refine iff_of_true rfl fun document hparse => ?_
      rw [hdocument] at hparse
      cases hparse
  | ok document =>
      rw [calledBack_of_parse hdocument, saidEvent_of_parse hdocument, fromJson_eq_saidBy_iff]
      constructor
      · intro hnames other hparse
        rw [hdocument] at hparse
        exact Except.ok.inj hparse ▸ hnames
      · intro hnames
        exact hnames document hdocument

end Frames

/-- Of two readings, one of which finds whatever the other one finds, neither finds more in a list
than the other exactly if they agree on its members. -/
theorem filterMap_prefix_iff {α β : Type} {f g : α → Option β}
    (hle : ∀ x b, f x = some b → g x = some b) (items : List α) :
    items.filterMap g <+: items.filterMap f ↔ ∀ x ∈ items, g x = f x := by
  have hlength : ∀ items : List α,
      (items.filterMap f).length ≤ (items.filterMap g).length := by
    intro items
    induction items with
    | nil => exact le_rfl
    | cons x items ih =>
        cases hf : f x with
        | none =>
            rw [List.filterMap_cons_none hf]
            exact ih.trans ((List.sublist_cons_self x items).filterMap g).length_le
        | some b =>
            rw [List.filterMap_cons_some hf, List.filterMap_cons_some (hle x b hf)]
            exact Nat.succ_le_succ ih
  constructor
  · intro hprefix
    induction items with
    | nil => exact fun _ h => absurd h List.not_mem_nil
    | cons x items ih =>
        have htail : g x = f x ∧ items.filterMap g <+: items.filterMap f := by
          cases hf : f x with
          | some b =>
              have hg := hle x b hf
              rw [List.filterMap_cons_some hf, List.filterMap_cons_some hg] at hprefix
              exact ⟨hg, (List.cons_prefix_cons.mp hprefix).2⟩
          | none =>
              cases hg : g x with
              | none =>
                  rw [List.filterMap_cons_none hf, List.filterMap_cons_none hg] at hprefix
                  exact ⟨rfl, hprefix⟩
              | some b =>
                  rw [List.filterMap_cons_none hf, List.filterMap_cons_some hg] at hprefix
                  have hshort := hprefix.length_le.trans (hlength items)
                  exact absurd hshort (Nat.not_succ_le_self _)
        intro y hy
        rcases List.mem_cons.mp hy with rfl | hmem
        · exact htail.1
        · exact ih htail.2 y hmem
  · intro hsame
    rw [List.filterMap_congr hsame]

/-! ### The worker -/

section Worker

variable {reader : FrameReader}

/-- The frames that the inner loop takes. -/
theorem takeEvents_eq {rounds : ℕ} (h : reader.buffer.length ≤ rounds) :
    takeEvents rounds reader
      = (((frameDecoder reader.maxBytes).split reader.buffer).1.filterMap calledBack,
          { reader with buffer := ((frameDecoder reader.maxBytes).split reader.buffer).2 }) := by
  induction rounds generalizing reader with
  | zero =>
      have hnil : reader.buffer = [] := List.length_eq_zero_iff.mp (Nat.le_zero.mp h)
      have hsplit : (frameDecoder reader.maxBytes).split reader.buffer = ([], reader.buffer) := by
        apply Incremental.Decoder.split_of_not_item
        rw [hnil]
        rintro payload n hitem
        cases hitem
      rw [hsplit]
      rfl
  | succ rounds ih =>
      rw [takeEvents, FrameReader.next_eq]
      cases hdecode : (frameDecoder reader.maxBytes).decode reader.buffer with
      | error e =>
          rw [Incremental.Decoder.next_of_error _ hdecode,
            Incremental.Decoder.split_of_not_item _ fun a n h => by rw [hdecode] at h; cases h]
          rfl
      | ok found =>
          cases found with
          | none =>
              rw [Incremental.Decoder.next_of_more _ hdecode,
                Incremental.Decoder.split_of_not_item _ fun a n h => by rw [hdecode] at h; cases h]
              rfl
          | some item =>
              obtain ⟨text, n⟩ := item
              have hpos := (frameDecoder reader.maxBytes).take_pos hdecode
              have hle := (frameDecoder reader.maxBytes).take_le hdecode
              have hrest := @ih { reader with buffer := reader.buffer.drop n } (by
                simp only [List.length_drop]
                omega)
              rw [Incremental.Decoder.next_of_item _ hdecode,
                Incremental.Decoder.split_of_item _ hdecode]
              simp only [hrest]
              cases htext : calledBack text with
              | none => rw [List.filterMap_cons_none htext, Option.toList_none, List.nil_append]
              | some event =>
                  rw [List.filterMap_cons_some htext, Option.toList_some, List.singleton_append]

/-- The bytes that the worker gets before it ends. -/
def delivered : List (Result Bytes) → Bytes
  | [] => []
  | .error e :: reads => if e.code = .timeout then delivered reads else []
  | .ok chunk :: reads => if chunk.isEmpty then [] else chunk ++ delivered reads

/-- **The worker** calls back with the frames of what was delivered. -/
theorem subscriptionWorker_eq
    (hdrained : (frameDecoder reader.maxBytes).split reader.buffer = ([], reader.buffer))
    (reads : List (Result Bytes)) :
    subscriptionWorker reader reads
      = ((frameDecoder reader.maxBytes).split (reader.buffer ++ delivered reads)).1.filterMap
          calledBack := by
  induction reads generalizing reader with
  | nil =>
      rw [delivered, List.append_nil, hdrained]
      rfl
  | cons read reads ih =>
      have hnothing : ((frameDecoder reader.maxBytes).split (reader.buffer ++ [])).1.filterMap
          calledBack = [] := by
        rw [List.append_nil, hdrained]
        rfl
      cases read with
      | error e =>
          rw [subscriptionWorker, delivered]
          by_cases htimeout : e.code = .timeout
          · rw [if_pos htimeout, if_pos htimeout]
            exact ih hdrained
          · rw [if_neg htimeout, if_neg htimeout]
            exact hnothing.symm
      | ok chunk =>
          rw [subscriptionWorker, delivered]
          by_cases hchunk : chunk.isEmpty = true
          · rw [if_pos hchunk, if_pos hchunk]
            exact hnothing.symm
          · have htaken := takeEvents_eq (le_refl (reader.feed chunk).buffer.length)
            have hrest := (frameDecoder reader.maxBytes).split_remainder (reader.buffer ++ chunk)
            rw [if_neg hchunk, if_neg hchunk, ← List.append_assoc,
              Incremental.Decoder.split_append, List.filterMap_append]
            dsimp only
            rw [htaken]
            exact congrArg _ (ih hrest)

end Worker

/-! ### The stream -/

/-- The frames up to one that is too long for the client, at which its reader stops. -/
def readable (sent : List Bytes) : List Bytes :=
  sent.takeWhile fun payload => payload.length ≤ kMaxFrameBytes.toNat

section Stream

variable {limit : UInt32} {sent frames : List Bytes}

theorem encodeFrame_of_le {payload frame : Bytes} (h : encodeFrame payload limit = .ok frame)
    (hle : payload.length ≤ kMaxFrameBytes.toNat) :
    encodeFrame payload kMaxFrameBytes = .ok frame := by
  rw [encodeFrame] at h ⊢
  rw [if_neg (not_lt.mpr hle)]
  split at h
  · cases h
  · exact h

theorem split_stream
    (hframes : List.Forall₂ (fun payload frame => encodeFrame payload limit = .ok frame) sent
      frames) : ((frameDecoder kMaxFrameBytes).split frames.flatten).1 = readable sent := by
  induction hframes with
  | nil =>
      have hnone : ∀ payload n,
          (frameDecoder kMaxFrameBytes).decode [] ≠ .ok (some (payload, n)) := by
        intro payload n hitem
        cases hitem
      rw [List.flatten_nil, Incremental.Decoder.split_of_not_item _ hnone]
      rfl
  | @cons payload frame sent frames hframe _ ih =>
      rw [List.flatten_cons]
      by_cases hle : payload.length ≤ kMaxFrameBytes.toNat
      · have hitem := takeFrame_encodeFrame (encodeFrame_of_le hframe hle) frames.flatten
        rw [(frameDecoder kMaxFrameBytes).split_of_item hitem, List.drop_left, ih, readable,
          readable, List.takeWhile_cons, if_pos (decide_eq_true hle)]
      · obtain ⟨b0, b1, b2, b3, rfl, -, hlength⟩ := encodeFrame_shape hframe
        have hlong : kMaxFrameBytes < frameLength b0 b1 b2 b3 := by
          rw [UInt32.lt_iff_toNat_lt, hlength]
          exact not_le.mp hle
        rw [List.cons_append, List.cons_append, List.cons_append, List.cons_append,
          split_of_overLimit hlong, readable, List.takeWhile_cons, if_neg (by simpa using hle)]

theorem split_nil (maxBytes : UInt32) : (frameDecoder maxBytes).split [] = ([], []) := by
  apply Incremental.Decoder.split_of_not_item
  intro payload n hitem
  cases hitem

theorem subscriptionWorker_delivered (reads : List (Result Bytes)) :
    subscriptionWorker { maxBytes := kMaxFrameBytes } reads
      = ((frameDecoder kMaxFrameBytes).split (delivered reads)).1.filterMap calledBack :=
  @subscriptionWorker_eq { maxBytes := kMaxFrameBytes } (split_nil kMaxFrameBytes) reads

variable
  (hframes : List.Forall₂ (fun payload frame => encodeFrame payload limit = .ok frame) sent frames)

include hframes in
/-- What is called back is in the frames that the client can read, in their order. -/
theorem subscriptionWorker_within {reads : List (Result Bytes)}
    (hreads : delivered reads <+: frames.flatten) :
    subscriptionWorker { maxBytes := kMaxFrameBytes } reads
      <+: (readable sent).filterMap calledBack := by
  obtain ⟨more, hmore⟩ := hreads
  rw [subscriptionWorker_delivered, ← split_stream hframes, ← hmore,
    Incremental.Decoder.split_append, List.filterMap_append]
  exact List.prefix_append _ _

include hframes in
/-- Nothing is missing when the stream arrives in one piece. -/
theorem subscriptionWorker_whole :
    subscriptionWorker { maxBytes := kMaxFrameBytes } [.ok frames.flatten]
      = (readable sent).filterMap calledBack := by
  have hdelivered : delivered [.ok frames.flatten] = frames.flatten := by
    rw [delivered]
    split
    · next hnil => exact (List.isEmpty_iff.mp hnil).symm
    · exact List.append_nil _
  rw [subscriptionWorker_delivered, hdelivered, split_stream hframes]

/-- **Events** are read as they are said exactly from messages that name one of this build. What a
subscription calls back with is what the frames say, in every run over a prefix of them, exactly if
each frame that the client can read names its event. -/
theorem events_said_iff (value : Value)
    (hframes : List.Forall₂ (fun payload frame => encodeFrame payload limit = .ok frame) sent
      frames) :
    (ReadAsSaid value ↔ NamesEvent value)
      ∧ ((∀ reads, delivered reads <+: frames.flatten →
          subscriptionWorker { maxBytes := kMaxFrameBytes } reads
            <+: (readable sent).filterMap saidEvent)
        ↔ ∀ text ∈ readable sent, NamesItsEvent text) := by
  refine ⟨readAsSaid_iff_namesEvent, ?_⟩
  have hsame : (readable sent).filterMap calledBack <+: (readable sent).filterMap saidEvent
      ↔ ∀ text ∈ readable sent, NamesItsEvent text := by
    rw [filterMap_prefix_iff fun text event => calledBack_of_saidEvent]
    exact forall₂_congr fun text _ => calledBack_eq_saidEvent_iff
  rw [← hsame]
  constructor
  · intro hruns
    rw [← subscriptionWorker_whole hframes]
    refine hruns [.ok frames.flatten] ?_
    rw [delivered]
    split
    · exact List.nil_prefix
    · rw [delivered, List.append_nil]
  · intro hall reads hreads
    exact (subscriptionWorker_within hframes hreads).trans hall

/-- The name that the documentation gives to the last event is none of this build. -/
theorem readAsSaid_shutdown :
    let document : Value := .object [(str "event", .string (str "daemon_shutdown"))]
    Event.fromJson document = .ok { type := .snapshotCreated } ∧ ¬ReadAsSaid document := by
  refine ⟨rfl, fun hsaid => ?_⟩
  have hname := hsaid.named { type := .snapshotCreated } rfl
  have htext : str "daemon_shutdown" = str "snapshot_created" :=
    Value.string.inj (Option.some.inj hname)
  exact absurd htext (by decide)

/-- A change of the configuration, as the daemon says it. -/
def changedText : Bytes := str "\x7b\"event\":\"config_changed\"\x7d"

theorem namesItsEvent_changedText : NamesItsEvent changedText := by
  intro document hparse name hname
  have hdocument : Json.parse changedText
      = .ok (.object [(str "event", .string (str "config_changed"))]) := rfl
  rw [hdocument] at hparse
  rw [← Except.ok.inj hparse] at hname
  exact ⟨.configChanged, Value.string.inj (Option.some.inj hname)⟩

/-- Its frame in two pieces. -/
theorem events_said_iff_configChanged :
    subscriptionWorker { maxBytes := kMaxFrameBytes }
        [.ok (26 :: 0 :: 0 :: 0 :: changedText.take 10), .ok (changedText.drop 10)]
      <+: [{ type := .configChanged }] := by
  have hframe : encodeFrame changedText kMaxFrameBytes = .ok (26 :: 0 :: 0 :: 0 :: changedText) :=
    rfl
  refine (events_said_iff .null (.cons hframe .nil)).2.mpr ?_ _ (List.prefix_refl _)
  intro sent hsent
  obtain rfl := List.mem_singleton.mp (List.takeWhile_subset _ hsent)
  exact namesItsEvent_changedText

end Stream

end ContextSnap.Ipc
