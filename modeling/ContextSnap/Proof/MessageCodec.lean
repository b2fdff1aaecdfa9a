import ContextSnap.Ipc.Protocol
import ContextSnap.Proof.FrameStream
import ContextSnap.Proof.Serialization

/-!
# Messages on the wire

A message becomes JSON, a text, a frame and then bytes that arrive in any pieces. The reader gives
the text back, and decoding undoes the encoding as long as the message is one that the constructors
of requests and responses make.
-/

namespace ContextSnap.Ipc

open Json (Value kMaxDepth)
open Incremental (Call fed items)

/-! ### Names -/

theorem methodFromString_toText (method : Method) :
    methodFromString (str method.toText) = method := by
  cases method <;> simp [methodFromString, Method.toText, kMethodNames]

theorem eventTypeFromText_toText (type : EventType) :
    eventTypeFromText (str type.toText) = type := by
  cases type <;> simp [eventTypeFromText, EventType.all, EventType.toText]

theorem errorCodeFromText_toText (code : ErrorCode) :
    errorCodeFromText (str code.toText) = code := by
  cases code <;> simp [errorCodeFromText, allErrorCodes, ErrorCode.toText]

/-! ### Values -/

/-- A response that `Response::success` or `Response::failure` makes. -/
def Response.WellFormed (response : Response) : Prop :=
  if response.ok then response.errorCode = .ok ∧ response.errorMessage = []
  else response.result = .null

theorem Request.fromJson_toJson {request : Request} (h : request.method ≠ .unknown) :
    Request.fromJson request.toJson = .ok request := by
  have hname := methodFromString_toText request.method
  have hmethod : readMethod request.toJson = some (str request.method.toText) := by
    simp [readMethod, Request.toJson]
  have hid : readId request.toJson = request.id := by simp [readId, Request.toJson]
  have hversion : ((request.toJson.find (str "v")).any fun version =>
      version.asInt 1 > kProtocolVersion) = false := by
    simp [Request.toJson]
  have hparams : request.toJson.find (str "params") = some request.params := by
    simp [Request.toJson]
  have hobject : request.toJson.isObject = true := rfl
  simp only [Request.fromJson, hobject, hversion, hmethod, hname, hid, hparams, h, Bool.not_true,
    Bool.false_eq_true, ↓reduceIte, Option.getD_some]

theorem Response.fromJson_toJson {response : Response} (h : response.WellFormed) :
    Response.fromJson response.toJson = .ok response := by
  obtain ⟨id, ok, result, errorCode, errorMessage⟩ := response
  cases ok with
  | true =>
      obtain ⟨hcode, hmessage⟩ : errorCode = .ok ∧ errorMessage = [] := h
      subst hcode hmessage
      simp [Response.fromJson, Response.toJson, readId, Value.isObject]
  | false =>
      have hresult : result = .null := h
      subst hresult
      simp [Response.fromJson, Response.toJson, readId, Value.isObject, errorCodeFromText_toText]

theorem Event.fromJson_toJson (event : Event) : Event.fromJson event.toJson = .ok event := by
  simp [Event.fromJson, Event.toJson, eventTypeFromText_toText]

/-! ### Messages -/

inductive Message where
  | request (request : Request)
  | response (response : Response)
  | event (event : Event)

namespace Message

def toJson : Message → Value
  | .request asked => asked.toJson
  | .response reply => reply.toJson
  | .event news => news.toJson

/-- The decoder of the messages of this kind. -/
def fromJson (value : Value) : Message → Result Message
  | .request _ => (Request.fromJson value).map .request
  | .response _ => (Response.fromJson value).map .response
  | .event _ => (Event.fromJson value).map .event

/-- The parameters, the result or the payload. -/
def body : Message → Value
  | .request asked => asked.params
  | .response reply => reply.result
  | .event news => news.payload

def WellFormed : Message → Prop
  | .request asked => asked.method ≠ .unknown
  | .response reply => reply.WellFormed
  | .event _ => True

theorem fromJson_toJson {message : Message} (h : message.WellFormed) :
    message.fromJson message.toJson = .ok message := by
  cases message with
  | request asked => simp [fromJson, toJson, Request.fromJson_toJson h, Except.map]
  | response reply => simp [fromJson, toJson, Response.fromJson_toJson h, Except.map]
  | event news => simp [fromJson, toJson, Event.fromJson_toJson, Except.map]

theorem doubles_toJson {message : Message} (h : message.body.doubles = []) :
    message.toJson.doubles = [] := by
  cases message with
  | request asked =>
      simpa [toJson, Request.toJson, Value.doubles, Json.doublesOfMembers, body] using h
  | response reply =>
      change reply.result.doubles = [] at h
      rw [toJson, Response.toJson]
      split <;> simp [Value.doubles, Json.doublesOfMembers, h]
  | event news => simpa [toJson, Event.toJson, Value.doubles, Json.doublesOfMembers, body] using h

/-- The members around the body are no deeper than an object in an object. -/
theorem depth_toJson (message : Message) :
    message.toJson.depth ≤ max message.body.depth 1 + 1 := by
  cases message with
  | request asked =>
      simp only [toJson, Request.toJson, Value.depth, Json.depthOfMembers, body]
      omega
  | response reply =>
      rw [toJson, Response.toJson, body]
      split <;>
        simp only [Value.depth, Json.depthOfMembers, List.cons_append, List.nil_append] <;> omega
  | event news =>
      simp only [toJson, Event.toJson, Value.depth, Json.depthOfMembers, body]
      omega

theorem parse_dump {message : Message} (hdoubles : message.body.doubles = [])
    (hdepth : message.body.depth < kMaxDepth) :
    Json.parse (message.toJson.dump (-1)) = .ok message.toJson := by
  have hlimit : kMaxDepth = 128 := rfl
  have htotal := depth_toJson message
  exact Json.parse_serialize _ (-1) (by omega) (doubles_toJson hdoubles)

/-- **The codec of messages.** However the bytes of its frame are fed and polled for, a message is
read back as it was. -/
theorem round_trip {message : Message} (h : message.WellFormed)
    (hdoubles : message.body.doubles = []) (hdepth : message.body.depth < kMaxDepth)
    {maxBytes : UInt32} {frame : Bytes}
    (hframe : encodeFrame (message.toJson.dump (-1)) maxBytes = .ok frame)
    {calls : List (Call UInt8)} (hfed : fed calls = frame)
    (hdrained : (FrameReader.run calls { maxBytes }).2.next.1 = .ok none) :
    ∃ payload, items (FrameReader.run calls { maxBytes }).1 = [payload]
      ∧ (FrameReader.run calls { maxBytes }).2.buffer = []
      ∧ (Json.parse payload >>= fun value => message.fromJson value) = .ok message := by
  have hframes : List.Forall₂ (fun payload frame => encodeFrame payload maxBytes = .ok frame)
      [message.toJson.dump (-1)] [frame] := .cons hframe .nil
  have hnothing : (frameDecoder maxBytes).split [] = ([], []) :=
    (frameDecoder maxBytes).split_of_not_item fun _ _ hitem => by cases hitem
  obtain ⟨hitems, hbuffer⟩ := FrameReader.run_stream hframes hnothing (by simpa using hfed)
    fun payload => by rw [hdrained]; simp
  refine ⟨_, hitems, hbuffer, ?_⟩
  rw [parse_dump hdoubles hdepth]
  exact fromJson_toJson h

/-- A failure whose number does not fit an `int64`. -/
def lateFailure : Message :=
  .response (Response.failure 18446744073709551615 (Err.notFound (str "a \"b\"") (str "c")))

def lateFrame : Bytes := (encodeFrame (lateFailure.toJson.dump (-1)) kMaxFrameBytes).toOption.getD []

/-- Its bytes in two pieces. -/
def lateCalls : List (Call UInt8) :=
  [.feed (lateFrame.take 3), .next, .feed (lateFrame.drop 3), .next]

set_option maxRecDepth 10000 in
theorem round_trip_lateFailure :
    ∃ payload, items (FrameReader.run lateCalls { maxBytes := kMaxFrameBytes }).1 = [payload]
      ∧ (FrameReader.run lateCalls { maxBytes := kMaxFrameBytes }).2.buffer = []
      ∧ (Json.parse payload >>= fun value => lateFailure.fromJson value) = .ok lateFailure := by
  have hframe : encodeFrame (lateFailure.toJson.dump (-1)) kMaxFrameBytes = .ok lateFrame := by
    decide
  have hdrained : (FrameReader.run lateCalls { maxBytes := kMaxFrameBytes }).2.next.1
      = .ok none := by
    decide
  exact round_trip (by rfl) (by rfl) (by decide) hframe (by simp [lateCalls, fed]) hdrained

end Message

end ContextSnap.Ipc
