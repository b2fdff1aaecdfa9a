import ContextSnap.Ipc.Server
import ContextSnap.Proof.MessageCodec

/-!
# Requests and their replies

What a client gets for the documents that it sends. A request that cannot be decoded is refused
under the id zero, and a reply that is too large for a frame is not sent at all.
-/

namespace ContextSnap.Ipc

open Json (Value)

/-! ### The reply to a document -/

/-- The handlers of one session. -/
abbrev Handlers := Nat → Request → Option (Result Value × List Event)

def Fits (maxFrameBytes : UInt32) (value : Value) : Prop :=
  (value.dump (-1)).length ≤ maxFrameBytes.toNat

instance (maxFrameBytes : UInt32) (value : Value) : Decidable (Fits maxFrameBytes value) :=
  inferInstanceAs (Decidable (_ ≤ _))

/-- The document reaches the handlers. -/
def dispatched (document : Value) : Bool :=
  match Request.fromJson document with
  | .error _ => false
  | .ok request => request.method ≠ .subscribe

def replyTo (handle : Handlers) (n : Nat) (document : Value) : Response :=
  match Request.fromJson document with
  | .error e => .failure 0 e
  | .ok request =>
      if request.method = .subscribe then .success request.id acknowledgement
      else
        match handle n request with
        | none => .failure request.id (notHandled request.method)
        | some (result, _) => .ofResult request.id result

/-- What is sent for some documents, where `n` handlers were called before. -/
def answers (maxFrameBytes : UInt32) (handle : Handlers) : Nat → List Value → List Value
  | _, [] => []
  | n, document :: documents =>
      if Fits maxFrameBytes (replyTo handle n document).toJson then
        (replyTo handle n document).toJson
          :: answers maxFrameBytes handle (n + (dispatched document).toNat) documents
      else if dispatched document then []
      else answers maxFrameBytes handle n documents

/-- The request cannot be decoded, or there is no handler for it, or the handler fails. -/
def Denied (handle : Handlers) (n : Nat) (document : Value) : Prop :=
  match Request.fromJson document with
  | .error _ => True
  | .ok request =>
      request.method ≠ .subscribe ∧ ∀ value events, handle n request ≠ some (.ok value, events)

/-- One reply to every document, in order and under its id, and a failure where one is due. -/
inductive Correlated (handle : Handlers) : Nat → List Value → List Value → Prop
  | nil (n : Nat) : Correlated handle n [] []
  | cons {n : Nat} {document reply : Value} {documents replies : List Value}
      (id : readId reply = readId document)
      (failure : Denied handle n document → reply.find (str "ok") = some (.bool false))
      (rest : Correlated handle (n + (dispatched document).toNat) documents replies) :
      Correlated handle n (document :: documents) (reply :: replies)

/-- Every document is a request, unless it has the id zero, and its reply fits in a frame. -/
def Answerable (maxFrameBytes : UInt32) (handle : Handlers) : Nat → List Value → Prop
  | _, [] => True
  | n, document :: documents =>
      ((∃ request, Request.fromJson document = .ok request) ∨ readId document = 0)
        ∧ Fits maxFrameBytes (replyTo handle n document).toJson
        ∧ Answerable maxFrameBytes handle (n + (dispatched document).toNat) documents

section Replies

variable {maxFrameBytes : UInt32} {handle : Handlers} {n : Nat} {document : Value}

theorem readId_toJson (response : Response) : readId response.toJson = response.id := by
  obtain ⟨id, ok, result, code, message⟩ := response
  cases ok <;> simp [readId, Response.toJson]

theorem find_ok_toJson (response : Response) :
    response.toJson.find (str "ok") = some (.bool response.ok) := by
  obtain ⟨id, ok, result, code, message⟩ := response
  cases ok <;> simp [Response.toJson]

theorem id_fromJson {request : Request} (h : Request.fromJson document = .ok request) :
    request.id = readId document := by
  simp only [Request.fromJson] at h
  split at h
  · cases h
  split at h
  · cases h
  split at h
  · cases h
  split at h
  · cases h
  · cases h
    rfl

theorem id_ofResult (id : UInt64) (result : Result Value) :
    (Response.ofResult id result).id = id := by
  cases result <;> rfl

theorem replyTo_refused {e : Error} (h : Request.fromJson document = .error e) :
    replyTo handle n document = .failure 0 e := by
  rw [replyTo, h]

theorem replyTo_subscribe {request : Request} (h : Request.fromJson document = .ok request)
    (hmethod : request.method = .subscribe) :
    replyTo handle n document = .success request.id acknowledgement := by
  rw [replyTo, h]
  exact if_pos hmethod

theorem replyTo_unhandled {request : Request} (h : Request.fromJson document = .ok request)
    (hmethod : request.method ≠ .subscribe) (hhandle : handle n request = none) :
    replyTo handle n document = .failure request.id (notHandled request.method) := by
  rw [replyTo, h]
  refine (if_neg hmethod).trans ?_
  rw [hhandle]

theorem replyTo_handled {request : Request} (h : Request.fromJson document = .ok request)
    (hmethod : request.method ≠ .subscribe) {result : Result Value} {events : List Event}
    (hhandle : handle n request = some (result, events)) :
    replyTo handle n document = .ofResult request.id result := by
  rw [replyTo, h]
  refine (if_neg hmethod).trans ?_
  rw [hhandle]

theorem id_replyTo_request {request : Request} (h : Request.fromJson document = .ok request) :
    (replyTo handle n document).id = readId document := by
  rw [← id_fromJson h]
  by_cases hmethod : request.method = .subscribe
  · rw [replyTo_subscribe h hmethod]
    rfl
  · cases hhandle : handle n request with
    | none =>
        rw [replyTo_unhandled h hmethod hhandle]
        rfl
    | some answer =>
        rw [replyTo_handled h hmethod hhandle]
        exact id_ofResult request.id answer.1

theorem id_replyTo_refused {e : Error} (h : Request.fromJson document = .error e) :
    (replyTo handle n document).id = 0 := by
  rw [replyTo_refused h]
  rfl

/-- A failure that is due is sent as one. -/
theorem ok_replyTo (h : Denied handle n document) : (replyTo handle n document).ok = false := by
  unfold Denied at h
  cases hdecode : Request.fromJson document with
  | error e =>
      rw [replyTo_refused hdecode]
      rfl
  | ok request =>
      rw [hdecode] at h
      obtain ⟨hmethod, hanswers⟩ := h
      cases hhandle : handle n request with
      | none =>
          rw [replyTo_unhandled hdecode hmethod hhandle]
          rfl
      | some answer =>
          obtain ⟨result, events⟩ := answer
          rw [replyTo_handled hdecode hmethod hhandle]
          cases result with
          | error e => rfl
          | ok value => exact absurd hhandle (hanswers value events)

theorem answers_cons (documents : List Value) :
    answers maxFrameBytes handle n (document :: documents)
      = if Fits maxFrameBytes (replyTo handle n document).toJson then
          (replyTo handle n document).toJson
            :: answers maxFrameBytes handle (n + (dispatched document).toNat) documents
        else if dispatched document then []
        else answers maxFrameBytes handle n documents := rfl

theorem length_answers_le (documents : List Value) (n : Nat) :
    (answers maxFrameBytes handle n documents).length ≤ documents.length := by
  induction documents generalizing n with
  | nil => exact Nat.le_refl 0
  | cons document documents ih =>
      rw [answers_cons]
      split
      · exact Nat.succ_le_succ (ih _)
      · split
        · exact Nat.zero_le _
        · exact Nat.le_succ_of_le (ih _)

theorem Correlated.length_eq {documents replies : List Value}
    (h : Correlated handle n documents replies) : replies.length = documents.length := by
  induction h with
  | nil => rfl
  | cons _ _ _ ih => exact congrArg (· + 1) ih

/-- What is sent is what was asked for exactly when every document is answerable. -/
theorem correlated_answers_iff (documents : List Value) (n : Nat) :
    Correlated handle n documents (answers maxFrameBytes handle n documents)
      ↔ Answerable maxFrameBytes handle n documents := by
  induction documents generalizing n with
  | nil => exact ⟨fun _ => trivial, fun _ => .nil n⟩
  | cons document documents ih =>
      unfold Answerable
      by_cases hfits : Fits maxFrameBytes (replyTo handle n document).toJson
      · have hanswers : answers maxFrameBytes handle n (document :: documents)
            = (replyTo handle n document).toJson
              :: answers maxFrameBytes handle (n + (dispatched document).toNat) documents :=
          if_pos hfits
        rw [hanswers]
        constructor
        · intro h
          cases h with
          | cons hid _ hrest =>
              refine ⟨?_, hfits, (ih _).mp hrest⟩
              rw [readId_toJson] at hid
              cases hdecode : Request.fromJson document with
              | error e => exact .inr (hid.symm.trans (id_replyTo_refused hdecode))
              | ok request => exact .inl ⟨request, rfl⟩
        · rintro ⟨hdecodes, -, hrest⟩
          refine .cons ?_ ?_ ((ih _).mpr hrest)
          · rw [readId_toJson]
            cases hdecode : Request.fromJson document with
            | ok request => exact id_replyTo_request hdecode
            | error e =>
                rcases hdecodes with ⟨request, hrequest⟩ | hzero
                · rw [hdecode] at hrequest
                  cases hrequest
                · exact (id_replyTo_refused hdecode).trans hzero.symm
          · intro hdenied
            rw [find_ok_toJson, ok_replyTo hdenied]
      · refine ⟨fun h => ?_, fun h => absurd h.2.1 hfits⟩
        have hlength := h.length_eq
        have hshort : (answers maxFrameBytes handle n (document :: documents)).length
            ≤ documents.length := by
          rw [answers_cons, if_neg hfits]
          split
          · exact Nat.zero_le _
          · exact length_answers_le documents n
        rw [List.length_cons] at hlength
        omega

end Replies

end ContextSnap.Ipc
