import ContextSnap.Core.SnapshotManager
import ContextSnap.Proof.Serialization

/-!
# Documents of a newer schema

The envelope's version is compared as the 64-bit integer that the document holds. The version of the
metadata is narrowed to 32 bits first, so what is compared is its residue, and a document whose
residue is small passes for one of this build.
-/

namespace ContextSnap.Storage

open Json

/-! ### Documents and their versions -/

/-- The snapshot of a document: its `snapshot` member, or the whole document without one. -/
def documentSnapshot (document : Value) : Value := (document.find (str "snapshot")).getD document

def documentMetadata (document : Value) : Option Value :=
  (documentSnapshot document).find (str "metadata")

def documentSchemaVersion (document : Value) : Option Value :=
  (documentMetadata document).bind (·.find (str "schema_version"))

def IsEnvelope (document : Value) : Prop :=
  document.contains (str "snapshot") = true
    ∧ (document.find (str "format")).map (·.asString []) = some (str "contextsnap.snapshot")

/-- A version that is an integer above the one of this build. -/
def IsNewer (version : Option Value) : Prop :=
  ∃ v : Int64, version = some (.int v) ∧ uint32ToInt64 kSnapshotSchemaVersion < v

/-- A version that is missing, or an integer from one up to the one of this build. -/
def IsKnown (version : Option Value) : Prop :=
  ∀ value, version = some value →
    ∃ v : Int64, value = .int v ∧ 1 ≤ v ∧ v ≤ uint32ToInt64 kSnapshotSchemaVersion

def NewerDocument (document : Value) : Prop :=
  IsNewer (documentSchemaVersion document)
    ∨ IsEnvelope document ∧ IsNewer (document.find (str "version"))

def KnownDocument (document : Value) : Prop :=
  IsKnown (documentSchemaVersion document)
    ∧ (IsEnvelope document → IsKnown (document.find (str "version")))

def Unsupported {α : Type} (result : Result α) : Prop :=
  ∃ e, result = .error e ∧ e.code = .unsupported

/-! ### What is refused before the metadata is read -/

def envelopeRefused (document : Value) : Bool :=
  (document.find (str "version")).any fun version =>
    version.asInt 1 > uint32ToInt64 kSnapshotSchemaVersion

def idAccepted (metadata : Value) : Prop :=
  readString metadata "id" = [] ∨ isValidUlid (readString metadata "id") = true

/-- The version of the metadata is looked at, and its low 32 bits tell that it is newer. -/
def SchemaNoticed (document : Value) (version : Int64) : Prop :=
  (document.contains (str "snapshot") = true → IsEnvelope document)
    ∧ (∀ metadata, documentMetadata document = some metadata → idAccepted metadata)
    ∧ (kSnapshotSchemaVersion.toNat : Int) < version.toInt % 2 ^ 32

/-- A newer schema is noticed, unless the envelope is refused already. -/
def NewerNoticed (document : Value) : Prop :=
  ∀ version : Int64, documentSchemaVersion document = some (.int version) →
    uint32ToInt64 kSnapshotSchemaVersion < version →
      IsEnvelope document ∧ envelopeRefused document = true ∨ SchemaNoticed document version

/-! ### The checks -/

theorem unsupported_error {α : Type} (e : Error) :
    Unsupported (.error e : Result α) ↔ e.code = .unsupported := by
  constructor
  · rintro ⟨e', he, hcode⟩
    cases he
    exact hcode
  · intro hcode
    exact ⟨e, rfl, hcode⟩

theorem not_unsupported_ok {α : Type} (value : α) : ¬ Unsupported (.ok value : Result α) := by
  rintro ⟨e, he, -⟩
  cases he

theorem unsupported_bind {α β : Type} {result : Result α} {next : α → Result β} :
    Unsupported (result >>= next)
      ↔ Unsupported result ∨ ∃ value, result = .ok value ∧ Unsupported (next value) := by
  cases result with
  | error e =>
      have hbind : ((.error e : Result α) >>= next) = .error e := rfl
      simp [hbind, unsupported_error]
  | ok value =>
      have hbind : ((.ok value : Result α) >>= next) = next value := rfl
      simp [hbind, not_unsupported_ok]

/-- A check that throws, in front of the rest. -/
theorem unsupported_guard {α : Type} {c : Prop} [Decidable c] {e : Error} {next : Unit → Result α} :
    Unsupported (if c then (throw e : Result Unit) >>= next else next ())
      ↔ if c then e.code = .unsupported else Unsupported (next ()) := by
  by_cases hc : c
  · rw [if_pos hc, if_pos hc]
    exact unsupported_error e
  · rw [if_neg hc, if_neg hc]

theorem not_unsupported_mapM {α β : Type} {f : α → Result β} (h : ∀ item, ¬ Unsupported (f item))
    (items : List α) : ¬ Unsupported (items.mapM f) := by
  induction items with
  | nil => exact not_unsupported_ok []
  | cons item items ih =>
      rw [List.mapM_cons, unsupported_bind]
      rintro (hitem | ⟨value, -, hrest⟩)
      · exact h item hitem
      · rw [unsupported_bind] at hrest
        rcases hrest with hitems | ⟨values, -, hvalues⟩
        · exact ih hitems
        · exact not_unsupported_ok _ hvalues

theorem not_unsupported_tabFromJson (value : Value) : ¬ Unsupported (tabFromJson value) := by
  rw [tabFromJson]
  split
  · rw [unsupported_error]
    decide
  · exact not_unsupported_ok _

theorem not_unsupported_windowFromJson (value : Value) : ¬ Unsupported (windowFromJson value) := by
  rw [windowFromJson]
  rw [unsupported_guard]
  split
  · decide
  · rw [unsupported_bind]
    rintro (htabs | ⟨tabs, -, hrest⟩)
    · exact not_unsupported_mapM not_unsupported_tabFromJson _ htabs
    · exact not_unsupported_ok _ hrest

/-- The metadata are refused as unsupported for their version only, after their id. -/
theorem unsupported_metadataFromJson {fresh : Bytes} {metadata : Value} :
    Unsupported (metadataFromJson fresh metadata)
      ↔ idAccepted metadata
        ∧ kSnapshotSchemaVersion < int64ToUInt32 (readInt metadata "schema_version" 1) := by
  have hid : idAccepted metadata
      ↔ ¬ (!(readString metadata "id").isEmpty && !isValidUlid (readString metadata "id")) := by
    rw [idAccepted]
    cases hid : readString metadata "id" <;> simp
  rw [metadataFromJson, unsupported_guard, unsupported_guard, hid]
  have hmessage : (Err.invalid (str "snapshot id is not a ULID")
      (str "storage.deserialize")).code ≠ .unsupported := by decide
  split
  · rename_i hrefused
    simp [hrefused, hmessage]
  · rename_i haccepted
    split
    · rename_i hnewer
      exact iff_of_true rfl ⟨haccepted, hnewer⟩
    · rename_i hknown
      exact iff_of_false (not_unsupported_ok _) fun h => hknown h.2

/-- A version above the one of this build is narrowed to its residue. -/
theorem newer_narrowed {version : Int64} :
    kSnapshotSchemaVersion < int64ToUInt32 version
      ↔ (kSnapshotSchemaVersion.toNat : Int) < version.toInt % 2 ^ 32 := by
  have hresidue : ((int64ToUInt32 version).toNat : Int) = version.toInt % 2 ^ 32 := by
    have hsigned : version.toInt = if 2 * version.toUInt64.toNat < 2 ^ 64
        then (version.toUInt64.toNat : Int) else version.toUInt64.toNat - (2 ^ 64 : Nat) :=
      BitVec.toInt_eq_toNat_cond version.toBitVec
    rw [int64ToUInt32, UInt64.toNat_toUInt32, hsigned]
    split <;> omega
  rw [UInt32.lt_iff_toNat_lt, ← hresidue]
  omega

/-- Nothing but the metadata is refused as unsupported. -/
theorem unsupported_snapshotFromJson {fresh : Bytes} {value : Value} :
    Unsupported (snapshotFromJson fresh value)
      ↔ ∃ metadata, value.find (str "metadata") = some metadata ∧ metadata.isObject = true
        ∧ idAccepted metadata
        ∧ kSnapshotSchemaVersion < int64ToUInt32 (readInt metadata "schema_version" 1) := by
  rw [snapshotFromJson, unsupported_guard]
  by_cases hobject : value.isObject = true
  · rw [if_neg (by simp [hobject])]
    cases hmetadata : (value.find (str "metadata")).filter (·.isObject) with
    | none =>
        refine iff_of_false (fun h => absurd ((unsupported_error _).mp h) (by decide)) ?_
        rintro ⟨metadata, hfind, hisObject, -⟩
        simp [hfind, hisObject] at hmetadata
    | some metadata =>
        obtain ⟨hfind, hisObject⟩ := Option.filter_eq_some_iff.mp hmetadata
        have hrest : ∀ read : SnapshotMetadata, ¬ Unsupported
            ((itemsOf value "windows").mapM windowFromJson >>= fun windows => (pure {
              metadata := read
              monitors := (itemsOf value "monitors").map monitorFromJson
              windows
              cursor := ((value.find (str "cursor")).filter (·.isObject)).elim {} cursorFromJson
              activeWorkspaceId := optionalString value "active_workspace_id" }
                : Result Snapshot)) := by
          intro read
          rw [unsupported_bind]
          rintro (hwindows | ⟨windows, -, hdone⟩)
          · exact not_unsupported_mapM not_unsupported_windowFromJson _ hwindows
          · exact not_unsupported_ok _ hdone
        simp only [unsupported_bind, unsupported_metadataFromJson] at hrest ⊢
        constructor
        · rintro (⟨hid, hnewer⟩ | ⟨read, -, hread⟩)
          · exact ⟨metadata, hfind, hisObject, hid, hnewer⟩
          · exact absurd hread (hrest read)
        · rintro ⟨metadata', hfind', -, hid, hnewer⟩
          rw [hfind] at hfind'
          cases hfind'
          exact .inl ⟨hid, hnewer⟩
  · rw [if_pos (by simp [hobject])]
    refine iff_of_false (by decide) ?_
    rintro ⟨metadata, hfind, -⟩
    cases value with
    | object members => exact hobject rfl
    | _ => cases hfind

/-- An envelope is refused by its own version before its snapshot is looked at. -/
theorem unsupported_unwrapDocument {payload : Bytes} {document : Value}
    (hparse : parse payload = .ok document) {next : Value → Result Snapshot}
    (hsnapshot : document.contains (str "snapshot") = true) :
    Unsupported (unwrapDocument payload >>= next)
      ↔ IsEnvelope document ∧ (envelopeRefused document = true
        ∨ Unsupported (next (documentSnapshot document))) := by
  obtain ⟨snapshot, hfind⟩ := Option.isSome_iff_exists.mp hsnapshot
  have hunwrap : unwrapDocument payload
      = if (document.find (str "format")).map (·.asString []) ≠ some (str "contextsnap.snapshot")
        then .error (Err.invalid (str "not a ContextSnap snapshot document")
          (str "storage.unwrap"))
        else if envelopeRefused document then
          .error (Err.unsupported (str "document version is newer than this build supports")
            (str "storage.unwrap"))
        else .ok snapshot := by
    rw [unwrapDocument, hparse]
    change (if _ then _ else _) = _
    rw [hfind]
    rfl
  rw [hunwrap, documentSnapshot, hfind, IsEnvelope]
  by_cases hformat : (document.find (str "format")).map (·.asString [])
      = some (str "contextsnap.snapshot")
  · rw [if_neg (not_not_intro hformat)]
    by_cases hrefused : envelopeRefused document = true
    · rw [if_pos hrefused]
      exact iff_of_true ⟨_, rfl, rfl⟩ ⟨⟨hsnapshot, hformat⟩, .inl hrefused⟩
    · rw [if_neg hrefused]
      simp only [hsnapshot, hformat, hrefused, and_self, true_and, Bool.false_eq_true, false_or]
      rfl
  · rw [if_pos hformat]
    exact iff_of_false (fun h => absurd ((unsupported_error _).mp h) (by decide))
      fun h => hformat h.1.2

/-- A document with a `snapshot` member is unwrapped, any other is the snapshot itself. -/
theorem unsupported_deserialize {fresh payload : Bytes} {format : Format} {document : Value}
    (hjson : format ≠ .flatBuffers) (hparse : parse payload = .ok document) :
    Unsupported (deserialize fresh payload format)
      ↔ (document.contains (str "snapshot") = true → IsEnvelope document)
        ∧ (IsEnvelope document ∧ envelopeRefused document = true
          ∨ Unsupported (snapshotFromJson fresh (documentSnapshot document))) := by
  have hread : deserialize fresh payload format
      = if document.contains (str "snapshot") = true
        then unwrapDocument payload >>= snapshotFromJson fresh
        else snapshotFromJson fresh document := by
    rw [deserialize, if_neg hjson, hparse]
    rfl
  rw [hread]
  by_cases hsnapshot : document.contains (str "snapshot") = true
  · rw [if_pos hsnapshot, unsupported_unwrapDocument hparse hsnapshot]
    tauto
  · have hbare : documentSnapshot document = document := by
      rw [documentSnapshot, Option.not_isSome_iff_eq_none.mp hsnapshot]
      rfl
    have hnot : ¬ IsEnvelope document := fun h => hsnapshot h.1
    rw [if_neg hsnapshot, hbare]
    tauto

/-! ### Newer documents -/

section Newer

variable {document : Value}

theorem isObject_of_find {value member : Value} {key : Bytes} (h : value.find key = some member) :
    value.isObject = true := by
  cases value with
  | object members => rfl
  | _ => cases h

/-- The schema check of a document that names a version. -/
theorem unsupported_documentSnapshot {fresh : Bytes} {version : Int64}
    (hversion : documentSchemaVersion document = some (.int version)) :
    Unsupported (snapshotFromJson fresh (documentSnapshot document))
      ↔ (∀ metadata, documentMetadata document = some metadata → idAccepted metadata)
        ∧ (kSnapshotSchemaVersion.toNat : Int) < version.toInt % 2 ^ 32 := by
  obtain ⟨metadata, hmetadata, hfind⟩ := Option.bind_eq_some_iff.mp hversion
  have hread : readInt metadata "schema_version" 1 = version := by
    rw [readInt, hfind]
    rfl
  rw [unsupported_snapshotFromJson, ← newer_narrowed]
  constructor
  · rintro ⟨metadata', hmetadata', -, hid, hnewer⟩
    rw [documentMetadata] at hmetadata
    rw [hmetadata] at hmetadata'
    cases hmetadata'
    rw [hread] at hnewer
    refine ⟨fun metadata' hmetadata' => ?_, hnewer⟩
    rw [documentMetadata, hmetadata] at hmetadata'
    cases hmetadata'
    exact hid
  · rintro ⟨hid, hnewer⟩
    exact ⟨metadata, hmetadata, isObject_of_find hfind, hid metadata hmetadata, hread ▸ hnewer⟩

theorem envelopeRefused_of_isNewer (h : IsNewer (document.find (str "version"))) :
    envelopeRefused document = true := by
  obtain ⟨version, hfind, hnewer⟩ := h
  rw [envelopeRefused, hfind]
  exact decide_eq_true hnewer

theorem not_envelopeRefused (h : IsKnown (document.find (str "version"))) :
    envelopeRefused document = false := by
  rw [envelopeRefused]
  cases hfind : document.find (str "version") with
  | none => rfl
  | some value =>
      obtain ⟨version, rfl, -, hle⟩ := h value hfind
      exact decide_eq_false (Int64.not_lt.mpr hle)

variable {payload : Bytes} {format : Format}

theorem unsupported_newer (hjson : format ≠ .flatBuffers) (hparse : parse payload = .ok document)
    (hnewer : NewerDocument document) (fresh : Bytes) :
    Unsupported (deserialize fresh payload format) ↔ NewerNoticed document := by
  rw [unsupported_deserialize hjson hparse]
  constructor
  · rintro ⟨henvelope, hrefused⟩ version hversion hgreater
    rw [unsupported_documentSnapshot hversion] at hrefused
    exact hrefused.imp_right fun h => ⟨henvelope, h.1, h.2⟩
  · intro hnoticed
    rcases hnewer with ⟨version, hversion, hgreater⟩ | ⟨henvelope, hversion⟩
    · rw [unsupported_documentSnapshot hversion]
      rcases hnoticed version hversion hgreater with ⟨henvelope, hrefused⟩ | hschema
      · exact ⟨fun _ => henvelope, .inl ⟨henvelope, hrefused⟩⟩
      · exact ⟨hschema.1, .inr hschema.2⟩
    · exact ⟨fun _ => henvelope, .inl ⟨henvelope, envelopeRefused_of_isNewer hversion⟩⟩

theorem not_unsupported_known (hjson : format ≠ .flatBuffers)
    (hparse : parse payload = .ok document) (hknown : KnownDocument document) (fresh : Bytes) :
    ¬ Unsupported (deserialize fresh payload format) := by
  rw [unsupported_deserialize hjson hparse]
  rintro ⟨-, ⟨henvelope, hrefused⟩ | hsnapshot⟩
  · rw [not_envelopeRefused (hknown.2 henvelope)] at hrefused
    cases hrefused
  · obtain ⟨metadata, hmetadata, -, -, hnewer⟩ := unsupported_snapshotFromJson.mp hsnapshot
    have hversion : documentSchemaVersion document = metadata.find (str "schema_version") := by
      rw [documentSchemaVersion, documentMetadata, hmetadata]
      rfl
    have hschema := hknown.1
    rw [hversion] at hschema
    rw [readInt] at hnewer
    cases hfind : metadata.find (str "schema_version") with
    | none =>
        rw [hfind] at hnewer
        exact absurd hnewer (by decide)
    | some value =>
        obtain ⟨version, rfl, hone, hle⟩ := hschema value hfind
        have hcurrent : version = 1 := Int64.le_antisymm hle hone
        rw [hfind, hcurrent] at hnewer
        exact absurd hnewer (by decide)

end Newer

/-! ### Imports -/

section Import

open SnapshotManager (Surroundings importSnapshot)

variable {σ : Type} {around : Surroundings σ} {s s' : σ × Connection}

/-- An import fails as the document does, and a document that is not read is not imported. -/
theorem unsupported_import {payload text renameTo : Bytes} {format : Format}
    {result : Result Snapshot} (htext : formatFromString text = .ok format)
    (hdocument : ∀ fresh, Unsupported (deserialize fresh payload format))
    (hrun : (importSnapshot payload text renameTo).run.run (SnapshotManager.handler around) s
      = some (result, s')) : Unsupported result := by
  rw [importSnapshot, htext] at hrun
  rcases Program.run_except_bind_cases hrun with ⟨e, -, hformat⟩ | ⟨_, s₁, hformat, hrun⟩
  · cases hformat
  cases hformat
  rcases Program.run_except_bind_cases hrun with ⟨e, -, hfresh⟩ | ⟨fresh, s₂, hfresh, hrun⟩
  · obtain ⟨value, hvalue, -⟩ := Program.run_lift_inv hfresh
    cases hvalue
  obtain ⟨e, herror, hcode⟩ := hdocument fresh
  rw [herror] at hrun
  rcases Program.run_except_bind_cases hrun with ⟨e', hresult, hread⟩ | ⟨_, s₃, hread, -⟩
  · cases hread
    exact ⟨e, hresult, hcode⟩
  · cases hread

/-- A document of a newer schema or in a newer envelope is refused as unsupported, by an import as
well, and one of known versions is not. -/
def RefusesNewer (payload : Bytes) (document : Value) : Prop :=
  (NewerDocument document → ∀ format, format ≠ .flatBuffers →
    (∀ fresh, Unsupported (deserialize fresh payload format))
      ∧ ∀ (σ : Type) (around : Surroundings σ) (s s' : σ × Connection) (text renameTo : Bytes)
        (result : Result Snapshot), formatFromString text = .ok format →
          (importSnapshot payload text renameTo).run.run (SnapshotManager.handler around) s
            = some (result, s') → Unsupported result)
    ∧ (KnownDocument document → ∀ format, format ≠ .flatBuffers →
      ∀ fresh, ¬ Unsupported (deserialize fresh payload format))

/-- **Newer documents.** They are refused exactly when a newer schema is noticed. -/
theorem newer_documents_iff {payload : Bytes} {document : Value}
    (hparse : parse payload = .ok document) :
    RefusesNewer payload document ↔ NewerNoticed document := by
  constructor
  · rintro ⟨hrefused, -⟩ version hversion hgreater
    have hnewer : NewerDocument document := .inl ⟨version, hversion, hgreater⟩
    have hjson : Format.json ≠ .flatBuffers := by decide
    have hunsupported := (hrefused hnewer .json hjson).1 []
    exact (unsupported_newer hjson hparse hnewer []).mp hunsupported version hversion hgreater
  · intro hnoticed
    refine ⟨fun hnewer format hjson => ?_, fun hknown format hjson =>
      not_unsupported_known hjson hparse hknown⟩
    have hdocument : ∀ fresh, Unsupported (deserialize fresh payload format) := fun fresh =>
      (unsupported_newer hjson hparse hnewer fresh).mpr hnoticed
    refine ⟨hdocument, ?_⟩
    intro σ around s s' text renameTo result htext hrun
    exact unsupported_import htext hdocument hrun

end Import

/-- A bare snapshot of the schema after the last one that 32 bits hold. -/
def wrappedSchema : Bytes := str "\x7b\"metadata\":\x7b\"schema_version\":4294967297\x7d\x7d"

def wrappedDocument : Value :=
  .object [(str "metadata", .object [(str "schema_version", .int 4294967297)])]

theorem newer_documents_wrappedSchema :
    RefusesNewer wrappedSchema wrappedDocument ↔ NewerNoticed wrappedDocument :=
  newer_documents_iff (by rfl)

/-- A document of schema 4294967297 is read as one of schema 1. -/
theorem newer_document_accepted :
    ¬ ∀ (fresh payload : Bytes) (format : Format) (document : Value), format ≠ .flatBuffers →
      parse payload = .ok document → NewerDocument document →
        Unsupported (deserialize fresh payload format) := by
  intro hall
  have hparse : parse wrappedSchema = .ok wrappedDocument := by rfl
  have hjson : Format.json ≠ .flatBuffers := by decide
  have hnewer : NewerDocument wrappedDocument := .inl ⟨4294967297, by rfl, by decide⟩
  have hnoticed : NewerNoticed wrappedDocument :=
    (unsupported_newer hjson hparse hnewer []).mp
      (hall [] wrappedSchema .json wrappedDocument hjson hparse hnewer)
  rcases hnoticed 4294967297 (by rfl) (by decide) with ⟨henvelope, -⟩ | hschema
  · exact absurd henvelope.1 (by decide)
  · exact absurd hschema.2.2 (by decide)

end ContextSnap.Storage
