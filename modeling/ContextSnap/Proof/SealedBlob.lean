import ContextSnap.Privacy.Crypto

/-!
# Sealed blobs as bytes

Behind the magic and the version stand three lengths of one byte each, the fields of these lengths,
and the ciphertext. The bytes are read exactly if they are those of a blob.
-/

namespace ContextSnap.Privacy.SealedBlob

open Buffer (read readMany)

/-- Each of the three lengths is a byte. -/
structure Fits (blob : SealedBlob) : Prop where
  salt : blob.salt.length ≤ 255
  nonce : blob.nonce.length ≤ 255
  tag : blob.tag.length ≤ 255

/-- The fields of these lengths, and the rest. -/
def split (saltLen nonceLen tagLen : ℕ) (body : Bytes) : SealedBlob where
  salt := body.take saltLen
  nonce := (body.drop saltLen).take nonceLen
  tag := ((body.drop saltLen).drop nonceLen).take tagLen
  ciphertext := ((body.drop saltLen).drop nonceLen).drop tagLen

section Split

variable {saltLen nonceLen tagLen : ℕ} {body : Bytes}

theorem split_join :
    (split saltLen nonceLen tagLen body).salt ++ (split saltLen nonceLen tagLen body).nonce
      ++ (split saltLen nonceLen tagLen body).tag
      ++ (split saltLen nonceLen tagLen body).ciphertext = body := by
  simp only [split, List.append_assoc, List.take_append_drop]

theorem length_split (h : saltLen + nonceLen + tagLen ≤ body.length) :
    (split saltLen nonceLen tagLen body).salt.length = saltLen
      ∧ (split saltLen nonceLen tagLen body).nonce.length = nonceLen
      ∧ (split saltLen nonceLen tagLen body).tag.length = tagLen := by
  simp only [split, List.length_take, List.length_drop]
  omega

theorem split_append (blob : SealedBlob) :
    split blob.salt.length blob.nonce.length blob.tag.length
      (blob.salt ++ (blob.nonce ++ (blob.tag ++ blob.ciphertext))) = blob := by
  simp only [split, List.take_left, List.drop_left]

end Split

/-! ### Reading -/

theorem fromBytes_short {bytes : Bytes} (h : bytes.length < 8) :
    fromBytes bytes = .ok (.error
      (Err.invalid (str "not a ContextSnap sealed blob") (str "privacy.sealed_blob"))) := by
  have hmagic : hasMagic bytes = .ok false := by
    rw [hasMagic, if_pos h]
    rfl
  rw [fromBytes, hmagic]
  rfl

/-- What is read of a header and the bytes behind it. -/
theorem fromBytes_header (m0 m1 m2 m3 version saltLen nonceLen tagLen : UInt8) (body : Bytes) :
    fromBytes (m0 :: m1 :: m2 :: m3 :: version :: saltLen :: nonceLen :: tagLen :: body)
      = .ok (if ¬(m0 = 67 ∧ m1 = 83 ∧ m2 = 83 ∧ m3 = 66) then
          .error (Err.invalid (str "not a ContextSnap sealed blob") (str "privacy.sealed_blob"))
        else if version ≠ 1 then
          .error (Err.unsupported (str "unsupported sealed blob version")
            (str "privacy.sealed_blob"))
        else if body.length < saltLen.toNat + nonceLen.toNat + tagLen.toNat then
          .error (Err.invalid (str "truncated sealed blob") (str "privacy.sealed_blob"))
        else .ok (split saltLen.toNat nonceLen.toNat tagLen.toNat body)) := by
  have hmagic : hasMagic
      (m0 :: m1 :: m2 :: m3 :: version :: saltLen :: nonceLen :: tagLen :: body)
        = .ok (decide (m0 = 67 ∧ m1 = 83 ∧ m2 = 83 ∧ m3 = 66)) := by
    rw [hasMagic, if_neg (by simp)]
    rfl
  have hread : ∀ position count, position + count ≤ body.length → readMany
      (m0 :: m1 :: m2 :: m3 :: version :: saltLen :: nonceLen :: tagLen :: body)
        (8 + position) count = .ok ((body.drop position).take count) := by
    intro position count hle
    exact (@Buffer.readMany_append_right _ [m0, m1, m2, m3, version, saltLen, nonceLen, tagLen]
      body position count).trans (Buffer.readMany_of_le hle)
  rw [fromBytes, hmagic]
  by_cases hfound : m0 = 67 ∧ m1 = 83 ∧ m2 = 83 ∧ m3 = 66
  swap
  · rw [if_pos hfound, decide_eq_false hfound]
    rfl
  rw [if_neg (not_not.mpr hfound), decide_eq_true hfound]
  by_cases hversion : version = 1
  swap
  · rw [if_pos hversion]
    simp only [bind, Except.bind, pure, Except.pure, Buffer.read_cons_succ, Buffer.read_cons_zero,
      hversion, Bool.not_true, Bool.false_eq_true, ↓reduceIte, ne_eq, not_false_eq_true]
  subst hversion
  have hlength : (m0 :: m1 :: m2 :: m3 :: 1 :: saltLen :: nonceLen :: tagLen :: body).length
      = 8 + body.length := Nat.add_comm body.length 8
  rw [if_neg (not_not.mpr rfl)]
  simp only [bind, Except.bind, pure, Except.pure, Buffer.read_cons_succ, Buffer.read_cons_zero,
    hlength, Bool.not_true, Bool.false_eq_true, ↓reduceIte, ne_eq, not_true_eq_false]
  by_cases hlong : body.length < saltLen.toNat + nonceLen.toNat + tagLen.toNat
  · rw [if_pos hlong, if_pos (by omega)]
  · rw [if_neg hlong, if_neg (by omega)]
    have hsalt := hread 0 saltLen.toNat (by omega)
    have hnonce := hread saltLen.toNat nonceLen.toNat (by omega)
    have htag := hread (saltLen.toNat + nonceLen.toNat) tagLen.toNat (by omega)
    have hrest := hread (saltLen.toNat + nonceLen.toNat + tagLen.toNat)
      (body.length - (saltLen.toNat + nonceLen.toNat + tagLen.toNat)) (by omega)
    rw [← Nat.add_assoc] at htag
    rw [← Nat.add_assoc, ← Nat.add_assoc, ← Nat.add_sub_add_left 8, ← Nat.add_assoc,
      ← Nat.add_assoc, List.take_of_length_le (by rw [List.length_drop]; omega)] at hrest
    rw [Nat.add_zero] at hsalt
    simp only [hsalt, hnonce, htag, hrest, split, List.drop_zero, List.drop_drop]

/-! ### Blobs and bytes -/

theorem toBytes_eq (blob : SealedBlob) :
    blob.toBytes = 67 :: 83 :: 83 :: 66 :: 1 :: blob.salt.length.toUInt8
      :: blob.nonce.length.toUInt8 :: blob.tag.length.toUInt8
      :: (blob.salt ++ (blob.nonce ++ (blob.tag ++ blob.ciphertext))) := by
  have hmagic : str "CSSB" = [67, 83, 83, 66] := by decide
  rw [toBytes, hmagic]
  simp only [List.append_assoc, List.cons_append, List.nil_append]

theorem fromBytes_toBytes {blob : SealedBlob} (h : blob.Fits) :
    fromBytes blob.toBytes = .ok (.ok blob) := by
  have hbyte : ∀ {n : ℕ}, n ≤ 255 → n.toUInt8.toNat = n := by
    intro n hn
    rw [Nat.toUInt8_eq, UInt8.toNat_ofNat', Nat.mod_eq_of_lt (by omega)]
  rw [toBytes_eq, fromBytes_header, hbyte h.salt, hbyte h.nonce, hbyte h.tag,
    if_neg (not_not.mpr ⟨rfl, rfl, rfl, rfl⟩), if_neg (not_not.mpr rfl), if_neg ?_, split_append]
  simp only [List.length_append]
  omega

theorem split_fits {saltLen nonceLen tagLen : UInt8} {body : Bytes}
    (h : saltLen.toNat + nonceLen.toNat + tagLen.toNat ≤ body.length) :
    (split saltLen.toNat nonceLen.toNat tagLen.toNat body).Fits := by
  obtain ⟨hsalt, hnonce, htag⟩ := length_split h
  have hbyte : ∀ n : UInt8, n.toNat ≤ 255 := fun n => Nat.le_of_lt_succ n.toNat_lt
  exact ⟨hsalt.le.trans (hbyte saltLen), hnonce.le.trans (hbyte nonceLen),
    htag.le.trans (hbyte tagLen)⟩

theorem toBytes_split {saltLen nonceLen tagLen : UInt8} {body : Bytes}
    (h : saltLen.toNat + nonceLen.toNat + tagLen.toNat ≤ body.length) :
    (split saltLen.toNat nonceLen.toNat tagLen.toNat body).toBytes
      = 67 :: 83 :: 83 :: 66 :: 1 :: saltLen :: nonceLen :: tagLen :: body := by
  obtain ⟨hsalt, hnonce, htag⟩ := length_split h
  have hbyte : ∀ n : UInt8, n.toNat.toUInt8 = n := fun n => UInt8.ofNat_toNat
  have hjoin : _ = body := @split_join saltLen.toNat nonceLen.toNat tagLen.toNat body
  simp only [List.append_assoc] at hjoin
  rw [toBytes_eq, hsalt, hnonce, htag, hbyte, hbyte, hbyte, hjoin]

theorem exists_header {bytes : Bytes} (h : 8 ≤ bytes.length) :
    ∃ m0 m1 m2 m3 version saltLen nonceLen tagLen body,
      bytes = m0 :: m1 :: m2 :: m3 :: version :: saltLen :: nonceLen :: tagLen :: body := by
  obtain ⟨header, body, rfl, hheader⟩ : ∃ header body, bytes = header ++ body ∧ header.length = 8 :=
    ⟨bytes.take 8, bytes.drop 8, (List.take_append_drop 8 bytes).symm,
      List.length_take_of_le h⟩
  match header, hheader with
  | [m0, m1, m2, m3, version, saltLen, nonceLen, tagLen], _ =>
      exact ⟨m0, m1, m2, m3, version, saltLen, nonceLen, tagLen, body, rfl⟩

/-- What is read is a blob with these bytes, or it is an error. -/
theorem fromBytes_cases (bytes : Bytes) :
    (∃ blob : SealedBlob, blob.Fits ∧ blob.toBytes = bytes ∧ fromBytes bytes = .ok (.ok blob))
      ∨ ∃ e, fromBytes bytes = .ok (.error e) := by
  by_cases hshort : bytes.length < 8
  · exact .inr ⟨_, fromBytes_short hshort⟩
  obtain ⟨m0, m1, m2, m3, version, saltLen, nonceLen, tagLen, body, rfl⟩ :=
    exists_header (Nat.not_lt.mp hshort)
  rw [fromBytes_header]
  by_cases hmagic : m0 = 67 ∧ m1 = 83 ∧ m2 = 83 ∧ m3 = 66
  swap
  · exact .inr ⟨_, by rw [if_pos hmagic]⟩
  rw [if_neg (not_not.mpr hmagic)]
  obtain ⟨rfl, rfl, rfl, rfl⟩ := hmagic
  by_cases hversion : version = 1
  swap
  · exact .inr ⟨_, by rw [if_pos hversion]⟩
  subst hversion
  rw [if_neg (not_not.mpr rfl)]
  by_cases hlong : body.length < saltLen.toNat + nonceLen.toNat + tagLen.toNat
  · exact .inr ⟨_, by rw [if_pos hlong]⟩
  · have hle := Nat.not_lt.mp hlong
    rw [if_neg hlong]
    exact .inl ⟨_, split_fits hle, toBytes_split hle, rfl⟩

/-- **The codec.** A blob is read back from its bytes, what is read has the bytes that it is read
from, and all other bytes are an error. No read is out of range. -/
theorem codec :
    (∀ blob : SealedBlob, blob.Fits → fromBytes blob.toBytes = .ok (.ok blob))
      ∧ (∀ (bytes : Bytes) (blob : SealedBlob), fromBytes bytes = .ok (.ok blob) →
        blob.toBytes = bytes)
      ∧ (∀ bytes : Bytes, (∀ blob : SealedBlob, blob.Fits → blob.toBytes ≠ bytes) →
        ∃ e, fromBytes bytes = .ok (.error e))
      ∧ ∀ bytes : Bytes, ∃ result, fromBytes bytes = .ok result := by
  refine ⟨fun blob hfits => fromBytes_toBytes hfits, ?_, ?_, ?_⟩
  · intro bytes blob hread
    obtain ⟨other, -, hbytes, hother⟩ | ⟨e, herror⟩ := fromBytes_cases bytes
    · rw [hread] at hother
      rw [Except.ok.inj (Except.ok.inj hother), hbytes]
    · rw [hread] at herror
      cases herror
  · intro bytes hnone
    obtain ⟨blob, hfits, hbytes, -⟩ | herror := fromBytes_cases bytes
    · exact absurd hbytes (hnone blob hfits)
    · exact herror
  · intro bytes
    obtain ⟨blob, -, -, hread⟩ | ⟨e, herror⟩ := fromBytes_cases bytes
    · exact ⟨_, hread⟩
    · exact ⟨_, herror⟩

/-- A blob without a nonce. -/
def saltOnly : SealedBlob := { salt := [1, 2], ciphertext := [7], tag := [3] }

theorem codec_saltOnly :
    saltOnly.toBytes = [67, 83, 83, 66, 1, 2, 0, 1, 1, 2, 3, 7]
      ∧ fromBytes [67, 83, 83, 66, 1, 2, 0, 1, 1, 2, 3, 7] = .ok (.ok saltOnly)
      ∧ ∃ e, fromBytes [67, 83, 83, 66, 1, 2, 0, 1, 1, 2] = .ok (.error e) := by
  have hbytes : saltOnly.toBytes = [67, 83, 83, 66, 1, 2, 0, 1, 1, 2, 3, 7] := by decide
  obtain ⟨hread, -, herror, -⟩ := codec
  refine ⟨hbytes, hbytes ▸ hread saltOnly ⟨by decide, by decide, by decide⟩, herror _ ?_⟩
  intro blob hfits htruncated
  have hsalt : blob.salt.length.toUInt8 = 2 ∧ blob.nonce.length.toUInt8 = 0
      ∧ blob.tag.length.toUInt8 = 1
      ∧ blob.salt ++ (blob.nonce ++ (blob.tag ++ blob.ciphertext)) = [1, 2] := by
    simpa [toBytes_eq] using htruncated
  obtain ⟨hsalt, -, htag, hbody⟩ := hsalt
  have hlength := congrArg List.length hbody
  have hfitsSalt := hfits.salt
  have hfitsTag := hfits.tag
  have hsaltLen := congrArg UInt8.toNat hsalt
  have htagLen := congrArg UInt8.toNat htag
  simp only [List.length_append, List.length_cons, List.length_nil] at hlength
  simp only [Nat.toUInt8_eq, UInt8.toNat_ofNat', UInt8.reduceToNat] at hsaltLen htagLen
  omega

end ContextSnap.Privacy.SealedBlob
