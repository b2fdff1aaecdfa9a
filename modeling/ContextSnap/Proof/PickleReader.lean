import ContextSnap.Browser.SessionChromium

/-!
# The pickle reader stays within its payload

Every length is checked against what is left of the payload, and one of the checks is wrong: the
count of a UTF-16 text is doubled in 32 bits before it is compared. A count of 2^31 or more that
passes the check all the same sends the loop behind the end. Nothing else does.
-/

namespace ContextSnap.Browser.Session

open Buffer

/-! ### Runs of reads -/

inductive ReadCall where
  | readU32 | readI32 | readString | readString16
  deriving DecidableEq

namespace ReadCall

def lengthField : ReadCall → Nat
  | .readU32 | .readI32 => 0
  | .readString | .readString16 => 4

end ReadCall

namespace Reader

/-- A read, as whether it succeeded and the reader that it leaves behind. -/
def call (reader : Reader) : ReadCall → Except Fault (Bool × Reader)
  | .readU32 => reader.readU32.map fun result => (result.1.isSome, result.2)
  | .readI32 => reader.readI32.map fun result => (result.1.isSome, result.2)
  | .readString => reader.readString.map fun result => (result.1.isSome, result.2)
  | .readString16 => reader.readString16.map fun result => (result.1.isSome, result.2)

/-- No read of the run leaves the payload, and a read that fails stays behind its length field. -/
def ReadsSafely : Reader → List ReadCall → Prop
  | _, [] => True
  | reader, call :: calls =>
      ∃ ok next, reader.call call = .ok (ok, next) ∧
        (ok = false → next.offset.toNat ≤ reader.offset.toNat + call.lengthField) ∧
        next.ReadsSafely calls

def lengthAhead (reader : Reader) : Option UInt32 := do
  let b0 ← reader.data[reader.offset.toNat]?
  let b1 ← reader.data[reader.offset.toNat + 1]?
  let b2 ← reader.data[reader.offset.toNat + 2]?
  let b3 ← reader.data[reader.offset.toNat + 3]?
  return Ipc.frameLength b0 b1 b2 b3

/-- The next four bytes are a count of 2^31 or more, and twice the count without its carry is no
more than what follows them. -/
def WrapsAhead (reader : Reader) : Prop :=
  ∃ units, reader.lengthAhead = some units ∧ 2 ^ 31 ≤ units.toNat ∧
    reader.offset.toNat + 4 + (2 * units.toNat - 2 ^ 32) ≤ reader.data.length

/-- No `read_string16` of the run starts at such a count. -/
def NeverWraps : Reader → List ReadCall → Prop
  | _, [] => True
  | reader, call :: calls =>
      (call = .readString16 → ¬reader.WrapsAhead) ∧
        ∀ ok next, reader.call call = .ok (ok, next) → next.NeverWraps calls

/-- What every read keeps: the size is that of the payload, and only the alignment can have moved
the offset behind it. -/
structure Within (reader : Reader) : Prop where
  size : reader.size.toNat = reader.data.length
  small : reader.data.length ≤ 65534
  offset : reader.offset.toNat ≤ reader.data.length + 3

/-! ### The length field -/

variable {reader : Reader} {units i : UInt32} {data : Bytes} {offset : UInt64} {out : Bytes}

theorem toNat_offset_add {a b : UInt64} (h : a.toNat + b.toNat < 2 ^ 64) :
    (a + b).toNat = a.toNat + b.toNat := by
  rw [UInt64.toNat_add, Nat.mod_eq_of_lt h]

theorem Within.ofPayload {payload : Bytes} (h : payload.length ≤ 65534) :
    (Reader.ofPayload payload).Within where
  size := by
    simp only [Reader.ofPayload, Nat.toUInt64_eq, UInt64.toNat_ofNat']
    omega
  small := h
  offset := Nat.zero_le _

theorem Within.readU32_none (h : reader.Within)
    (hend : reader.data.length < reader.offset.toNat + 4) : reader.readU32 = .ok (none, reader) := by
  have hsmall := h.small
  have hoffset := h.offset
  have hnext : (reader.offset + 4).toNat = reader.offset.toNat + 4 :=
    toNat_offset_add (by simp; omega)
  rw [readU32, if_pos]
  · rfl
  · rw [gt_iff_lt, UInt64.lt_iff_toNat_lt, h.size, hnext]
    exact hend

theorem Within.readU32_some (h : reader.Within)
    (hroom : reader.offset.toNat + 4 ≤ reader.data.length) :
    ∃ value, reader.lengthAhead = some value ∧
      reader.readU32 = .ok (some value, { reader with offset := reader.offset + 4 }) := by
  have hsmall := h.small
  have hnext (k : UInt64) (hk : k.toNat ≤ 4) :
      (reader.offset + k).toNat = reader.offset.toNat + k.toNat := toNat_offset_add (by omega)
  have hone : (reader.offset + 1).toNat = reader.offset.toNat + 1 := hnext 1 (by decide)
  have htwo : (reader.offset + 2).toNat = reader.offset.toNat + 2 := hnext 2 (by decide)
  have hthree : (reader.offset + 3).toNat = reader.offset.toNat + 3 := hnext 3 (by decide)
  have hfour : (reader.offset + 4).toNat = reader.offset.toNat + 4 := hnext 4 (by decide)
  refine ⟨Ipc.frameLength reader.data[reader.offset.toNat] reader.data[reader.offset.toNat + 1]
    reader.data[reader.offset.toNat + 2] reader.data[reader.offset.toNat + 3], ?_, ?_⟩
  · rw [lengthAhead, List.getElem?_eq_getElem (by omega), List.getElem?_eq_getElem (by omega),
      List.getElem?_eq_getElem (by omega), List.getElem?_eq_getElem (by omega)]
    rfl
  · rw [readU32, if_neg (by rw [gt_iff_lt, UInt64.lt_iff_toNat_lt, h.size, hfour]; omega), hone,
      htwo, hthree, read_of_lt (by omega), read_of_lt (by omega), read_of_lt (by omega),
      read_of_lt (by omega)]
    rfl

/-! ### The loop over the units -/

theorem readUnit_of_le (hsmall : data.length ≤ 65534) (h : offset.toNat + 2 ≤ data.length) :
    ∃ code, readUnit data offset = .ok code := by
  have hnext : (offset + 1).toNat = offset.toNat + 1 := toNat_offset_add (by simp; omega)
  rw [readUnit, hnext, read_of_lt (by omega), read_of_lt (by omega)]
  exact ⟨_, rfl⟩

theorem readUnit_of_lt (hsmall : data.length ≤ 65534) (hoffset : offset.toNat ≤ data.length)
    (h : data.length < offset.toNat + 2) : readUnit data offset = .error .outOfRange := by
  have hnext : (offset + 1).toNat = offset.toNat + 1 := toNat_offset_add (by simp; omega)
  by_cases hend : data.length ≤ offset.toNat
  · rw [readUnit, read_of_le hend]
    rfl
  · rw [readUnit, hnext, read_of_lt (by omega), read_of_le (by omega)]
    rfl

/-- A round consumes one unit or a surrogate pair, or it leaves the payload on the way. -/
theorem readUnitsBody_cases (out : Bytes) (hsmall : data.length ≤ 65534) (hi : i < units)
    (hoffset : offset.toNat ≤ data.length) :
    ∃ k, k ≠ 0 ∧ k ≤ units.toNat - i.toNat ∧
      ((offset.toNat + 2 * k ≤ data.length ∧ ∃ i' offset' out',
          readUnitsBody data units (i, offset, out) = .ok (.inl (i', offset', out')) ∧
          i'.toNat = i.toNat + k ∧ offset'.toNat = offset.toNat + 2 * k) ∨
        (data.length < offset.toNat + 2 * k ∧
          readUnitsBody data units (i, offset, out) = .error .outOfRange)) := by
  have hlt := UInt32.lt_iff_toNat_lt.mp hi
  have hunits := units.toNat_lt
  have hnext : (i + 1).toNat = i.toNat + 1 := by
    rw [UInt32.toNat_add]
    exact Nat.mod_eq_of_lt (by simp; omega)
  have hnextUnit : (offset + 2).toNat = offset.toNat + 2 := toNat_offset_add (by simp; omega)
  rw [readUnitsBody, if_pos hi]
  by_cases hroom : offset.toNat + 2 ≤ data.length
  · obtain ⟨code, hcode⟩ := readUnit_of_le hsmall hroom
    rw [hcode]
    simp only [bind, Except.bind, readLowSurrogate, pure, Except.pure]
    by_cases hhigh : code ≥ 0xD800 ∧ code ≤ 0xDBFF ∧ decide (i + 1 < units) = true
    · have hmore := UInt32.lt_iff_toNat_lt.mp (of_decide_eq_true hhigh.2.2)
      rw [if_pos hhigh]
      by_cases hpair : (offset + 2).toNat + 2 ≤ data.length
      · obtain ⟨low, hlow⟩ := readUnit_of_le hsmall hpair
        rw [hlow]
        simp only
        by_cases hinRange : low ≥ 0xDC00 ∧ low ≤ 0xDFFF
        · have hi' : (i + 1 + 1).toNat = i.toNat + 2 := by
            rw [UInt32.toNat_add, hnext]
            exact Nat.mod_eq_of_lt (by simp; omega)
          have hoffset' : (offset + 2 + 2).toNat = offset.toNat + 4 := by
            rw [toNat_offset_add (by simp; omega), hnextUnit]
            rfl
          rw [if_pos hinRange]
          exact ⟨2, by omega, by omega, .inl ⟨by omega, _, _, _, rfl, hi', hoffset'⟩⟩
        · rw [if_neg hinRange]
          exact ⟨1, by omega, by omega, .inl ⟨by omega, _, _, _, rfl, hnext, hnextUnit⟩⟩
      · rw [readUnit_of_lt hsmall (by omega) (by omega)]
        exact ⟨2, by omega, by omega, .inr ⟨by omega, rfl⟩⟩
    · rw [if_neg hhigh]
      exact ⟨1, by omega, by omega, .inl ⟨by omega, _, _, _, rfl, hnext, hnextUnit⟩⟩
  · rw [readUnit_of_lt hsmall hoffset (by omega)]
    exact ⟨1, by omega, by omega, .inr ⟨by omega, rfl⟩⟩

/-- The loop consumes two bytes for every unit, or it leaves the payload when they are not there. -/
theorem run_readUnits {budget : Nat} (hsmall : data.length ≤ 65534)
    (hi : i.toNat ≤ units.toNat) (hoffset : offset.toNat ≤ data.length)
    (hbudget : units.toNat - i.toNat < budget) :
    (offset.toNat + 2 * (units.toNat - i.toNat) ≤ data.length ∧ ∃ offset' text,
        Loop.run (readUnitsBody data units) .endless budget (i, offset, out)
          = .ok (offset', text) ∧
        offset'.toNat = offset.toNat + 2 * (units.toNat - i.toNat)) ∨
      (data.length < offset.toNat + 2 * (units.toNat - i.toNat) ∧
        Loop.run (readUnitsBody data units) .endless budget (i, offset, out)
          = .error .outOfRange) := by
  induction budget generalizing i offset out with
  | zero => omega
  | succ budget ih =>
      by_cases hmore : i < units
      · have hlt := UInt32.lt_iff_toNat_lt.mp hmore
        obtain ⟨k, hk, hle, ⟨hroom, i', offset', out', hbody, hi', hoffset'⟩ | ⟨hend, hbody⟩⟩ :=
          readUnitsBody_cases out hsmall hmore hoffset
        · rw [Loop.run_of_again hbody]
          have htotal : offset'.toNat + 2 * (units.toNat - i'.toNat)
              = offset.toNat + 2 * (units.toNat - i.toNat) := by omega
          rw [← htotal]
          exact ih (by omega) (by omega) (by omega)
        · rw [Loop.run_of_error hbody]
          exact .inr ⟨by omega, rfl⟩
      · have hge : units.toNat ≤ i.toNat := Nat.not_lt.mp (mt UInt32.lt_iff_toNat_lt.mpr hmore)
        have hbody : readUnitsBody data units (i, offset, out) = .ok (.inr (offset, out)) := by
          rw [readUnitsBody, if_neg hmore]
          rfl
        rw [Loop.run_of_done hbody]
        exact .inl ⟨by omega, offset, out, rfl, by omega⟩

theorem readUnits_cases (units : UInt32) (hsmall : data.length ≤ 65534)
    (hoffset : offset.toNat ≤ data.length) :
    (offset.toNat + 2 * units.toNat ≤ data.length ∧ ∃ offset' text,
        readUnits data units offset = .ok (offset', text) ∧
        offset'.toNat = offset.toNat + 2 * units.toNat) ∨
      (data.length < offset.toNat + 2 * units.toNat ∧
        readUnits data units offset = .error .outOfRange) := by
  have hzero : (0 : UInt32).toNat = 0 := rfl
  have hrun := @run_readUnits units 0 data offset [] (units.toNat + 1) hsmall (by omega) hoffset
    (by omega)
  rw [hzero, Nat.sub_zero] at hrun
  exact hrun

/-! ### One read -/

theorem toNat_align_le (h : reader.offset.toNat + 3 < 2 ^ 64) :
    reader.align.offset.toNat ≤ reader.offset.toNat + 3 := by
  rw [align, UInt64.toNat_and, toNat_offset_add h]
  exact Nat.and_le_left

theorem Within.skipLength (h : reader.Within)
    (hroom : reader.offset.toNat + 4 ≤ reader.data.length) :
    (reader.offset + 4).toNat = reader.offset.toNat + 4 ∧
      (reader.size - (reader.offset + 4)).toNat
        = reader.data.length - (reader.offset.toNat + 4) ∧
      ({ reader with offset := reader.offset + 4 } : Reader).Within := by
  have hsmall := h.small
  have hnext : (reader.offset + 4).toNat = reader.offset.toNat + 4 :=
    toNat_offset_add (by simp; omega)
  have hle : reader.offset + 4 ≤ reader.size := by
    rw [UInt64.le_iff_toNat_le, h.size, hnext]
    exact hroom
  refine ⟨hnext, ?_, h.size, h.small, ?_⟩
  · rw [UInt64.toNat_sub_of_le _ _ hle, h.size, hnext]
  · simp only [hnext]
    omega

/-- The read stays in range, and if it fails it has read no more than a length field. -/
def Answers {α : Type} (reader : Reader) (field : Nat)
    (result : Except Fault (Option α × Reader)) : Prop :=
  ∃ value next, result = .ok (value, next) ∧ next.Within ∧
    (value = none → next.offset.toNat ≤ reader.offset.toNat + field)

theorem Within.readU32_answers (h : reader.Within) : reader.Answers 0 reader.readU32 := by
  by_cases hroom : reader.offset.toNat + 4 ≤ reader.data.length
  · obtain ⟨value, -, hread⟩ := h.readU32_some hroom
    exact ⟨some value, _, hread, (h.skipLength hroom).2.2, by simp⟩
  · exact ⟨none, reader, h.readU32_none (by omega), h, fun _ => Nat.le_refl _⟩

theorem Within.readI32_answers (h : reader.Within) : reader.Answers 0 reader.readI32 := by
  obtain ⟨value, next, hread, hnext, hfail⟩ := h.readU32_answers
  refine ⟨value.map UInt32.toInt32, next, by rw [readI32, hread]; rfl, hnext, fun hnone => ?_⟩
  exact hfail (Option.map_eq_none_iff.mp hnone)

theorem Within.align (h : reader.Within) (hoffset : reader.offset.toNat ≤ reader.data.length) :
    reader.align.Within where
  size := h.size
  small := h.small
  offset := by
    have hsmall := h.small
    have hle : reader.align.offset.toNat ≤ reader.offset.toNat + 3 := toNat_align_le (by omega)
    exact Nat.le_trans hle (by simp only [Reader.align]; omega)

theorem Within.readString_answers (h : reader.Within) : reader.Answers 4 reader.readString := by
  by_cases hroom : reader.offset.toNat + 4 ≤ reader.data.length
  · obtain ⟨length, -, hread⟩ := h.readU32_some hroom
    obtain ⟨hnext, hleft, hwithin⟩ := h.skipLength hroom
    have hsmall := h.small
    rw [readString, hread]
    simp only [bind, Except.bind, pure, Except.pure]
    by_cases hlong : length.toUInt64 > reader.size - (reader.offset + 4)
    · rw [if_pos hlong]
      exact ⟨none, _, rfl, hwithin, fun _ => by rw [hnext]⟩
    · have hle : length.toNat ≤ reader.data.length - (reader.offset.toNat + 4) := by
        rw [← hleft, ← UInt32.toNat_toUInt64]
        exact Nat.not_lt.mp (mt UInt64.lt_iff_toNat_lt.mpr hlong)
      have hend : (reader.offset + 4 + length.toUInt64).toNat
          = reader.offset.toNat + 4 + length.toNat := by
        rw [toNat_offset_add, hnext, UInt32.toNat_toUInt64]
        rw [hnext, UInt32.toNat_toUInt64]
        omega
      rw [if_neg hlong, readMany_of_le (by rw [hnext]; omega)]
      refine ⟨some _, _, rfl, ?_, by simp⟩
      have hmoved : ({ reader with offset := reader.offset + 4 + length.toUInt64 } : Reader).Within :=
        ⟨h.size, h.small, by simp only [hend]; omega⟩
      exact hmoved.align (by simp only [hend]; omega)
  · rw [readString, h.readU32_none (by omega)]
    exact ⟨none, reader, rfl, h, fun _ => Nat.le_add_right _ _⟩

theorem toNat_doubled (units : UInt32) :
    (units * 2).toUInt64.toNat
      = if units.toNat < 2 ^ 31 then 2 * units.toNat else 2 * units.toNat - 2 ^ 32 := by
  have hlt := units.toNat_lt
  rw [UInt32.toNat_toUInt64, UInt32.toNat_mul]
  simp only [UInt32.reduceToNat]
  split <;> omega

theorem Within.readString16_answers (h : reader.Within) (hwraps : ¬reader.WrapsAhead) :
    reader.Answers 4 reader.readString16 := by
  by_cases hroom : reader.offset.toNat + 4 ≤ reader.data.length
  · obtain ⟨units, hunits, hread⟩ := h.readU32_some hroom
    obtain ⟨hnext, hleft, hwithin⟩ := h.skipLength hroom
    rw [readString16, hread]
    simp only [bind, Except.bind, pure, Except.pure]
    by_cases hlong : (units * 2).toUInt64 > reader.size - (reader.offset + 4)
    · rw [if_pos hlong]
      exact ⟨none, _, rfl, hwithin, fun _ => by rw [hnext]⟩
    · have hle : (units * 2).toUInt64.toNat ≤ reader.data.length - (reader.offset.toNat + 4) := by
        rw [← hleft]
        exact Nat.not_lt.mp (mt UInt64.lt_iff_toNat_lt.mpr hlong)
      rw [toNat_doubled] at hle
      have hsmall : units.toNat < 2 ^ 31 := by
        by_contra hlarge
        rw [if_neg hlarge] at hle
        exact hwraps ⟨units, hunits, Nat.not_lt.mp hlarge, by omega⟩
      rw [if_pos hsmall] at hle
      rw [if_neg hlong]
      have hstart : (reader.offset + 4).toNat ≤ reader.data.length := by
        rw [hnext]
        exact hroom
      obtain ⟨hfits, offset', text, hrun, hoffset'⟩ | ⟨hend, -⟩ :=
        readUnits_cases units h.small hstart
      · rw [hrun]
        refine ⟨some text, _, rfl, ?_, by simp⟩
        have hmoved : ({ reader with offset := offset' } : Reader).Within :=
          ⟨h.size, h.small, by simp only; omega⟩
        exact hmoved.align (by simp only; omega)
      · exfalso
        omega
  · rw [readString16, h.readU32_none (by omega)]
    exact ⟨none, reader, rfl, h, fun _ => Nat.le_add_right _ _⟩

theorem Within.readString16_wraps (h : reader.Within) (hwraps : reader.WrapsAhead) :
    reader.readString16 = .error .outOfRange := by
  obtain ⟨units, hunits, hlarge, hroom⟩ := hwraps
  obtain ⟨value, hvalue, hread⟩ := h.readU32_some (by omega)
  obtain rfl : units = value := Option.some.inj (hunits.symm.trans hvalue)
  obtain ⟨hnext, hleft, -⟩ := h.skipLength (by omega)
  have hsmall := h.small
  have hpasses : ¬(units * 2).toUInt64 > reader.size - (reader.offset + 4) := by
    rw [gt_iff_lt, UInt64.lt_iff_toNat_lt, toNat_doubled, if_neg (Nat.not_lt.mpr hlarge), hleft]
    omega
  rw [readString16, hread]
  simp only [bind, Except.bind, pure, Except.pure]
  rw [if_neg hpasses]
  obtain ⟨hfits, -⟩ | ⟨-, hrun⟩ :=
    readUnits_cases units h.small (show (reader.offset + 4).toNat ≤ reader.data.length by omega)
  · exfalso
    omega
  · rw [hrun]

/-! ### Every run -/

theorem Answers.call {α : Type} {field : Nat} {result : Except Fault (Option α × Reader)}
    (h : reader.Answers field result) :
    ∃ ok next, result.map (fun result => (result.1.isSome, result.2)) = .ok (ok, next) ∧
      next.Within ∧ (ok = false → next.offset.toNat ≤ reader.offset.toNat + field) := by
  obtain ⟨value, next, rfl, hnext, hfail⟩ := h
  exact ⟨value.isSome, next, rfl, hnext, fun hnone => hfail (by simpa using hnone)⟩

theorem Within.call_safe (h : reader.Within) (call : ReadCall)
    (hwraps : call = .readString16 → ¬reader.WrapsAhead) :
    ∃ ok next, reader.call call = .ok (ok, next) ∧ next.Within ∧
      (ok = false → next.offset.toNat ≤ reader.offset.toNat + call.lengthField) := by
  cases call with
  | readU32 => exact h.readU32_answers.call
  | readI32 => exact h.readI32_answers.call
  | readString => exact h.readString_answers.call
  | readString16 => exact (h.readString16_answers (hwraps rfl)).call

theorem Within.readsSafely_iff_neverWraps (h : reader.Within) (calls : List ReadCall) :
    reader.ReadsSafely calls ↔ reader.NeverWraps calls := by
  induction calls generalizing reader with
  | nil => exact Iff.rfl
  | cons call calls ih =>
      constructor
      · rintro ⟨ok, next, hcall, -, hnext⟩
        have hwraps : call = .readString16 → ¬reader.WrapsAhead := by
          rintro rfl hw
          rw [Reader.call, h.readString16_wraps hw] at hcall
          cases hcall
        obtain ⟨ok', next', hcall', hwithin, -⟩ := h.call_safe call hwraps
        rw [hcall] at hcall'
        obtain ⟨rfl, rfl⟩ := Prod.mk.inj (Except.ok.inj hcall')
        refine ⟨hwraps, fun ok' next' hcall' => ?_⟩
        rw [hcall] at hcall'
        obtain ⟨rfl, rfl⟩ := Prod.mk.inj (Except.ok.inj hcall')
        exact (ih hwithin).mp hnext
      · rintro ⟨hwraps, hrest⟩
        obtain ⟨ok, next, hcall, hwithin, hfail⟩ := h.call_safe call hwraps
        exact ⟨ok, next, hcall, hfail, (ih hwithin).mpr (hrest ok next hcall)⟩

/-- **The pickle reader.** A run of reads over a payload stays within it exactly if none of its
UTF-16 reads starts at a count of 2^31 or more that passes the check without its carry. -/
theorem readsSafely_iff {payload : Bytes} (h : payload.length ≤ 65534) (calls : List ReadCall) :
    (ofPayload payload).ReadsSafely calls ↔ (ofPayload payload).NeverWraps calls :=
  (Within.ofPayload h).readsSafely_iff_neverWraps calls

/-- A text of one unit. -/
theorem readsSafely_iff_unit : (ofPayload [1, 0, 0, 0, 65, 0]).ReadsSafely [.readString16] := by
  refine (readsSafely_iff (by decide) _).mpr ⟨fun _ => ?_, fun _ _ _ => trivial⟩
  rintro ⟨units, hunits, hlarge, -⟩
  obtain rfl : 1 = units := Option.some.inj hunits
  exact absurd hlarge (by decide)

/-- A count of 2^31 and nothing behind it. -/
theorem not_readsSafely :
    ¬∀ payload : Bytes, payload.length ≤ 65534 → ∀ calls,
      (ofPayload payload).ReadsSafely calls := by
  intro h
  obtain ⟨ok, next, hcall, -⟩ := h [0, 0, 0, 128] (by decide) [.readString16]
  have hfault : (ofPayload [0, 0, 0, 128]).call .readString16 = .error .outOfRange := rfl
  rw [hfault] at hcall
  cases hcall

end Reader

end ContextSnap.Browser.Session
