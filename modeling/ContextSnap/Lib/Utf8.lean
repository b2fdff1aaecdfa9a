import ContextSnap.Lib.Bytes

/-!
# UTF-8

Bytes are UTF-8 when they are the encodings of some Unicode scalar values one behind the other. The
encodings are prefix codes that tell a first byte from a later one, so a text can be cut in front of
any first byte, and an encoded surrogate is no part of one.
-/

namespace ContextSnap

/-- The bytes encode a sequence of Unicode scalar values. -/
def IsUtf8 (bytes : Bytes) : Prop :=
  ∃ chars : List Char, chars.flatMap String.utf8EncodeChar = bytes

/-! ### One character -/

theorem utf8EncodeChar_ne_nil (c : Char) : String.utf8EncodeChar c ≠ [] := by
  intro h
  have hsize := c.utf8Size_pos
  rw [← String.length_utf8EncodeChar, h] at hsize
  exact absurd hsize (by decide)

/-- No encoding is a proper prefix of another. -/
theorem utf8EncodeChar_append_inj {c d : Char} {rest more : Bytes}
    (h : String.utf8EncodeChar c ++ rest = String.utf8EncodeChar d ++ more) :
    c = d ∧ rest = more := by
  have hdecode : ∀ (c : Char) (rest : Bytes),
      (String.utf8EncodeChar c ++ rest).toByteArray.utf8DecodeChar? 0 = some c := by
    intro c rest
    rw [List.toByteArray_append]
    exact ByteArray.utf8DecodeChar?_utf8EncodeChar_append
  have hchar := hdecode c rest
  rw [h, hdecode d more] at hchar
  obtain rfl := Option.some.inj hchar
  exact ⟨rfl, List.append_cancel_left h⟩

/-- A first byte behind another byte starts the next character. -/
theorem eq_nil_of_utf8EncodeChar {d : Char} {front more : Bytes} {c : UInt8}
    (hc : c.IsUTF8FirstByte) (h : String.utf8EncodeChar d = front ++ c :: more) : front = [] := by
  have hlength : front.length < (String.utf8EncodeChar d).length := by
    rw [h, List.length_append, List.length_cons]
    omega
  have hbyte : (String.utf8EncodeChar d)[front.length] = c := by
    simp only [h, List.getElem_append_right (Nat.le_refl _), Nat.sub_self, List.getElem_cons_zero]
  rw [← hbyte, UInt8.isUTF8FirstByte_getElem_utf8EncodeChar] at hc
  exact List.eq_nil_of_length_eq_zero hc

/-- A character is one ASCII byte, or all bytes of it are above ASCII. -/
theorem utf8EncodeChar_cases (c : Char) :
    (∃ byte : UInt8, byte < 0x80 ∧ String.utf8EncodeChar c = [byte])
      ∨ ∀ byte ∈ String.utf8EncodeChar c, 0x80 ≤ byte := by
  have hlt : c.val.toNat < 0x110000 := by
    have hvalid := c.valid
    simp only [UInt32.isValidChar, Nat.isValidChar] at hvalid
    omega
  have hbyte : ∀ n : Nat, 0x80 ≤ n → n < 0x100 → (0x80 : UInt8) ≤ UInt8.ofNat n := by
    intro n hlow hhigh
    rw [UInt8.le_iff_toNat_le, UInt8.toNat_ofNat_of_lt' hhigh]
    exact hlow
  simp only [String.utf8EncodeChar]
  split
  · refine .inl ⟨_, ?_, rfl⟩
    rw [UInt8.lt_iff_toNat_lt]
    simp only [UInt8.toNat_ofNat', UInt8.reduceToNat]
    omega
  split
  · right
    simp only [List.forall_mem_cons, List.not_mem_nil, false_implies, implies_true, and_true]
    exact ⟨hbyte _ (by omega) (by omega), hbyte _ (by omega) (by omega)⟩
  split
  · right
    simp only [List.forall_mem_cons, List.not_mem_nil, false_implies, implies_true, and_true]
    exact ⟨hbyte _ (by omega) (by omega), hbyte _ (by omega) (by omega),
      hbyte _ (by omega) (by omega)⟩
  · right
    simp only [List.forall_mem_cons, List.not_mem_nil, false_implies, implies_true, and_true]
    exact ⟨hbyte _ (by omega) (by omega), hbyte _ (by omega) (by omega),
      hbyte _ (by omega) (by omega), hbyte _ (by omega) (by omega)⟩

/-! ### Texts -/

@[simp]
theorem isUtf8_nil : IsUtf8 [] := ⟨[], rfl⟩

theorem isUtf8_char_append (c : Char) (rest : Bytes) :
    IsUtf8 (String.utf8EncodeChar c ++ rest) ↔ IsUtf8 rest := by
  constructor
  · rintro ⟨chars, hchars⟩
    cases chars with
    | nil => exact absurd (List.append_eq_nil_iff.mp hchars.symm).1 (utf8EncodeChar_ne_nil c)
    | cons d chars => exact ⟨chars, (utf8EncodeChar_append_inj hchars).2⟩
  · rintro ⟨chars, rfl⟩
    exact ⟨c :: chars, rfl⟩

theorem isUtf8_append {front : Bytes} (h : IsUtf8 front) (rest : Bytes) :
    IsUtf8 (front ++ rest) ↔ IsUtf8 rest := by
  obtain ⟨chars, rfl⟩ := h
  induction chars with
  | nil => rfl
  | cons c chars ih => rw [List.flatMap_cons, List.append_assoc, isUtf8_char_append, ih]

/-- A text can be cut in front of a first byte. -/
theorem isUtf8_cut {front rest : Bytes} {c : UInt8} (hc : c.IsUTF8FirstByte)
    (h : IsUtf8 (front ++ c :: rest)) : IsUtf8 front ∧ IsUtf8 (c :: rest) := by
  obtain ⟨chars, hchars⟩ := h
  induction chars generalizing front with
  | nil => simp at hchars
  | cons d chars ih =>
      rw [List.flatMap_cons, List.append_eq_append_iff] at hchars
      obtain ⟨between, hfront, hrest⟩ | ⟨between, hchar, hrest⟩ := hchars
      · obtain ⟨hbetween, htail⟩ := ih hrest
        exact ⟨hfront ▸ (isUtf8_char_append d between).mpr hbetween, htail⟩
      · cases between with
        | nil =>
            rw [List.append_nil] at hchar
            exact ⟨⟨[d], by simpa using hchar⟩, ⟨chars, hrest.symm⟩⟩
        | cons c' between =>
            obtain ⟨rfl, -⟩ := List.cons.inj hrest
            obtain rfl := eq_nil_of_utf8EncodeChar hc hchar
            refine ⟨isUtf8_nil, d :: chars, ?_⟩
            rw [List.flatMap_cons, hchar, hrest]
            rfl

theorem isUtf8_ascii {c : UInt8} (hc : c < 0x80) (rest : Bytes) :
    IsUtf8 (c :: rest) ↔ IsUtf8 rest := by
  have hlt : c.toNat < 128 := hc
  have hvalid : c.toNat.isValidChar := .inl (by omega)
  have hchar : String.utf8EncodeChar (Char.ofNat c.toNat) = [c] := by
    have hvalue : (Char.ofNat c.toNat).val.toNat = c.toNat := by
      rw [Char.ofNat, dif_pos hvalid]
      rfl
    simp only [String.utf8EncodeChar, hvalue, if_pos (show c.toNat ≤ 0x7F by omega),
      UInt8.ofNat_toNat]
  rw [← List.singleton_append, ← hchar, isUtf8_char_append]

theorem isUtf8_ascii_append {front : Bytes} (h : ∀ c ∈ front, c < 0x80) (rest : Bytes) :
    IsUtf8 (front ++ rest) ↔ IsUtf8 rest := by
  induction front with
  | nil => rfl
  | cons c front ih =>
      rw [List.cons_append, isUtf8_ascii (h c (List.mem_cons_self ..)),
        ih fun d hd => h d (List.mem_cons_of_mem _ hd)]

theorem isUtf8_of_ascii {bytes : Bytes} (h : ∀ c ∈ bytes, c < 0x80) : IsUtf8 bytes := by
  simpa using (isUtf8_ascii_append h []).mpr isUtf8_nil

theorem isUtf8_of_all {bytes : Bytes} (h : bytes.all (· < 0x80) = true) : IsUtf8 bytes :=
  isUtf8_of_ascii fun c hc => of_decide_eq_true (List.all_eq_true.mp h c hc)

theorem isUTF8FirstByte_of_ascii : ∀ c : UInt8, c < 0x80 → c.IsUTF8FirstByte := by
  have hall : ∀ n < 128, (UInt8.ofNat n).IsUTF8FirstByte := by decide +kernel
  intro c hc
  have h := hall c.toNat hc
  rwa [UInt8.ofNat_toNat] at h

theorem isUtf8_between {front middle back : Bytes} {c d : UInt8} (hc : c < 0x80) (hd : d < 0x80)
    (h : IsUtf8 (front ++ c :: (middle ++ d :: back))) : IsUtf8 middle := by
  have hrest := (isUtf8_ascii hc _).mp (isUtf8_cut (isUTF8FirstByte_of_ascii c hc) h).2
  exact (isUtf8_cut (isUTF8FirstByte_of_ascii d hd) hrest).1

theorem not_isUtf8_surrogate {value : Nat} (hlow : 0xD800 ≤ value) (hhigh : value ≤ 0xDFFF)
    (rest : Bytes) :
    ¬ IsUtf8 (UInt8.ofNat (0xE0 + value / 2 ^ 12) :: UInt8.ofNat (0x80 + value / 2 ^ 6 % 2 ^ 6)
      :: rest) := by
  rintro ⟨chars, hchars⟩
  cases chars with
  | nil => cases hchars
  | cons c chars =>
      have hvalid := c.valid
      simp only [UInt32.isValidChar, Nat.isValidChar] at hvalid
      have hcode : ∀ m n : Nat, m < 0x100 → n < 0x100 → UInt8.ofNat m = UInt8.ofNat n → m = n := by
        intro m n hm hn heq
        have hnat := congrArg UInt8.toNat heq
        rwa [UInt8.toNat_ofNat_of_lt' hm, UInt8.toNat_ofNat_of_lt' hn] at hnat
      rw [List.flatMap_cons] at hchars
      simp only [String.utf8EncodeChar] at hchars
      split at hchars
      · have hfirst := hcode _ _ (by omega) (by omega) (List.cons.inj hchars).1
        omega
      split at hchars
      · have hfirst := hcode _ _ (by omega) (by omega) (List.cons.inj hchars).1
        omega
      split at hchars
      · obtain ⟨hfirst, hmore⟩ := List.cons.inj hchars
        have hlead := hcode _ _ (by omega) (by omega) hfirst
        have hnext := hcode _ _ (by omega) (by omega) (List.cons.inj hmore).1
        omega
      · have hfirst := hcode _ _ (by omega) (by omega) (List.cons.inj hchars).1
        omega

end ContextSnap
