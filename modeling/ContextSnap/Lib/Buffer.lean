import ContextSnap.Lib.Bytes

/-!
# Reads of a buffer

A C++ program that reads behind the end of a buffer has no meaning from there on. A computation over
a buffer is in `Except Fault` here, so that "all reads are in range" is the statement that it
returns.
-/

namespace ContextSnap.Buffer

/-- What a computation with a meaning never meets. -/
inductive Fault where
  | outOfRange
  | endless
  deriving DecidableEq, Repr

section

variable {α : Type} {data front back : List α} {position count : Nat} {x : α}

def read (data : List α) (position : Nat) : Except Fault α :=
  match data[position]? with
  | some x => .ok x
  | none => .error .outOfRange

/-- The elements of `[data + position, data + position + count)`. -/
def readMany (data : List α) (position count : Nat) : Except Fault (List α) :=
  if position + count ≤ data.length then .ok ((data.drop position).take count)
  else .error .outOfRange

theorem read_of_lt (h : position < data.length) : read data position = .ok data[position] := by
  simp [read, List.getElem?_eq_getElem h]

theorem read_of_le (h : data.length ≤ position) : read data position = .error .outOfRange := by
  simp [read, List.getElem?_eq_none h]

theorem read_eq_ok : read data position = .ok x ↔ data[position]? = some x := by
  rw [read]
  cases data[position]? <;> simp

theorem read_append_right :
    read (front ++ back) (front.length + position) = read back position := by
  simp [read, List.getElem?_append_right]

theorem read_append_length : read (front ++ x :: back) front.length = .ok x := by
  simp [read]

@[simp]
theorem read_cons_zero : read (x :: back) 0 = .ok x := rfl

@[simp]
theorem read_cons_succ : read (x :: back) (position + 1) = read back position := rfl

theorem readMany_of_le (h : position + count ≤ data.length) :
    readMany data position count = .ok ((data.drop position).take count) :=
  if_pos h

theorem readMany_append_right :
    readMany (front ++ back) (front.length + position) count = readMany back position count := by
  simp only [readMany, List.length_append, Nat.add_assoc, Nat.add_le_add_iff_left, List.drop_append,
    List.drop_of_length_le (Nat.le_add_right front.length position), List.nil_append,
    Nat.add_sub_cancel_left]

@[simp]
theorem readMany_cons_succ :
    readMany (x :: back) (position + 1) count = readMany back position count := by
  simp only [readMany, List.length_cons, List.drop_succ_cons]
  congr 1
  simp only [eq_iff_iff]
  omega

@[simp]
theorem readMany_append_left : readMany (front ++ back) 0 front.length = .ok front := by
  rw [readMany_of_le (by simp), List.drop_zero, List.take_left]

theorem readMany_append_length {middle : List α} :
    readMany (front ++ (middle ++ back)) front.length middle.length = .ok middle := by
  rw [← Nat.add_zero front.length, readMany_append_right, readMany_append_left]

end

/-! ### Little-endian numbers -/

def littleEndian16 (low high : UInt8) : Nat := low.toNat ||| (high.toNat <<< 8)

theorem littleEndian16_eq (low high : UInt8) :
    littleEndian16 low high = low.toNat + 256 * high.toNat := by
  have hlow : low.toNat < 2 ^ 8 := low.toNat_lt
  rw [littleEndian16, Nat.or_comm, ← Nat.shiftLeft_add_eq_or_of_lt hlow, Nat.shiftLeft_eq]
  omega

/-- The two bytes of a number below 2^16. -/
def bytes16 (n : Nat) : Bytes := [n.toUInt8, (n / 256).toUInt8]

theorem littleEndian16_bytes16 {n : Nat} (h : n < 65536) :
    littleEndian16 n.toUInt8 (n / 256).toUInt8 = n := by
  rw [littleEndian16_eq]
  simp only [Nat.toUInt8_eq, UInt8.toNat_ofNat']
  omega

theorem bytes16_littleEndian16 (low high : UInt8) :
    bytes16 (littleEndian16 low high) = [low, high] := by
  have hlow := low.toNat_lt
  have hhigh := high.toNat_lt
  rw [bytes16, littleEndian16_eq]
  simp only [List.cons.injEq, and_true, ← UInt8.toNat_inj, Nat.toUInt8_eq, UInt8.toNat_ofNat']
  omega

end ContextSnap.Buffer
