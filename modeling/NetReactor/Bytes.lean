/-!
Byte strings, and numbers of a fixed width inside them. `overlay` is what writing in place does to a
buffer: it never changes the length. A number of `width` bytes reads back from either byte order.
-/
namespace NetReactor

abbrev Bytes := List UInt8

namespace Bytes

def zeros (count : Nat) : Bytes := List.replicate count 0

/-- The buffer after `fresh` was written over its start; what does not fit is lost. -/
def overlay (buffer fresh : Bytes) : Bytes :=
  fresh.take buffer.length ++ buffer.drop fresh.length

def slice? (bytes : Bytes) (first past : Nat) : Option Bytes :=
  if first ≤ past ∧ past ≤ bytes.length then some ((bytes.drop first).take (past - first)) else none

def littleEndian : (width : Nat) → (number : Nat) → Bytes
  | 0, _ => []
  | width + 1, number => UInt8.ofNat number :: littleEndian width (number / 256)

def ofLittleEndian : Bytes → Nat
  | [] => 0
  | low :: high => low.toNat + 256 * ofLittleEndian high

def bigEndian (width number : Nat) : Bytes := (littleEndian width number).reverse

def ofBigEndian (bytes : Bytes) : Nat := ofLittleEndian bytes.reverse

@[simp] theorem length_zeros (count : Nat) : (zeros count).length = count := by
  simp [zeros]

@[simp] theorem length_overlay (buffer fresh : Bytes) :
    (overlay buffer fresh).length = buffer.length := by
  simp [overlay]; omega

@[simp] theorem overlay_nil (buffer : Bytes) : overlay buffer [] = buffer := by
  simp [overlay]

/-- As much is written over as fits, and as much is gone. -/
theorem overlay_eq (buffer fresh : Bytes) : overlay buffer fresh =
    fresh.take (min fresh.length buffer.length) ++ buffer.drop (min fresh.length buffer.length) := by
  rw [overlay]
  by_cases fits : fresh.length ≤ buffer.length
  · rw [Nat.min_eq_left fits, List.take_length, List.take_of_length_le fits]
  · have less := Nat.le_of_not_le fits
    rw [Nat.min_eq_right less, List.drop_length, List.drop_of_length_le less]

theorem overlay_eq_of_length_eq {buffer fresh : Bytes} (h : fresh.length = buffer.length) :
    overlay buffer fresh = fresh := by
  rw [overlay, List.take_of_length_le (by omega), List.drop_of_length_le (by omega),
    List.append_nil]

theorem length_of_slice? {bytes part : Bytes} {first past : Nat}
    (h : bytes.slice? first past = some part) : part.length = past - first := by
  unfold slice? at h
  split at h
  · cases h; simp; omega
  · cases h

theorem slice?_append (before part after : Bytes) :
    slice? (before ++ part ++ after) before.length (before.length + part.length) = some part := by
  rw [slice?, if_pos (by simp)]
  simp

@[simp] theorem length_littleEndian (width number : Nat) :
    (littleEndian width number).length = width := by
  induction width generalizing number with
  | zero => rfl
  | succ width ih => simp [littleEndian, ih]

@[simp] theorem length_bigEndian (width number : Nat) :
    (bigEndian width number).length = width := by
  simp [bigEndian]

/-- Reading back what was written gives the number modulo the width. -/
theorem ofLittleEndian_littleEndian (width number : Nat) :
    ofLittleEndian (littleEndian width number) = number % Nat.pow 256 width := by
  induction width generalizing number with
  | zero => exact (Nat.mod_one number).symm
  | succ width ih =>
    have split : Nat.pow 256 (width + 1) = 256 * Nat.pow 256 width := Nat.mul_comm _ _
    simp only [littleEndian, ofLittleEndian, ih, UInt8.toNat_ofNat', split]
    exact (Nat.mod_mul).symm

theorem ofBigEndian_bigEndian (width number : Nat) :
    ofBigEndian (bigEndian width number) = number % Nat.pow 256 width := by
  simp [ofBigEndian, bigEndian, ofLittleEndian_littleEndian]

/-- Writing back what was read gives the same bytes. -/
theorem littleEndian_ofLittleEndian (bytes : Bytes) :
    littleEndian bytes.length (ofLittleEndian bytes) = bytes := by
  induction bytes with
  | nil => rfl
  | cons low high ih =>
    have small : low.toNat < 256 := low.toNat_lt
    have rest : (low.toNat + 256 * ofLittleEndian high) / 256 = ofLittleEndian high := by omega
    have first : UInt8.ofNat (low.toNat + 256 * ofLittleEndian high) = low := by
      apply UInt8.toNat.inj
      rw [UInt8.toNat_ofNat']
      omega
    simp only [List.length_cons, ofLittleEndian, littleEndian, rest, first, ih]

theorem bigEndian_ofBigEndian (bytes : Bytes) :
    bigEndian bytes.length (ofBigEndian bytes) = bytes := by
  have h := littleEndian_ofLittleEndian bytes.reverse
  rw [List.length_reverse] at h
  simp [bigEndian, ofBigEndian, h]

end Bytes
end NetReactor
