import NetReactor.Address
/-!
Addresses in the storage of the kernel. What is written of an address are a few numbers, one after another, and the
rest of the storage is blank. They are all that is read, and a storage without a known family is refused.
-/
namespace NetReactor

namespace Bytes

variable {index width number : Nat}

theorem getElem?_littleEndian (within : index < width) :
    (littleEndian width number)[index]? = some (UInt8.ofNat (number / Nat.pow 256 index)) := by
  induction width generalizing index number with
  | zero => omega
  | succ width ih =>
    cases index with
    | zero => simp [littleEndian]
    | succ index =>
      have split : 256 * Nat.pow 256 index = Nat.pow 256 (index + 1) := Nat.mul_comm _ _
      rw [littleEndian, List.getElem?_cons_succ, ih (by omega), Nat.div_div_eq_div_mul, split]

theorem getElem?_bigEndian (within : index < width) :
    (bigEndian width number)[index]? = some (UInt8.ofNat (number / Nat.pow 256 (width - 1 - index))) := by
  rw [bigEndian, List.getElem?_reverse (by simpa), length_littleEndian]
  exact getElem?_littleEndian (by omega)

theorem ofLittleEndian_lt (bytes : Bytes) : ofLittleEndian bytes < Nat.pow 256 bytes.length := by
  have same := congrArg ofLittleEndian (littleEndian_ofLittleEndian bytes)
  rw [ofLittleEndian_littleEndian] at same
  rw [← same]
  exact Nat.mod_lt _ (Nat.pow_pos (by decide))

end Bytes

def Family.length : Family → Nat
  | .v4 => 16
  | .v6 => 28

namespace Address

variable {address : Address} {storage before rest : Bytes} {index : Nat}

inductive Order where
  | most
  | least

structure Part where
  first : Nat
  width : Nat
  order : Order
  number : Nat

namespace Part

variable {part : Part} {parts : List Part}

def encoded (part : Part) : Bytes :=
  match part.order with
  | .most => Bytes.bigEndian part.width part.number
  | .least => Bytes.littleEndian part.width part.number

def bytes (part : Part) (storage : Bytes) : Bytes := field storage part.first part.width

def value (part : Part) (bytes : Bytes) : Nat :=
  match part.order with
  | .most => Bytes.ofBigEndian bytes
  | .least => Bytes.ofLittleEndian bytes

def digit (part : Part) (index : Nat) : Nat :=
  match part.order with
  | .most => part.width - 1 - index
  | .least => index

def Stands (part : Part) (storage : Bytes) : Prop :=
  ∀ index < part.width, storage[part.first + index]? = some (UInt8.ofNat (part.number / Nat.pow 256 (part.digit index)))

def Covers (part : Part) (index : Nat) : Prop := part.first ≤ index ∧ index < part.first + part.width

@[simp] theorem length_encoded (part : Part) : part.encoded.length = part.width := by
  unfold encoded
  split <;> simp

theorem getElem?_encoded (within : index < part.width) :
    part.encoded[index]? = some (UInt8.ofNat (part.number / Nat.pow 256 (part.digit index))) := by
  unfold encoded digit
  split
  · exact Bytes.getElem?_bigEndian within
  · exact Bytes.getElem?_littleEndian within

/-- A number stands where it is read. -/
theorem bytes_of_value (sized : (part.bytes storage).length = part.width)
    (same : part.value (part.bytes storage) = part.number) : part.bytes storage = part.encoded := by
  rw [encoded, ← same, value, ← sized]
  cases part.order with
  | most => exact (Bytes.bigEndian_ofBigEndian _).symm
  | least => exact (Bytes.littleEndian_ofLittleEndian _).symm

theorem value_lt (sized : (part.bytes storage).length = part.width) :
    part.value (part.bytes storage) < Nat.pow 256 part.width := by
  rw [← sized]
  unfold value
  cases part.order with
  | most =>
    rw [← List.length_reverse]
    exact Bytes.ofLittleEndian_lt _
  | least => exact Bytes.ofLittleEndian_lt _

theorem stands_of_bytes (h : part.bytes storage = part.encoded) : part.Stands storage := by
  intro index within
  rw [← getElem?_encoded within, ← h, bytes, field, List.getElem?_take_of_lt within, List.getElem?_drop]

/-- The parts stand one after another. -/
def Placed : Nat → List Part → Prop
  | _, [] => True
  | start, part :: parts => part.first = start ∧ Placed (start + part.width) parts

theorem Placed.bytes (placed : Placed before.length parts) :
    ∀ part ∈ parts, part.bytes (before ++ parts.flatMap encoded ++ rest) = part.encoded := by
  induction parts generalizing before with
  | nil => simp
  | cons part parts ih =>
    obtain ⟨first, later⟩ := placed
    refine List.forall_mem_cons.mpr ⟨?_, ?_⟩
    · rw [Part.bytes, field, first]
      simp
    -- The later parts are placed after the first one, which counts among what stands before them.
    · rw [← length_encoded part, ← List.length_append] at later
      simpa using ih later

/-- A place that no part covers is beyond all of them. -/
theorem Placed.beyond {start : Nat} (placed : Placed start parts) (after : start ≤ index)
    (free : ∀ part ∈ parts, ¬ part.Covers index) : start + (parts.flatMap encoded).length ≤ index := by
  induction parts generalizing start with
  | nil => simpa
  | cons part parts ih =>
    obtain ⟨first, later⟩ := placed
    obtain ⟨own, others⟩ := List.forall_mem_cons.mp free
    have past : start + part.width ≤ index := by
      simp only [Covers, first] at own
      omega
    have rest := ih later past others
    simp only [List.flatMap_cons, List.length_append, length_encoded]
    omega

end Part

def parts (address : Address) : List Part :=
  match address with
  | .v4 ip port => [⟨0, 2, .least, Family.v4.domain⟩, ⟨2, 2, .most, port.toNat⟩, ⟨4, 4, .most, ip.toNat⟩]
  | .v6 ip port flow scope =>
    [⟨0, 2, .least, Family.v6.domain⟩, ⟨2, 2, .most, port.toNat⟩, ⟨4, 4, .least, flow.toNat⟩,
      ⟨8, 16, .most, ip.toNat⟩, ⟨24, 4, .least, scope.toNat⟩]

theorem placed_parts (address : Address) : Part.Placed 0 address.parts := by
  cases address with
  | v4 => exact ⟨rfl, rfl, rfl, trivial⟩
  | v6 => exact ⟨rfl, rfl, rfl, rfl, rfl, trivial⟩

theorem length_encode (address : Address) : address.encode.length = address.family.length := by
  cases address <;> simp [encode, family, Family.length]

theorem storage_eq_encode (address : Address) :
    address.storage = address.encode ++ Bytes.zeros (storageSize - address.family.length) := by
  have fits : address.encode.length ≤ storageSize := by
    rw [length_encode]
    cases address <;> simp [family, Family.length, storageSize]
  rw [storage, Bytes.overlay, Bytes.length_zeros, List.take_of_length_le fits, length_encode, Bytes.zeros,
    List.drop_replicate, ← Bytes.zeros]

/-- A storage that was written holds the numbers, and is blank after them. -/
theorem storage_eq (address : Address) : ∃ count, address.storage =
    address.parts.flatMap Part.encoded ++ Bytes.zeros count := by
  cases address with
  | v4 ip port =>
    refine ⟨8 + 112, ?_⟩
    rw [Bytes.zeros, ← List.replicate_append_replicate, storage_eq_encode]
    simp [encode, parts, Part.encoded, family, Bytes.zeros, storageSize, Family.length]
  | v6 ip port flow scope =>
    refine ⟨100, ?_⟩
    rw [storage_eq_encode]
    simp [encode, parts, Part.encoded, family, storageSize, Family.length]

theorem length_storage (address : Address) : address.storage.length = storageSize := by
  rw [storage, Bytes.length_overlay, Bytes.length_zeros]

theorem bytes_storage (address : Address) : ∀ part ∈ address.parts, part.bytes address.storage = part.encoded := by
  obtain ⟨count, same⟩ := storage_eq address
  have placed : Part.Placed (List.length ([] : Bytes)) address.parts := placed_parts address
  have written := @Part.Placed.bytes [] (Bytes.zeros count) address.parts placed
  rwa [List.nil_append, ← same] at written

theorem storage_blank (address : Address) (within : index < storageSize)
    (free : ∀ part ∈ address.parts, ¬ part.Covers index) : address.storage[index]? = some 0 := by
  obtain ⟨count, same⟩ := storage_eq address
  have beyond := (placed_parts address).beyond (Nat.zero_le index) free
  have length := length_storage address
  rw [same, List.length_append, Bytes.length_zeros] at length
  rw [same, List.getElem?_append_right (by omega), Bytes.zeros, List.getElem?_replicate_of_lt (by omega)]

def familyNumber (storage : Bytes) : Nat := Bytes.ofLittleEndian (field storage 0 2)

theorem decode_v4 (known : familyNumber storage = Family.v4.domain) :
    decode storage = .ok (.v4 (UInt32.ofNat (Bytes.ofBigEndian (field storage 4 4)))
      (UInt16.ofNat (Bytes.ofBigEndian (field storage 2 2)))) := if_pos known

theorem decode_v6 (known : familyNumber storage = Family.v6.domain) :
    decode storage = .ok (.v6 (BitVec.ofNat 128 (Bytes.ofBigEndian (field storage 8 16)))
      (UInt16.ofNat (Bytes.ofBigEndian (field storage 2 2)))
      (UInt32.ofNat (Bytes.ofLittleEndian (field storage 4 4)))
      (UInt32.ofNat (Bytes.ofLittleEndian (field storage 24 4)))) := by
  have other : familyNumber storage ≠ Family.v4.domain := by
    rw [known]
    decide
  exact (if_neg other).trans (if_pos known)

theorem decode_unknown (unknown : ∀ family : Family, familyNumber storage ≠ family.domain) :
    decode storage = .error .invalidAddress := (if_neg (unknown .v4)).trans (if_neg (unknown .v6))

theorem decode_known {family : Family} (known : familyNumber storage = family.domain) :
    ∃ address, decode storage = .ok address := by
  cases family with
  | v4 => exact ⟨_, decode_v4 known⟩
  | v6 => exact ⟨_, decode_v6 known⟩

theorem familyNumber_of_bytes (h : ∀ part ∈ address.parts, part.bytes storage = part.encoded) :
    familyNumber storage = address.family.domain := by
  cases address with
  | v4 =>
    have first : field storage 0 2 = Bytes.littleEndian 2 2 := h _ List.mem_cons_self
    rw [familyNumber, first]
    rfl
  | v6 =>
    have first : field storage 0 2 = Bytes.littleEndian 2 10 := h _ List.mem_cons_self
    rw [familyNumber, first]
    rfl

/-- An address is read wherever its numbers stand. -/
theorem decode_of_bytes (h : ∀ part ∈ address.parts, part.bytes storage = part.encoded) :
    decode storage = .ok address := by
  have known := familyNumber_of_bytes h
  cases address with
  | v4 ip port =>
    simp only [parts, List.forall_mem_cons, Part.bytes, Part.encoded] at h
    obtain ⟨-, stored, host, -⟩ := h
    have port_eq : port.toNat % Nat.pow 256 2 = port.toNat := Nat.mod_eq_of_lt port.toNat_lt
    have ip_eq : ip.toNat % Nat.pow 256 4 = ip.toNat := Nat.mod_eq_of_lt ip.toNat_lt
    rw [decode_v4 known, stored, host, Bytes.ofBigEndian_bigEndian, Bytes.ofBigEndian_bigEndian, port_eq, ip_eq,
      UInt16.ofNat_toNat, UInt32.ofNat_toNat]
  | v6 ip port flow scope =>
    simp only [parts, List.forall_mem_cons, Part.bytes, Part.encoded] at h
    obtain ⟨-, stored, info, host, zone, -⟩ := h
    have port_eq : port.toNat % Nat.pow 256 2 = port.toNat := Nat.mod_eq_of_lt port.toNat_lt
    have flow_eq : flow.toNat % Nat.pow 256 4 = flow.toNat := Nat.mod_eq_of_lt flow.toNat_lt
    have ip_eq : ip.toNat % Nat.pow 256 16 = ip.toNat := Nat.mod_eq_of_lt ip.isLt
    have scope_eq : scope.toNat % Nat.pow 256 4 = scope.toNat := Nat.mod_eq_of_lt scope.toNat_lt
    rw [decode_v6 known, stored, info, host, zone, Bytes.ofBigEndian_bigEndian, Bytes.ofBigEndian_bigEndian,
      Bytes.ofLittleEndian_littleEndian, Bytes.ofLittleEndian_littleEndian, port_eq, flow_eq, ip_eq, scope_eq,
      UInt16.ofNat_toNat, UInt32.ofNat_toNat, UInt32.ofNat_toNat, BitVec.ofNat_toNat, BitVec.setWidth_eq]

theorem parts_inside (address : Address) : ∀ part ∈ address.parts, part.first + part.width ≤ storageSize := by
  cases address <;> simp [parts, storageSize]

/-- The numbers of an address that was read are those in its storage, as far as they have bytes for them. -/
theorem numbers_of_decode (h : decode storage = .ok address) :
    ∀ part ∈ address.parts, part.number = part.value (part.bytes storage) % Nat.pow 256 part.width := by
  by_cases known : ∃ family : Family, familyNumber storage = family.domain
  · obtain ⟨family, known⟩ := known
    have number : family.domain = familyNumber storage % Nat.pow 256 2 := by
      rw [known]
      cases family <;> rfl
    cases family with
    | v4 =>
      rw [decode_v4 known] at h
      cases h
      simp only [parts, List.forall_mem_cons]
      exact ⟨number, rfl, rfl, by simp⟩
    | v6 =>
      rw [decode_v6 known] at h
      cases h
      simp only [parts, List.forall_mem_cons]
      exact ⟨number, rfl, rfl, rfl, rfl, by simp⟩
  · rw [decode_unknown (not_exists.mp known)] at h
    cases h

theorem bytes_of_decode (sized : storage.length = storageSize) (h : decode storage = .ok address) :
    ∀ part ∈ address.parts, part.bytes storage = part.encoded := by
  intro part mem
  have length : (part.bytes storage).length = part.width := by
    have inside := parts_inside address part mem
    rw [Part.bytes, field, List.length_take, List.length_drop]
    omega
  refine Part.bytes_of_value length ?_
  rw [numbers_of_decode h part mem, Nat.mod_eq_of_lt (Part.value_lt length)]

structure Written (address : Address) : Prop where
  length : address.encode.length = address.family.length
  padded : address.storage = address.encode ++ Bytes.zeros (storageSize - address.family.length)
  family : familyNumber address.storage = address.family.domain
  stands : ∀ part ∈ address.parts, part.Stands address.storage
  blank : ∀ index < storageSize, (∀ part ∈ address.parts, ¬ part.Covers index) → address.storage[index]? = some 0
  decoded : decode address.storage = .ok address

structure Readable (storage : Bytes) : Prop where
  refused_iff : decode storage = .error .invalidAddress ↔ ∀ family : Family, familyNumber storage ≠ family.domain
  failure : ∀ failure, decode storage = .error failure → failure = .invalidAddress
  -- The address that is read is the one whose numbers have the same bytes.
  ok_iff : ∀ address, decode storage = .ok address ↔
    ∀ part ∈ address.parts, part.bytes address.storage = part.bytes storage

theorem written (address : Address) : Written address where
  length := length_encode address
  padded := storage_eq_encode address
  family := familyNumber_of_bytes (bytes_storage address)
  stands part mem := Part.stands_of_bytes (bytes_storage address part mem)
  blank _ within free := storage_blank address within free
  decoded := decode_of_bytes (bytes_storage address)

theorem readable (sized : storage.length = storageSize) : Readable storage where
  refused_iff := by
    refine ⟨fun refused family known => ?_, decode_unknown⟩
    obtain ⟨address, read⟩ := decode_known known
    cases refused.symm.trans read
  failure failure refused := by
    by_cases known : ∃ family : Family, familyNumber storage = family.domain
    · obtain ⟨family, known⟩ := known
      obtain ⟨address, read⟩ := decode_known known
      cases refused.symm.trans read
    · exact (Except.error.inj ((decode_unknown (not_exists.mp known)).symm.trans refused)).symm
  ok_iff address := by
    constructor
    · intro h part mem
      rw [bytes_storage address part mem, bytes_of_decode sized h part mem]
    · intro h
      exact decode_of_bytes fun part mem => (h part mem).symm.trans (bytes_storage address part mem)

/-- Every address is written with all of its numbers in their places, and read back. Every storage is read as the
address whose numbers it holds, or refused because of its family. -/
theorem codec_faithful (address : Address) (sized : storage.length = storageSize) :
    Written address ∧ Readable storage :=
  ⟨written address, readable sized⟩

def linkLocal : Address := .v6 (BitVec.ofNat 128 0xfe80000000000000000000000000002a) 8080 0x01020304 5

def littered : Bytes := linkLocal.encode ++ List.replicate 100 255

theorem codec_faithful_littered : littered.length = storageSize ∧ Written linkLocal ∧ Readable littered ∧
    decode littered = .ok linkLocal ∧ littered ≠ linkLocal.storage := by
  have sized : littered.length = storageSize := by decide +kernel
  obtain ⟨written, readable⟩ := codec_faithful linkLocal sized
  exact ⟨sized, written, readable, (readable.ok_iff linkLocal).mpr (by decide +kernel), by decide +kernel⟩

end Address
end NetReactor
