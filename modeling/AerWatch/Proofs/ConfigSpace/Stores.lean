import AerWatch.ConfigSpace
import Mathlib.Algebra.BigOperators.Group.Finset.Basic
import Mathlib.Algebra.BigOperators.Ring.Finset
import Mathlib.Data.List.Induction

/-!
# Stores and later reads

What a space in memory holds after a sequence of stores of one, two or four bytes, which may overlap,
be unaligned and go past the end. Each byte is that of the last store that covers it, or else what it
was before, and zero where the space has grown. Bytes past the end count as zero here, so that a store
is an update of a function from places to bytes.
-/

namespace AerWatch

section Bytes

variable (bytes data : List UInt8) (start i : Nat)

/-- Filling up with zeros changes no byte. -/
theorem getD_rightpad (size : Nat) : (bytes.rightpad size 0).getD i 0 = bytes.getD i 0 := by
  rw [List.rightpad, List.getD_eq_getElem?_getD, List.getD_eq_getElem?_getD, List.getElem?_append]
  split_ifs with h
  · rfl
  · rw [List.getElem?_replicate, List.getElem?_eq_none (by omega)]
    split_ifs <;> rfl

theorem getD_overwrite :
    (overwrite bytes start data).getD i 0 =
      if start ≤ i ∧ i < start + data.length then data.getD (i - start) 0 else bytes.getD i 0 := by
  rw [← getD_rightpad bytes i (start + data.length)]
  have hlength : start + data.length ≤ (bytes.rightpad (start + data.length) 0).length := by
    simp only [List.rightpad, List.length_append, List.length_replicate]
    omega
  unfold overwrite
  generalize bytes.rightpad (start + data.length) 0 = grown at hlength
  have hfront : (grown.take start).length = start := List.length_take_of_le (by omega)
  simp only [List.getD_eq_getElem?_getD, List.getElem?_append, List.length_append, hfront]
  -- in front of the data, in the data, behind it
  split_ifs with hdata hstart hcovered hcovered
  · omega
  · rw [List.getElem?_take_of_lt hstart]
  · rfl
  · omega
  · omega
  · rw [List.getElem?_drop, Nat.add_sub_cancel' (by omega)]

theorem getD_bytesOf (count n : Nat) :
    (bytesOf count n).getD i 0 = if i < count then .ofNat (n / 256 ^ i) else 0 := by
  induction count generalizing i n with
  | zero => simp [bytesOf]
  | succ count ih =>
    cases i with
    | zero => simp [bytesOf]
    | succ i =>
      rw [bytesOf, List.getD_cons_succ, ih, Nat.div_div_eq_div_mul, ← Nat.pow_succ']
      simp

theorem littleEndian_lt (bs : List UInt8) : littleEndian bs < 256 ^ bs.length := by
  induction bs with
  | nil => simp [littleEndian]
  | cons b rest ih =>
    have := b.toNat_lt
    simp only [littleEndian, List.length_cons, Nat.pow_succ]
    omega

/-- The number written by bytes as a sum. -/
theorem littleEndian_eq_sum :
    littleEndian bytes = ∑ j ∈ Finset.range bytes.length, 256 ^ j * (bytes.getD j 0).toNat := by
  induction bytes with
  | nil => rfl
  | cons b rest ih =>
    rw [littleEndian, ih, List.length_cons, Finset.sum_range_succ', Finset.mul_sum, Nat.add_comm]
    simp [Nat.pow_succ', Nat.mul_assoc]

end Bytes

namespace ConfigSpace

variable (s : ConfigSpace) (offset : UInt16)

/-- What is read of `size` bytes is less than what they can hold. -/
theorem tryRead_lt {size n : Nat} (h : s.tryRead offset size = .ok n) : n < 256 ^ size := by
  unfold tryRead at h
  cases hread : s.read offset size with
  | error e => simp [hread, Except.map] at h
  | ok bytes =>
    have hn : littleEndian bytes.toList = n := by simpa [hread, Except.map] using h
    have hlt := littleEndian_lt bytes.toList
    rwa [hn, Vector.length_toList] at hlt

/-- Nothing is lost of a number that is put into a register of its size. -/
theorem map_map_tryRead {α : Type} {size : Nat} {make : Nat → α} {toNat : α → Nat}
    (h : ∀ n < 256 ^ size, toNat (make n) = n) :
    ((s.tryRead offset size).map make).map toNat = s.tryRead offset size := by
  cases hread : s.tryRead offset size with
  | error e => rfl
  | ok n => exact congrArg Except.ok (h n (s.tryRead_lt offset hread))

end ConfigSpace

/-- A store of a register into a space. -/
inductive Store where
  | byte (offset : UInt16) (value : UInt8)
  | word (offset : UInt16) (value : UInt16)
  | double (offset : UInt16) (value : UInt32)
deriving DecidableEq

namespace Store

/-- The first place that is stored to. -/
def start : Store → Nat
  | byte offset _ | word offset _ | double offset _ => offset.toNat

/-- How many bytes are stored. -/
def size : Store → Nat
  | byte .. => 1
  | word .. => 2
  | double .. => 4

def value : Store → Nat
  | byte _ v => v.toNat
  | word _ v => v.toNat
  | double _ v => v.toNat

/-- The place behind the last one that is stored to. -/
def finish (w : Store) : Nat := w.start + w.size

def covers (w : Store) (i : Nat) : Bool := w.start ≤ i ∧ i < w.finish

/-- The byte stored to a place, the least one first. -/
def byteAt (w : Store) (i : Nat) : UInt8 := .ofNat (w.value / 256 ^ (i - w.start))

/-- What a sequence of stores leaves at a place that held `before`: the byte of the last store that
covers the place. -/
def last (ws : List Store) (before : UInt8) (i : Nat) : UInt8 :=
  match (ws.filter (·.covers i)).getLast? with
  | none => before
  | some w => w.byteAt i

theorem last_concat (ws : List Store) (w : Store) (before : UInt8) (i : Nat) :
    last (ws ++ [w]) before i = if w.covers i then w.byteAt i else last ws before i := by
  unfold last
  rw [List.filter_append]
  by_cases h : w.covers i
  · have hone : [w].filter (·.covers i) = [w] := List.filter_cons_of_pos h
    rw [hone, List.getLast?_concat, if_pos h]
  · have hnone : [w].filter (·.covers i) = [] := List.filter_cons_of_neg h
    rw [hnone, List.append_nil, if_neg h]

end Store

namespace MemorySpace

/-- A space after a store. -/
def store (m : MemorySpace) : Store → MemorySpace
  | .byte offset v => m.write8 offset v
  | .word offset v => m.write16 offset v
  | .double offset v => m.write32 offset v

/-- A space after a sequence of stores. -/
def storeAll (m : MemorySpace) (ws : List Store) : MemorySpace := ws.foldl store m

section Stores

variable (m : MemorySpace) (w : Store) (ws : List Store) (i : Nat)

theorem bytes_store :
    (m.store w).bytes = overwrite m.bytes w.start (bytesOf w.size w.value) := by
  cases w <;> rfl

theorem address_store : (m.store w).address = m.address := by
  cases w <;> rfl

theorem length_store : (m.store w).bytes.length = max m.bytes.length w.finish := by
  rw [bytes_store, length_overwrite, length_bytesOf]
  rfl

/-- A store is an update of the bytes. -/
theorem getD_store :
    (m.store w).bytes.getD i 0 = if w.covers i then w.byteAt i else m.bytes.getD i 0 := by
  rw [bytes_store, getD_overwrite, length_bytesOf]
  by_cases h : w.start ≤ i ∧ i < w.start + w.size
  · have hcovers : w.covers i := decide_eq_true h
    rw [if_pos h, if_pos hcovers, getD_bytesOf, if_pos (by omega), Store.byteAt]
  · have hcovers : ¬ w.covers i := fun hc => h (of_decide_eq_true hc)
    rw [if_neg h, if_neg hcovers]

theorem storeAll_concat : m.storeAll (ws ++ [w]) = (m.storeAll ws).store w := List.foldl_concat ..

theorem address_storeAll : (m.storeAll ws).address = m.address := by
  induction ws using List.reverseRecOn with
  | nil => rfl
  | append_singleton ws w ih => rw [storeAll_concat, address_store, ih]

theorem length_storeAll :
    (m.storeAll ws).bytes.length = (ws.map Store.finish).foldl max m.bytes.length := by
  induction ws using List.reverseRecOn with
  | nil => rfl
  | append_singleton ws w ih =>
    rw [storeAll_concat, length_store, ih, List.map_append, List.foldl_append]
    rfl

theorem getD_storeAll :
    (m.storeAll ws).bytes.getD i 0 = Store.last ws (m.bytes.getD i 0) i := by
  induction ws using List.reverseRecOn with
  | nil => rfl
  | append_singleton ws w ih => rw [storeAll_concat, getD_store, Store.last_concat, ih]

end Stores

section Reads

/-- A read succeeds if it does not go past the end. -/
theorem tryRead_eq (m : MemorySpace) (offset : UInt16) {size : Nat} (hsize : 0 < size) :
    m.toConfigSpace.tryRead offset size =
      if offset.toNat + size ≤ m.bytes.length then
        .ok (∑ j ∈ Finset.range size, 256 ^ j * (m.bytes.getD (offset.toNat + j) 0).toNat)
      else .error (.shortRead m.address offset size (m.bytes.length - offset.toNat)) := by
  split_ifs with h
  · rw [tryRead_toConfigSpace (by omega), littleEndian_eq_sum, List.length_take, List.length_drop,
      Nat.min_eq_left (by omega)]
    refine congrArg Except.ok (Finset.sum_congr rfl fun j hj => ?_)
    rw [Finset.mem_range] at hj
    simp only [List.getD_eq_getElem?_getD, List.getElem?_take_of_lt hj, List.getElem?_drop]
  · rw [tryRead_toConfigSpace_short (by omega)]

/-- After any sequence of stores a space reaches to the furthest end of them, if it did not before, and
each byte is that of the last store that covers it, or else what it was, or zero behind the old end.
A read that does not go past the end gives the number of these bytes, the least one first, and any
other fails with the number of bytes that are left. Nothing of the number is lost in a register, and
the reads that do not fail give zero in place of a failure. -/
theorem reads_of_stores (m : MemorySpace) (ws : List Store) :
    let stored := m.storeAll ws
    let byte := fun i => Store.last ws (m.bytes.getD i 0) i
    let s := stored.toConfigSpace
    stored.bytes.length = (ws.map Store.finish).foldl max m.bytes.length ∧
    (∀ i < stored.bytes.length, stored.bytes[i]? = some (byte i)) ∧
    (∀ offset size, 0 < size → s.tryRead offset size =
      if offset.toNat + size ≤ stored.bytes.length then
        .ok (∑ j ∈ Finset.range size, 256 ^ j * (byte (offset.toNat + j)).toNat)
      else .error (.shortRead m.address offset size (stored.bytes.length - offset.toNat))) ∧
    ∀ offset,
      ((s.tryRead8 offset).map UInt8.toNat = s.tryRead offset 1 ∧
        (s.tryRead16 offset).map UInt16.toNat = s.tryRead offset 2 ∧
        (s.tryRead32 offset).map UInt32.toNat = s.tryRead offset 4) ∧
      (s.read8 offset = match s.tryRead8 offset with | .ok v => v | .error _ => 0) ∧
      (s.read16 offset = match s.tryRead16 offset with | .ok v => v | .error _ => 0) ∧
      (s.read32 offset = match s.tryRead32 offset with | .ok v => v | .error _ => 0) := by
  intro stored byte s
  refine ⟨length_storeAll m ws, fun i hi => ?_, fun offset size hsize => ?_, fun offset =>
    ⟨⟨?_, ?_, ?_⟩, ?_, ?_, ?_⟩⟩
  · have hbyte : stored.bytes.getD i 0 = byte i := getD_storeAll m ws i
    rw [List.getD_eq_getElem?_getD, List.getElem?_eq_getElem hi] at hbyte
    rw [List.getElem?_eq_getElem hi]
    exact congrArg some hbyte
  · rw [tryRead_eq stored offset hsize, address_storeAll]
    simp only [byte, stored, getD_storeAll]
  · exact s.map_map_tryRead offset fun n hn => UInt8.toNat_ofNat_of_lt' hn
  · exact s.map_map_tryRead offset fun n hn => UInt16.toNat_ofNat_of_lt' hn
  · exact s.map_map_tryRead offset fun n hn => UInt32.toNat_ofNat_of_lt' hn
  · rw [ConfigSpace.read8]
    cases s.tryRead8 offset <;> rfl
  · rw [ConfigSpace.read16]
    cases s.tryRead16 offset <;> rfl
  · rw [ConfigSpace.read32]
    cases s.tryRead32 offset <;> rfl

/-- Three stores overlap and go past the end. Of the first one a byte is left in the middle, and
reads past the end fail or give zero. -/
theorem reads_of_overlapping_stores :
    let m : MemorySpace := ⟨⟨0, 3, 0, 0⟩, [1, 2, 3]⟩
    let ws := [Store.double 1 0xd4c3b2a1, .word 0x03 0xf6e5, .byte 7 9, .word 0x01 0x1817]
    let s := (m.storeAll ws).toConfigSpace
    (m.storeAll ws).bytes = [1, 0x17, 0x18, 0xe5, 0xf6, 0, 0, 9] ∧
      s.tryRead 2 4 = .ok 0x00f6e518 ∧ s.tryRead 6 4 = .error (.shortRead ⟨0, 3, 0, 0⟩ 6 4 2) ∧
      s.tryRead 0xffff 1 = .error (.shortRead ⟨0, 3, 0, 0⟩ 0xffff 1 0) ∧ s.read16 6 = 0x0900 ∧
      s.read32 6 = 0 := by
  intro m ws s
  obtain ⟨-, -, hread, -⟩ := reads_of_stores m ws
  have hbytes : (m.storeAll ws).bytes = [1, 0x17, 0x18, 0xe5, 0xf6, 0, 0, 9] := by decide +kernel
  refine ⟨hbytes, ?_, ?_, ?_, by decide +kernel, by decide +kernel⟩
  · rw [hread 2 4 (by decide), hbytes]
    decide +kernel
  · rw [hread 6 4 (by decide), hbytes]
    decide +kernel
  · rw [hread 0xffff 1 (by decide), hbytes]
    decide +kernel

end Reads

end MemorySpace

end AerWatch
