/-!
# Byte strings

`littleEndian` and `bytesOf` read and write numbers as bytes, the least one first. `overwrite` changes
bytes in place and makes a byte string longer where it has to.
-/

namespace AerWatch

/-- The number written by bytes, the least one first. -/
def littleEndian : List UInt8 → Nat
  | [] => 0
  | b :: rest => b.toNat + 256 * littleEndian rest

/-- The `count` low bytes of a number, the least one first. -/
def bytesOf : Nat → Nat → List UInt8
  | 0, _ => []
  | count + 1, n => .ofNat n :: bytesOf count (n / 256)

@[simp] theorem length_bytesOf (count n : Nat) : (bytesOf count n).length = count := by
  induction count generalizing n with
  | zero => rfl
  | succ count ih => simp [bytesOf, ih]

/-- Stores bytes from `start` on. A byte string that is too short is filled up with zeros first. -/
def overwrite (bytes : List UInt8) (start : Nat) (data : List UInt8) : List UInt8 :=
  let grown := bytes.rightpad (start + data.length) 0
  grown.take start ++ data ++ grown.drop (start + data.length)

theorem length_overwrite (bytes : List UInt8) (start : Nat) (data : List UInt8) :
    (overwrite bytes start data).length = max bytes.length (start + data.length) := by
  simp only [overwrite, List.rightpad, List.length_append, List.length_take, List.length_drop,
    List.length_replicate]
  omega

end AerWatch
