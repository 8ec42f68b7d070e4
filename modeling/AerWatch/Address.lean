import AerWatch.Numeral

/-!
# Addresses of PCI functions

A function is addressed by domain, bus, device and function number and written `DDDD:BB:DD.F`, all but
the last in hexadecimal. `parse?` reads the written form, `ofSlot` unpacks the slot value of a device
table, and addresses are ordered by their numbers from domain to function.
-/

namespace AerWatch

/-- The place of a PCI function in the platform. -/
structure Address where
  domain : UInt32
  bus : UInt8
  device : UInt8
  function : UInt8
deriving DecidableEq, Inhabited

namespace Address

/-- Unpacks the slot value of a device table, which names no domain: the bus stands above the low
byte, whose five high bits are the device and whose three low bits are the function. -/
def ofSlot (slot : UInt32) : Address where
  domain := 0
  bus := (slot >>> 8).toUInt8
  device := ((slot >>> 3) &&& 0x1f).toUInt8
  function := (slot &&& 0x07).toUInt8

/-- The written form as characters. -/
def chars (a : Address) : List Char :=
  Numeral.hex 4 a.domain.toNat ++ ':' :: Numeral.hex 2 a.bus.toNat ++ ':' ::
    Numeral.hex 2 a.device.toNat ++ '.' :: Nat.toDigits 10 a.function.toNat

/-- The written form `DDDD:BB:DD.F`. -/
def text (a : Address) : String := String.ofList a.chars

instance : ToString Address := ⟨text⟩

/-- Device numbers have five bits and function numbers three. -/
def InRange (a : Address) : Prop := a.device ≤ 0x1f ∧ a.function ≤ 0x07

instance (a : Address) : Decidable a.InRange := inferInstanceAs (Decidable (_ ∧ _))

/-- Reads the device and function numbers, which the first point parts. -/
def parseSlot? (cs : List Char) : Option (Nat × Nat) :=
  match cs.dropWhile (· != '.') with
  | [] => none
  | _ :: after => do
    let device ← Numeral.parse? 16 UInt8.size (cs.takeWhile (· != '.'))
    let function ← Numeral.parse? 10 UInt8.size after
    return (device, function)

/-- Reads the three fields of a written address. -/
def parseFields? (domain bus slot : List Char) : Option Address := do
  let domain ← Numeral.parse? 16 UInt32.size domain
  let bus ← Numeral.parse? 16 UInt8.size bus
  let (device, function) ← parseSlot? slot
  return ⟨.ofNat domain, .ofNat bus, .ofNat device, .ofNat function⟩

/-- Reads a written address. Its numbers may have any number of digits, but must be in range. -/
def parse? (s : String) : Option Address :=
  match s.toList.splitOn ':' with
  | [domain, bus, slot] => (parseFields? domain bus slot).filter (·.InRange)
  | _ => none

theorem inRange_of_parse? {s : String} {a : Address} (h : parse? s = some a) : a.InRange := by
  unfold parse? at h
  split at h
  · simpa using (Option.filter_eq_some_iff.mp h).2
  · exact absurd h (by simp)

/-- A number that orders addresses by domain, bus, device and function. -/
def key (a : Address) : Nat :=
  ((a.domain.toNat * 256 + a.bus.toNat) * 256 + a.device.toNat) * 256 + a.function.toNat

theorem key_injective {a b : Address} (h : a.key = b.key) : a = b := by
  obtain ⟨ad, ab, av, af⟩ := a
  obtain ⟨bd, bb, bv, bf⟩ := b
  have h1 := ab.toNat_lt
  have h2 := bb.toNat_lt
  have h3 := av.toNat_lt
  have h4 := bv.toNat_lt
  have h5 := af.toNat_lt
  have h6 := bf.toNat_lt
  simp only [key] at h
  have hd : ad.toNat = bd.toNat := by omega
  have hb : ab.toNat = bb.toNat := by omega
  have hv : av.toNat = bv.toNat := by omega
  have hf : af.toNat = bf.toNat := by omega
  simp [← UInt32.toNat_inj, ← UInt8.toNat_inj, hd, hb, hv, hf]

/-- Addresses in increasing order. -/
def sort (as : List Address) : List Address := as.mergeSort (fun a b => a.key ≤ b.key)

theorem sort_perm (as : List Address) : (sort as).Perm as := List.mergeSort_perm ..

end Address

end AerWatch
