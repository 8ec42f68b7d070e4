import AerWatch.Address
import Mathlib.Tactic.IntervalCases

/-!
# Addresses and their texts

What is written of a number or an address is read back as that number or address, so the name of a
directory and the slot value of a device table each stand for one function.
-/

namespace AerWatch

namespace Numeral

section LetterCase

/-- The letter case of a digit does not matter. -/
theorem digit?_toLower (c : Char) : digit? c.toLower = digit? c := by
  by_cases h : 'A' ≤ c ∧ c ≤ 'Z'
  · have hlow : 65 ≤ c.toNat := h.1
    have hhigh : c.toNat ≤ 90 := h.2
    rw [← Char.ofNat_toNat c]
    generalize c.toNat = n at hlow hhigh
    interval_cases n <;> decide
  · have hlower : c.toLower = c := by
      unfold Char.toLower
      rw [dif_neg]
      exact h
    rw [hlower]

theorem digitStep_toLower (base : Nat) (acc : Option Nat) (c : Char) :
    digitStep base acc c.toLower = digitStep base acc c := by
  unfold digitStep
  rw [digit?_toLower]

theorem foldl_map_toLower (base : Nat) (acc : Option Nat) (cs : List Char) :
    (cs.map Char.toLower).foldl (digitStep base) acc = cs.foldl (digitStep base) acc := by
  rw [List.foldl_map]
  simp only [digitStep_toLower]

end LetterCase

section Digits

theorem digit?_digitChar {d : Nat} (h : d < 16) : digit? d.digitChar = some d := by
  interval_cases d <;> decide

variable {base : Nat}

theorem digitStep_digitChar (hbase : base ≤ 16) {d : Nat} (h : d < base) (n : Nat) :
    digitStep base (some n) d.digitChar = some (n * base + d) := by
  simp only [digitStep, digit?_digitChar (h.trans_le hbase), if_pos h]

/-- The digits of a number, read from the first one on, make up the number. -/
theorem foldl_toDigits (hone : 1 < base) (hbase : base ≤ 16) (n : Nat) :
    (Nat.toDigits base n).foldl (digitStep base) (some 0) = some n := by
  induction n using Nat.strongRecOn with
  | ind n ih =>
    rw [Nat.toDigits_eq_if hone]
    split_ifs with h
    · simpa using digitStep_digitChar hbase h 0
    · have hdiv : n / base < n := Nat.div_lt_self (by omega) hone
      rw [List.foldl_append, ih _ hdiv]
      refine (digitStep_digitChar hbase (Nat.mod_lt n (by omega)) _).trans ?_
      rw [Nat.div_add_mod']

theorem foldl_zeros (hone : 1 < base) {zeros : List Char} (h : ∀ c ∈ zeros, c = '0') :
    zeros.foldl (digitStep base) (some 0) = some 0 := by
  have hstep : digitStep base (some 0) '0' = some 0 := by
    have hzero : digit? '0' = some 0 := rfl
    simp only [digitStep, hzero, if_pos (Nat.zero_lt_of_lt hone), Nat.zero_mul]
  induction zeros with
  | nil => rfl
  | cons c zeros ih =>
    obtain ⟨rfl, hrest⟩ := List.forall_mem_cons.mp h
    rw [List.foldl_cons, hstep, ih hrest]

/-- Zeros in front change nothing. -/
theorem foldl_hex (width n : Nat) : (hex width n).foldl (digitStep 16) (some 0) = some n := by
  have hzeros : ∀ c ∈ List.replicate (width - (Nat.toDigits 16 n).length) '0', c = '0' :=
    fun _ hc => (List.mem_replicate.mp hc).2
  rw [hex, List.leftpad, List.foldl_append, foldl_zeros (by decide) hzeros,
    foldl_toDigits (by decide) le_rfl]

theorem exists_of_mem_toDigits (hone : 1 < base) {n : Nat} {c : Char} (h : c ∈ Nat.toDigits base n) :
    ∃ d < base, c = d.digitChar := by
  induction n using Nat.strongRecOn with
  | ind n ih =>
    rw [Nat.toDigits_eq_if hone] at h
    split_ifs at h with hlt
    · exact ⟨n, hlt, List.mem_singleton.mp h⟩
    · rcases List.mem_append.mp h with h | h
      · exact ih _ (Nat.div_lt_self (by omega) hone) h
      · exact ⟨n % base, Nat.mod_lt n (by omega), List.mem_singleton.mp h⟩

theorem exists_of_mem_hex {width n : Nat} {c : Char} (h : c ∈ hex width n) :
    ∃ d < 16, c = d.digitChar := by
  rcases List.mem_append.mp h with h | h
  · exact ⟨0, by decide, (List.mem_replicate.mp h).2⟩
  · exact exists_of_mem_toDigits (by decide) h

/-- A character that is no digit stands in no number. -/
theorem notMem_toDigits (hone : 1 < base) (hbase : base ≤ 16) {c : Char} (hc : digit? c = none)
    (n : Nat) : c ∉ Nat.toDigits base n := by
  intro h
  obtain ⟨d, hd, rfl⟩ := exists_of_mem_toDigits hone h
  rw [digit?_digitChar (hd.trans_le hbase)] at hc
  exact absurd hc nofun

theorem notMem_hex {c : Char} (hc : digit? c = none) (width n : Nat) : c ∉ hex width n := by
  intro h
  obtain ⟨d, hd, rfl⟩ := exists_of_mem_hex h
  rw [digit?_digitChar hd] at hc
  exact absurd hc nofun

end Digits

section Reading

variable {base bound n : Nat} {cs : List Char}

/-- Digits without a sign are read as they are. -/
theorem parse?_of_foldl (hne : cs ≠ []) (hplus : '+' ∉ cs)
    (h : cs.foldl (digitStep base) (some 0) = some n) (hn : n < bound) :
    parse? base bound cs = some n := by
  cases cs with
  | nil => exact absurd rfl hne
  | cons c rest =>
    have hc : c ≠ '+' := fun hc => hplus (hc ▸ List.mem_cons_self)
    have hdigits : ofDigits? base (c :: rest) = some n := h
    unfold parse?
    split
    · next heq => exact absurd (List.cons.inj heq).1 hc
    · simp only [hdigits, Option.filter_some, hn, decide_true, if_true]

theorem parse?_toDigits (hone : 1 < base) (hbase : base ≤ 16) (hn : n < bound) :
    parse? base bound (Nat.toDigits base n) = some n :=
  parse?_of_foldl Nat.toDigits_ne_nil (notMem_toDigits hone hbase (by decide) n)
    (foldl_toDigits hone hbase n) hn

theorem hex_ne_nil (width n : Nat) : hex width n ≠ [] :=
  List.append_ne_nil_of_right_ne_nil _ Nat.toDigits_ne_nil

theorem parse?_hex (width : Nat) (hn : n < bound) : parse? 16 bound (hex width n) = some n :=
  parse?_of_foldl (hex_ne_nil width n) (notMem_hex (by decide) width n) (foldl_hex width n) hn

end Reading

end Numeral

namespace Address

open Numeral

section Names

/-- Colons part the fields of a name. -/
theorem splitOn_fields {domain bus slot : List Char} (hdomain : ':' ∉ domain) (hbus : ':' ∉ bus)
    (hslot : ':' ∉ slot) :
    (domain ++ ':' :: (bus ++ ':' :: slot)).splitOn ':' = [domain, bus, slot] := by
  rw [List.splitOn_append_cons_self_of_not_mem hdomain,
    List.splitOn_append_cons_self_of_not_mem hbus, List.splitOn_eq_singleton hslot]

/-- The first point parts device and function. -/
theorem parseSlot?_append {device : List Char} (h : '.' ∉ device) (function : List Char) :
    parseSlot? (device ++ '.' :: function) = (do
      let d ← Numeral.parse? 16 UInt8.size device
      let f ← Numeral.parse? 10 UInt8.size function
      return (d, f)) := by
  have hdevice : ∀ c ∈ device, (c != '.') = true := fun c hc => bne_iff_ne.mpr fun hc' => h (hc' ▸ hc)
  rw [parseSlot?, List.dropWhile_append_of_pos hdevice, List.takeWhile_append_of_pos hdevice]
  simp only [List.dropWhile_cons, List.takeWhile_cons, bne_self_eq_false, Bool.false_eq_true,
    if_false, List.append_nil]

variable (a : Address)

/-- The part of a name behind the second colon: the numbers of device and function. -/
def slotChars : List Char := hex 2 a.device.toNat ++ '.' :: Nat.toDigits 10 a.function.toNat

theorem toList_text :
    a.text.toList =
      hex 4 a.domain.toNat ++ ':' :: (hex 2 a.bus.toNat ++ ':' :: a.slotChars) := by
  simp [text, chars, slotChars]

theorem colon_notMem_slotChars : ':' ∉ a.slotChars := by
  have hdevice : ':' ∉ hex 2 a.device.toNat := notMem_hex (by decide) _ _
  have hfunction : ':' ∉ Nat.toDigits 10 a.function.toNat :=
    notMem_toDigits (by decide) (by decide) (by decide) _
  simp [slotChars, hdevice, hfunction]

theorem parseSlot?_slotChars :
    parseSlot? a.slotChars = some (a.device.toNat, a.function.toNat) := by
  rw [slotChars, parseSlot?_append (notMem_hex (by decide) _ _), parse?_hex 2 a.device.toNat_lt,
    parse?_toDigits (by decide) (by decide) a.function.toNat_lt]
  rfl

theorem splitOn_text :
    a.text.toList.splitOn ':' = [hex 4 a.domain.toNat, hex 2 a.bus.toNat, a.slotChars] := by
  have hcolon (width n : Nat) : ':' ∉ hex width n := notMem_hex (by decide) width n
  rw [toList_text, splitOn_fields (hcolon _ _) (hcolon _ _) a.colon_notMem_slotChars]

/-- The fields of a name are the numbers of the address, in range or not. -/
theorem parseFields?_text :
    parseFields? (hex 4 a.domain.toNat) (hex 2 a.bus.toNat) a.slotChars = some a := by
  rw [parseFields?, parse?_hex 4 a.domain.toNat_lt, parse?_hex 2 a.bus.toNat_lt,
    parseSlot?_slotChars]
  simp

theorem parse?_text_eq : parse? a.text = if a.InRange then some a else none := by
  rw [parse?, splitOn_text]
  simp only [parseFields?_text, Option.filter_some, decide_eq_true_eq]

theorem parse?_text {a : Address} (h : a.InRange) : parse? a.text = some a := by
  rw [parse?_text_eq, if_pos h]

/-- A name is the name of one address only. -/
theorem text_injective : Function.Injective text := by
  intro a b h
  have hfields := congrArg (fun s : String => s.toList.splitOn ':') h
  simp only [splitOn_text, List.cons.injEq, and_true] at hfields
  obtain ⟨hdomain, hbus, hslot⟩ := hfields
  have hread := parseFields?_text a
  rw [hdomain, hbus, hslot, parseFields?_text b] at hread
  exact (Option.some.inj hread).symm

/-- A name begins with a digit. -/
theorem not_startsWith_text : a.text.startsWith "." = false := by
  have hpoint : '.' ∉ hex 4 a.domain.toNat := notMem_hex (by decide) _ _
  rw [String.startsWith_string_eq_false_iff, toList_text]
  cases hname : hex 4 a.domain.toNat with
  | nil => exact absurd hname (hex_ne_nil _ _)
  | cons c rest =>
    intro h
    obtain rfl : '.' = c := (List.cons_prefix_cons.mp h).1
    exact hpoint (hname ▸ List.mem_cons_self)

end Names

section Slots

/-- The slot value of an address: the bus number, five bits for the device and three for the
function. -/
def slot (a : Address) : Nat := a.bus.toNat * 256 + a.device.toNat * 8 + a.function.toNat

variable {a : Address} (h : a.InRange)
include h

theorem slot_lt : a.slot < UInt32.size := by
  obtain ⟨hdevice, hfunction⟩ := h
  have hbus := a.bus.toNat_lt
  simp only [UInt8.le_iff_toNat_le, UInt8.reduceToNat] at hdevice hfunction
  simp only [slot, UInt32.size]
  omega

/-- A slot value is that of one address only, among those without a domain. -/
theorem ofSlot_slot (hdomain : a.domain = 0) : ofSlot (.ofNat a.slot) = a := by
  have hs : (UInt32.ofNat a.slot).toNat = a.bus.toNat * 256 + a.device.toNat * 8 + a.function.toNat :=
    UInt32.toNat_ofNat_of_lt' (slot_lt h)
  generalize UInt32.ofNat a.slot = s at hs ⊢
  obtain ⟨hdevice, hfunction⟩ := h
  simp only [UInt8.le_iff_toNat_le, UInt8.reduceToNat] at hdevice hfunction
  have hbus := a.bus.toNat_lt
  have hlow₅ (n : Nat) : n &&& 31 = n % 32 := Nat.and_two_pow_sub_one_eq_mod n 5
  have hlow₃ (n : Nat) : n &&& 7 = n % 8 := Nat.and_two_pow_sub_one_eq_mod n 3
  have h₁ : (s >>> 8).toUInt8 = a.bus := by
    rw [← UInt8.toNat_inj]
    simp [hs, Nat.shiftRight_eq_div_pow]
    omega
  have h₂ : ((s >>> 3) &&& 0x1f).toUInt8 = a.device := by
    rw [← UInt8.toNat_inj]
    simp [hs, Nat.shiftRight_eq_div_pow, hlow₅]
    omega
  have h₃ : (s &&& 0x07).toUInt8 = a.function := by
    rw [← UInt8.toNat_inj]
    simp [hs, hlow₃]
    omega
  rw [ofSlot, h₁, h₂, h₃, ← hdomain]

end Slots

end Address

end AerWatch
