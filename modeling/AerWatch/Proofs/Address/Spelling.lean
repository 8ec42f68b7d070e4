import AerWatch.Error
import AerWatch.Proofs.Address.Text
import Mathlib.Data.List.TakeWhile

/-!
# Spellings of an address

Numbers are read in more forms than the one in which they are written: with letters of either case,
with more or fewer zeros in front, and with a plus sign. So an address has one name but many
spellings, and a text is read as an address just when it is one of them.
-/

namespace AerWatch

namespace Numeral

section Letters

/-- The digits of a value: a numeral, or a letter of either case. -/
theorem toNat_of_digit? {c : Char} {d : Nat} (h : digit? c = some d) :
    d < 10 ∧ c.toNat = d + 48 ∨ (10 ≤ d ∧ d < 16) ∧ (c.toNat = d + 87 ∨ c.toNat = d + 55) := by
  have hle {x y : Char} : x ≤ y ↔ x.toNat ≤ y.toNat := Iff.rfl
  unfold digit? at h
  simp only [hle, Char.reduceToNat] at h
  split_ifs at h <;> obtain rfl := Option.some.inj h <;> omega

theorem toLower_of_digit? {c : Char} {d : Nat} (h : digit? c = some d) : c.toLower = d.digitChar := by
  rw [← Char.ofNat_toNat c]
  rcases toNat_of_digit? h with ⟨hd, hc⟩ | ⟨⟨hlow, hhigh⟩, hc | hc⟩ <;> rw [hc] <;>
    interval_cases d <;> decide

/-- Zero has one digit only. -/
theorem eq_of_digit?_eq_zero {c : Char} (h : digit? c = some 0) : c = '0' := by
  have hc : c.toNat = '0'.toNat := by
    rcases toNat_of_digit? h with ⟨-, hc⟩ | ⟨⟨hlow, -⟩, -⟩
    · exact hc
    · exact absurd hlow (by decide)
  rw [← Char.ofNat_toNat c, hc, Char.ofNat_toNat]

end Letters

/-- The digits of a number in a base, with letters of either case and any number of zeros in front. -/
def HasDigits (base n : Nat) (cs : List Char) : Prop :=
  ∃ zeros digits, cs = zeros ++ digits ∧ (∀ c ∈ zeros, c = '0') ∧
    digits.map Char.toLower = Nat.toDigits base n

/-- The ways to spell a number in a base: its digits, perhaps behind a plus sign. -/
def Spells (base n : Nat) (cs : List Char) : Prop :=
  HasDigits base n cs ∨ ∃ digits, cs = '+' :: digits ∧ HasDigits base n digits

section Spelling

variable {base n : Nat} {cs : List Char}

/-- Digits in front are read first. -/
theorem foldl_cons_eq_some_iff {m : Nat} {c : Char} :
    (c :: cs).foldl (digitStep base) (some m) = some n ↔
      ∃ d, digit? c = some d ∧ d < base ∧ cs.foldl (digitStep base) (some (m * base + d)) = some n := by
  have hnone (cs : List Char) : cs.foldl (digitStep base) none = none := by
    induction cs with
    | nil => rfl
    | cons c cs ih => exact ih
  rw [List.foldl_cons]
  cases hd : digit? c with
  | none => simp [digitStep, hd, hnone]
  | some d => by_cases hlt : d < base <;> simp [digitStep, hd, hlt, hnone]

/-- Behind a digit that is not zero every digit counts. -/
theorem toDigits_append_of_foldl (hone : 1 < base) {m : Nat} (hm : 0 < m)
    (h : cs.foldl (digitStep base) (some m) = some n) :
    Nat.toDigits base m ++ cs.map Char.toLower = Nat.toDigits base n := by
  induction cs generalizing m with
  | nil =>
    obtain rfl : m = n := Option.some.inj h
    simp
  | cons c cs ih =>
    obtain ⟨d, hd, hlt, h⟩ := foldl_cons_eq_some_iff.mp h
    have hdigit : Nat.toDigits base m ++ [c.toLower] = Nat.toDigits base (m * base + d) := by
      have happend := Nat.toDigits_append_toDigits hone hm hlt
      rwa [Nat.toDigits_of_lt_base hlt, ← toLower_of_digit? hd, Nat.mul_comm] at happend
    rw [List.map_cons, List.append_cons, hdigit, ih (by positivity) h]

theorem hasDigits_of_foldl (hone : 1 < base) (hne : cs ≠ [])
    (h : cs.foldl (digitStep base) (some 0) = some n) : HasDigits base n cs := by
  induction cs with
  | nil => exact absurd rfl hne
  | cons c cs ih =>
    obtain ⟨d, hd, hlt, hrest⟩ := foldl_cons_eq_some_iff.mp h
    have hc : [c].map Char.toLower = Nat.toDigits base d := by
      rw [Nat.toDigits_of_lt_base hlt, ← toLower_of_digit? hd, List.map_singleton]
    rw [Nat.zero_mul, Nat.zero_add] at hrest
    rcases Nat.eq_zero_or_pos d with rfl | hpos
    · by_cases hcs : cs = []
      · subst hcs
        obtain rfl : 0 = n := Option.some.inj hrest
        exact ⟨[], [c], rfl, by simp, hc⟩
      · obtain ⟨zeros, digits, rfl, hzeros, hdigits⟩ := ih hcs hrest
        exact ⟨c :: zeros, digits, rfl,
          List.forall_mem_cons.mpr ⟨eq_of_digit?_eq_zero hd, hzeros⟩, hdigits⟩
    · refine ⟨[], c :: cs, rfl, by simp, ?_⟩
      rw [← toDigits_append_of_foldl hone hpos hrest, ← hc, ← List.map_append,
        List.singleton_append]

namespace HasDigits

variable (h : HasDigits base n cs)
include h

theorem ne_nil : cs ≠ [] := by
  obtain ⟨zeros, digits, rfl, -, hdigits⟩ := h
  refine List.append_ne_nil_of_right_ne_nil _ fun hnil => Nat.toDigits_ne_nil (b := base) (n := n) ?_
  rw [← hdigits, hnil, List.map_nil]

theorem notMem (hone : 1 < base) (hbase : base ≤ 16) {c : Char} (hc : digit? c = none) : c ∉ cs := by
  obtain ⟨zeros, digits, rfl, hzeros, hdigits⟩ := h
  intro hmem
  rcases List.mem_append.mp hmem with hmem | hmem
  · rw [hzeros c hmem] at hc
    exact absurd hc (by decide)
  · have hlower : c.toLower ∈ Nat.toDigits base n := hdigits ▸ List.mem_map_of_mem hmem
    exact notMem_toDigits hone hbase ((digit?_toLower c).trans hc) n hlower

/-- Letters of either case are read alike, and zeros in front change nothing. -/
theorem foldl_eq (hone : 1 < base) (hbase : base ≤ 16) :
    cs.foldl (digitStep base) (some 0) = some n := by
  obtain ⟨zeros, digits, rfl, hzeros, hdigits⟩ := h
  rw [List.foldl_append, foldl_zeros hone hzeros, ← foldl_map_toLower, hdigits,
    foldl_toDigits hone hbase]

end HasDigits

theorem ofDigits?_eq_some_iff (hone : 1 < base) (hbase : base ≤ 16) :
    ofDigits? base cs = some n ↔ HasDigits base n cs := by
  cases cs with
  | nil => exact ⟨nofun, fun h => absurd rfl h.ne_nil⟩
  | cons c cs => exact ⟨hasDigits_of_foldl hone (List.cons_ne_nil c cs), (·.foldl_eq hone hbase)⟩

/-- A number is read from its spellings and from nothing else. -/
theorem parse?_eq_some_iff {bound : Nat} (hone : 1 < base) (hbase : base ≤ 16) :
    parse? base bound cs = some n ↔ n < bound ∧ Spells base n cs := by
  have hsign {digits : List Char} : ¬HasDigits base n ('+' :: digits) :=
    fun h => h.notMem hone hbase (by decide) List.mem_cons_self
  unfold parse? Spells
  simp only [Option.filter_eq_some_iff, ofDigits?_eq_some_iff hone hbase, decide_eq_true_eq]
  split
  · simp [hsign, and_comm]
  · rename_i hcs
    have hplain : ¬∃ digits, cs = '+' :: digits ∧ HasDigits base n digits :=
      fun ⟨digits, h, _⟩ => hcs digits h
    simp [hplain, and_comm]

theorem Spells.notMem (h : Spells base n cs) (hone : 1 < base) (hbase : base ≤ 16) {c : Char}
    (hplus : c ≠ '+') (hc : digit? c = none) : c ∉ cs := by
  rcases h with h | ⟨digits, rfl, h⟩
  · exact h.notMem hone hbase hc
  · exact List.not_mem_cons_of_ne_of_not_mem hplus (h.notMem hone hbase hc)

theorem Spells.ne_nil (h : Spells base n cs) : cs ≠ [] := by
  rcases h with h | ⟨digits, rfl, -⟩
  · exact h.ne_nil
  · exact List.cons_ne_nil _ _

end Spelling

end Numeral

namespace Address

open Numeral

/-- Texts of the form of a name whose parts are spellings of the numbers of an address. -/
def Spelled (a : Address) (s : String) : Prop :=
  ∃ domain bus device function,
    s.toList = domain ++ ':' :: (bus ++ ':' :: (device ++ '.' :: function)) ∧
    Spells 16 a.domain.toNat domain ∧ Spells 16 a.bus.toNat bus ∧ Spells 16 a.device.toNat device ∧
    Spells 10 a.function.toNat function

section Reading

variable {a : Address} {s : String}

theorem parseSlot?_eq_some_iff {slot : List Char} {d f : Nat} :
    parseSlot? slot = some (d, f) ↔ (d < UInt8.size ∧ f < UInt8.size) ∧
      ∃ device function, slot = device ++ '.' :: function ∧ Spells 16 d device ∧
        Spells 10 f function := by
  have hread {device function : List Char} (h : '.' ∉ device) :
      parseSlot? (device ++ '.' :: function) = some (d, f) ↔
        (d < UInt8.size ∧ Spells 16 d device) ∧ f < UInt8.size ∧ Spells 10 f function := by
    rw [parseSlot?_append h, ← Numeral.parse?_eq_some_iff (by decide) (by decide),
      ← Numeral.parse?_eq_some_iff (by decide) (by decide)]
    cases Numeral.parse? 16 UInt8.size device <;> cases Numeral.parse? 10 UInt8.size function <;>
      simp
  constructor
  · intro h
    have hpoint : '.' ∈ slot := by
      by_contra hnone
      have hall : slot.dropWhile (· != '.') = [] :=
        List.dropWhile_eq_nil_iff.mpr fun c hc => bne_iff_ne.mpr fun hc' => hnone (hc' ▸ hc)
      simp [parseSlot?, hall] at h
    obtain ⟨device, function, rfl, hdevice⟩ := List.eq_append_cons_of_mem hpoint
    obtain ⟨⟨hd, hdevice⟩, hf, hfunction⟩ := (hread hdevice).mp h
    exact ⟨⟨hd, hf⟩, device, function, rfl, hdevice, hfunction⟩
  · rintro ⟨⟨hd, hf⟩, device, function, rfl, hdevice, hfunction⟩
    exact (hread (hdevice.notMem (by decide) (by decide) (by decide) (by decide))).mpr
      ⟨⟨hd, hdevice⟩, hf, hfunction⟩

theorem parseFields?_eq_some_iff {domain bus slot : List Char} :
    parseFields? domain bus slot = some a ↔
      Numeral.parse? 16 UInt32.size domain = some a.domain.toNat ∧
        Numeral.parse? 16 UInt8.size bus = some a.bus.toNat ∧
        parseSlot? slot = some (a.device.toNat, a.function.toNat) := by
  simp only [parseFields?, Option.bind_eq_bind, Option.bind_eq_some_iff]
  constructor
  · rintro ⟨d, hd, b, hb, ⟨v, f⟩, hslot, h⟩
    obtain ⟨⟨hv, hf⟩, -⟩ := parseSlot?_eq_some_iff.mp hslot
    obtain rfl := Option.some.inj h
    simp only [UInt32.toNat_ofNat_of_lt' (lt_of_parse? hd), UInt8.toNat_ofNat_of_lt' (lt_of_parse? hb),
      UInt8.toNat_ofNat_of_lt' hv, UInt8.toNat_ofNat_of_lt' hf]
    exact ⟨hd, hb, hslot⟩
  · rintro ⟨hd, hb, hslot⟩
    exact ⟨_, hd, _, hb, _, hslot, by simp⟩

/-- A text is read as an address just when it spells one that is in range. -/
theorem parse?_eq_some_iff : parse? s = some a ↔ a.InRange ∧ a.Spelled s := by
  have hfields {domain bus slot : List Char} : parseFields? domain bus slot = some a ↔
      Spells 16 a.domain.toNat domain ∧ Spells 16 a.bus.toNat bus ∧
        ∃ device function, slot = device ++ '.' :: function ∧ Spells 16 a.device.toNat device ∧
          Spells 10 a.function.toNat function := by
    rw [parseFields?_eq_some_iff, parseSlot?_eq_some_iff,
      Numeral.parse?_eq_some_iff (by decide) (by decide),
      Numeral.parse?_eq_some_iff (by decide) (by decide)]
    simp only [UInt32.toNat_lt_size, UInt8.toNat_lt_size, and_self, true_and]
  have hcolon {base n : Nat} {cs : List Char} (h : Spells base n cs) (hone : 1 < base)
    (hbase : base ≤ 16) : ':' ∉ cs := h.notMem hone hbase (by decide) (by decide)
  constructor
  · intro h
    refine ⟨inRange_of_parse? h, ?_⟩
    unfold parse? at h
    split at h
    · rename_i domain bus slot hsplit
      obtain ⟨h, -⟩ := Option.filter_eq_some_iff.mp h
      obtain ⟨hdomain, hbus, device, function, rfl, hdevice, hfunction⟩ := hfields.mp h
      have htext : [':'].intercalate (s.toList.splitOn ':') = s.toList :=
        List.intercalate_splitOn ':'
      simp only [hsplit, List.intercalate_cons_cons, List.intercalate_singleton, List.append_assoc,
        List.singleton_append] at htext
      exact ⟨domain, bus, device, function, htext.symm, hdomain, hbus, hdevice, hfunction⟩
    · cases h
  · rintro ⟨hrange, domain, bus, device, function, hs, hdomain, hbus, hdevice, hfunction⟩
    have hslot : ':' ∉ device ++ '.' :: function := by
      simp [hcolon hdevice (by decide) (by decide), hcolon hfunction (by decide) (by decide)]
    have hread := hfields.mpr ⟨hdomain, hbus, device, function, rfl, hdevice, hfunction⟩
    rw [parse?, hs, splitOn_fields (hcolon hdomain (by decide) (by decide))
      (hcolon hbus (by decide) (by decide)) hslot]
    simp [hread, hrange]

/-- A spelling is made of digits, plus signs and the signs that part the numbers. -/
theorem Spelled.notMem (h : a.Spelled s) {c : Char} (hc : Numeral.digit? c = none)
    (hsign : c ∉ ['+', ':', '.']) : c ∉ s.toList := by
  obtain ⟨domain, bus, device, function, hs, hdomain, hbus, hdevice, hfunction⟩ := h
  simp only [List.mem_cons, List.not_mem_nil, or_false, not_or] at hsign
  obtain ⟨hplus, hcolon, hpoint⟩ := hsign
  have hnumber {base n : Nat} {cs : List Char} (h : Spells base n cs) (hone : 1 < base)
    (hbase : base ≤ 16) : c ∉ cs := h.notMem hone hbase hplus hc
  simp [hs, hcolon, hpoint, hnumber hdomain, hnumber hbus, hnumber hdevice, hnumber hfunction]

theorem Spelled.ne_empty (h : a.Spelled s) : s ≠ "" := by
  obtain ⟨domain, bus, device, function, hs, -⟩ := h
  rintro rfl
  simp at hs

/-- A spelling begins with a digit or a sign. -/
theorem Spelled.not_startsWith (h : a.Spelled s) : s.startsWith "." = false := by
  obtain ⟨domain, bus, device, function, hs, hdomain, -⟩ := h
  have hpoint : '.' ∉ domain := hdomain.notMem (by decide) (by decide) (by decide) (by decide)
  rw [String.startsWith_string_eq_false_iff, hs]
  cases hfirst : domain with
  | nil => exact absurd hfirst hdomain.ne_nil
  | cons c rest =>
    intro hfront
    obtain rfl : '.' = c := (List.cons_prefix_cons.mp hfront).1
    exact hpoint (hfirst ▸ List.mem_cons_self)

theorem parse_eq_ok_iff : parse s = .ok a ↔ parse? s = some a := by
  unfold parse
  cases parse? s <;> simp

end Reading

/-- The name of an address is read back as that address if device and function are in range, and else
it is refused and stands in the error. No two addresses have the same name, and whatever text an address
was read from, it is read from its name as well. -/
theorem parse_text_of_any_address :
    (∀ a : Address, parse a.text =
      if a.device ≤ 0x1f ∧ a.function ≤ 0x07 then .ok a
      else .error (.invalidDeviceAddress a.text)) ∧
    Function.Injective text ∧
    ∀ s a, parse s = .ok a → parse a.text = .ok a := by
  refine ⟨fun a => ?_, text_injective, fun s a h => ?_⟩
  · rw [parse, parse?_text_eq]
    by_cases h : a.device ≤ 0x1f ∧ a.function ≤ 0x07
    · simp only [InRange, h, and_self, if_true]
    · simp only [InRange, h, if_false]
  · exact parse_eq_ok_iff.mpr (parse?_text (inRange_of_parse? (parse_eq_ok_iff.mp h)))

/-- A wide domain, capital letters, a sign, and zeros that are left out or put in. -/
theorem parse_text_of_loose_spelling :
    let a : Address := ⟨0x10000, 0xaf, 0x1f, 7⟩
    parse "+10000:AF:01F.+7" = .ok a ∧ a.text = "10000:af:1f.7" ∧ parse a.text = .ok a := by
  intro a
  have hread : parse? "+10000:AF:01F.+7" = some a := by decide +kernel
  have hparse : parse "+10000:AF:01F.+7" = .ok a := parse_eq_ok_iff.mpr hread
  exact ⟨hparse, by decide +kernel, parse_text_of_any_address.2.2 _ _ hparse⟩

end Address

end AerWatch
