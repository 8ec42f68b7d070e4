import AerWatch.Proofs.Address.Text
import AerWatch.Proofs.Json.Grammar

/-!
# Strings of a JSON document

However a string is spelled, the reader gives its characters.
-/

namespace AerWatch

namespace Numeral

theorem length_hex {n : Nat} (h : n < 0x10000) : (hex 4 n).length = 4 := by
  have hle : (Nat.toDigits 16 n).length ≤ 4 :=
    (Nat.length_toDigits_le_iff (by decide) (by decide)).mpr h
  simp only [hex, List.leftpad, List.length_append, List.length_replicate]
  omega

end Numeral

namespace Json

section Units

variable {n : Nat} {digits : List Char}

theorem IsUnit.exists_eq (h : IsUnit n digits) : ∃ a b c d, digits = [a, b, c, d] := by
  have hlength : digits.length = 4 := by
    rw [← List.length_map Char.toLower, h.2, Numeral.length_hex h.1]
  match digits, hlength with
  | [a, b, c, d], _ => exact ⟨a, b, c, d, rfl⟩

theorem IsUnit.unit? {a b c d : Char} (h : IsUnit n [a, b, c, d]) : unit? a b c d = some n := by
  have hread : [a, b, c, d].foldl (Numeral.digitStep 16) (some 0) = some n := by
    rw [← Numeral.foldl_map_toLower, h.2, Numeral.foldl_hex]
  exact hread

end Units

section Spellings

variable {c : Char} {form : List Char}

theorem single?_toNat (c : Char) : single? c.toNat = some c := by
  have hvalid : c.toNat < 0xd800 ∨ 0xdfff < c.toNat ∧ c.toNat < 0x110000 := c.valid
  rw [single?, if_neg (by omega), Char.ofNat_toNat]

/-- The first unit of a character beyond 16 bits is no character of its own. -/
theorem single?_high (h : 0x10000 ≤ c.toNat) :
    single? (0xd800 + (c.toNat - 0x10000) / 0x400) = none := by
  have hvalid : c.toNat < 0xd800 ∨ 0xdfff < c.toNat ∧ c.toNat < 0x110000 := c.valid
  exact if_pos (by omega)

theorem paired?_units {high low : Nat} (hhigh : high < 0x400) (hlow : low < 0x400) :
    paired? (0xd800 + high) (0xdc00 + low) =
      some (Char.ofNat (0x10000 + high * 0x400 + low)) := by
  have hbounds : 0xd800 ≤ 0xd800 + high ∧ 0xd800 + high < 0xdc00 ∧ 0xdc00 ≤ 0xdc00 + low ∧
      0xdc00 + low < 0xe000 := by
    refine ⟨?_, ?_, ?_, ?_⟩ <;> omega
  rw [paired?, if_pos hbounds, Nat.add_sub_cancel_left, Nat.add_sub_cancel_left]

/-- The two units of a character beyond 16 bits give the character. -/
theorem paired?_toNat (h : 0x10000 ≤ c.toNat) :
    paired? (0xd800 + (c.toNat - 0x10000) / 0x400) (0xdc00 + (c.toNat - 0x10000) % 0x400) =
      some c := by
  have hvalid : c.toNat < 0xd800 ∨ 0xdfff < c.toNat ∧ c.toNat < 0x110000 := c.valid
  have hvalue : 0x10000 + (c.toNat - 0x10000) / 0x400 * 0x400 + (c.toNat - 0x10000) % 0x400 =
      c.toNat := by omega
  rw [paired?_units (by omega) (by omega), hvalue, Char.ofNat_toNat]

theorem readString?_pair {m n : Nat} {w x y z w' x' y' z' : Char} (hm : unit? w x y z = some m)
    (hsingle : single? m = none) (hn : unit? w' x' y' z' = some n) (hpair : paired? m n = some c)
    (rest acc : List Char) :
    readString? ('\\' :: 'u' :: w :: x :: y :: z :: '\\' :: 'u' :: w' :: x' :: y' :: z' :: rest) acc =
      readString? rest (c :: acc) := by
  rw [readString?, hm]
  simp only [hsingle, hn, Option.bind_some, hpair]

/-- Any spelling of a character is read as the character. -/
theorem readString?_spelling (h : Spelling c form) (rest acc : List Char) :
    readString? (form ++ rest) acc = readString? rest (c :: acc) := by
  cases h with
  | plain hcontrol hquote hslash =>
    have hplain : ¬(c.toNat < 0x20 ∨ c = '\\') := not_or.mpr ⟨Nat.not_lt.mpr hcontrol, hslash⟩
    rw [List.singleton_append, readString?, if_neg hplain]
    all_goals simp_all
  | short letter h =>
    simp only [shortEscapes, List.mem_cons, Prod.mk.injEq, List.not_mem_nil, or_false] at h
    rcases h with ⟨rfl, rfl⟩ | ⟨rfl, rfl⟩ | ⟨rfl, rfl⟩ | ⟨rfl, rfl⟩ | ⟨rfl, rfl⟩ | ⟨rfl, rfl⟩ |
      ⟨rfl, rfl⟩ | ⟨rfl, rfl⟩ <;> rfl
  | unit digits h =>
    obtain ⟨w, x, y, z, rfl⟩ := h.exists_eq
    simp only [List.cons_append, List.nil_append]
    rw [readString?, h.unit?]
    simp only [single?_toNat]
  | pair high low hc hhigh hlow =>
    obtain ⟨w, x, y, z, rfl⟩ := hhigh.exists_eq
    obtain ⟨w', x', y', z', rfl⟩ := hlow.exists_eq
    exact readString?_pair hhigh.unit? (single?_high hc) hlow.unit? (paired?_toNat hc) rest acc

/-- Any spelling of a string is read as the string. -/
theorem readString?_spelled {cs text : List Char} (h : Spelled cs text) (rest acc : List Char) :
    readString? (text ++ '"' :: rest) acc = some (String.ofList (acc.reverse ++ cs), rest) := by
  induction h generalizing acc with
  | nil => simp [readString?]
  | cons hc hcs ih =>
    rw [List.append_assoc, readString?_spelling hc, ih]
    simp

end Spellings

end Json

end AerWatch
