import AerWatch.Utf8
import Mathlib.Tactic.IntervalCases

/-!
# Decoding what was encoded

The machine reads the bytes of a character as that character and stands between characters again. So
the bytes of a text are read as the text, and nothing in them is taken for damage.
-/

namespace AerWatch.Utf8

section Bytes

/-- The loop that lists bytes has in hand, in reverse, those before its place. -/
theorem loop_reverse_take {bytes : ByteArray} {i n : Nat} (h : i + n = bytes.size) :
    ByteArray.toList.loop bytes i (bytes.data.toList.take i).reverse = bytes.data.toList := by
  induction n generalizing i with
  | zero =>
    have hall : bytes.data.toList.take i = bytes.data.toList := List.take_of_length_le (by simp; omega)
    rw [ByteArray.toList.loop, if_neg (by omega), hall, List.reverse_reverse]
  | succ n ih =>
    have hi : i < bytes.data.toList.length := by simp; omega
    have hnext : bytes.get! i :: (bytes.data.toList.take i).reverse =
        (bytes.data.toList.take (i + 1)).reverse := by
      rw [List.take_succ_eq_append_getElem hi, List.reverse_concat]
      have hsize : i < bytes.size := by omega
      simp [ByteArray.get!, hsize]
    rw [ByteArray.toList.loop, if_pos (by omega), hnext, ih (by omega)]

/-- The bytes of a text are those of its characters one after another. -/
theorem encode_eq (text : String) : encode text = text.toList.flatMap String.utf8EncodeChar := by
  have htext : text.toUTF8 = (text.toList.flatMap String.utf8EncodeChar).toByteArray := by
    rw [← List.utf8Encode, ← String.toByteArray_ofList, String.ofList_toList]
    rfl
  have hloop : text.toUTF8.toList = text.toUTF8.data.toList :=
    loop_reverse_take (Nat.zero_add _)
  rw [encode, hloop, htext, List.toList_data_toByteArray]

end Bytes

section Steps

theorem step_start {b : Nat} (h : b < 256) : step .start (.ofNat b) = lead b := by
  rw [step, UInt8.toNat_ofNat_of_lt' h]

/-- A character of one byte. -/
theorem lead_of_one {k : Nat} (h : k < 0x80) : lead k = ([some (Char.ofNat k)], .start) := if_pos h

/-- The first byte of two. -/
theorem lead_of_two {k : Nat} (hlow : 2 ≤ k) (hhigh : k < 32) :
    lead (k + 0xc0) = ([], .inside 0 0x80 0xbf k) := by
  interval_cases k <;> rfl

/-- The first byte of three. The next one is bounded from below so that no shorter form would do, and
from above so that the character is no surrogate. -/
theorem lead_of_three {k : Nat} (h : k < 16) :
    lead (k + 0xe0) =
      ([], .inside 1 (if k = 0 then 0xa0 else 0x80) (if k = 0xd then 0x9f else 0xbf) k) := by
  interval_cases k <;> rfl

/-- The first byte of four. -/
theorem lead_of_four {k : Nat} (h : k ≤ 4) :
    lead (k + 0xf0) =
      ([], .inside 2 (if k = 0 then 0x90 else 0x80) (if k = 4 then 0x8f else 0xbf) k) := by
  interval_cases k <;> rfl

variable {low high value k : Nat} (hlow : low ≤ k + 0x80) (hhigh : k + 0x80 ≤ high) (hk : k < 64)
include hlow hhigh hk

/-- The last byte of a character. -/
theorem step_last :
    step (.inside 0 low high value) (.ofNat (k + 0x80)) =
      ([some (Char.ofNat (value * 64 + k))], .start) := by
  have hbyte : (UInt8.ofNat (k + 0x80)).toNat = k + 0x80 :=
    UInt8.toNat_ofNat_of_lt' (by simp only [UInt8.size]; omega)
  simp only [step, hbyte, if_pos (And.intro hlow hhigh), Nat.add_sub_cancel]

/-- A byte within a character. Only the second one has bounds of its own. -/
theorem step_inner (more : Nat) :
    step (.inside (more + 1) low high value) (.ofNat (k + 0x80)) =
      ([], .inside more 0x80 0xbf (value * 64 + k)) := by
  have hbyte : (UInt8.ofNat (k + 0x80)).toNat = k + 0x80 :=
    UInt8.toNat_ofNat_of_lt' (by simp only [UInt8.size]; omega)
  simp only [step, hbyte, if_pos (And.intro hlow hhigh), Nat.add_sub_cancel]

end Steps

section Characters

theorem progress_step {state next : State} {b : UInt8} {out : List (Option Char)}
    (h : step state b = (out, next)) (read : List (Option Char)) :
    Progress.step ⟨read, state⟩ b = ⟨out.reverseAux read, next⟩ := by
  rw [Progress.step, h]

variable {n : Nat} (read : List (Option Char))

theorem foldl_of_two (hlow : 0x80 ≤ n) (hhigh : n < 0x800) :
    [UInt8.ofNat (n / 64 % 0x20 + 0xc0), .ofNat (n % 0x40 + 0x80)].foldl Progress.step
      ⟨read, .start⟩ = ⟨some (Char.ofNat n) :: read, .start⟩ := by
  have hfirst := (step_start (by omega)).trans
    (lead_of_two (k := n / 64 % 0x20) (by omega) (by omega))
  have hvalue : n / 64 % 0x20 * 64 + n % 0x40 = n := by omega
  rw [List.foldl_cons, progress_step hfirst, List.foldl_cons, progress_step (step_last ?_ ?_ ?_),
    hvalue]
  · rfl
  all_goals omega

theorem foldl_of_three (hlow : 0x800 ≤ n) (hhigh : n < 0x10000) (hvalid : n < 0xd800 ∨ 0xdfff < n) :
    [UInt8.ofNat (n / 4096 % 0x10 + 0xe0), .ofNat (n / 64 % 0x40 + 0x80),
      .ofNat (n % 0x40 + 0x80)].foldl Progress.step ⟨read, .start⟩ =
        ⟨some (Char.ofNat n) :: read, .start⟩ := by
  have hfirst := (step_start (by omega)).trans (lead_of_three (k := n / 4096 % 0x10) (by omega))
  -- the form is the shortest, and the character no surrogate
  have hbounds : (if n / 4096 % 0x10 = 0 then 0xa0 else 0x80) ≤ n / 64 % 0x40 + 0x80 ∧
      n / 64 % 0x40 + 0x80 ≤ if n / 4096 % 0x10 = 0xd then 0x9f else 0xbf := by
    constructor <;> split_ifs <;> omega
  have hvalue : (n / 4096 % 0x10 * 64 + n / 64 % 0x40) * 64 + n % 0x40 = n := by omega
  rw [List.foldl_cons, progress_step hfirst, List.foldl_cons,
    progress_step (step_inner hbounds.1 hbounds.2 ?_ 0), List.foldl_cons,
    progress_step (step_last ?_ ?_ ?_), hvalue]
  · rfl
  all_goals omega

theorem foldl_of_four (hlow : 0x10000 ≤ n) (hhigh : n < 0x110000) :
    [UInt8.ofNat (n / 262144 % 0x08 + 0xf0), .ofNat (n / 4096 % 0x40 + 0x80),
      .ofNat (n / 64 % 0x40 + 0x80), .ofNat (n % 0x40 + 0x80)].foldl Progress.step ⟨read, .start⟩ =
        ⟨some (Char.ofNat n) :: read, .start⟩ := by
  have hfirst := (step_start (by omega)).trans (lead_of_four (k := n / 262144 % 0x08) (by omega))
  have hbounds : (if n / 262144 % 0x08 = 0 then 0x90 else 0x80) ≤ n / 4096 % 0x40 + 0x80 ∧
      n / 4096 % 0x40 + 0x80 ≤ if n / 262144 % 0x08 = 4 then 0x8f else 0xbf := by
    constructor <;> split_ifs <;> omega
  have hvalue : ((n / 262144 % 0x08 * 64 + n / 4096 % 0x40) * 64 + n / 64 % 0x40) * 64 +
      n % 0x40 = n := by omega
  rw [List.foldl_cons, progress_step hfirst, List.foldl_cons,
    progress_step (step_inner hbounds.1 hbounds.2 ?_ 1), List.foldl_cons,
    progress_step (step_inner ?_ ?_ ?_ 0), List.foldl_cons, progress_step (step_last ?_ ?_ ?_), hvalue]
  · rfl
  all_goals omega

/-- The bytes of a character are read as the character. -/
theorem foldl_encodeChar (c : Char) :
    (String.utf8EncodeChar c).foldl Progress.step ⟨read, .start⟩ = ⟨some c :: read, .start⟩ := by
  have hc : Char.ofNat c.val.toNat = c := Char.ofNat_toNat c
  have hvalid : c.val.toNat < 0xd800 ∨ 0xdfff < c.val.toNat ∧ c.val.toNat < 0x110000 := c.valid
  unfold String.utf8EncodeChar
  generalize c.val.toNat = n at hc hvalid
  dsimp only
  split_ifs with h₁ h₂ h₃
  · have hfirst := (step_start (by omega)).trans (lead_of_one (k := n) (by omega))
    rw [List.foldl_cons, progress_step hfirst, hc]
    rfl
  · rw [foldl_of_two read (by omega) (by omega), hc]
  · rw [foldl_of_three read (by omega) (by omega) (by omega), hc]
  · rw [foldl_of_four read (by omega) (by omega), hc]

theorem foldl_encodeChars (cs : List Char) :
    (cs.flatMap String.utf8EncodeChar).foldl Progress.step ⟨read, .start⟩ =
      ⟨(cs.map some).reverse ++ read, .start⟩ := by
  induction cs generalizing read with
  | nil => rfl
  | cons c cs ih =>
    rw [List.flatMap_cons, List.foldl_append, foldl_encodeChar, ih, List.map_cons, List.reverse_cons,
      List.append_assoc, List.singleton_append]

/-- The bytes of a text are read as the text. -/
theorem decode_encode (text : String) : decode (encode text) = text.toList.map some := by
  rw [decode, encode_eq, foldl_encodeChars, List.append_nil]
  exact List.reverse_reverse _

theorem decode?_encode (text : String) : decode? (encode text) = some text.toList := by
  rw [decode?, decode_encode]
  simp

end Characters

end AerWatch.Utf8
