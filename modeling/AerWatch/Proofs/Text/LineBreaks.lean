import AerWatch.Log.Tail
import Mathlib.Tactic.SplitIfs

/-!
# Line breaks in decoded text

A line break is a byte of its own in any byte string: the bytes inside a character are above it, and
no character of several bytes decodes to it, also not one that is cut off, overlong or out of range.
So decoding a byte string and decoding the parts before and behind a line break come to the same.
-/

namespace AerWatch.Utf8

open Log (newline)

section Steps

/-- Where the machine can stand. An unfinished character does not wait for a line break, and it will be
none itself, since the bits read so far already make a larger number. -/
def State.Sound : State → Prop
  | .start => True
  | .inside _ low _ value => 0x80 ≤ low ∧ 10 < value * 64 + (low - 0x80)

theorem sound_start : State.start.Sound := trivial

theorem eq_of_ofNat_eq_newline {n : Nat} (h : Char.ofNat n = '\n') : n = 10 := by
  have hnat : (Char.ofNat n).toNat = 10 := congrArg Char.toNat h
  by_cases hvalid : n.isValidChar
  · rw [Char.ofNat, dif_pos hvalid] at hnat
    exact hnat
  · -- a number that is no character stands for another one
    rw [Char.ofNat, dif_neg hvalid] at hnat
    exact absurd hnat (by decide)

theorem sound_lead (b : Nat) : (lead b).2.Sound := by
  unfold lead
  split_ifs <;> simp only [State.Sound] <;> omega

/-- No other byte that begins a character is read as a line break. -/
theorem eq_of_mem_lead {b : Nat} (h : some '\n' ∈ (lead b).1) : b = 10 := by
  by_cases hb : b < 0x80
  · rw [lead, if_pos hb] at h
    exact eq_of_ofNat_eq_newline (Option.some.inj (List.mem_singleton.mp h)).symm
  · have hnone : ∀ o ∈ (lead b).1, o = none := by
      unfold lead
      rw [if_neg hb]
      split_ifs <;> simp
    exact absurd (hnone _ h) nofun

variable {state : State} (hstate : state.Sound)
include hstate

theorem sound_step (b : UInt8) : (step state b).2.Sound := by
  cases state with
  | start => exact sound_lead _
  | inside more low high value =>
    obtain ⟨hlow, hvalue⟩ := hstate
    by_cases hb : low ≤ b.toNat ∧ b.toNat ≤ high
    · simp only [step, if_pos hb]
      cases more with
      | zero => trivial
      | succ more =>
        refine ⟨Nat.le_refl _, ?_⟩
        omega
    · simp only [step, if_neg hb]
      exact sound_lead _

/-- A line break ends an unfinished character and is read as a line break. -/
theorem step_newline : step state newline = (state.finish ++ [some '\n'], .start) := by
  cases state with
  | start => rfl
  | inside more low high value =>
    have hb : ¬(low ≤ newline.toNat ∧ newline.toNat ≤ high) := by
      have hten : newline.toNat = 10 := rfl
      have hlow := hstate.1
      omega
    simp only [step, if_neg hb]
    rfl

/-- No other byte is read as a line break, nor does it complete a character that is one. -/
theorem eq_of_mem_step {b : UInt8} (h : some '\n' ∈ (step state b).1) : b = newline := by
  cases state with
  | start => exact UInt8.toNat_inj.mp (eq_of_mem_lead h)
  | inside more low high value =>
    obtain ⟨hlow, hvalue⟩ := hstate
    by_cases hb : low ≤ b.toNat ∧ b.toNat ≤ high
    · simp only [step, if_pos hb] at h
      cases more with
      | zero =>
        have hten := eq_of_ofNat_eq_newline (Option.some.inj (List.mem_singleton.mp h)).symm
        omega
      | succ more => exact absurd h List.not_mem_nil
    · simp only [step, if_neg hb] at h
      rcases List.mem_cons.mp h with h | h
      · exact absurd h nofun
      · exact UInt8.toNat_inj.mp (eq_of_mem_lead h)

end Steps

section Runs

/-- What bytes are read as from a state on, an unfinished character at the end included. -/
def decodeFrom (state : State) : List UInt8 → List (Option Char)
  | [] => state.finish
  | b :: bytes => (step state b).1 ++ decodeFrom (step state b).2 bytes

theorem toList_foldl (bytes : List UInt8) (read : List (Option Char)) (state : State) :
    (bytes.foldl Progress.step ⟨read, state⟩).toList = read.reverse ++ decodeFrom state bytes := by
  induction bytes generalizing read state with
  | nil =>
    have hfinish : state.finish.reverse = state.finish := by cases state <;> rfl
    rw [List.foldl_nil, Progress.toList, List.reverse_append, hfinish, decodeFrom]
  | cons b bytes ih =>
    rw [List.foldl_cons, Progress.step]
    dsimp only
    rw [ih, List.reverseAux_eq, List.reverse_append, List.reverse_reverse, List.append_assoc, decodeFrom]

theorem decode_eq (bytes : List UInt8) : decode bytes = decodeFrom .start bytes :=
  toList_foldl bytes [] .start

variable {state : State}

theorem decodeFrom_append (h : state.Sound) (front back : List UInt8) :
    decodeFrom state (front ++ newline :: back) =
      decodeFrom state front ++ some '\n' :: decodeFrom .start back := by
  induction front generalizing state with
  | nil =>
    simp only [List.nil_append, decodeFrom, step_newline h, List.append_assoc, List.singleton_append]
  | cons b front ih =>
    rw [List.cons_append, decodeFrom, ih (sound_step h b), decodeFrom, List.append_assoc]

theorem newline_mem_of_mem_decodeFrom (h : state.Sound) {bytes : List UInt8}
    (hmem : some '\n' ∈ decodeFrom state bytes) : newline ∈ bytes := by
  induction bytes generalizing state with
  | nil => cases state <;> simp [decodeFrom, State.finish] at hmem
  | cons b bytes ih =>
    rcases List.mem_append.mp hmem with hmem | hmem
    · exact eq_of_mem_step h hmem ▸ List.mem_cons_self
    · exact List.mem_cons_of_mem b (ih (sound_step h b) hmem)

end Runs

section Texts

/-- The text before a line break and the text behind it do not depend on each other. -/
theorem decodeLossy_append (front back : List UInt8) :
    decodeLossy (front ++ newline :: back) = decodeLossy front ++ '\n' :: decodeLossy back := by
  simp only [decodeLossy, decodeWith, decode_eq]
  rw [decodeFrom_append sound_start, List.map_append, List.map_cons]
  rfl

theorem newline_mem_of_mem_decodeLossy {bytes : List UInt8} (h : '\n' ∈ decodeLossy bytes) :
    newline ∈ bytes := by
  obtain ⟨read, hread, hchar⟩ := List.mem_map.mp h
  cases read with
  | none => exact absurd hchar (by decide)
  | some c =>
    obtain rfl : c = '\n' := hchar
    rw [decode_eq] at hread
    exact newline_mem_of_mem_decodeFrom sound_start hread

/-- Line by line: what holds of a byte string without a line break, and of one that begins with a line
if it holds of the rest, holds of all byte strings. -/
theorem line_induction {P : List UInt8 → Prop} (hlast : ∀ line, newline ∉ line → P line)
    (hline : ∀ line rest, newline ∉ line → P rest → P (line ++ newline :: rest)) (bytes : List UInt8) :
    P bytes := by
  induction hn : bytes.length using Nat.strongRecOn generalizing bytes with
  | ind n ih =>
    by_cases hbreak : newline ∈ bytes
    · obtain ⟨line, rest, rfl, hfree⟩ := List.eq_append_cons_of_mem hbreak
      refine hline line rest hfree (ih rest.length ?_ rest rfl)
      rw [← hn, List.length_append, List.length_cons]
      omega
    · exact hlast bytes hbreak

/-- Decoding the pieces between the line breaks gives the pieces of the decoded whole. -/
theorem map_decodeLossy_splitOn (bytes : List UInt8) :
    (bytes.splitOn newline).map decodeLossy = (decodeLossy bytes).splitOn '\n' := by
  have hsingle (line : List UInt8) (hfree : newline ∉ line) :
      (line.splitOn newline).map decodeLossy = (decodeLossy line).splitOn '\n' := by
    have htext : '\n' ∉ decodeLossy line := mt newline_mem_of_mem_decodeLossy hfree
    rw [List.splitOn_eq_singleton hfree, List.splitOn_eq_singleton htext, List.map_singleton]
  induction bytes using line_induction with
  | hlast line hfree => exact hsingle line hfree
  | hline line rest hfree ih =>
    rw [List.splitOn_append_cons_self, List.map_append, hsingle line hfree, ih, decodeLossy_append,
      List.splitOn_append_cons_self]

end Texts

end AerWatch.Utf8
