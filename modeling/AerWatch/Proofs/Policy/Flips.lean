import AerWatch.Proofs.Policy.BitHistory

/-!
# Changes that a mask hides

The mask decides whether a change of a bit is announced, but what was seen is remembered in any case.
All flips of a bit alternate. The flips that are shown do so exactly if an even number of flips was
hidden before each of them.
-/

namespace AerWatch

/-- A change of a bit between two polls that see it. -/
structure Flip where
  change : Transition
  hidden : Bool
deriving DecidableEq

/-- The changes of a bit over a run of polls, announced or not. -/
def flips : Bool → List (Option Sight) → List Flip
  | _, [] => []
  | was, none :: xs => flips was xs
  | was, some x :: xs =>
    if x.set = was then flips was xs else ⟨.to x.set, x.masked⟩ :: flips x.set xs

/-- The changes that the mask does not hide. -/
def shown (fs : List Flip) : List Transition := (fs.filter (!·.hidden)).map (·.change)

/-- The number of flips hidden before one that is shown leaves the remainder `n` when halved. -/
def HiddenParity (n : Nat) (fs : List Flip) : Prop :=
  ∀ before f after, fs = before ++ f :: after → f.hidden = false →
    before.countP Flip.hidden % 2 = n

theorem exists_of_mem_flips {was : Bool} {xs : List (Option Sight)} {f : Flip}
    (h : f ∈ flips was xs) : ∃ x, some x ∈ xs ∧ f.hidden = x.masked := by
  induction xs generalizing was with
  | nil => simp [flips] at h
  | cons x xs ih =>
    have htail {was : Bool} (h : f ∈ flips was xs) :
        ∃ y, some y ∈ x :: xs ∧ f.hidden = y.masked := by
      obtain ⟨y, hy, hf⟩ := ih h
      exact ⟨y, List.mem_cons_of_mem _ hy, hf⟩
    cases x with
    | none => exact htail h
    | some x =>
      rw [flips] at h
      split_ifs at h
      · exact htail h
      · rcases List.mem_cons.mp h with rfl | h
        · exact ⟨x, List.mem_cons_self, rfl⟩
        · exact htail h

/-- All changes of a bit alternate. -/
theorem isChain_flips (was : Bool) (xs : List (Option Sight)) :
    (Transition.to was :: (flips was xs).map (·.change)).IsChain (· ≠ ·) := by
  induction xs generalizing was with
  | nil => exact List.isChain_singleton _
  | cons x xs ih =>
    cases x with
    | none => exact ih was
    | some x =>
      rw [flips]
      split_ifs with h
      · exact ih was
      · refine List.isChain_cons_cons.mpr ⟨?_, ih x.set⟩
        rw [Ne, Transition.to_inj]
        exact Ne.symm h

/-- A policy that neither repeats nor reports masked errors tells the changes that are not hidden. -/
theorem Policy.told_eq_shown {p : Policy} (hpersistent : p.persistent = false)
    (hmasked : p.reportMasked = false) (was : Bool) (xs : List (Option Sight)) :
    p.told was xs = shown (flips was xs) := by
  induction xs generalizing was with
  | nil => rfl
  | cons x xs ih =>
    cases x with
    | none => exact ih was
    | some x =>
      obtain ⟨now, masked⟩ := x
      rw [told, flips, ih now]
      cases masked <;> cases was <;> cases now <;>
        simp [tell?, shown, Transition.to, hpersistent, hmasked]

section Parity

variable {n : Nat} {f : Flip} {fs : List Flip}

theorem hiddenParity_nil : HiddenParity n [] := by
  intro before g after h
  simp at h

theorem hiddenParity_cons_of_hidden (hf : f.hidden = true) (hn : n < 2) :
    HiddenParity n (f :: fs) ↔ HiddenParity (1 - n) fs := by
  constructor
  · intro h before g after hfs hg
    have hcount := h (f :: before) g after (by rw [hfs]; rfl) hg
    rw [List.countP_cons_of_pos hf] at hcount
    omega
  · intro h before g after hfs hg
    cases before with
    | nil =>
      obtain ⟨rfl, -⟩ := List.cons.inj hfs
      rw [hf] at hg
      exact absurd hg (by decide)
    | cons f' before =>
      obtain ⟨rfl, rfl⟩ := List.cons.inj hfs
      have hcount := h before g after rfl hg
      rw [List.countP_cons_of_pos hf]
      omega

theorem hiddenParity_cons_of_shown (hf : f.hidden = false) :
    HiddenParity n (f :: fs) ↔ n = 0 ∧ HiddenParity 0 fs := by
  constructor
  · intro h
    obtain rfl : 0 = n := by simpa using h [] f fs rfl hf
    refine ⟨rfl, fun before g after hfs hg => ?_⟩
    have hcount := h (f :: before) g after (by rw [hfs]; rfl) hg
    rwa [List.countP_cons_of_neg (by simp [hf])] at hcount
  · rintro ⟨rfl, h⟩ before g after hfs hg
    cases before with
    | nil => rfl
    | cons f' before =>
      obtain ⟨rfl, rfl⟩ := List.cons.inj hfs
      rw [List.countP_cons_of_neg (by simp [hf])]
      exact h before g after rfl hg

/-- A mask that never changes hides nothing before a flip that it shows. -/
theorem hiddenParity_of_constant {m : Bool} (h : ∀ f ∈ fs, f.hidden = m) : HiddenParity 0 fs := by
  rintro before f after rfl hf
  have hm : m = false := by rw [← h f (by simp), hf]
  have hnone : before.countP Flip.hidden = 0 := by
    refine List.countP_eq_zero.mpr fun g hg => ?_
    rw [h g (List.mem_append_left _ hg), hm]
    exact Bool.false_ne_true
  rw [hnone]

/-- Flips that alternate are shown to alternate from the state before if an even number is hidden
before each that is shown, and from the opposite state if an odd number is. -/
theorem isChain_shown (t u : Transition) (htu : t ≠ u)
    (h : (t :: fs.map (·.change)).IsChain (· ≠ ·)) :
    ((t :: shown fs).IsChain (· ≠ ·) ↔ HiddenParity 0 fs) ∧
      ((u :: shown fs).IsChain (· ≠ ·) ↔ HiddenParity 1 fs) := by
  induction fs generalizing t u with
  | nil => exact ⟨iff_of_true (List.isChain_singleton t) hiddenParity_nil,
      iff_of_true (List.isChain_singleton u) hiddenParity_nil⟩
  | cons f fs ih =>
    obtain ⟨hf, hrest⟩ := List.isChain_cons_cons.mp h
    obtain rfl : f.change = u := Transition.eq_of_ne hf.symm htu.symm
    obtain ⟨heven, hodd⟩ := ih f.change t hf.symm hrest
    cases hhidden : f.hidden with
    | true =>
      have hshown : shown (f :: fs) = shown fs := by simp [shown, hhidden]
      -- the flip is not shown but taken, so that the two parities change places
      rw [hshown, hiddenParity_cons_of_hidden hhidden (by decide),
        hiddenParity_cons_of_hidden hhidden (by decide)]
      exact ⟨hodd, heven⟩
    | false =>
      have hshown : shown (f :: fs) = f.change :: shown fs := by simp [shown, hhidden]
      rw [hshown, hiddenParity_cons_of_shown hhidden, hiddenParity_cons_of_shown hhidden,
        List.isChain_cons_cons, List.isChain_cons_cons, heven]
      simp [hf]

end Parity

end AerWatch
