import AerWatch.Proofs.Capability.Walks
import Mathlib.Data.List.Chain
import Mathlib.Logic.Function.Iterate

/-!
# A walk call by call

A walk that is asked for one entry after another gives those that it lists and then none, however
often it is asked again. What it lists is bounded in number and in place, and each entry is where the
one before it leads. All of this holds for any contents of a space, also if the chain runs in a circle
or if a read fails.
-/

namespace AerWatch.Capability

namespace Walk

section Calls

variable {ι : Type} {next : Walk → Option (Capability ι) × Walk} {w : Walk}

/-- A walk after a number of calls. -/
def after (next : Walk → Option (Capability ι) × Walk) (n : Nat) (w : Walk) : Walk :=
  (fun w => (next w).2)^[n] w

/-- What the call with a number gives, where the first one has the number zero. -/
def call (next : Walk → Option (Capability ι) × Walk) (n : Nat) (w : Walk) : Option (Capability ι) :=
  (next (after next n w)).1

/-- A walk that gives none stays where it gives none, and each entry takes one from the number of
those that may still come. -/
structure Fused (next : Walk → Option (Capability ι) × Walk) : Prop where
  ended : ∀ w, (next w).1 = none → (next (next w).2).1 = none
  counts : ∀ w a, (next w).1 = some a → (next w).2.remaining < w.remaining

/-- A walk is fused if each call ends it for good or gives an entry and takes one from the number. -/
theorem Fused.of_cases {E : Walk → Prop}
    (hnext : ∀ w, (next w).1 = none ∧ E (next w).2 ∨
      ∃ a pos n, w.remaining = n + 1 ∧ next w = (some a, ⟨pos, n⟩))
    (hended : ∀ w, E w → (next w).1 = none) : Fused next where
  ended w h := by
    obtain ⟨-, hend⟩ | ⟨a, pos, n, -, hsome⟩ := hnext w
    · exact hended _ hend
    · rw [hsome] at h
      cases h
  counts w a h := by
    obtain ⟨hnone, -⟩ | ⟨b, pos, n, hn, hsome⟩ := hnext w
    · rw [hnone] at h
      cases h
    · rw [hsome, hn]
      exact Nat.lt_succ_self n

theorem call_succ (next : Walk → Option (Capability ι) × Walk) (n : Nat) (w : Walk) :
    call next (n + 1) w = call next n (next w).2 := rfl

/-- What each call keeps holds after any number of calls. -/
theorem forall_after {I : Walk → Prop} (hw : I w) (hnext : ∀ w, I w → I (next w).2) (n : Nat) :
    I (after next n w) :=
  Function.Iterate.rec I hw hnext n

/-- After the end all calls give none. -/
theorem Fused.call_eq_none (h : Fused next) (hw : (next w).1 = none) (n : Nat) :
    call next n w = none :=
  forall_after (I := fun w => (next w).1 = none) hw h.ended n

/-- The calls give the entries that the walk lists, and then none for ever. -/
theorem Fused.call_eq (h : Fused next) {fuel : Nat} (hfuel : w.remaining ≤ fuel) (n : Nat) :
    call next n w = (collect next fuel w).1[n]? := by
  induction fuel generalizing w n with
  | zero =>
    have hnone : (next w).1 = none := by
      by_contra hne
      obtain ⟨a, ha⟩ := Option.ne_none_iff_exists'.mp hne
      have hlt := h.counts w a ha
      omega
    rw [h.call_eq_none hnone]
    rfl
  | succ fuel ih =>
    cases hw : (next w).1 with
    | none =>
      rw [h.call_eq_none hw, collect_of_none hw]
      rfl
    | some a =>
      have hnext : next w = (some a, (next w).2) := Prod.ext hw rfl
      rw [collect_of_some hnext]
      cases n with
      | zero => exact hw
      | succ n =>
        have hlt := h.counts w a hw
        rw [call_succ, ih (by omega), List.getElem?_cons_succ]

end Calls

end Walk

section Bounds

variable {ι : Type}

/-- Entries that are so many at most, begin at a place and then are where the entry before leads, and
have aligned places in a range. -/
structure Bounded (entries : List (Capability ι)) (count : Nat) (first : UInt16)
    (link : UInt16 → UInt16) (low high : Nat) : Prop where
  length : entries.length ≤ count
  head : ∀ a ∈ entries.head?, a.offset = first
  linked : entries.IsChain fun a b => b.offset = link a.offset
  aligned : ∀ a ∈ entries, a.offset.toNat % 4 = 0
  range : ∀ a ∈ entries, low ≤ a.offset.toNat ∧ a.offset.toNat ≤ high

variable {entries : List (Capability ι)} {id : UInt16 → ι} {limit : Nat} {c : Chain}

theorem Bounded.nil (count : Nat) (first : UInt16) (link : UInt16 → UInt16) (low high : Nat) :
    Bounded ([] : List (Capability ι)) count first link low high :=
  ⟨Nat.zero_le _, nofun, .nil, nofun, nofun⟩

theorem Covers.length_le (h : Covers entries id limit c) : entries.length ≤ limit := by
  have hnone := h limit
  rw [if_neg (Nat.lt_irrefl limit)] at hnone
  exact List.getElem?_eq_none_iff.mp hnone

/-- Every entry is at a place of the chain. -/
theorem Covers.exists_place (h : Covers entries id limit c) {a : Capability ι} (ha : a ∈ entries) :
    ∃ n, c.place n = some a.offset := by
  obtain ⟨n, hn⟩ := List.mem_iff_getElem?.mp ha
  obtain ⟨-, p, hp, rfl⟩ := h.getElem?_eq_some_iff.mp hn
  exact ⟨n, hp⟩

/-- Entries at the first places of a chain are bounded as its places are. -/
theorem Covers.bounded (h : Covers entries id limit c) {first : UInt16} {link : UInt16 → UInt16}
    {low high : Nat} (hfirst : ∀ p, c.first = some p → p = first)
    (hnext : ∀ p q, c.next p = some q → q = link p)
    (hplace : ∀ n p, c.place n = some p → p.toNat % 4 = 0 ∧ low ≤ p.toNat ∧ p.toNat ≤ high) :
    Bounded entries limit first link low high where
  length := h.length_le
  head a ha := by
    rw [List.head?_eq_getElem?] at ha
    obtain ⟨-, p, hp, rfl⟩ := h.getElem?_eq_some_iff.mp ha
    exact hfirst p hp
  linked := by
    refine List.isChain_iff_getElem.mpr fun n hn => ?_
    obtain ⟨-, p, hp, ha⟩ := h.getElem?_eq_some_iff.mp (List.getElem?_eq_getElem (Nat.lt_of_succ_lt hn))
    obtain ⟨-, q, hq, hb⟩ := h.getElem?_eq_some_iff.mp (List.getElem?_eq_getElem hn)
    rw [← ha, ← hb]
    rw [Chain.place_succ, hp] at hq
    exact hnext p q hq
  aligned a ha := by
    obtain ⟨n, hn⟩ := h.exists_place ha
    exact (hplace n a.offset hn).1
  range a ha := by
    obtain ⟨n, hn⟩ := h.exists_place ha
    exact (hplace n a.offset hn).2

end Bounds

variable (s : ConfigSpace)

section Standard

/-- A call of the standard walk ends it, or gives the entry at its place and goes on to the link. -/
theorem nextStandard_cases (w : Walk) :
    (nextStandard s w).1 = none ∧ (nextStandard s w).2.pos = 0 ∨
      ∃ n, w.remaining = n + 1 ∧ nextStandard s w =
        (some ⟨s.read8 w.pos, w.pos⟩, ⟨standardLink (s.read8 (w.pos + 1)), n⟩) := by
  rcases w with ⟨pos, remaining⟩
  unfold nextStandard
  by_cases hpos : pos = 0
  · exact .inl ⟨by rw [if_pos hpos], by rw [if_pos hpos]; exact hpos⟩
  · rw [if_neg hpos]
    cases remaining with
    | zero => exact .inl ⟨rfl, rfl⟩
    | succ n =>
      by_cases hend : s.read8 pos = endId
      · exact .inl ⟨by simp only [if_pos hend], by simp only [if_pos hend]⟩
      · exact .inr ⟨n, rfl, by simp only [if_neg hend]⟩

theorem fused_nextStandard : Walk.Fused (nextStandard s) := by
  refine .of_cases (E := fun w => w.pos = 0) (fun w => ?_) fun w hw => ?_
  · obtain h | ⟨n, hn, hnext⟩ := nextStandard_cases s w
    · exact .inl h
    · exact .inr ⟨_, _, n, hn, hnext⟩
  · rw [nextStandard, if_pos hw]

/-- The calls of the standard walk give what it lists, and then none for ever. -/
theorem call_nextStandard (n : Nat) :
    Walk.call (nextStandard s) n (standardStart s) = (standard s)[n]? :=
  (fused_nextStandard s).call_eq (Nat.le_succ maxStandard) n

/-- The chain ends at a link of zero, so none of its places is zero. -/
theorem ne_zero_of_place_standardChain {n : Nat} {p : UInt16}
    (h : (standardChain s).place n = some p) : p ≠ 0 := by
  have henter (p q : UInt16) (hq : enterStandard? s p = some q) : q ≠ 0 := by
    obtain ⟨rfl, hzero, -⟩ := enterStandard?_eq_some s hq
    exact hzero
  exact Chain.forall_place (I := (· ≠ 0)) (fun q hq => henter _ q hq)
    (fun p q _ hq => henter _ q hq) n p h

theorem bounded_standard :
    Bounded (standard s) 48 (standardLink (s.read8 firstLinkOffset))
      (fun p => standardLink (s.read8 (p + 1))) 4 0xfc := by
  refine (covers_standard s).bounded ?_ ?_ fun n p hp => ?_
  · intro p hp
    exact (enterStandard?_eq_some s hp).1.symm
  · intro p q hq
    exact (enterStandard?_eq_some s hq).1.symm
  · have hzero : p.toNat ≠ 0 := fun h => ne_zero_of_place_standardChain s hp (UInt16.toNat_inj.mp h)
    have hreach := place_standardChain s hp
    omega

/-- However far the standard walk went, it stands in the standard part of the space. -/
theorem pos_after_nextStandard (n : Nat) :
    (Walk.after (nextStandard s) n (standardStart s)).pos.toNat ≤ 0xfc := by
  have hlink (byte : UInt8) : (standardLink byte).toNat ≤ 0xfc := by
    have hlt := byte.toNat_lt
    rw [toNat_standardLink]
    omega
  refine Walk.forall_after (I := fun w => w.pos.toNat ≤ 0xfc) (hlink _) (fun w _ => ?_) n
  obtain ⟨-, hpos⟩ | ⟨n, -, hnext⟩ := nextStandard_cases s w
  · rw [hpos]
    exact Nat.zero_le _
  · rw [hnext]
    exact hlink _

end Standard

section Extended

/-- A call of the extended walk ends it, or gives the entry at its place and goes on to the link. -/
theorem nextExtended_cases (w : Walk) :
    (nextExtended s w).1 = none ∧
        ((nextExtended s w).2.pos = 0 ∨ (nextExtended s w).2.remaining = 0) ∨
      ∃ n, w.remaining = n + 1 ∧ nextExtended s w =
        (some ⟨extendedId (s.read32 w.pos), w.pos⟩, ⟨follow (extendedLink (s.read32 w.pos)), n⟩) := by
  rcases w with ⟨pos, remaining⟩
  unfold nextExtended
  by_cases hpos : pos = 0
  · exact .inl ⟨by rw [if_pos hpos], .inl (by rw [if_pos hpos]; exact hpos)⟩
  · rw [if_neg hpos]
    cases remaining with
    | zero => exact .inl ⟨rfl, .inr rfl⟩
    | succ n =>
      dsimp only
      split_ifs
      · exact .inl ⟨rfl, .inl rfl⟩
      · exact .inr ⟨n, rfl, rfl⟩

theorem fused_nextExtended : Walk.Fused (nextExtended s) := by
  refine .of_cases (E := fun w => w.pos = 0 ∨ w.remaining = 0) (fun w => ?_) fun w hw => ?_
  · obtain h | ⟨n, hn, hnext⟩ := nextExtended_cases s w
    · exact .inl h
    · exact .inr ⟨_, _, n, hn, hnext⟩
  · rcases w with ⟨pos, remaining⟩
    obtain rfl | rfl := hw
    · rfl
    · unfold nextExtended
      split_ifs <;> rfl

/-- The calls of the extended walk give what it lists, and then none for ever. -/
theorem call_nextExtended (n : Nat) :
    Walk.call (nextExtended s) n extendedWalk = (extended s)[n]? :=
  (fused_nextExtended s).call_eq (Nat.le_succ maxExtended) n

/-- The places of the extended chain are aligned. -/
theorem aligned_extendedChain {n : Nat} {p : UInt16} (h : (extendedChain s).place n = some p) :
    p.toNat % 4 = 0 := by
  refine Chain.forall_place (I := fun p => p.toNat % 4 = 0) ?_ ?_ n p h
  · intro p hp
    obtain rfl : extendedStart = p := Option.some.inj hp
    rfl
  · intro p q _ hq
    simp only [extendedChain] at hq
    split_ifs at hq
    obtain rfl := Option.some.inj hq
    rw [toNat_extendedLink]
    exact Nat.mul_mod_left _ 4

theorem bounded_extended :
    Bounded (extended s) 480 extendedStart (fun p => extendedLink (s.read32 p)) 0x100 0xffc := by
  by_cases hblank : IsBlank s
  · rw [extended_of_isBlank s hblank]
    exact .nil ..
  · refine (covers_extended s hblank).bounded ?_ ?_ fun n p hp => ?_
    · intro p hp
      exact (Option.some.inj hp).symm
    · intro p q hq
      simp only [extendedChain] at hq
      split_ifs at hq
      exact (Option.some.inj hq).symm
    · have haligned := aligned_extendedChain s hp
      have hreach := place_extendedChain s hp
      omega

end Extended

end AerWatch.Capability
