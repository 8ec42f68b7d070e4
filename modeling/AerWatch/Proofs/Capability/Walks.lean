import AerWatch.Proofs.Capability.Chain
import Mathlib.Algebra.Group.Nat.Defs

/-!
# Bounded walks and unbounded chains

`standardChain` and `extendedChain` are the chains that a space holds, followed without bound. Standard
entries are aligned, so at most 48 of them have room behind the header; extended entries that are 8
bytes apart are 480 at most. So the bounds of the walks never hide a structure: `findExpress` and
`findAer` find the first one of the chain, and find none exactly if the chain never comes to one, also
if it runs in a circle.
-/

namespace AerWatch.Capability

/-- A mask that clears the two low bits and keeps `k` bits above them. -/
theorem land_mask (n k : Nat) : n &&& (2 ^ k - 1) * 2 ^ 2 = n / 2 ^ 2 % 2 ^ k * 2 ^ 2 := by
  apply Nat.eq_of_testBit_eq
  intro i
  rw [Nat.testBit_and, Nat.testBit_mul_two_pow, Nat.testBit_mul_two_pow, Nat.testBit_two_pow_sub_one,
    Nat.testBit_mod_two_pow, Nat.testBit_div_two_pow]
  by_cases hi : 2 ≤ i
  · simp [hi, Bool.and_comm]
  · simp [hi]

theorem toNat_standardLink (byte : UInt8) : (standardLink byte).toNat = byte.toNat / 4 * 4 := by
  have hmask : byte.toNat &&& 0xfc = byte.toNat / 4 % 64 * 4 := land_mask byte.toNat 6
  have hlt := byte.toNat_lt
  rw [standardLink, UInt8.toNat_toUInt16, UInt8.toNat_and]
  show byte.toNat &&& 0xfc = _
  omega

theorem toNat_extendedLink (header : UInt32) :
    (extendedLink header).toNat = header.toNat / 2 ^ 22 * 4 := by
  have hmask : header.toNat / 2 ^ 20 &&& 0xffc = header.toNat / 2 ^ 20 / 4 % 1024 * 4 :=
    land_mask _ 10
  have hlt := header.toNat_lt
  rw [extendedLink, UInt32.toNat_toUInt16, UInt32.toNat_and, UInt32.toNat_shiftRight]
  show (header.toNat >>> 20 &&& 0xffc) % 2 ^ 16 = _
  rw [Nat.shiftRight_eq_div_pow]
  omega

variable (s : ConfigSpace)

section Standard

/-- The first 64 bytes of a space are its header. -/
def headerSize : UInt16 := 0x40

/-- A place of the standard chain, if the chain does not end there. -/
def enterStandard? (p : UInt16) : Option UInt16 := if p = 0 ∨ s.read8 p = endId then none else some p

/-- The standard chain of a space, followed without bound. -/
def standardChain : Chain where
  first := enterStandard? s (standardLink (s.read8 firstLinkOffset))
  next p := enterStandard? s (standardLink (s.read8 (p + 1)))

theorem enterStandard?_eq_some {p q : UInt16} (h : enterStandard? s p = some q) :
    p = q ∧ p ≠ 0 ∧ s.read8 p ≠ endId := by
  unfold enterStandard? at h
  split_ifs at h with hp
  rw [not_or] at hp
  exact ⟨Option.some.inj h, hp⟩

theorem follows_nextStandard :
    Follows (nextStandard s) s.read8 (enterStandard? s) fun p => standardLink (s.read8 (p + 1)) where
  entry pos p n h := by
    obtain ⟨rfl, hpos, hend⟩ := enterStandard?_eq_some s h
    simp only [nextStandard, if_neg hpos, if_neg hend]
  stop pos n h := by
    unfold enterStandard? at h
    split_ifs at h with hp
    rcases hp with rfl | hend
    · rfl
    · unfold nextStandard
      split_ifs
      · rfl
      · cases n with
        | zero => rfl
        | succ n => simp only [if_pos hend]
  spent pos := by
    unfold nextStandard
    split_ifs <;> rfl

/-- The walk lists the first 48 entries of the standard chain. -/
theorem covers_standard : Covers (standard s) s.read8 maxStandard (standardChain s) :=
  (follows_nextStandard s).covers (Nat.le_succ maxStandard) _

/-- The places of the standard chain are aligned and lie within its reach. -/
theorem place_standardChain {n : Nat} {p : UInt16} (h : (standardChain s).place n = some p) :
    p.toNat % 4 = 0 ∧ p.toNat < 0x100 := by
  have hlink (byte : UInt8) : (standardLink byte).toNat % 4 = 0 ∧ (standardLink byte).toNat < 0x100 := by
    have hlt := byte.toNat_lt
    rw [toNat_standardLink]
    omega
  refine Chain.forall_place (I := fun p => p.toNat % 4 = 0 ∧ p.toNat < 0x100) ?_ ?_ n p h
  · intro p hp
    obtain ⟨rfl, -⟩ := enterStandard?_eq_some s hp
    exact hlink _
  · intro p q _ hq
    obtain ⟨rfl, -⟩ := enterStandard?_eq_some s hq
    exact hlink _

theorem spaced_standardChain : (standardChain s).Spaced 4 := by
  intro m n p q hp hq hlt
  have hp4 := (place_standardChain s hp).1
  have hq4 := (place_standardChain s hq).1
  have hnat : p.toNat < q.toNat := UInt16.lt_iff_toNat_lt.mp hlt
  omega

/-- The PCI Express structure is found where the standard chain, followed without bound, first comes to
one, and none is found exactly if the chain never does, as long as the chain stays behind the header.
What is found is there in any case. -/
theorem findExpress_of_chain (s : ConfigSpace) :
    ((∀ n p, (standardChain s).place n = some p → headerSize ≤ p) →
      (∀ p, findExpress s = some p ↔ (standardChain s).First (s.read8 · = expressId) p) ∧
      (findExpress s = none ↔ (standardChain s).Never (s.read8 · = expressId))) ∧
    ∀ p, findExpress s = some p → s.tryRead8 p = .ok expressId := by
  have hfound := (covers_standard s).find?_eq_some_iff expressId
  refine ⟨fun hheader => Chain.search_complete hfound fun n p hp => ?_, fun p hp => ?_⟩
  · refine hp.lt_of_spaced (spaced_standardChain s) (by decide) 0x40 fun m q hq => ?_
    have hbase : 0x40 ≤ q.toNat := UInt16.le_iff_toNat_le.mp (hheader m q hq)
    exact ⟨hbase, (place_standardChain s hq).2⟩
  · obtain ⟨n, -, hn⟩ := (hfound p).mp hp
    have hid : s.read8 p = expressId := hn.holds
    have hread : s.read8 p ≠ 0 := by
      rw [hid]
      decide
    rw [← hid]
    exact ConfigSpace.eq_ok_of_getD_ne hread

/-- A space in which 48 entries form a circle. Each link skips four entries, and the last entry on the
way round is the PCI Express structure. -/
def fullCircle : MemorySpace where
  address := ⟨0, 3, 0, 0⟩
  bytes := List.replicate 0x34 0 ++ 0x43 :: List.replicate 11 0 ++
    (List.range 48).flatMap fun i =>
      [if i = 43 then expressId else 0x01, .ofNat (0x40 + (i + 5) % 48 * 4), 0, 0]

/-- The bound is reached: the structure is the last of 48 entries, after which the circle is closed. -/
theorem findExpress_of_fullCircle :
    let s := fullCircle.toConfigSpace
    (∀ n p, (standardChain s).place n = some p → headerSize ≤ p) ∧ findExpress s = some 0xec ∧
      (standardChain s).First (s.read8 · = expressId) 0xec ∧ s.tryRead8 0xec = .ok expressId := by
  intro s
  have hplaces := (standardChain s).mem_of_closed
    ((List.range 48).map fun i => .ofNat (0x40 + i * 4)) (by decide +kernel) (by decide +kernel)
  have hheader : ∀ n p, (standardChain s).place n = some p → headerSize ≤ p := by
    intro n p hp
    obtain ⟨i, hi, rfl⟩ := List.mem_map.mp (hplaces n p hp)
    rw [List.mem_range] at hi
    rw [UInt16.le_iff_toNat_le, UInt16.toNat_ofNat']
    show 0x40 ≤ (0x40 + i * 4) % 2 ^ 16
    omega
  have hfind : findExpress s = some 0xec := by decide +kernel
  obtain ⟨hcomplete, hread⟩ := findExpress_of_chain s
  exact ⟨hheader, hfind, ((hcomplete hheader).1 0xec).mp hfind, hread 0xec hfind⟩

end Standard

section Extended

/-- The extended chain of a space, followed without bound. It ends at a link that does not go past its
start. -/
def extendedChain : Chain where
  first := some extendedStart
  next p :=
    let link := extendedLink (s.read32 p)
    if link ≤ extendedStart then none else some link

/-- A first entry of zeros stands for an empty chain. -/
def IsBlank : Prop :=
  extendedId (s.read32 extendedStart) = 0 ∧ extendedLink (s.read32 extendedStart) = 0

theorem follow_eq (link : UInt16) :
    (if follow link = 0 then none else some (follow link)) =
      if link ≤ extendedStart then none else some link := by
  by_cases hle : link ≤ extendedStart
  · rw [follow, if_pos hle, if_pos hle, if_pos rfl]
  · have hzero : link ≠ 0 := by
      rintro rfl
      exact hle (by decide)
    rw [follow, if_neg hle, if_neg hle, if_neg hzero]

theorem follows_nextExtended (h : ¬ IsBlank s) :
    Follows (nextExtended s) (fun p => extendedId (s.read32 p))
      (fun pos => if pos = 0 then none else some pos) fun p => follow (extendedLink (s.read32 p)) where
  entry pos p n hpos := by
    split_ifs at hpos with hzero
    obtain rfl := Option.some.inj hpos
    have hentry : ¬(pos = extendedStart ∧ extendedId (s.read32 pos) = 0 ∧
        extendedLink (s.read32 pos) = 0) := by
      rintro ⟨rfl, hblank⟩
      exact h hblank
    simp only [nextExtended, if_neg hzero, if_neg hentry]
  stop pos n hpos := by
    split_ifs at hpos with hzero
    simp only [nextExtended, if_pos hzero]
  spent pos := by
    unfold nextExtended
    split_ifs <;> rfl

/-- The walk lists the first 480 entries of the extended chain. -/
theorem covers_extended (h : ¬ IsBlank s) :
    Covers (extended s) (fun p => extendedId (s.read32 p)) maxExtended (extendedChain s) := by
  have hchain : extendedChain s = ⟨if extendedStart = 0 then none else some extendedStart, fun p =>
      if follow (extendedLink (s.read32 p)) = 0 then none
      else some (follow (extendedLink (s.read32 p)))⟩ := by
    simp only [follow_eq]
    rfl
  rw [hchain]
  exact (follows_nextExtended s h).covers (Nat.le_succ maxExtended) extendedStart

theorem extended_of_isBlank (h : IsBlank s) : extended s = [] := by
  obtain ⟨hid, hlink⟩ := h
  have hstart : ¬ extendedStart = 0 := by decide
  refine Walk.collect_of_none ?_ _
  simp only [nextExtended, extendedWalk, maxExtended, if_neg hstart, hid, hlink, and_self, if_true]

/-- The only place of a blank chain is its start. -/
theorem place_of_isBlank (h : IsBlank s) {n : Nat} {p : UInt16}
    (hp : (extendedChain s).place n = some p) : p = extendedStart := by
  refine Chain.forall_place (c := extendedChain s) (I := (· = extendedStart)) ?_ ?_ n p hp
  · intro p hp
    exact (Option.some.inj hp).symm
  · rintro p q rfl hq
    have hend : extendedLink (s.read32 extendedStart) ≤ extendedStart := by
      rw [h.2]
      decide
    simp only [extendedChain, if_pos hend] at hq
    exact absurd hq nofun

/-- The places of the extended chain lie in the extended space. -/
theorem place_extendedChain {n : Nat} {p : UInt16} (h : (extendedChain s).place n = some p) :
    0x100 ≤ p.toNat ∧ p.toNat < 0x1000 := by
  refine Chain.forall_place (c := extendedChain s) (I := fun p => 0x100 ≤ p.toNat ∧ p.toNat < 0x1000)
    ?_ ?_ n p h
  · intro p hp
    obtain rfl : extendedStart = p := Option.some.inj hp
    decide
  · intro p q _ hq
    simp only [extendedChain] at hq
    split_ifs at hq with hle
    obtain rfl := Option.some.inj hq
    have hlt : extendedStart.toNat < (extendedLink (s.read32 p)).toNat := by
      rw [← UInt16.lt_iff_toNat_lt]
      exact UInt16.not_le.mp hle
    have hstart : extendedStart.toNat = 0x100 := rfl
    have hheader := (s.read32 p).toNat_lt
    have hlink := toNat_extendedLink (s.read32 p)
    omega

theorem findAer_eq_some_iff (p : UInt16) :
    findAer s = some p ↔
      ∃ n < maxExtended, (extendedChain s).FirstAt (fun p => extendedId (s.read32 p) = aerId) n p := by
  by_cases h : IsBlank s
  · have hnone : findAer s = none := by
      rw [findAer, extended_of_isBlank s h]
      rfl
    rw [hnone]
    refine ⟨nofun, ?_⟩
    rintro ⟨n, -, hn⟩
    obtain rfl := place_of_isBlank s h hn.place
    have hid : extendedId (s.read32 extendedStart) = aerId := hn.holds
    rw [h.1] at hid
    exact absurd hid (by decide)
  · exact (covers_extended s h).find?_eq_some_iff aerId p

/-- The Advanced Error Reporting structure is found where the extended chain, followed without bound,
first comes to one, and none is found exactly if the chain never does, as long as its places are 8
bytes apart. What is found is there in any case. -/
theorem findAer_of_chain (s : ConfigSpace) :
    ((extendedChain s).Spaced 8 →
      (∀ p, findAer s = some p ↔
        (extendedChain s).First (fun p => extendedId (s.read32 p) = aerId) p) ∧
      (findAer s = none ↔ (extendedChain s).Never fun p => extendedId (s.read32 p) = aerId)) ∧
    ∀ p, findAer s = some p → ∃ header, s.tryRead32 p = .ok header ∧ extendedId header = aerId := by
  refine ⟨fun hspaced => Chain.search_complete (findAer_eq_some_iff s) fun n p hp => ?_, fun p hp => ?_⟩
  · exact hp.lt_of_spaced hspaced (by decide) 0x100 fun m q hq => place_extendedChain s hq
  · obtain ⟨n, -, hn⟩ := (findAer_eq_some_iff s p).mp hp
    have hid : extendedId (s.read32 p) = aerId := hn.holds
    have hread : s.read32 p ≠ 0 := by
      intro hzero
      rw [hzero] at hid
      exact absurd hid (by decide)
    exact ⟨s.read32 p, ConfigSpace.eq_ok_of_getD_ne hread, hid⟩

/-- A space whose extended chain begins with an entry without id and goes up, down again and then round
in a circle. It ends with the last header. -/
def foldedChain : MemorySpace :=
  let space : MemorySpace := ⟨⟨0, 3, 0, 0⟩, List.replicate 0x204 0⟩
  ((space.write32 0x100 0x20000000).write32 0x200 0x1401000b).write32 0x140 0x20020001

/-- The structure is found behind a first entry without id and a link that goes down. -/
theorem findAer_of_foldedChain :
    let s := foldedChain.toConfigSpace
    (extendedChain s).Spaced 8 ∧ findAer s = some 0x140 ∧
      (extendedChain s).First (fun p => extendedId (s.read32 p) = aerId) 0x140 ∧
      ∃ header, s.tryRead32 0x140 = .ok header ∧ extendedId header = aerId := by
  intro s
  have hplaces := (extendedChain s).mem_of_closed [0x100, 0x200, 0x140] (by decide +kernel)
    (by decide +kernel)
  have hspaced : (extendedChain s).Spaced 8 := by
    intro m n p q hp hq hlt
    rw [UInt16.lt_iff_toNat_lt] at hlt
    have hp' := hplaces m p hp
    have hq' := hplaces n q hq
    simp only [List.mem_cons, List.not_mem_nil, or_false] at hp' hq'
    rcases hp' with rfl | rfl | rfl <;> rcases hq' with rfl | rfl | rfl <;> revert hlt <;> decide
  have hfind : findAer s = some 0x140 := by decide +kernel
  obtain ⟨hcomplete, hread⟩ := findAer_of_chain s
  exact ⟨hspaced, hfind, ((hcomplete hspaced).1 0x140).mp hfind, hread 0x140 hfind⟩

end Extended

end AerWatch.Capability
