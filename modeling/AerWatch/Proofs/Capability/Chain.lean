import AerWatch.Capability
import Mathlib.Data.Fintype.Card
import Mathlib.Data.Nat.Find
import Mathlib.Logic.Function.Iterate
import Mathlib.Order.Fin.Basic

/-!
# Chains followed without bound

A `Chain` says where the first entry is and which entry comes after another. It may run in a circle, so
following it need not come to an end. On the way to the first place at which something holds no place
is met twice: a circle would have led past that place before. So the entries on that way have room
beside each other, and their number is bounded.
-/

namespace AerWatch

/-- A chain of places. -/
structure Chain where
  /-- The first place, if there is any. -/
  first : Option UInt16
  /-- The place that comes after another one, if the chain goes on there. -/
  next : UInt16 → Option UInt16

namespace Chain

/-- The place after a number of links, if the chain goes so far. -/
def place (c : Chain) (n : Nat) : Option UInt16 := (·.bind c.next)^[n] c.first

/-- The first place at which something holds is `p`, and `n` links lead to it. -/
structure FirstAt (c : Chain) (P : UInt16 → Prop) (n : Nat) (p : UInt16) : Prop where
  place : c.place n = some p
  holds : P p
  before : ∀ m < n, ∀ q, c.place m = some q → ¬ P q

/-- The first place at which something holds. -/
def First (c : Chain) (P : UInt16 → Prop) (p : UInt16) : Prop := ∃ n, c.FirstAt P n p

/-- Something holds at no place, however far the chain is followed. -/
def Never (c : Chain) (P : UInt16 → Prop) : Prop := ∀ n p, c.place n = some p → ¬ P p

/-- Two different places are never closer to each other than `size` bytes. -/
def Spaced (c : Chain) (size : Nat) : Prop :=
  ∀ m n p q, c.place m = some p → c.place n = some q → p < q → p.toNat + size ≤ q.toNat

section Places

variable {c : Chain} {P : UInt16 → Prop} {m n : Nat} {p : UInt16}

@[simp] theorem place_zero (c : Chain) : c.place 0 = c.first := rfl

theorem place_succ (c : Chain) (n : Nat) : c.place (n + 1) = (c.place n).bind c.next :=
  Function.iterate_succ_apply' ..

/-- What comes after the first place is a chain, too. -/
theorem place_succ_first (first : Option UInt16) (next : UInt16 → Option UInt16) (n : Nat) :
    (mk first next).place (n + 1) = (mk (first.bind next) next).place n :=
  Function.iterate_succ_apply ..

@[simp] theorem place_none (next : UInt16 → Option UInt16) (n : Nat) :
    (mk none next).place n = none := by
  induction n with
  | zero => rfl
  | succ n ih => rw [place_succ, ih, Option.bind_none]

/-- Where two numbers of links lead to one place, further links lead to one place again. -/
theorem place_add_congr (h : c.place m = c.place n) (k : Nat) : c.place (m + k) = c.place (n + k) := by
  induction k with
  | zero => exact h
  | succ k ih => rw [← Nat.add_assoc, ← Nat.add_assoc, place_succ, place_succ, ih]

/-- A chain that goes so far has come to a place before. -/
theorem exists_place_of_le (h : c.place n = some p) (hmn : m ≤ n) : ∃ q, c.place m = some q := by
  induction n generalizing p with
  | zero =>
    obtain rfl : m = 0 := by omega
    exact ⟨p, h⟩
  | succ n ih =>
    by_cases hm : m = n + 1
    · exact ⟨p, hm ▸ h⟩
    · rw [place_succ] at h
      obtain ⟨q, hq, -⟩ := Option.bind_eq_some_iff.mp h
      exact ih hq (by omega)

/-- What holds of the first place and is kept by each link holds of all places. -/
theorem forall_place {I : UInt16 → Prop} (hfirst : ∀ p, c.first = some p → I p)
    (hnext : ∀ p q, I p → c.next p = some q → I q) : ∀ n p, c.place n = some p → I p := by
  intro n
  induction n with
  | zero => exact hfirst
  | succ n ih =>
    intro q hq
    rw [place_succ] at hq
    obtain ⟨p, hp, hnextp⟩ := Option.bind_eq_some_iff.mp hq
    exact hnext p q (ih p hp) hnextp

/-- A list of places that no link leaves holds all places. -/
theorem mem_of_closed (places : List UInt16) (hfirst : c.first.all places.contains)
    (hnext : places.all fun p => (c.next p).all places.contains) :
    ∀ n p, c.place n = some p → p ∈ places := by
  refine forall_place (fun p hp => ?_) fun p q hp hq => ?_
  · rw [hp] at hfirst
    exact List.contains_iff_mem.mp hfirst
  · have hall := List.all_eq_true.mp hnext p hp
    rw [hq] at hall
    exact List.contains_iff_mem.mp hall

theorem exists_firstAt (h : c.place n = some p) (hp : P p) : ∃ m q, c.FirstAt P m q := by
  classical
  have hex : ∃ m q, c.place m = some q ∧ P q := ⟨n, p, h, hp⟩
  obtain ⟨q, hq, hPq⟩ := Nat.find_spec hex
  refine ⟨Nat.find hex, q, hq, hPq, fun m hm r hr hPr => ?_⟩
  exact Nat.find_min hex hm ⟨r, hr, hPr⟩

theorem never_iff : c.Never P ↔ ∀ p, ¬ c.First P p := by
  constructor
  · rintro h p ⟨n, hn⟩
    exact h n p hn.place hn.holds
  · intro h n p hp hP
    obtain ⟨m, q, hq⟩ := exists_firstAt hp hP
    exact h q ⟨m, hq⟩

/-- A search among the first places misses nothing if the place that it looks for is among them. -/
theorem search_complete {found : Option UInt16} {limit : Nat}
    (hfound : ∀ p, found = some p ↔ ∃ n < limit, c.FirstAt P n p)
    (hlimit : ∀ n p, c.FirstAt P n p → n < limit) :
    (∀ p, found = some p ↔ c.First P p) ∧ (found = none ↔ c.Never P) := by
  have hfirst : ∀ p, found = some p ↔ c.First P p := by
    intro p
    rw [hfound]
    exact exists_congr fun n => ⟨And.right, fun h => ⟨hlimit n p h, h⟩⟩
  refine ⟨hfirst, ?_⟩
  rw [never_iff, Option.eq_none_iff_forall_ne_some]
  exact forall_congr' fun p => not_congr (hfirst p)

end Places

section Room

variable {c : Chain} {P : UInt16 → Prop} {n : Nat} {p q : UInt16} {base size count : Nat}

/-- No place is met twice on the way to the first one at which something holds. -/
theorem FirstAt.place_ne (h : c.FirstAt P n p) {k m : Nat} (hkm : k < m) (hmn : m ≤ n) :
    c.place k ≠ c.place m := by
  intro heq
  -- the rest of the way, taken from the earlier visit, is too short
  have hearly : c.place (k + (n - m)) = some p := by
    rw [place_add_congr heq, Nat.add_sub_cancel' hmn]
    exact h.place
  exact h.before (k + (n - m)) (by omega) p hearly h.holds

/-- The room for entries parted into slots of one size: the slot in which an entry begins. -/
def slot (base size : Nat) (p : UInt16) : Nat := (p.toNat - base) / size

theorem slot_lt (hp : p.toNat < base + size * count) (hbase : base ≤ p.toNat) :
    slot base size p < count := by
  apply Nat.div_lt_of_lt_mul
  omega

theorem slot_lt_slot (hsize : 0 < size) (hbase : base ≤ p.toNat) (h : p.toNat + size ≤ q.toNat) :
    slot base size p < slot base size q := by
  have hle : (p.toNat - base) + size ≤ q.toNat - base := by omega
  calc slot base size p < slot base size p + 1 := Nat.lt_succ_self _
    _ = ((p.toNat - base) + size) / size := (Nat.add_div_right _ hsize).symm
    _ ≤ slot base size q := Nat.div_le_div_right hle

/-- Different places have different slots. -/
theorem Spaced.slot_ne (h : c.Spaced size) (hsize : 0 < size)
    (hbase : ∀ m p, c.place m = some p → base ≤ p.toNat) {m k : Nat} (hp : c.place m = some p)
    (hq : c.place k = some q) (hne : p ≠ q) : slot base size p ≠ slot base size q := by
  have hnat : p.toNat ≠ q.toNat := fun heq => hne (UInt16.toNat_inj.mp heq)
  rcases Nat.lt_or_gt_of_ne hnat with hlt | hlt
  · exact (slot_lt_slot hsize (hbase m p hp) (h m k p q hp hq hlt)).ne
  · exact (slot_lt_slot hsize (hbase k q hq) (h k m q p hq hp hlt)).ne'

/-- Where entries keep their distance, fewer links than there is room for entries lead to the first
place at which something holds. -/
theorem FirstAt.lt_of_spaced (h : c.FirstAt P n p) (hspaced : c.Spaced size) (hsize : 0 < size)
    (base : Nat)
    (hroom : ∀ m q, c.place m = some q → base ≤ q.toNat ∧ q.toNat < base + size * count) :
    n < count := by
  have hreach : ∀ m : Fin (n + 1), ∃ q, c.place m = some q := fun m =>
    exists_place_of_le h.place (Nat.le_of_lt_succ m.isLt)
  choose f hf using hreach
  have hplaces : ∀ k m, k ≠ m → f k ≠ f m := by
    intro k m hne heq
    have hplace : c.place k = c.place m := by rw [hf, hf, heq]
    rcases lt_or_gt_of_ne hne with hlt | hlt
    · exact h.place_ne hlt (Nat.le_of_lt_succ m.isLt) hplace
    · exact h.place_ne hlt (Nat.le_of_lt_succ k.isLt) hplace.symm
  -- so the places on the way have slots of their own
  let slots (m : Fin (n + 1)) : Fin count :=
    ⟨slot base size (f m), slot_lt (hroom m (f m) (hf m)).2 (hroom m (f m) (hf m)).1⟩
  have hslots : Function.Injective slots := by
    intro k m hkm
    by_contra hne
    exact hspaced.slot_ne hsize (fun i q hq => (hroom i q hq).1) (hf k) (hf m) (hplaces k m hne)
      (congrArg Fin.val hkm)
  have hcard : Fintype.card (Fin (n + 1)) ≤ Fintype.card (Fin count) :=
    Fintype.card_le_of_injective slots hslots
  rw [Fintype.card_fin, Fintype.card_fin] at hcard
  omega

end Room

end Chain

namespace Capability

variable {ι : Type}

/-- The entries are those at the first places of a chain, `limit` of them at most. -/
def Covers (entries : List (Capability ι)) (id : UInt16 → ι) (limit : Nat) (c : Chain) : Prop :=
  ∀ n, entries[n]? = if n < limit then (c.place n).map fun p => ⟨id p, p⟩ else none

section Steps

/-- A walk goes along a chain: it lists the entry at each place that can be entered, as long as entries
may come, and ends where no place can be entered or no entry may come any more. -/
structure Follows (next : Walk → Option (Capability ι) × Walk) (id : UInt16 → ι)
    (enter? : UInt16 → Option UInt16) (link : UInt16 → UInt16) : Prop where
  entry : ∀ pos p n, enter? pos = some p → next ⟨pos, n + 1⟩ = (some ⟨id p, p⟩, ⟨link p, n⟩)
  stop : ∀ pos n, enter? pos = none → (next ⟨pos, n⟩).1 = none
  spent : ∀ pos, (next ⟨pos, 0⟩).1 = none

variable {next : Walk → Option (Capability ι) × Walk} {id : UInt16 → ι}
  {enter? : UInt16 → Option UInt16} {link : UInt16 → UInt16}

theorem Walk.collect_of_none {w : Walk} (h : (next w).1 = none) (fuel : Nat) :
    (Walk.collect next fuel w).1 = [] := by
  cases fuel with
  | zero => rfl
  | succ fuel =>
    rcases hw : next w with ⟨a, w'⟩
    rw [hw] at h
    obtain rfl : a = none := h
    simp only [Walk.collect, hw]

theorem Walk.collect_of_some {w w' : Walk} {a : Capability ι} (h : next w = (some a, w'))
    (fuel : Nat) :
    (Walk.collect next (fuel + 1) w).1 = a :: (Walk.collect next fuel w').1 := by
  simp only [Walk.collect, h]

/-- A walk lists the first entries of the chain that it goes along. -/
theorem Follows.covers (h : Follows next id enter? link) {fuel remaining : Nat}
    (hfuel : remaining ≤ fuel) (pos : UInt16) :
    Covers (Walk.collect next fuel ⟨pos, remaining⟩).1 id remaining
      ⟨enter? pos, fun p => enter? (link p)⟩ := by
  induction remaining generalizing fuel pos with
  | zero =>
    intro n
    rw [Walk.collect_of_none (h.spent pos), if_neg (Nat.not_lt_zero n)]
    rfl
  | succ remaining ih =>
    intro n
    cases hpos : enter? pos with
    | none =>
      rw [Walk.collect_of_none (h.stop pos _ hpos), Chain.place_none, Option.map_none, ite_self]
      rfl
    | some p =>
      obtain ⟨fuel, rfl⟩ : ∃ k, fuel = k + 1 := ⟨fuel - 1, by omega⟩
      rw [Walk.collect_of_some (h.entry pos p remaining hpos)]
      cases n with
      | zero => simp
      | succ n =>
        rw [List.getElem?_cons_succ, Chain.place_succ_first, ih (by omega) (link p) n]
        simp only [Nat.add_lt_add_iff_right, Option.bind_some]

end Steps

section Search

theorem Covers.getElem?_eq_some_iff {entries : List (Capability ι)} {id : UInt16 → ι} {limit : Nat}
    {c : Chain} (h : Covers entries id limit c) {n : Nat} {a : Capability ι} :
    entries[n]? = some a ↔ n < limit ∧ ∃ p, c.place n = some p ∧ (⟨id p, p⟩ : Capability ι) = a := by
  rw [h n]
  split_ifs with hn
  · rw [Option.map_eq_some_iff]
    exact (and_iff_right hn).symm
  · simp [hn]

variable [DecidableEq ι] {entries : List (Capability ι)} {id : UInt16 → ι} {limit : Nat} {c : Chain}

/-- Searching the entries finds the first place of the chain with an id that is among the first ones. -/
theorem Covers.find?_eq_some_iff (h : Covers entries id limit c) (i : ι) (p : UInt16) :
    (entries.find? (·.id == i)).map (·.offset) = some p ↔
      ∃ n < limit, c.FirstAt (id · = i) n p := by
  constructor
  · intro hfind
    obtain ⟨a, ha, rfl⟩ := Option.map_eq_some_iff.mp hfind
    obtain ⟨hid, n, hn, hget, hbefore⟩ := List.find?_eq_some_iff_getElem.mp ha
    obtain ⟨hlimit, p, hp, rfl⟩ :=
      h.getElem?_eq_some_iff.mp (List.getElem?_eq_some_iff.mpr ⟨hn, hget⟩)
    refine ⟨n, hlimit, hp, beq_iff_eq.mp hid, fun m hm q hq hidq => ?_⟩
    have hgetm : entries[m]? = some ⟨id q, q⟩ :=
      h.getElem?_eq_some_iff.mpr ⟨by omega, q, hq, rfl⟩
    obtain ⟨hmn, heq⟩ := List.getElem?_eq_some_iff.mp hgetm
    have hnot := hbefore m hm
    rw [heq] at hnot
    simp [hidq] at hnot
  · rintro ⟨n, hn, hplace, hid, hbefore⟩
    have hgetn : entries[n]? = some ⟨id p, p⟩ := h.getElem?_eq_some_iff.mpr ⟨hn, p, hplace, rfl⟩
    obtain ⟨hlength, hget⟩ := List.getElem?_eq_some_iff.mp hgetn
    refine Option.map_eq_some_iff.mpr ⟨⟨id p, p⟩, ?_, rfl⟩
    refine List.find?_eq_some_iff_getElem.mpr ⟨beq_iff_eq.mpr hid, n, hlength, hget, fun m hm => ?_⟩
    obtain ⟨-, q, hq, hentry⟩ :=
      h.getElem?_eq_some_iff.mp (List.getElem?_eq_getElem (hm.trans hlength))
    rw [← hentry]
    simpa using hbefore m hm q hq

end Search

end Capability

end AerWatch
