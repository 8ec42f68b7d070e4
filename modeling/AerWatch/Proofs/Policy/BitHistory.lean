import AerWatch.Policy
import Mathlib.Data.List.Chain
import Mathlib.Data.List.Induction

/-!
# What is told of one bit

Of one bit a poll sees whether it is set and whether it is masked, or nothing if the device cannot be
read. `Policy.told` are the changes that are announced over a run of polls; what was seen last
decides what is told next.
-/

namespace AerWatch

/-- What a poll sees of a bit. -/
structure Sight where
  set : Bool
  masked : Bool
deriving DecidableEq

/-- The change after which a bit is as given. -/
def Transition.to : Bool → Transition
  | true => .set
  | false => .cleared

@[simp] theorem Transition.to_eq_set {now : Bool} : Transition.to now = .set ↔ now = true := by
  cases now <;> decide

theorem Transition.to_inj {x y : Bool} : Transition.to x = Transition.to y ↔ x = y := by
  cases x <;> cases y <;> decide

/-- There is only one other change. -/
theorem Transition.eq_of_ne {t u v : Transition} (hu : u ≠ t) (hv : v ≠ t) : u = v := by
  cases t <;> cases u <;> cases v <;> simp_all

/-- The changes alternate, and the first is one to set. -/
def Alternates (ts : List Transition) : Prop := (Transition.cleared :: ts).IsChain (· ≠ ·)

instance (ts : List Transition) : Decidable (Alternates ts) :=
  inferInstanceAs (Decidable (List.IsChain _ _))

/-- Whether a bit was set when it was last seen. -/
def seen (was : Bool) (xs : List (Option Sight)) : Bool :=
  xs.foldl (fun was x => (x.map (·.set)).getD was) was

theorem seen_concat (was : Bool) (xs : List (Option Sight)) (x : Option Sight) :
    seen was (xs ++ [x]) = (x.map (·.set)).getD (seen was xs) := by
  simp [seen]

/-- What was seen last, if anything was seen. -/
theorem seen_eq (was : Bool) (xs : List (Option Sight)) :
    seen was xs = ((xs.filterMap id).getLast?.map (·.set)).getD was := by
  induction xs using List.reverseRecOn with
  | nil => rfl
  | append_singleton xs x ih =>
    rw [seen_concat, List.filterMap_append]
    cases x with
    | none => simpa using ih
    | some x => simp

namespace Policy

variable (p : Policy)

/-- What is told of a bit when it is seen, if anything. -/
def tell? (was : Bool) (x : Sight) : Option Transition :=
  if !p.reportMasked && x.masked then none
  else if x.set then
    if !p.persistent && was then none else some .set
  else if was then some .cleared
  else none

/-- What is told of a bit over a run of polls. -/
def told : Bool → List (Option Sight) → List Transition
  | _, [] => []
  | was, none :: xs => told was xs
  | was, some x :: xs => (p.tell? was x).toList ++ told x.set xs

theorem transition?_eq (current previous masked : UInt32) (b : ErrorBit) :
    p.transition? current previous masked b =
      p.tell? (b.isSet previous) ⟨b.isSet current, b.isSet masked⟩ := rfl

theorem told_append (was : Bool) (xs ys : List (Option Sight)) :
    p.told was (xs ++ ys) = p.told was xs ++ p.told (seen was xs) ys := by
  induction xs generalizing was with
  | nil => rfl
  | cons x xs ih =>
    cases x with
    | none => simpa [told, seen] using ih was
    | some x => simp [told, seen, ih x.set]

variable {p}

section ReportMasked

variable (hmasked : p.reportMasked = true)

include hmasked

/-- What is told is the state that is seen. Nothing is told only if it was the same before. -/
theorem tell?_cases (was : Bool) (x : Sight) :
    p.tell? was x = some (.to x.set) ∨ p.tell? was x = none ∧ x.set = was := by
  obtain ⟨now, masked⟩ := x
  cases hpersistent : p.persistent <;> cases was <;> cases now <;>
    simp [tell?, Transition.to, hmasked, hpersistent]

theorem tell?_of_eq (hpersistent : p.persistent = false) {was : Bool} {x : Sight} (h : x.set = was) :
    p.tell? was x = none := by
  cases was <;> simp [tell?, hmasked, hpersistent, h]

/-- The last change that was told is the one to what was last seen. -/
theorem getLast?_told (was : Bool) (xs : List (Option Sight)) :
    (Transition.to was :: p.told was xs).getLast? = some (Transition.to (seen was xs)) := by
  induction xs generalizing was with
  | nil => rfl
  | cons x xs ih =>
    cases x with
    | none => exact ih was
    | some x =>
      rw [seen, List.foldl_cons, told]
      rcases tell?_cases hmasked was x with htell | ⟨htell, rfl⟩
      · rw [htell, Option.toList_some, List.singleton_append, List.getLast?_cons_cons]
        exact ih x.set
      · rw [htell, Option.toList_none, List.nil_append]
        exact ih x.set

theorem getLast?_told_eq_set (xs : List (Option Sight)) :
    (p.told false xs).getLast? = some .set ↔ seen false xs = true := by
  have hlast := getLast?_told hmasked false xs
  rw [List.getLast?_cons, Option.some.injEq] at hlast
  rw [← Transition.to_eq_set, ← hlast]
  cases (p.told false xs).getLast? <;> simp [Transition.to]

/-- A bit whose changes alone are told is told to be set and cleared in turn. -/
theorem isChain_told (hpersistent : p.persistent = false) (was : Bool) (xs : List (Option Sight)) :
    (Transition.to was :: p.told was xs).IsChain (· ≠ ·) := by
  induction xs generalizing was with
  | nil => exact List.isChain_singleton _
  | cons x xs ih =>
    cases x with
    | none => exact ih was
    | some x =>
      rw [told]
      by_cases h : x.set = was
      · rw [tell?_of_eq hmasked hpersistent h, Option.toList_none, List.nil_append, ← h]
        exact ih x.set
      · obtain htell | ⟨-, heq⟩ := tell?_cases hmasked was x
        · rw [htell, Option.toList_some, List.singleton_append]
          refine List.isChain_cons_cons.mpr ⟨?_, ih x.set⟩
          rw [Ne, Transition.to_inj]
          exact Ne.symm h
        · exact absurd heq h

/-- A bit that is told at every poll is told to be set as often as it is seen set. -/
theorem count_set_told (hpersistent : p.persistent = true) (was : Bool) (xs : List (Option Sight)) :
    (p.told was xs).count .set = xs.countP fun x => x.any (·.set) := by
  induction xs generalizing was with
  | nil => rfl
  | cons x xs ih =>
    cases x with
    | none => simpa [told] using ih was
    | some x =>
      have htell : (p.tell? was x).toList.count .set = if x.set then 1 else 0 := by
        cases hset : x.set <;> cases was <;> simp [tell?, hmasked, hpersistent, hset]
      rw [told, List.count_append, htell, ih x.set, List.countP_cons, Nat.add_comm]
      simp

/-- A bit that is told at every poll is told to be cleared when it is seen clear after it was set. -/
theorem count_cleared_told (hpersistent : p.persistent = true) (was : Bool) (x : Option Sight) :
    (p.told was [x]).count .cleared = if x.any (!·.set) ∧ was = true then 1 else 0 := by
  cases x with
  | none => simp [told]
  | some x => cases hset : x.set <;> cases was <;> simp [told, tell?, hmasked, hpersistent, hset]

end ReportMasked

end Policy

end AerWatch
