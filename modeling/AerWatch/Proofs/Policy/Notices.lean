import AerWatch.Proofs.Policy.Registers
import Mathlib.Data.List.Nodup
import Mathlib.Data.List.ProdSigma

/-!
# What an event tells about a bit

The events of a register are read back from their texts: `Event.notice? k b` is the change of the bit
`b` of the register `k` that an event tells. No two bits share a text, so the changes read back from
the events of a check are those of `Policy.transition?`.
-/

namespace AerWatch

/-- The words that stand between the kind of an error and its name. -/
def Transition.words : Transition → String
  | .set => " set: "
  | .cleared => " cleared: "

namespace Event

/-- Whether the event tells that the bit `b` of the register `k` changed by `t`. -/
def tells (k : StatusRegister) (b : ErrorBit) (t : Transition) (e : Event) : Bool :=
  e.errorClass.any fun c => e.message == k.label c ++ t.words ++ b.name

/-- The change of the bit `b` of the register `k` that the event tells. -/
def notice? (k : StatusRegister) (b : ErrorBit) (e : Event) : Option Transition :=
  if e.tells k b .set then some .set
  else if e.tells k b .cleared then some .cleared
  else none

end Event

section Texts

variable {k k' : StatusRegister} {c : ErrorClass} {t t' : Transition} {b b' : ErrorBit}

theorem announce_eq (subject : String) (c : ErrorClass) (label : String) (b : ErrorBit)
    (t : Transition) :
    (Policy.announce subject c label b t).errorClass = some c ∧
      (Policy.announce subject c label b t).message = label ++ t.words ++ b.name := by
  cases t <;> exact ⟨rfl, rfl⟩

namespace StatusRegister

/-- The text of an event before the colon. -/
def heading (c : ErrorClass) (kt : StatusRegister × Transition) : List Char :=
  (kt.1.label c).toList ++ kt.2.words.toList.dropLast.dropLast

theorem mem_product (kt : StatusRegister × Transition) :
    kt ∈ all.product [Transition.set, .cleared] := by
  obtain ⟨k, t⟩ := kt
  cases k <;> cases t <;> decide

theorem heading_injective (c : ErrorClass) : Function.Injective (heading c) := by
  have hnodup : ((all.product [Transition.set, .cleared]).map (heading c)).Nodup := by
    cases c <;> decide +kernel
  exact fun _ _ h => List.inj_on_of_nodup_map hnodup (mem_product _) (mem_product _) h

theorem colon_notMem_heading (c : ErrorClass) (kt : StatusRegister × Transition) :
    ':' ∉ heading c kt := by
  obtain ⟨k, t⟩ := kt
  cases c <;> cases k <;> cases t <;> decide +kernel

theorem nodup_names (k : StatusRegister) : (k.bits.map (·.name)).Nodup := by
  cases k <;> decide +kernel

theorem colon_notMem_name (k : StatusRegister) : ∀ b ∈ k.bits, ':' ∉ b.name.toList := by
  cases k <;> decide +kernel

/-- The text of an event, divided at the colon. -/
theorem toList_text (k : StatusRegister) (c : ErrorClass) (t : Transition) (b : ErrorBit) :
    (k.label c ++ t.words ++ b.name).toList = heading c (k, t) ++ ':' :: ' ' :: b.name.toList := by
  cases t <;> simp [heading, Transition.words]

/-- No two changes of bits have the same text. -/
theorem text_inj (hb : b ∈ k.bits) (hb' : b' ∈ k'.bits)
    (h : k.label c ++ t.words ++ b.name = k'.label c ++ t'.words ++ b'.name) :
    k = k' ∧ t = t' ∧ b = b' := by
  have hlist := congrArg String.toList h
  rw [toList_text, toList_text] at hlist
  have hcolon : ':' ∉ ' ' :: b.name.toList := by simpa using colon_notMem_name k b hb
  obtain ⟨hheading, -, hname⟩ :=
    (List.append_cons_inj_of_notMem (colon_notMem_heading c (k, t)) hcolon).mp hlist
  obtain ⟨rfl, rfl⟩ := Prod.mk.inj (heading_injective c hheading)
  refine ⟨rfl, rfl, List.inj_on_of_nodup_map (nodup_names k) hb hb' ?_⟩
  exact String.toList_inj.mp (List.cons_inj_right _ |>.mp hname)

end StatusRegister

/-- What is read back from the announcement of a change. -/
theorem notice?_announce (hb : b ∈ k.bits) (hb' : b' ∈ k'.bits) (subject : String) :
    (Policy.announce subject c (k'.label c) b' t).notice? k b =
      if k' = k ∧ b' = b then some t else none := by
  obtain ⟨hclass, hmessage⟩ := announce_eq subject c (k'.label c) b' t
  have htells (u : Transition) :
      (Policy.announce subject c (k'.label c) b' t).tells k b u = true ↔
        k' = k ∧ t = u ∧ b' = b := by
    simp only [Event.tells, hclass, hmessage, Option.any_some, beq_iff_eq]
    refine ⟨StatusRegister.text_inj hb' hb, ?_⟩
    rintro ⟨rfl, rfl, rfl⟩
    rfl
  simp only [Event.notice?, htells]
  cases t <;> simp

end Texts

section Checks

variable {p : Policy} {s : ConfigSpace} {d : Device} {status : Snapshot} {k : StatusRegister}
variable {b : ErrorBit}

/-- What the events of one register tell about a bit. -/
theorem notices_announced (hb : b ∈ k.bits) (k' : StatusRegister) :
    (p.announced s d status k').filterMap (·.notice? k b) =
      if k' = k ∧ k.presentIn d then
        (p.transition? (k.value status) (k.value d.snapshot) (k.masked s d) b).toList
      else [] := by
  by_cases hpresent : k'.presentIn d
  · rw [Policy.announced, if_pos hpresent, Policy.transitions, List.filterMap_map,
      List.filterMap_filterMap]
    rw [List.filterMap_congr (g := fun b' => if k' = k ∧ b' = b then
      p.transition? (k'.value status) (k'.value d.snapshot) (k'.masked s d) b' else none)]
    · by_cases hk : k' = k
      · subst hk
        have hnodup : (k'.bits.map id).Nodup := by
          rw [List.map_id]
          exact List.Nodup.of_map _ k'.nodup_names
        simp only [true_and, hpresent, and_self, if_true, List.filterMap_eq_flatMap_toList,
          apply_ite Option.toList, Option.toList_none]
        exact flatMap_ite_of_nodup hnodup hb
      · simp [hk]
    · intro b' hb'
      cases ht : p.transition? (k'.value status) (k'.value d.snapshot) (k'.masked s d) b' with
      | none => simp
      | some t => simp [notice?_announce hb hb']
  · rw [Policy.announced, if_neg hpresent]
    have hnot : ¬(k' = k ∧ k.presentIn d) := by
      rintro ⟨rfl, h⟩
      exact hpresent h
    rw [if_neg hnot, List.filterMap_nil]

/-- A check that can read the device tells about a bit what `Policy.transition?` says. -/
theorem notices_check (hb : b ∈ k.bits) (hk : k.presentIn d) :
    (StatusRegister.all.flatMap (p.announced s d status)).filterMap (·.notice? k b) =
      (p.transition? (k.value status) (k.value d.snapshot) (k.masked s d) b).toList := by
  simp only [StatusRegister.all, List.flatMap_cons, List.flatMap_nil, List.filterMap_append,
    notices_announced hb]
  cases k <;> simp [hk]

end Checks

end AerWatch
