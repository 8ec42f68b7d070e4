import AerWatch.Proofs.Fleet.Runs
import Mathlib.Data.List.Flatten

/-!
# What a policy decides

A policy decides which changes are announced, but not what is remembered. So runs of polls under any
two policies leave the same devices and have the same results, and a policy that asks for less
announces in every poll some of the events of the other one, in the same order.
-/

namespace AerWatch

namespace Policy

section Within

/-- The first policy asks for nothing that the second one does not ask for, too. -/
structure Within (p q : Policy) : Prop where
  persistent : p.persistent = true → q.persistent = true
  reportMasked : p.reportMasked = true → q.reportMasked = true

theorem within_persistent (p : Policy) :
    Within { p with persistent := false } { p with persistent := true } :=
  ⟨fun _ => rfl, id⟩

theorem within_reportMasked (p : Policy) :
    Within { p with reportMasked := false } { p with reportMasked := true } :=
  ⟨id, fun _ => rfl⟩

variable {p q : Policy} (h : Within p q)
include h

/-- A change that the policy announces is announced by one that asks for more, too. -/
theorem transition?_of_within {current previous masked : UInt32} {b : ErrorBit} {t : Transition}
    (ht : p.transition? current previous masked b = some t) :
    q.transition? current previous masked b = some t := by
  -- what keeps a change back under the second policy keeps it back under the first one
  have hback {x y v : Bool} (hxy : x = true → y = true) (hv : (!y && v) = true) :
      (!x && v) = true := by
    cases x with
    | false => simpa using (Bool.and_eq_true_iff.mp hv).2
    | true => simp [hxy rfl] at hv
  unfold transition? at ht ⊢
  split_ifs at ht with hhidden hset hrepeated hwas
  · rwa [if_neg (mt (hback h.reportMasked) hhidden), if_pos hset,
      if_neg (mt (hback h.persistent) hrepeated)]
  · rwa [if_neg (mt (hback h.reportMasked) hhidden), if_neg hset, if_pos hwas]

theorem transitions_sublist (bits : List ErrorBit) (current previous masked : UInt32) :
    (p.transitions bits current previous masked).Sublist
      (q.transitions bits current previous masked) := by
  simp only [transitions, List.filterMap_eq_flatMap_toList]
  refine List.Sublist.flatMap_right bits fun b _ => ?_
  cases ht : p.transition? current previous masked b with
  | none => exact List.nil_sublist _
  | some t =>
    rw [transition?_of_within h ht]

theorem announced_sublist (s : ConfigSpace) (d : Device) (status : Snapshot) (k : StatusRegister) :
    (p.announced s d status k).Sublist (q.announced s d status k) := by
  unfold announced
  split
  · exact (transitions_sublist h _ _ _ _).map _
  · exact List.Sublist.refl _

end Within

end Policy

namespace Fleet

section Polls

variable {p q : Policy}

/-- What is remembered of a device does not depend on the policy. -/
theorem device_pollDevice_eq (p q : Policy) (bus : Bus) (d : Device) :
    (pollDevice p bus d).device = (pollDevice q bus d).device := by
  rw [pollDevice_eq, pollDevice_eq]
  cases reading? bus d <;> rfl

theorem events_pollDevice_sublist (h : p.Within q) (bus : Bus) (d : Device) :
    (pollDevice p bus d).events.Sublist (pollDevice q bus d).events := by
  rw [pollDevice_eq, pollDevice_eq]
  cases reading? bus d with
  | none => exact List.Sublist.refl _
  | some r =>
    exact List.Sublist.flatMap_right _ fun k _ => Policy.announced_sublist h r.1 d r.2 k

theorem fleet_poll_eq (p q : Policy) (bus : Bus) (fleet : Fleet) :
    (poll p bus fleet).fleet = (poll q bus fleet).fleet := by
  rw [poll_eq, poll_eq]
  simp only [device_pollDevice_eq p q]

theorem result_poll_eq (p q : Policy) (bus : Bus) (fleet : Fleet) :
    (poll p bus fleet).result = (poll q bus fleet).result := by
  rw [poll_eq, poll_eq]

theorem events_poll_sublist (h : p.Within q) (bus : Bus) (fleet : Fleet) :
    (poll p bus fleet).events.Sublist (poll q bus fleet).events := by
  rw [poll_eq, poll_eq]
  exact List.Sublist.flatMap_right _ fun d _ => events_pollDevice_sublist h bus d

end Polls

section Runs

theorem outcomes_reports_eq (p q : Policy) (fleet : Fleet) (buses : List Bus) :
    (reports p fleet buses).map (fun r => (r.fleet, r.result)) =
      (reports q fleet buses).map fun r => (r.fleet, r.result) := by
  induction buses generalizing fleet with
  | nil => rfl
  | cons bus buses ih =>
    simp only [reports, List.map_cons, fleet_poll_eq p q, result_poll_eq p q, ih]

/-- In every poll of a run the policy that asks for less announces a part of what the other one does:
both meet the devices in the same state. -/
theorem forall₂_events_reports {p q : Policy} (h : p.Within q) (fleet : Fleet)
    (buses : List Bus) :
    List.Forall₂ (fun r r' => r.events.Sublist r'.events) (reports p fleet buses)
      (reports q fleet buses) := by
  induction buses generalizing fleet with
  | nil => exact .nil
  | cons bus buses ih =>
    rw [reports, reports, fleet_poll_eq p q]
    exact .cons (events_poll_sublist h bus fleet) (ih _)

/-- Runs of polls under all policies leave the same devices after every poll and have the same results.
A policy that is not persistent, or does not report masked errors, announces in every poll a part of
what the policy announces that is or does, in the same order. -/
theorem reports_under_all_policies (p : Policy) (fleet : Fleet) (buses : List Bus) :
    (∀ q, (reports q fleet buses).map (fun r => (r.fleet, r.result)) =
      (reports p fleet buses).map fun r => (r.fleet, r.result)) ∧
    List.Forall₂ (fun r r' => r.events.Sublist r'.events)
      (reports { p with persistent := false } fleet buses)
      (reports { p with persistent := true } fleet buses) ∧
    List.Forall₂ (fun r r' => r.events.Sublist r'.events)
      (reports { p with reportMasked := false } fleet buses)
      (reports { p with reportMasked := true } fleet buses) :=
  ⟨fun q => outcomes_reports_eq q p fleet buses,
    forall₂_events_reports p.within_persistent fleet buses,
    forall₂_events_reports p.within_reportMasked fleet buses⟩

end Runs

end Fleet

end AerWatch
