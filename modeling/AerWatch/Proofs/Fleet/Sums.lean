import AerWatch.Proofs.Capability.Calls
import AerWatch.Proofs.Fleet.Discovery
import AerWatch.Proofs.Fleet.Runs

/-!
# Offsets that are added up

Registers are found by adding to the offset of a structure, in 16 bits. The functions that do so are
given here a second time, with an addition that may refuse. An addition that refuses whatever goes past
a limit makes them fail if they ever go past it. They do not: a walk keeps to the space that it walks
through, discovery and pruning give structures that a walk has met, and polls leave these alone. So no
sum goes past the last register of an AER structure at the end of the space, and none wraps around.
-/

namespace AerWatch

/-- An addition of offsets that refuses sums past a limit. -/
def sumWithin (limit : Nat) (a b : UInt16) : Option UInt16 :=
  if a.toNat + b.toNat ≤ limit then some (a + b) else none

/-- An addition of offsets that refuses nothing and wraps around. -/
def wrappingSum (a b : UInt16) : Option UInt16 := some (a + b)

theorem sumWithin_eq {limit : Nat} {a b : UInt16} (h : a.toNat + b.toNat ≤ limit) :
    sumWithin limit a b = some (a + b) := if_pos h

variable (add : UInt16 → UInt16 → Option UInt16)

namespace Capability

variable (s : ConfigSpace)

/-- The next entry of the standard chain, with an addition that may refuse. -/
def nextStandardBy (w : Walk) : Option (Option (Capability UInt8) × Walk) :=
  if w.pos = 0 then return (none, w)
  else
    match w.remaining with
    | 0 => return (none, ⟨0, 0⟩)
    | n + 1 => do
      let id := s.read8 (← add w.pos 0)
      if id = endId then return (none, ⟨0, n⟩)
      else
        let link := s.read8 (← add w.pos 1)
        return (some ⟨id, w.pos⟩, ⟨standardLink link, n⟩)

variable {add}

theorem nextStandardBy_eq {w : Walk} (hid : add w.pos 0 = some (w.pos + 0))
    (hlink : add w.pos 1 = some (w.pos + 1)) :
    nextStandardBy add s w = some (nextStandard s w) := by
  unfold nextStandardBy nextStandard
  split_ifs with hpos
  · rfl
  · rcases w with ⟨pos, remaining⟩
    cases remaining with
    | zero => rfl
    | succ n =>
      simp only [hid, hlink, UInt16.add_zero, Option.pure_def, Option.bind_eq_bind, Option.bind_some]
      split_ifs <;> rfl

theorem nextStandardBy_wrappingSum (w : Walk) :
    nextStandardBy wrappingSum s w = some (nextStandard s w) := nextStandardBy_eq s rfl rfl

end Capability

namespace Policy

variable (p : Policy) (d : Device) (s : ConfigSpace)

/-- Reads a register of a structure, with an addition that may refuse. -/
def readBy {α : Type} (read : UInt16 → Except Error α) (pos r : UInt16) : ExceptT Error Option α := do
  let place ← add pos r
  ofExcept (read place)

/-- Reads the Device Status register of a device, with an addition that may refuse. -/
def readDeviceStatusBy : ExceptT Error Option UInt16 :=
  match d.express with
  | none => return d.snapshot.deviceStatus
  | some cap => (· &&& ErrorBit.statusMask) <$> readBy add s.tryRead16 cap Register.deviceStatus

/-- Reads the status registers of a device, with an addition that may refuse. -/
def readStatusBy : ExceptT Error Option Snapshot := do
  let deviceStatus ← readDeviceStatusBy add d s
  match d.aer with
  | none => return { d.snapshot with deviceStatus }
  | some pos =>
    let uncorrectable ← readBy add s.tryRead32 pos Register.uncorrectableStatus
    let correctable ← readBy add s.tryRead32 pos Register.correctableStatus
    return { deviceStatus, uncorrectable, correctable }

/-- Announces the changes of the Uncorrectable Error Status register, with an addition that may
refuse. -/
def checkUncorrectableBy (errors : UInt32) : Option (Device × List Event) :=
  match d.aer with
  | none => return (d, [])
  | some pos => do
    let masked := s.read32 (← add pos Register.uncorrectableMask)
    let severity := s.read32 (← add pos Register.uncorrectableSeverity)
    let changes := p.news ErrorBit.uncorrectable errors d.snapshot.uncorrectable masked
    return ({ d with snapshot := { d.snapshot with uncorrectable := errors } },
      changes.map fun (b, t) =>
        let c := uncorrectableClass severity b
        announce d.address.text c ("Uncorrectable(" ++ c.text ++ ") Error") b t)

/-- Announces the changes of the Correctable Error Status register, with an addition that may refuse. -/
def checkCorrectableBy (errors : UInt32) : Option (Device × List Event) :=
  match d.aer with
  | none => return (d, [])
  | some pos => do
    let masked := s.read32 (← add pos Register.correctableMask)
    let changes := p.news ErrorBit.correctable errors d.snapshot.correctable masked
    return ({ d with snapshot := { d.snapshot with correctable := errors } },
      changes.map fun (b, t) =>
        announce d.address.text .correctable "Correctable Error" b t)

/-- Announces all changes of a device, with an addition that may refuse. -/
def checkBy : ExceptT Error Option (Device × List Event) := do
  let status ← readStatusBy add d s
  let r₁ := p.checkDeviceStatus d status.deviceStatus
  let r₂ ← checkUncorrectableBy add p r₁.1 s status.uncorrectable
  let r₃ ← checkCorrectableBy add p r₂.1 s status.correctable
  return (r₃.1, r₁.2 ++ r₂.2 ++ r₃.2)

end Policy

/-- An addition refuses none of the sums that lead to the registers of a device. -/
structure Device.Reaches (d : Device) : Prop where
  express : ∀ cap ∈ d.express, add cap Register.deviceStatus = some (cap + Register.deviceStatus)
  aer : ∀ pos ∈ d.aer, ∀ r ≤ Register.correctableMask, add pos r = some (pos + r)

namespace Policy

section Steps

variable {add} {α β : Type}

/-- If no step of a computation refuses, it gives what the steps give one after another. -/
theorem run_bind_eq_some {x : ExceptT Error Option α} {f : α → ExceptT Error Option β}
    {y : Except Error α} {g : α → Except Error β} (hx : x.run = some y)
    (hf : ∀ a, (f a).run = some (g a)) : (x >>= f).run = some (y >>= g) := by
  rw [ExceptT.run_bind, hx]
  cases y with
  | error e => rfl
  | ok a => exact hf a

/-- A step that cannot fail and does not refuse. -/
theorem liftM_some_bind (a : α) (f : α → ExceptT Error Option β) :
    (liftM (some a) : ExceptT Error Option α) >>= f = f a := rfl

theorem run_readBy {pos r : UInt16} (h : add pos r = some (pos + r))
    (read : UInt16 → Except Error α) : (readBy add read pos r).run = some (read (pos + r)) := by
  unfold readBy
  rw [h, liftM_some_bind]
  cases read (pos + r) <;> rfl

end Steps

variable {add} {p : Policy} {d : Device}

theorem readDeviceStatusBy_eq (h : d.Reaches add) (s : ConfigSpace) :
    (readDeviceStatusBy add d s).run =
      some (d.express.elim (.ok d.snapshot.deviceStatus) fun cap =>
        (s.tryRead16 (cap + Register.deviceStatus)).map (· &&& ErrorBit.statusMask)) := by
  unfold readDeviceStatusBy
  cases hcap : d.express with
  | none => rfl
  | some cap =>
    rw [ExceptT.run_map, run_readBy (h.express cap hcap)]
    rfl

theorem readStatusBy_eq (h : d.Reaches add) (s : ConfigSpace) :
    (readStatusBy add d s).run = some (readStatus d s) := by
  rw [readStatus_eq]
  refine run_bind_eq_some (readDeviceStatusBy_eq h s) fun deviceStatus => ?_
  cases hpos : d.aer with
  | none => rfl
  | some pos =>
    refine run_bind_eq_some (run_readBy (h.aer pos hpos _ (by decide)) _) fun uncorrectable => ?_
    exact run_bind_eq_some (run_readBy (h.aer pos hpos _ (by decide)) _) fun correctable => rfl

theorem checkUncorrectableBy_eq (h : d.Reaches add) (s : ConfigSpace) (errors : UInt32) :
    checkUncorrectableBy add p d s errors = some (p.checkUncorrectable d s errors) := by
  unfold checkUncorrectableBy checkUncorrectable
  cases hpos : d.aer with
  | none => rfl
  | some pos =>
    simp only [h.aer pos hpos Register.uncorrectableMask (by decide),
      h.aer pos hpos Register.uncorrectableSeverity (by decide)]
    rfl

theorem checkCorrectableBy_eq (h : d.Reaches add) (s : ConfigSpace) (errors : UInt32) :
    checkCorrectableBy add p d s errors = some (p.checkCorrectable d s errors) := by
  unfold checkCorrectableBy checkCorrectable
  cases hpos : d.aer with
  | none => rfl
  | some pos =>
    simp only [h.aer pos hpos Register.correctableMask (by decide)]
    rfl

/-- The check of a register leaves the structures of a device where they are. -/
theorem reaches_checkDeviceStatus (h : d.Reaches add) (status : UInt16) :
    (p.checkDeviceStatus d status).1.Reaches add := by
  unfold checkDeviceStatus
  split
  · exact h
  · dsimp only
    split_ifs
    · exact ⟨h.express, h.aer⟩
    · exact h

theorem reaches_checkUncorrectable (h : d.Reaches add) (s : ConfigSpace) (errors : UInt32) :
    (p.checkUncorrectable d s errors).1.Reaches add := by
  unfold checkUncorrectable
  split
  · exact h
  · exact ⟨h.express, h.aer⟩

theorem checkBy_eq (h : d.Reaches add) (s : ConfigSpace) :
    (checkBy add p d s).run = some (p.check d s) := by
  have hcheck : p.check d s = readStatus d s >>= fun status =>
      let r₁ := p.checkDeviceStatus d status.deviceStatus
      let r₂ := p.checkUncorrectable r₁.1 s status.uncorrectable
      let r₃ := p.checkCorrectable r₂.1 s status.correctable
      .ok (r₃.1, r₁.2 ++ r₂.2 ++ r₃.2) := by
    unfold check
    rw [run_checking]
    cases readStatus d s <;> rfl
  rw [hcheck]
  unfold checkBy
  refine run_bind_eq_some (readStatusBy_eq h s) fun status => ?_
  have h₁ := reaches_checkDeviceStatus (p := p) h status.deviceStatus
  have h₂ := reaches_checkUncorrectable (p := p) h₁ s status.uncorrectable
  dsimp only
  rw [checkUncorrectableBy_eq h₁, liftM_some_bind, checkCorrectableBy_eq h₂, liftM_some_bind]
  rfl

/-- With an addition that refuses nothing the check is the one without. -/
theorem checkBy_wrappingSum (d : Device) (s : ConfigSpace) :
    (checkBy wrappingSum p d s).run = some (p.check d s) :=
  checkBy_eq ⟨fun _ _ => rfl, fun _ _ _ _ => rfl⟩ s

end Policy

namespace Capability

variable {s : ConfigSpace} {p : UInt16}

theorem findExpress_le (h : findExpress s = some p) : p.toNat ≤ 0xfc := by
  obtain ⟨a, ha, rfl⟩ := Option.map_eq_some_iff.mp h
  exact ((bounded_standard s).range a (List.mem_of_find?_eq_some ha)).2

theorem findAer_le (h : findAer s = some p) : p.toNat ≤ 0xffc := by
  obtain ⟨a, ha, rfl⟩ := Option.map_eq_some_iff.mp h
  exact ((bounded_extended s).range a (List.mem_of_find?_eq_some ha)).2

end Capability

/-- The structures of a device, if it has them, are where a walk can meet them. -/
structure Device.InReach (d : Device) : Prop where
  express : ∀ cap ∈ d.express, cap.toNat ≤ 0xfc
  aer : ∀ pos ∈ d.aer, pos.toNat ≤ 0xffc

/-- No sum that leads to a register of a device goes past the last register of an AER structure at the
end of the space. -/
theorem Device.InReach.reaches {d : Device} (h : d.InReach) : d.Reaches (sumWithin 0x1010) where
  express cap hcap := by
    refine sumWithin_eq ?_
    have hle := h.express cap hcap
    have hregister : Register.deviceStatus.toNat = 0x0a := rfl
    omega
  aer pos hpos r hr := by
    refine sumWithin_eq ?_
    have hle := h.aer pos hpos
    have hregister : r.toNat ≤ 0x14 := UInt16.le_iff_toNat_le.mp hr
    omega

namespace Fleet

/-- The states that a fleet can come to after it was discovered. -/
inductive Reachable : Fleet → Prop
  | discover {bus : Bus} {fleet : Fleet} (h : discover bus = .ok fleet) : Reachable fleet
  | poll {fleet : Fleet} (h : Reachable fleet) (p : Policy) (bus : Bus) :
    Reachable (poll p bus fleet).fleet
  | prune {fleet : Fleet} (h : Reachable fleet) (bus : Bus) : Reachable (prune bus fleet)

variable {bus : Bus} {fleet : Fleet} {d d' : Device}

theorem inReach_locate? (hd : d.InReach) (h : locate? bus d = some d') : d'.InReach := by
  obtain ⟨s, cap, -, hcap, rfl⟩ := locate?_eq_some h
  refine ⟨fun cap' hcap' => ?_, fun pos hpos => Capability.findAer_le hpos⟩
  obtain rfl := Option.some.inj hcap'
  -- a space without a chain leaves the structure that was known
  unfold expressOf at hcap
  split_ifs at hcap
  · exact Capability.findExpress_le hcap
  · exact hd.express cap hcap

theorem inReach_pollDevice (hd : d.InReach) (p : Policy) (bus : Bus) :
    (pollDevice p bus d).device.InReach := by
  obtain ⟨status, hstatus⟩ := device_pollDevice p bus d
  rw [hstatus]
  exact ⟨hd.express, hd.aer⟩

theorem Reachable.inReach (h : Reachable fleet) : ∀ d ∈ fleet.devices, d.InReach := by
  induction h with
  | discover h =>
    intro d hd
    obtain ⟨-, -, a, -, hlocate⟩ := exists_of_discover h hd
    have hfresh : Device.InReach { address := a } := ⟨by simp, by simp⟩
    exact inReach_locate? hfresh hlocate
  | poll _ p bus ih =>
    rw [poll_eq]
    exact List.forall_mem_map.mpr fun d hd => inReach_pollDevice (ih d hd) p bus
  | prune _ bus ih =>
    intro d hd
    obtain ⟨d₀, hd₀, hlocate⟩ := List.mem_filterMap.mp hd
    exact inReach_locate? (ih d₀ hd₀) hlocate

section Bounds

open Capability

/-- The calls of a walk give what it lists and then none for ever. It lists at most 48 standard and 480
extended entries, at aligned places of the standard and of the extended part of the space, each where
the one before it leads. No sum that a walk forms, nor one that the checks of a device form in any state
of a fleet that was discovered, goes past 0x1010: they give the same if sums past it are refused. With
an addition that refuses nothing they are the calls and checks themselves. -/
theorem walks_and_sums_in_bounds :
    (∀ s : ConfigSpace,
      (∀ n, Walk.call (nextStandard s) n (standardStart s) = (standard s)[n]?) ∧
      Bounded (standard s) 48 (standardLink (s.read8 firstLinkOffset))
        (fun p => standardLink (s.read8 (p + 1))) 4 0xfc ∧
      (∀ n, Walk.call (nextExtended s) n extendedWalk = (extended s)[n]?) ∧
      Bounded (extended s) 480 extendedStart (fun p => extendedLink (s.read32 p)) 0x100 0xffc ∧
      ∀ n, let w := Walk.after (nextStandard s) n (standardStart s)
        nextStandardBy (sumWithin 0x1010) s w = some (nextStandard s w)) ∧
    (∀ fleet, Reachable fleet → ∀ d ∈ fleet.devices, ∀ (seen : Snapshot) (p : Policy) (s : ConfigSpace),
      let d := { d with snapshot := seen }
      (Policy.readStatusBy (sumWithin 0x1010) d s).run = some (Policy.readStatus d s) ∧
      (∀ errors, Policy.checkUncorrectableBy (sumWithin 0x1010) p d s errors =
        some (p.checkUncorrectable d s errors)) ∧
      (∀ errors, Policy.checkCorrectableBy (sumWithin 0x1010) p d s errors =
        some (p.checkCorrectable d s errors)) ∧
      (Policy.checkBy (sumWithin 0x1010) p d s).run = some (p.check d s)) ∧
    (∀ (s : ConfigSpace) (w : Walk),
      nextStandardBy wrappingSum s w = some (nextStandard s w)) ∧
    ∀ (p : Policy) (d : Device) (s : ConfigSpace),
      (Policy.checkBy wrappingSum p d s).run = some (p.check d s) := by
  refine ⟨fun s => ⟨call_nextStandard s, bounded_standard s, call_nextExtended s, bounded_extended s,
    fun n => ?_⟩, fun fleet hfleet d hd seen p s => ?_, nextStandardBy_wrappingSum,
    fun p => Policy.checkBy_wrappingSum⟩
  · have hpos := pos_after_nextStandard s n
    have hzero : (0 : UInt16).toNat = 0 := rfl
    have hone : (1 : UInt16).toNat = 1 := rfl
    exact nextStandardBy_eq s (sumWithin_eq (by omega)) (sumWithin_eq (by omega))
  · have hreaches := (hfleet.inReach d hd).reaches
    have hseen : Device.Reaches (sumWithin 0x1010) { d with snapshot := seen } :=
      ⟨hreaches.express, hreaches.aer⟩
    exact ⟨Policy.readStatusBy_eq hseen s, Policy.checkUncorrectableBy_eq hseen s,
      Policy.checkCorrectableBy_eq hseen s, Policy.checkBy_eq hseen s⟩

end Bounds

section Sample

/-- A space with both structures at the last places that a walk can meet. The registers of the second
one lie behind the extended space. -/
def edgeSpace : ConfigSpace where
  address := ⟨0, 3, 0, 0⟩
  read offset size :=
    let bytes : List (Nat × UInt8) := [(0x06, 0x10), (0x34, 0xff), (0xfc, Capability.expressId),
      (0x100, 0x02), (0x102, 0xf0), (0x103, 0xff), (0xffc, 0x01), (0x100c, 0x01)]
    .ok ⟨((List.range size).map fun i => (bytes.lookup (offset.toNat + i)).getD 0).toArray, by simp⟩

def edgeBus : Bus where
  accessDir := "/sys/bus/pci"
  list := .ok [edgeSpace.address]
  openSpace _ := .ok edgeSpace

def edgeDevice : Device := { address := ⟨0, 3, 0, 0⟩, express := some 0xfc, aer := some 0xffc }

/-- The bound is reached: a lower one would be passed by the last sum of a check. -/
theorem sums_reach_the_bound :
    let d : Device := { edgeDevice with snapshot := { correctable := 0x1 } }
    (∀ n, Capability.Walk.call (Capability.nextExtended edgeSpace) n Capability.extendedWalk =
      ([⟨0x2, 0x100⟩, ⟨0x1, 0xffc⟩] : List (Capability UInt16))[n]?) ∧
      discover edgeBus = .ok ⟨[edgeDevice]⟩ ∧ (poll {} edgeBus ⟨[edgeDevice]⟩).fleet = ⟨[d]⟩ ∧
      (Policy.checkBy (sumWithin 0x1010) {} d edgeSpace).run = some (.ok (d, [])) ∧
      (Policy.checkBy (sumWithin 0x100f) {} d edgeSpace).run = none := by
  intro d
  have hextended : Capability.extended edgeSpace = [⟨0x2, 0x100⟩, ⟨0x1, 0xffc⟩] := by decide +kernel
  have hdiscover : discover edgeBus = .ok ⟨[edgeDevice]⟩ := by decide +kernel
  have hpoll : (poll {} edgeBus ⟨[edgeDevice]⟩).fleet = ⟨[d]⟩ := by decide +kernel
  have hreachable : Reachable ⟨[d]⟩ := hpoll ▸ .poll (.discover hdiscover) {} edgeBus
  have hcheck : Policy.check {} d edgeSpace = .ok (d, []) := by decide +kernel
  obtain ⟨hwalks, hsums, -, -⟩ := walks_and_sums_in_bounds
  refine ⟨hextended ▸ (hwalks edgeSpace).2.2.1, hdiscover, hpoll, ?_, by decide +kernel⟩
  rw [← hcheck]
  exact (hsums _ hreachable d (List.mem_singleton_self d) d.snapshot {} edgeSpace).2.2.2

end Sample

end Fleet

end AerWatch
