import AerWatch.Proofs.Fleet.Discovery
import AerWatch.Proofs.Fleet.Polling
import Mathlib.Data.List.Forall2

/-!
# What pruning keeps

A function is a PCI Express device now if it can be opened, its Status register tells of a standard
chain, and the chain holds a PCI Express structure. Discovery gives exactly the listed functions of
which that is true, each with its structures as they are now, and no function has a part in what is
found of another one. Pruning does the same to a fleet, but for one case: a device that knows a PCI
Express structure from before keeps it while its space tells of no chain.
-/

namespace AerWatch

/-- Whether a space tells of a standard chain: its Status register can be read and has the bit. -/
def ConfigSpace.hasChain (s : ConfigSpace) : Bool :=
  (s.tryRead16 Capability.statusOffset).toOption.any (· &&& Capability.chainBit != 0)

theorem ConfigSpace.hasChain_eq (s : ConfigSpace) :
    s.hasChain = (s.read16 Capability.statusOffset &&& Capability.chainBit != 0) := by
  unfold hasChain read16
  cases s.tryRead16 Capability.statusOffset with
  | error e =>
    show false = ((0 : UInt16) &&& Capability.chainBit != 0)
    decide
  | ok v => rfl

namespace Fleet

/-- Whether the function at an address is a PCI Express device now. -/
def isExpress (bus : Bus) (a : Address) : Bool :=
  (bus.openSpace a).toOption.any fun s => s.hasChain && (Capability.findExpress s).isSome

/-- Whether a device knows a PCI Express structure although its space, which can be opened, tells of no
chain now. -/
def isStale (bus : Bus) (d : Device) : Bool :=
  (bus.openSpace d.address).toOption.any fun s => !s.hasChain && d.express.isSome

/-- A device as it was, but for its structures, which are those that are found now. -/
def Located (bus : Bus) (d d' : Device) : Prop :=
  ∃ s, bus.openSpace d.address = .ok s ∧
    d' = { d with express := Capability.findExpress s, aer := Capability.findAer s }

/-- A device as it was, but for its AER structure, which is the one that is found now. -/
def Retained (bus : Bus) (d d' : Device) : Prop :=
  ∃ s, bus.openSpace d.address = .ok s ∧ d' = { d with aer := Capability.findAer s }

/-- A fleet pruned to its PCI Express devices of now, in their order, each with the structures that are
found now. -/
def IsPruned (bus : Bus) (fleet pruned : Fleet) : Prop :=
  List.Forall₂ (Located bus) (fleet.devices.filter (isExpress bus ·.address)) pruned.devices

section Judgement

variable {bus : Bus} {d d' : Device}

theorem isExpress_iff {a : Address} :
    isExpress bus a ↔ ∃ s cap, bus.openSpace a = .ok s ∧ s.hasChain ∧
      Capability.findExpress s = some cap := by
  unfold isExpress
  cases bus.openSpace a with
  | error e => simp [Except.toOption]
  | ok s => simp [Except.toOption, Option.isSome_iff_exists]

theorem isStale_iff :
    isStale bus d ↔ ∃ s cap, bus.openSpace d.address = .ok s ∧ s.hasChain = false ∧
      d.express = some cap := by
  unfold isStale
  cases bus.openSpace d.address with
  | error e => simp [Except.toOption]
  | ok s => simp [Except.toOption, Option.isSome_iff_exists]

/-- A stale device is no PCI Express device now. -/
theorem not_isExpress_of_isStale (h : isStale bus d) : isExpress bus d.address = false := by
  obtain ⟨s, cap, hs, hchain, -⟩ := isStale_iff.mp h
  simp [isExpress, hs, Except.toOption, hchain]

theorem expressOf_eq (d : Device) (s : ConfigSpace) :
    expressOf d s = if s.hasChain then Capability.findExpress s else d.express := by
  rw [expressOf, s.hasChain_eq]

theorem locate?_of_isExpress (h : isExpress bus d.address) :
    ∃ d', locate? bus d = some d' ∧ Located bus d d' := by
  obtain ⟨s, cap, hs, hchain, hcap⟩ := isExpress_iff.mp h
  have hexpress : expressOf d s = some cap := by
    rw [expressOf_eq, if_pos hchain, hcap]
  refine ⟨{ d with express := some cap, aer := Capability.findAer s }, ?_, s, hs, ?_⟩
  · simp only [locate?, hs, hexpress]
  · rw [hcap]

theorem locate?_of_isStale (h : isStale bus d) :
    ∃ d', locate? bus d = some d' ∧ Retained bus d d' := by
  obtain ⟨s, cap, hs, hchain, hcap⟩ := isStale_iff.mp h
  have hexpress : expressOf d s = some cap := by
    rw [expressOf_eq, hchain, if_neg Bool.false_ne_true, hcap]
  refine ⟨{ d with express := some cap, aer := Capability.findAer s }, ?_, s, hs, ?_⟩
  · simp only [locate?, hs, hexpress]
  · rw [← hcap]

theorem locate?_eq_none (hexpress : isExpress bus d.address = false) (hstale : isStale bus d = false) :
    locate? bus d = none := by
  by_contra hne
  obtain ⟨d', hd'⟩ := Option.ne_none_iff_exists'.mp hne
  obtain ⟨s, cap, hs, hcap, -⟩ := locate?_eq_some hd'
  rw [expressOf_eq] at hcap
  split_ifs at hcap with hchain
  · have h : isExpress bus d.address := isExpress_iff.mpr ⟨s, cap, hs, hchain, hcap⟩
    rw [hexpress] at h
    exact Bool.false_ne_true h
  · have h : isStale bus d := isStale_iff.mpr ⟨s, cap, hs, by simpa using hchain, hcap⟩
    rw [hstale] at h
    exact Bool.false_ne_true h

end Judgement

section Lists

variable {α β : Type} {R : α → β → Prop} {f : α → Option β} {keep : α → Bool}

/-- A partial function gives results for exactly the members that are kept, in their order. -/
theorem forall₂_filterMap {l : List α} (hkeep : ∀ a ∈ l, keep a → ∃ b, f a = some b ∧ R a b)
    (hdrop : ∀ a ∈ l, keep a = false → f a = none) :
    List.Forall₂ R (l.filter keep) (l.filterMap f) := by
  induction l with
  | nil => exact .nil
  | cons a l ih =>
    obtain ⟨hkeepa, hkeep⟩ := List.forall_mem_cons.mp hkeep
    obtain ⟨hdropa, hdrop⟩ := List.forall_mem_cons.mp hdrop
    by_cases ha : keep a
    · obtain ⟨b, hb, hR⟩ := hkeepa ha
      rw [List.filter_cons_of_pos ha, List.filterMap_cons_some hb]
      exact .cons hR (ih hkeep hdrop)
    · rw [List.filter_cons_of_neg ha, List.filterMap_cons_none (hdropa (by simpa using ha))]
      exact ih hkeep hdrop

end Lists

section Pruning

/-- A stale device is one more than the PCI Express devices of now. -/
theorem length_express_lt {bus : Bus} {ds : List Device} {d : Device} (hd : d ∈ ds)
    (hstale : isStale bus d) :
    (ds.filter (isExpress bus ·.address)).length <
      (ds.filter fun d => isExpress bus d.address || isStale bus d).length := by
  have hsublist : (ds.filter (isExpress bus ·.address)).Sublist
      (ds.filter fun d => isExpress bus d.address || isStale bus d) :=
    List.monotone_filter_right _ fun d hd => by simp [hd]
  refine Nat.lt_of_le_of_ne hsublist.length_le fun hlength => ?_
  have hmem : d ∈ ds.filter fun d => isExpress bus d.address || isStale bus d :=
    List.mem_filter.mpr ⟨hd, by simp [hstale]⟩
  rw [← hsublist.eq_of_length hlength] at hmem
  have hexpress : isExpress bus d.address = true := (List.mem_filter.mp hmem).2
  rw [not_isExpress_of_isStale hstale] at hexpress
  exact Bool.false_ne_true hexpress

variable (bus : Bus) (fleet : Fleet)

/-- Pruning keeps the PCI Express devices of now, with the structures that are found now, and the stale
devices, with the PCI Express structure from before. So it shows a fleet as it is now exactly if no
device is stale, as in a fleet that was just enumerated. -/
theorem prune_keeps_express_and_stale :
    List.Forall₂ (fun d d' => if isStale bus d then Retained bus d d' else Located bus d d')
        (fleet.devices.filter fun d => isExpress bus d.address || isStale bus d)
        (prune bus fleet).devices ∧
      (IsPruned bus fleet (prune bus fleet) ↔ ∀ d ∈ fleet.devices, isStale bus d = false) := by
  have hkept : List.Forall₂
      (fun d d' => if isStale bus d then Retained bus d d' else Located bus d d')
      (fleet.devices.filter fun d => isExpress bus d.address || isStale bus d)
      (prune bus fleet).devices := by
    refine forall₂_filterMap (fun d _ hd => ?_) fun d _ hd => ?_
    · by_cases hstale : isStale bus d
      · simpa only [if_pos hstale] using locate?_of_isStale hstale
      · have hexpress : isExpress bus d.address := by simpa [hstale] using hd
        simpa only [if_neg hstale] using locate?_of_isExpress hexpress
    · rw [Bool.or_eq_false_iff] at hd
      exact locate?_eq_none hd.1 hd.2
  refine ⟨hkept, fun hpruned d hd => ?_, fun hfresh => ?_⟩
  · by_contra hstale
    rw [Bool.not_eq_false] at hstale
    -- both descriptions have as many devices as were kept
    have hlength := length_express_lt hd hstale
    have hpruned := hpruned.length_eq
    have hkept := hkept.length_eq
    omega
  · exact forall₂_filterMap (fun d _ hd => locate?_of_isExpress hd)
      fun d hd hexpress => locate?_eq_none hexpress (hfresh d hd)

/-- A device whose space tells of no chain any more is kept with the structure from before. -/
theorem prune_keeps_lost_structure :
    let bus := sampleBus [(sampleSpace 0 0 0).write8 0x06 0]
    isExpress bus sampleDevice.address = false ∧ isStale bus sampleDevice ∧
      prune bus ⟨[sampleDevice]⟩ = ⟨[sampleDevice]⟩ ∧
      ¬ IsPruned bus ⟨[sampleDevice]⟩ (prune bus ⟨[sampleDevice]⟩) := by
  intro bus
  have hexpress : isExpress bus sampleDevice.address = false := by decide +kernel
  have hprune : prune bus ⟨[sampleDevice]⟩ = ⟨[sampleDevice]⟩ := by decide +kernel
  refine ⟨hexpress, by decide +kernel, hprune, ?_⟩
  rw [hprune, IsPruned, List.filter_cons_of_neg (by simp [hexpress])]
  exact nofun

end Pruning

section Discovery

variable {bus : Bus}

/-- The devices that discovery gives. -/
def discovered (bus : Bus) : List Device :=
  match discover bus with
  | .ok fleet => fleet.devices
  | .error _ => []

theorem discovered_eq {as : List Address} (h : bus.list = .ok as) :
    discovered bus = as.filterMap fun address => locate? bus { address } := by
  unfold discovered
  rw [discover_eq h]
  dsimp only
  split_ifs with hnone
  · exact hnone.symm
  · rfl

theorem isStale_fresh (a : Address) : isStale bus { address := a } = false := by
  unfold isStale
  cases bus.openSpace a with
  | error e => rfl
  | ok s => simp [Except.toOption]

theorem forall₂_located (bus : Bus) (as : List Address) :
    List.Forall₂ (fun a => Located bus { address := a }) (as.filter (isExpress bus))
      (as.filterMap fun address => locate? bus { address }) :=
  forall₂_filterMap (fun _ _ ha => locate?_of_isExpress ha)
    fun a _ ha => locate?_eq_none ha (isStale_fresh a)

/-- What is found at some of the addresses is what is found where only these are listed. -/
theorem filter_filterMap_locate? (bus : Bus) (as : List Address) (others : Address → Bool) :
    (as.filterMap fun address => locate? bus { address }).filter (others ·.address) =
      (as.filter others).filterMap fun address => locate? bus { address } := by
  rw [List.filter_filterMap, List.filterMap_filter]
  refine List.filterMap_congr fun a _ => ?_
  cases hd : locate? bus { address := a } with
  | none => simp
  | some d =>
    obtain ⟨s, cap, -, -, rfl⟩ := locate?_eq_some hd
    simp [Option.filter]

/-- Discovery fails as listing does, or for want of devices, exactly if none of the listed functions is
a PCI Express device; otherwise it gives these, in the order of the list, each with its structures and
with nothing seen yet. What it finds of some functions stays the same whatever becomes of the others,
in the list and when they are opened. -/
theorem discover_gives_express (bus : Bus) :
    (∀ e, bus.list = .error e → discover bus = .error e) ∧
    ∀ as, bus.list = .ok as →
      (discover bus = .error (.noDevicesFound bus.accessDir) ↔ as.filter (isExpress bus) = []) ∧
      (as.filter (isExpress bus) ≠ [] → ∃ fleet, discover bus = .ok fleet ∧
        List.Forall₂ (fun a => Located bus { address := a }) (as.filter (isExpress bus))
          fleet.devices) ∧
      ∀ bus' as' (others : Address → Bool), bus'.list = .ok as' →
        as'.filter others = as.filter others →
        (∀ a, others a → bus'.openSpace a = bus.openSpace a) →
        (discovered bus').filter (others ·.address) =
          (discovered bus).filter (others ·.address) := by
  refine ⟨fun e hlist => ?_, fun as hlist => ?_⟩
  · simp [discover, enumerate, hlist, Except.map, bind, Except.bind]
  · have hlocated := forall₂_located bus as
    have hdiscover := discover_eq hlist
    dsimp only at hdiscover
    have hempty : as.filter (isExpress bus) = [] ↔
        (as.filterMap fun address => locate? bus { address }) = [] := by
      rw [← List.length_eq_zero_iff, ← List.length_eq_zero_iff, hlocated.length_eq]
    refine ⟨?_, fun hne => ?_, fun bus' as' others hlist' hothers hopen => ?_⟩
    · rw [hdiscover, hempty]
      split_ifs with hnone
      · exact iff_of_true rfl hnone
      · exact iff_of_false (by simp) hnone
    · rw [Ne, hempty] at hne
      rw [if_neg hne] at hdiscover
      exact ⟨_, hdiscover, hlocated⟩
    · rw [discovered_eq hlist', discovered_eq hlist, filter_filterMap_locate?,
        filter_filterMap_locate?, hothers]
      refine List.filterMap_congr fun a ha => ?_
      have hsame : bus'.openSpace a = bus.openSpace a := hopen a (List.mem_filter.mp ha).2
      simp only [locate?, hsame]

section Sample

/-- A platform that lists a function twice, one that cannot be opened, one without a chain and one whose
space ends with the standard part. -/
def mixedBus (faulty : MemorySpace) : Bus :=
  let plain : MemorySpace := { (sampleSpace 0 0 0).write8 0x06 0 with address := ⟨0, 3, 1, 0⟩ }
  let short : MemorySpace := { (sampleSpace 0 0 0).resize 0x100 with address := ⟨0, 5, 0, 0⟩ }
  let spaces := [sampleSpace 0 0 0, plain, short, faulty]
  .ofSpaces "/sys/bus/pci" (.ok [⟨0, 3, 0, 0⟩, ⟨0, 4, 0, 0⟩, ⟨0, 3, 1, 0⟩, faulty.address, ⟨0, 5, 0, 0⟩,
    ⟨0, 3, 0, 0⟩]) (spaces.map fun m => (m.address, m)) .notFound

/-- Three of six listed functions are PCI Express devices, and a space that is cut off within its header
changes nothing about the others. -/
theorem discover_gives_mixed_express :
    let good := mixedBus { sampleSpace 0 0 0 with address := ⟨0, 6, 0, 0⟩ }
    let bus := mixedBus ⟨⟨0, 6, 0, 0⟩, [0x86]⟩
    let gone : Error := .deviceListUnavailable "/sys/bus/pci/devices" .notFound
    let short : Device := { address := ⟨0, 5, 0, 0⟩, express := some 0x40 }
    discover { bus with list := .error gone } = .error gone ∧
      (∃ fleet, discover bus = .ok fleet ∧ fleet.devices = [sampleDevice, short, sampleDevice] ∧
        List.Forall₂ (fun a => Located bus { address := a })
          [⟨0, 3, 0, 0⟩, ⟨0, 5, 0, 0⟩, ⟨0, 3, 0, 0⟩] fleet.devices) ∧
      (discovered good).length = 4 ∧
      (discovered good).filter (·.address != ⟨0, 6, 0, 0⟩) =
        (discovered bus).filter (·.address != ⟨0, 6, 0, 0⟩) := by
  intro good bus gone short
  have hexpress : ([⟨0, 3, 0, 0⟩, ⟨0, 4, 0, 0⟩, ⟨0, 3, 1, 0⟩, ⟨0, 6, 0, 0⟩, ⟨0, 5, 0, 0⟩,
      ⟨0, 3, 0, 0⟩] : List Address).filter (isExpress bus) =
      [⟨0, 3, 0, 0⟩, ⟨0, 5, 0, 0⟩, ⟨0, 3, 0, 0⟩] := by decide +kernel
  obtain ⟨-, hfound, hothers⟩ := (discover_gives_express bus).2 _ rfl
  rw [hexpress] at hfound
  obtain ⟨fleet, hfleet, hlocated⟩ := hfound (by decide)
  have hdevices : discovered bus = [sampleDevice, short, sampleDevice] := by decide +kernel
  rw [discovered, hfleet] at hdevices
  refine ⟨(discover_gives_express _).1 gone rfl, ⟨fleet, hfleet, hdevices, hlocated⟩,
    by decide +kernel, ?_⟩
  refine hothers good _ (· != ⟨0, 6, 0, 0⟩) rfl rfl fun a ha => ?_
  have hne : (a == ⟨0, 6, 0, 0⟩) = false := by simpa using ha
  simp only [good, bus, mixedBus, Bus.ofSpaces, List.map_cons, List.map_nil, List.lookup_cons, hne]

end Sample

end Discovery

end Fleet

end AerWatch
