import AerWatch.Proofs.Fleet.Discovery
import AerWatch.Proofs.Fleet.Runs
import AerWatch.Proofs.Policy.Notices

/-!
# What polls keep

Discovery fixes which devices a fleet has, in which order, and where their structures are; polls change
only what is remembered of the error bits. Of these a device remembers no more than its registers
tell: four bits of Device Status, and nothing of the registers of a structure that it lacks. So a
device without an AER structure never gives rise to an event about one.
-/

namespace AerWatch

namespace Device

/-- What polls never change of a device: where it is, and where its structures are. -/
def place (d : Device) : Address × Option UInt16 × Option UInt16 := (d.address, d.express, d.aer)

/-- A PCI Express device of which no more is remembered than its registers tell. -/
structure Sound (d : Device) : Prop where
  express : d.express.isSome
  deviceStatus : d.snapshot.deviceStatus &&& ErrorBit.statusMask = d.snapshot.deviceStatus
  aer : d.aer = none → d.snapshot.uncorrectable = 0 ∧ d.snapshot.correctable = 0

end Device

namespace Policy

variable {s : ConfigSpace} {d : Device} {status : Snapshot}

theorem sound_of_readStatus (hd : d.Sound) (h : readStatus d s = .ok status) :
    Device.Sound { d with snapshot := status } where
  express := hd.express
  deviceStatus := by
    obtain ⟨cap, hcap⟩ := Option.isSome_iff_exists.mp hd.express
    obtain ⟨v, -, hv⟩ := (shows_of_readStatus h).express cap hcap
    dsimp only
    rw [hv, UInt16.and_assoc, UInt16.and_self]
  aer haer := by
    obtain ⟨huncorrectable, hcorrectable⟩ := (shows_of_readStatus h).noAer haer
    rw [huncorrectable, hcorrectable]
    exact hd.aer haer

end Policy

/-- Whether the event reports an error of the AER status registers. -/
def Event.isOfAer (e : Event) : Bool :=
  "Uncorrectable(".toList.isPrefixOf e.message.toList ||
    "Correctable Error ".toList.isPrefixOf e.message.toList

theorem Policy.presentIn_of_mem_announced {p : Policy} {s : ConfigSpace} {d : Device}
    {status : Snapshot} {k : StatusRegister} {e : Event} (h : e ∈ p.announced s d status k) :
    k.presentIn d := (exists_of_mem_announced h).1

/-- The texts of events tell the AER registers from Device Status. -/
theorem Policy.isOfAer_of_mem_announced {p : Policy} {s : ConfigSpace} {d : Device}
    {status : Snapshot} {k : StatusRegister} {e : Event} (h : e ∈ p.announced s d status k) :
    e.isOfAer = (k != .deviceStatus) := by
  obtain ⟨-, b, t, -, -, rfl⟩ := exists_of_mem_announced h
  rw [Event.isOfAer, (announce_eq ..).2]
  generalize k.classOf s d b = c
  cases k <;> cases c <;> cases t <;>
    simp [StatusRegister.label, Transition.words, ErrorClass.text, List.isPrefixOf]

namespace Fleet

section Devices

variable {p : Policy} {d : Device}

theorem sound_pollDevice (hd : d.Sound) (bus : Bus) : (pollDevice p bus d).device.Sound := by
  rw [pollDevice_eq]
  cases hr : reading? bus d with
  | none => exact hd
  | some r => exact Policy.sound_of_readStatus hd (of_reading?_eq_some hr).2

theorem place_pollDevice (bus : Bus) : (pollDevice p bus d).device.place = d.place := by
  obtain ⟨status, hstatus⟩ := device_pollDevice p bus d
  rw [hstatus]
  rfl

/-- A poll of a device without an AER structure gives no event about one. -/
theorem isOfAer_of_mem_pollDevice (hd : d.aer = none) {bus : Bus} {e : Event}
    (he : e ∈ (pollDevice p bus d).events) : e.isOfAer = false := by
  rw [pollDevice_eq] at he
  cases hr : reading? bus d with
  | none =>
    rw [hr] at he
    obtain rfl := List.mem_singleton.mp he
    simp [readFailure, Event.failure, Event.isOfAer, List.isPrefixOf]
  | some r =>
    rw [hr] at he
    obtain ⟨k, -, hk⟩ := List.mem_flatMap.mp he
    have hpresent : k.presentIn d := Policy.presentIn_of_mem_announced hk
    rw [Policy.isOfAer_of_mem_announced hk]
    cases k <;> simp_all [StatusRegister.presentIn]

end Devices

section Runs

/-- What every later state of a fleet keeps of the one that was discovered. -/
structure Continues (fleet fleet' : Fleet) : Prop where
  places : fleet'.devices.map Device.place = fleet.devices.map Device.place
  sound : ∀ d ∈ fleet'.devices, d.Sound

variable {bus₀ : Bus} {fleet fleet' : Fleet} {p : Policy}

theorem sound_of_discover (h : discover bus₀ = .ok fleet) : ∀ d ∈ fleet.devices, d.Sound := by
  intro d hd
  obtain ⟨as, -, a, -, hlocate⟩ := exists_of_discover h hd
  obtain ⟨s, cap, -, -, rfl⟩ := locate?_eq_some hlocate
  exact ⟨rfl, UInt16.zero_and, fun _ => ⟨rfl, rfl⟩⟩

theorem Continues.poll (h : Continues fleet fleet') (bus : Bus) :
    Continues fleet (poll p bus fleet').fleet := by
  rw [poll_eq]
  refine ⟨?_, List.forall_mem_map.mpr fun d hd => sound_pollDevice (h.sound d hd) bus⟩
  rw [← h.places, List.map_map]
  exact List.map_congr_left fun d _ => place_pollDevice bus

theorem Continues.after (h : Continues fleet fleet') (buses : List Bus) :
    Continues fleet (fleet'.after p buses) := by
  induction buses generalizing fleet' with
  | nil => exact h
  | cons bus buses ih => exact ih (h.poll bus)

theorem continues_of_discover (h : discover bus₀ = .ok fleet) (p : Policy) (buses : List Bus) :
    Continues fleet (fleet.after p buses) :=
  Continues.after ⟨rfl, sound_of_discover h⟩ buses

theorem isOfAer_of_mem_eventsOf {i : Nat} {d : Device} (hd : fleet.devices[i]? = some d)
    (haer : d.aer = none) (buses : List Bus) : ∀ e ∈ eventsOf p i fleet buses, e.isOfAer = false := by
  rw [eventsOf_eq hd]
  clear hd
  induction buses generalizing d with
  | nil => simp [deviceEvents]
  | cons bus buses ih =>
    obtain ⟨status, hstatus⟩ := device_pollDevice p bus d
    rw [deviceEvents, List.forall_mem_append, hstatus]
    exact ⟨fun e he => isOfAer_of_mem_pollDevice haer he, ih haer⟩

/-- Every event of a run of polls is one of a device of the fleet. -/
theorem exists_of_mem_events {buses : List Bus} {e : Event} (h : e ∈ events p fleet buses) :
    ∃ i d, fleet.devices[i]? = some d ∧ e ∈ eventsOf p i fleet buses := by
  induction buses generalizing fleet with
  | nil => simp [events] at h
  | cons bus buses ih =>
    rcases List.mem_append.mp h with h | h
    · rw [poll_eq] at h
      obtain ⟨d, hd, he⟩ := List.mem_flatMap.mp h
      obtain ⟨i, hi⟩ := List.mem_iff_getElem?.mp hd
      refine ⟨i, d, hi, List.mem_append_left _ ?_⟩
      rwa [shareOf_eq hi]
    · obtain ⟨i, d', hd', he⟩ := ih h
      rw [poll_eq, List.getElem?_map, Option.map_eq_some_iff] at hd'
      obtain ⟨d, hd, -⟩ := hd'
      exact ⟨i, d, hd, List.mem_append_right _ he⟩

end Runs

end Fleet

end AerWatch
