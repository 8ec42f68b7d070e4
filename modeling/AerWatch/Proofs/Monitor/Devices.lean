import AerWatch.Proofs.Fleet.Upkeep
import AerWatch.Proofs.Monitor.Cycle

/-!
# The devices of a monitor

A cycle does to the devices what a poll does and reads the log besides, so the devices of a monitor
after some cycles are those that polls of its buses leave. What polls keep of a discovered fleet, the
cycles of a monitor keep, too, and every event of theirs about an AER structure is one of a device that
has such a structure.
-/

namespace AerWatch

namespace Monitor

section Runs

/-- A monitor after cycles, each with the bus and the files that it meets. -/
def after (m : Monitor) (cycles : List (Bus × FileSystem)) : Monitor :=
  cycles.foldl (fun m (bus, fs) => (m.read (some bus) fs).monitor) m

/-- The events of cycles. -/
def events : Monitor → List (Bus × FileSystem) → List Event
  | _, [] => []
  | m, (bus, fs) :: cycles =>
    (m.read (some bus) fs).events ++ events (m.read (some bus) fs).monitor cycles

variable {m : Monitor}

/-- Cycles leave the devices that polls leave. -/
theorem fleet_after (m : Monitor) (cycles : List (Bus × FileSystem)) :
    (m.after cycles).fleet = m.fleet.after m.policy (cycles.map Prod.fst) := by
  induction cycles generalizing m with
  | nil => rfl
  | cons cycle cycles ih =>
    obtain ⟨hfleet, hpolicy⟩ := frame_read m (some cycle.1) cycle.2
    rw [after, List.foldl_cons]
    refine (ih _).trans ?_
    rw [hfleet, hpolicy]
    rfl

theorem isOfAer_toEvent (message : Log.Message) : message.toEvent.isOfAer = false := by
  rw [message.toEvent_eq]
  simp [Event.isOfAer, Event.pcieError, List.isPrefixOf]

/-- Events about AER structures come from the poll. -/
theorem mem_poll_of_isOfAer {bus : Option Bus} {fs : FileSystem} {e : Event}
    (h : e ∈ (m.read bus fs).events) (he : e.isOfAer) : e ∈ (m.poll bus).events := by
  rcases mem_events_read m bus fs h with h | ⟨p, -, hp⟩ | rfl
  · exact h
  · obtain ⟨message, -, rfl⟩ := List.mem_map.mp hp
    rw [isOfAer_toEvent] at he
    exact absurd he Bool.false_ne_true
  · simp [logFailure, Event.isOfAer, Event.failure, List.isPrefixOf] at he

theorem mem_events_of_isOfAer {cycles : List (Bus × FileSystem)} {e : Event}
    (h : e ∈ m.events cycles) (he : e.isOfAer) :
    e ∈ Fleet.events m.policy m.fleet (cycles.map Prod.fst) := by
  induction cycles generalizing m with
  | nil => exact h
  | cons cycle cycles ih =>
    obtain ⟨hfleet, hpolicy⟩ := frame_read m (some cycle.1) cycle.2
    rcases List.mem_append.mp h with h | h
    · exact List.mem_append_left _ (mem_poll_of_isOfAer h he)
    · have hrest := ih h
      rw [hfleet, hpolicy] at hrest
      exact List.mem_append_right _ hrest

end Runs

section Discovery

variable {c : Config} {bus₀ : Bus} {m : Monitor}

/-- A new monitor of a bus has the devices that are discovered there. -/
theorem discover_of_ofBus (h : Monitor.ofBus c (some bus₀) = .ok m) :
    Fleet.discover bus₀ = .ok m.fleet := by
  unfold Monitor.ofBus at h
  obtain ⟨-, -, h⟩ := bind_eq_ok.mp h
  obtain ⟨fleet, hfleet, h⟩ := bind_eq_ok.mp h
  have hparsers : ∃ parsers, m = ⟨c.policy, fleet, parsers, c.firstFullRead⟩ := by
    split at h
    all_goals
      obtain ⟨parsers, -, h⟩ := bind_eq_ok.mp h
      exact ⟨parsers, (Except.ok.inj h).symm⟩
  obtain ⟨parsers, rfl⟩ := hparsers
  exact hfleet

/-- Of a discovered fleet, polls and the cycles of a monitor keep the number, the order, the addresses
and the structures of the devices. All devices are PCI Express devices, of Device Status only the
error bits are remembered, and a device without an AER structure remembers nothing of its registers
and never has an event about them. -/
theorem devices_of_discovered_fleet {fleet : Fleet} (hfleet : Fleet.discover bus₀ = .ok fleet) :
    (∀ p buses, Fleet.Continues fleet (fleet.after p buses) ∧
      ∀ i d, fleet.devices[i]? = some d → d.aer = none →
        ∀ e ∈ Fleet.eventsOf p i fleet buses, e.isOfAer = false) ∧
    ∀ c m cycles, Monitor.ofBus c (some bus₀) = .ok m →
      Fleet.Continues fleet (m.after cycles).fleet ∧
      ∀ e ∈ m.events cycles, e.isOfAer → ∃ i d, fleet.devices[i]? = some d ∧ d.aer.isSome ∧
        e ∈ Fleet.eventsOf m.policy i fleet (cycles.map Prod.fst) := by
  refine ⟨fun p buses => ⟨Fleet.continues_of_discover hfleet p buses, fun i d hd haer =>
    Fleet.isOfAer_of_mem_eventsOf hd haer buses⟩, fun c m cycles hm => ?_⟩
  obtain rfl : fleet = m.fleet := Except.ok.inj (hfleet.symm.trans (discover_of_ofBus hm))
  refine ⟨?_, fun e he haer => ?_⟩
  · rw [fleet_after]
    exact Fleet.continues_of_discover hfleet m.policy _
  · obtain ⟨i, d, hd, hmem⟩ := Fleet.exists_of_mem_events (mem_events_of_isOfAer he haer)
    refine ⟨i, d, hd, Option.isSome_iff_ne_none.mpr fun hnone => ?_, hmem⟩
    rw [Fleet.isOfAer_of_mem_eventsOf hd hnone _ e hmem] at haer
    exact Bool.false_ne_true haer

end Discovery

section Sample

open Fleet

/-- A function without an AER structure is gone for one cycle, and in the next one its space has got such
a structure, with an error. -/
theorem devices_of_growing_space :
    let bus₀ := sampleBus [(sampleSpace 0xfff4 0 0).resize 0x100]
    let cycles := [(bus₀, FileSystem.empty), (sampleBus [], .empty),
      (sampleBus [sampleSpace 0x8 0x10 0], .empty)]
    let d : Device := { sampleDevice with aer := none }
    let m : Monitor := { policy := {}, fleet := ⟨[d]⟩, parsers := [], firstRead := false }
    discover bus₀ = .ok ⟨[d]⟩ ∧ Monitor.ofBus {} (some bus₀) = .ok m ∧
      (m.events cycles).length = 4 ∧
      (m.after cycles).fleet = ⟨[{ d with snapshot := { deviceStatus := 0x8 } }]⟩ ∧
      Continues ⟨[d]⟩ (m.after cycles).fleet ∧
      ∀ e ∈ eventsOf {} 0 ⟨[d]⟩ (cycles.map Prod.fst), e.isOfAer = false := by
  intro bus₀ cycles d m
  have hfleet : discover bus₀ = .ok ⟨[d]⟩ := by decide +kernel
  have hm : Monitor.ofBus {} (some bus₀) = .ok m := by
    simp only [Monitor.ofBus, hfleet]
    rfl
  obtain ⟨hfleets, hmonitors⟩ := devices_of_discovered_fleet hfleet
  refine ⟨hfleet, hm, ?_, ?_, (hmonitors {} m cycles hm).1,
    (hfleets {} (cycles.map Prod.fst)).2 0 d rfl rfl⟩
  · decide +kernel
  · decide +kernel

end Sample

end Monitor

end AerWatch
