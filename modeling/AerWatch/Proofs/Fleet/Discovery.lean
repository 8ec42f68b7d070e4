import AerWatch.Fleet

/-!
# What discovery gives

Every device of a discovered fleet was listed, could be opened and has a PCI Express structure, and
nothing has been seen of its error bits.
-/

namespace AerWatch.Fleet

variable {bus : Bus} {fleet : Fleet} {d d' : Device}

theorem locate?_eq_some (h : locate? bus d = some d') :
    ∃ s cap, bus.openSpace d.address = .ok s ∧ expressOf d s = some cap ∧
      d' = { d with express := some cap, aer := Capability.findAer s } := by
  unfold locate? at h
  split at h
  · exact absurd h (by simp)
  · rename_i s hs
    split at h
    · exact absurd h (by simp)
    · rename_i cap hcap
      exact ⟨s, cap, hs, hcap, (Option.some.inj h).symm⟩

/-- Discovery finds what can be located at the addresses that are listed. -/
theorem discover_eq {as : List Address} (h : bus.list = .ok as) :
    discover bus =
      let found := as.filterMap fun address => locate? bus { address }
      if found = [] then .error (.noDevicesFound bus.accessDir) else .ok ⟨found⟩ := by
  have hfound : prune bus ⟨as.map fun address => { address }⟩ =
      ⟨as.filterMap fun address => locate? bus { address }⟩ := by
    rw [prune, List.filterMap_map]
    rfl
  have hlisted : enumerate bus = .ok ⟨as.map fun address => { address }⟩ := by
    rw [enumerate, h]
    rfl
  simp only [discover, hlisted, bind, Except.bind, hfound]
  split <;> rfl

/-- A device of a discovered fleet is what was found at a listed address. -/
theorem exists_of_discover (h : discover bus = .ok fleet) (hd : d ∈ fleet.devices) :
    ∃ as, bus.list = .ok as ∧ ∃ a ∈ as, locate? bus { address := a } = some d := by
  unfold discover at h
  obtain ⟨listed, hlisted, h⟩ := bind_eq_ok.mp h
  cases has : bus.list with
  | error e => simp [enumerate, has, Except.map] at hlisted
  | ok as =>
    obtain rfl : (⟨as.map fun address => { address }⟩ : Fleet) = listed := by
      simpa [enumerate, has, Except.map] using hlisted
    dsimp only at h
    split at h
    · obtain ⟨_, hthrow, -⟩ := bind_eq_ok.mp h
      exact absurd hthrow nofun
    · obtain rfl := Except.ok.inj h
      obtain ⟨d₀, hd₀, hlocate⟩ := List.mem_filterMap.mp hd
      obtain ⟨a, ha, rfl⟩ := List.mem_map.mp hd₀
      exact ⟨as, rfl, a, ha, hlocate⟩

theorem address_of_discover {as : List Address} (h : discover bus = .ok fleet)
    (has : bus.list = .ok as) : ∀ d ∈ fleet.devices, d.address ∈ as := by
  intro d hd
  obtain ⟨as', has', a, ha, hlocate⟩ := exists_of_discover h hd
  obtain rfl : as' = as := Except.ok.inj (has'.symm.trans has)
  obtain ⟨s, cap, -, -, rfl⟩ := locate?_eq_some hlocate
  exact ha

/-- Nothing has been seen of a device that was just discovered. -/
theorem snapshot_of_discover (h : discover bus = .ok fleet) (hd : d ∈ fleet.devices) :
    d.snapshot = {} := by
  obtain ⟨as, -, a, -, hlocate⟩ := exists_of_discover h hd
  obtain ⟨s, cap, -, -, rfl⟩ := locate?_eq_some hlocate
  rfl

end AerWatch.Fleet
