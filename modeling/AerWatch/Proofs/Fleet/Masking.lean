import AerWatch.Proofs.Fleet.ErrorState
import AerWatch.Proofs.Policy.Flips

/-!
# Events about a bit that may be masked

When masked errors are left out, the events about a bit are its changes at the polls at which it was
not masked. A change that the mask hides is remembered like any other, so an odd number of hidden
changes makes the next event repeat the one before.
-/

namespace AerWatch.Fleet

variable {fleet : Fleet} {i : Nat} {d : Device} {p : Policy} {k : StatusRegister} {b : ErrorBit}

/-- The events that the polls of a fleet dispatch are those of its devices in turn. With the default
policy those about a bit of a device are the changes that were not hidden. All changes alternate; the
events do so exactly if an even number of changes was hidden before each of them, as when the mask of
the bit never changes. -/
theorem events_of_maskable_bit (hd : fleet.devices[i]? = some d) (hzero : d.snapshot = {})
    (hpersistent : p.persistent = false) (hmasked : p.reportMasked = false) (hk : k.presentIn d)
    (hb : b ∈ k.bits) (buses : List Bus) :
    let fs := flips false (buses.map (sight? k b · d))
    let told := (eventsOf p i fleet buses).filterMap (·.notice? k b)
    ToldInTurn p fleet ∧ told = shown fs ∧ Alternates (fs.map (·.change)) ∧
      (Alternates told ↔ HiddenParity 0 fs) ∧
      ((∃ m, ∀ bus ∈ buses, (sight? k b bus d).all (·.masked == m)) → Alternates told) := by
  intro fs told
  have hclear : b.isSet (k.value d.snapshot) = false := by
    rw [hzero, k.isSet_value_empty]
  have htold : told = shown fs := by
    rw [← Policy.told_eq_shown hpersistent hmasked, ← hclear, ← told_of_deviceEvents hk hb,
      ← eventsOf_eq hd]
  have hflips : Alternates (fs.map (·.change)) := isChain_flips false _
  have hiff : Alternates told ↔ HiddenParity 0 fs := by
    rw [htold]
    exact (isChain_shown .cleared .set (by decide) hflips).1
  refine ⟨toldInTurn p fleet, htold, hflips, hiff, ?_⟩
  rintro ⟨m, hm⟩
  refine hiff.mpr (hiddenParity_of_constant (m := m) fun f hf => ?_)
  obtain ⟨x, hx, hhidden⟩ := exists_of_mem_flips hf
  obtain ⟨bus, hbus, hsight⟩ := List.mem_map.mp hx
  have hall := hm bus hbus
  rw [hsight] at hall
  rw [hhidden]
  exact beq_iff_eq.mp hall

section Sample

/-- A link error that vanishes and comes back while it is masked: two changes are hidden. -/
theorem events_of_error_under_mask :
    let buses := [sampleBus [sampleSpace 0 0x10 0], sampleBus [sampleSpace 0 0 0x10],
      sampleBus [sampleSpace 0 0x10 0x10], sampleBus [sampleSpace 0 0 0]]
    let sights := buses.map (sight? .uncorrectable ⟨0x10, "Data Link Protocol"⟩ · sampleDevice)
    let fs := flips false sights
    let told := (eventsOf {} 0 ⟨[sampleDevice]⟩ buses).filterMap
      (·.notice? .uncorrectable ⟨0x10, "Data Link Protocol"⟩)
    (events {} ⟨[sampleDevice]⟩ buses).filter (·.subject == sampleDevice.address.text) =
        eventsOf {} 0 ⟨[sampleDevice]⟩ buses ∧
      told = [.set, .cleared] ∧ told = shown fs ∧ HiddenParity 0 fs := by
  intro buses sights fs told
  have htold : told = [.set, .cleared] := by decide +kernel
  have hd : (⟨[sampleDevice]⟩ : Fleet).devices[0]? = some sampleDevice := rfl
  obtain ⟨hturn, hshown, -, hiff, -⟩ := events_of_maskable_bit (p := {}) (k := .uncorrectable)
    (b := ⟨0x10, "Data Link Protocol"⟩) hd rfl rfl rfl rfl (by decide +kernel) buses
  refine ⟨hturn.subject (List.nodup_singleton _) 0 sampleDevice hd buses, htold, hshown, hiff.mp ?_⟩
  rw [show List.filterMap _ _ = _ from htold]
  decide

/-- A link error that vanishes while it is masked. -/
def passingMask : List Bus :=
  [sampleBus [sampleSpace 0 0x10 0], sampleBus [sampleSpace 0 0 0x10],
    sampleBus [sampleSpace 0 0x10 0]]

/-- One hidden change is enough: the polls succeed, and the error is told to be set twice, but never
to be cleared. -/
theorem not_alternates_of_passing_mask :
    let told := (eventsOf {} 0 ⟨[sampleDevice]⟩ passingMask).filterMap
      (·.notice? .uncorrectable ⟨0x10, "Data Link Protocol"⟩)
    events {} ⟨[sampleDevice]⟩ passingMask = eventsOf {} 0 ⟨[sampleDevice]⟩ passingMask ∧
      sampleDevice.snapshot = {} ∧ sampleDevice.aer.isSome ∧
      ⟨0x10, "Data Link Protocol"⟩ ∈ StatusRegister.uncorrectable.bits ∧
      (∀ bus ∈ passingMask, (pollDevice {} bus sampleDevice).failed = false) ∧
      told = [.set, .set] ∧ ¬ Alternates told := by
  refine ⟨?_, rfl, rfl, ?_, ?_, ?_, ?_⟩ <;> decide +kernel

end Sample

end AerWatch.Fleet
