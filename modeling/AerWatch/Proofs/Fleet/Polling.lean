import AerWatch.Fleet
import AerWatch.Proofs.Policy.Registers
import Mathlib.Data.List.Forall2
import Mathlib.Data.List.Zip

/-!
# One poll

A poll goes from device to device with the events and the failures so far, but what it does to a
device and announces of it depends on neither. So a poll of a fleet gives what polls of its devices
alone would give: their final states, their events one after another and the count of those that
failed. The order of the devices matters for the order of the events only.
-/

namespace AerWatch.Fleet

section Readings

variable (bus : Bus) (d : Device)

/-- The space of a device and what its status registers hold, if they can be read. -/
def reading? : Option (ConfigSpace × Snapshot) :=
  match bus.openSpace d.address with
  | .error _ => none
  | .ok s =>
    match Policy.readStatus d s with
    | .error _ => none
    | .ok status => some (s, status)

/-- Whether a device cannot be opened or its status cannot be read. -/
def fails : Bool := (reading? bus d).isNone

variable (p : Policy) {bus d}

theorem of_reading?_eq_some {s : ConfigSpace} {status : Snapshot}
    (h : reading? bus d = some (s, status)) :
    bus.openSpace d.address = .ok s ∧ Policy.readStatus d s = .ok status := by
  unfold reading? at h
  split at h
  · cases h
  · rename_i hs
    split at h
    · cases h
    · rename_i hstatus
      cases h
      exact ⟨hs, hstatus⟩

theorem fails_iff :
    fails bus d ↔ ∀ s, bus.openSpace d.address = .ok s → ∃ e, Policy.readStatus d s = .error e := by
  unfold fails reading?
  cases bus.openSpace d.address with
  | error e => simp
  | ok s => cases hstatus : Policy.readStatus d s <;> simp [hstatus]

theorem run_checkDevice_of_some {s : ConfigSpace} {status : Snapshot}
    (h : reading? bus d = some (s, status)) (events : List Event) :
    (checkDevice p bus).run (d, events) =
      .ok () ({ d with snapshot := status },
        events ++ StatusRegister.all.flatMap (p.announced s d status)) := by
  obtain ⟨hs, hstatus⟩ := of_reading?_eq_some h
  simp only [checkDevice, EStateM.run_bind, EStateM.run_get, Checking.run_ofExcept, hs]
  exact Policy.run_checking_of_ok hstatus events

/-- A check that fails leaves the device and the events as they were. -/
theorem run_checkDevice_of_none (h : reading? bus d = none) (events : List Event) :
    ∃ e, (checkDevice p bus).run (d, events) = .error e (d, events) := by
  simp only [checkDevice, EStateM.run_bind, EStateM.run_get, Checking.run_ofExcept]
  unfold reading? at h
  cases hs : bus.openSpace d.address with
  | error e => exact ⟨e, rfl⟩
  | ok s =>
    cases hstatus : Policy.readStatus d s with
    | error e => exact ⟨e, Policy.run_checking_of_error hstatus events⟩
    | ok status => simp [hs, hstatus] at h

variable (bus d)

/-- A poll of a device that can be read announces the changes and remembers what was read; one that
cannot be read is only reported. -/
theorem pollFrom_eq (events : List Event) :
    pollFrom p bus events d =
      match reading? bus d with
      | some (s, status) =>
        ⟨{ d with snapshot := status },
          events ++ StatusRegister.all.flatMap (p.announced s d status), false⟩
      | none => ⟨d, events ++ [readFailure d], true⟩ := by
  cases hr : reading? bus d with
  | none =>
    obtain ⟨e, he⟩ := run_checkDevice_of_none p hr events
    simp only [pollFrom, he]
  | some r => simp only [pollFrom, run_checkDevice_of_some p hr]

theorem pollDevice_eq :
    pollDevice p bus d =
      match reading? bus d with
      | some (s, status) =>
        ⟨{ d with snapshot := status }, StatusRegister.all.flatMap (p.announced s d status), false⟩
      | none => ⟨d, [readFailure d], true⟩ := pollFrom_eq bus d p []

/-- The events so far have no influence on a poll. -/
theorem pollFrom_eq_append (events : List Event) :
    pollFrom p bus events d =
      { pollDevice p bus d with events := events ++ (pollDevice p bus d).events } := by
  rw [pollFrom_eq, pollDevice_eq]
  cases reading? bus d <;> rfl

theorem failed_pollDevice : (pollDevice p bus d).failed = fails bus d := by
  rw [pollDevice_eq, fails]
  cases reading? bus d <;> rfl

theorem pollDevice_of_fails {bus : Bus} {d : Device} (h : fails bus d) :
    pollDevice p bus d = ⟨d, [readFailure d], true⟩ := by
  rw [pollDevice_eq, Option.isNone_iff_eq_none.mp h]

end Readings

section Polls

variable (p : Policy) (bus : Bus)

/-- The loop over the devices adds what each of them gives. -/
theorem pollAll_eq (events : List Event) (failed : Nat) (ds : List Device) :
    pollAll p bus events failed ds =
      (ds.map fun d => (pollDevice p bus d).device,
        events ++ ds.flatMap fun d => (pollDevice p bus d).events, failed + ds.countP (fails bus)) := by
  induction ds generalizing events failed with
  | nil => simp [pollAll]
  | cons d ds ih =>
    simp only [pollAll, ih, pollFrom_eq_append, failed_pollDevice, List.map_cons, List.flatMap_cons,
      List.countP_cons, List.append_assoc]
    cases fails bus d with
    | false => simp
    | true => simp [Nat.add_assoc, Nat.add_comm 1]

theorem poll_eq (fleet : Fleet) :
    poll p bus fleet =
      { fleet := ⟨fleet.devices.map fun d => (pollDevice p bus d).device⟩
        events := fleet.devices.flatMap fun d => (pollDevice p bus d).events
        result := verdict (fleet.devices.countP (fails bus)) } := by
  simp [poll, pollAll_eq]

theorem poll_singleton (d : Device) :
    (poll p bus ⟨[d]⟩).fleet.devices = [(pollDevice p bus d).device] ∧
      (poll p bus ⟨[d]⟩).events = (pollDevice p bus d).events := by
  simp [poll_eq]

/-- A poll of a fleet gives what polls of its devices alone give: every device ends as it would alone,
the events are those of the devices in order, a device that fails stays as it was and is reported, and
the failures are counted. Another order of the devices changes the order of the events only. -/
theorem poll_of_independent_devices (fleet : Fleet) :
    let alone := fun d => poll p bus ⟨[d]⟩
    let polled := poll p bus fleet
    let failed := fleet.devices.countP (fails bus)
    List.Forall₂ (fun d d' => (alone d).fleet.devices = [d']) fleet.devices polled.fleet.devices ∧
    polled.events = fleet.devices.flatMap (fun d => (alone d).events) ∧
    (∀ d ∈ fleet.devices, fails bus d →
      (alone d).fleet.devices = [d] ∧
        (alone d).events = [.failure d.address.text "Failed to read device status"]) ∧
    polled.result = (if failed = 0 then .ok () else .error (.cycleFailed failed)) ∧
    ∀ devices, devices.Perm fleet.devices →
      let other := poll p bus ⟨devices⟩
      (devices.zip other.fleet.devices).Perm (fleet.devices.zip polled.fleet.devices) ∧
        other.events.Perm polled.events ∧ other.result = polled.result := by
  intro alone polled failed
  refine ⟨?_, ?_, fun d _ hd => ?_, ?_, fun devices hperm => ?_⟩
  · simp only [polled, alone, poll_eq, List.forall₂_map_right_iff, List.map_cons, List.map_nil]
    exact List.forall₂_same.mpr fun _ _ => rfl
  · simp only [polled, alone, poll_singleton]
    simp only [poll_eq]
  · simp only [alone, poll_singleton, pollDevice_of_fails p hd, readFailure, and_self]
  · simp only [polled, poll_eq]
    rfl
  · simp only [polled, poll_eq, ← List.map_prod_left_eq_zip]
    refine ⟨hperm.map _, hperm.flatMap_right _, ?_⟩
    rw [hperm.countP_eq]

end Polls

section Sample

/-- The registers of a function that has both structures. -/
def sampleSpace (status : UInt16) (uncorrectable mask : UInt32) : MemorySpace :=
  let space : MemorySpace := ⟨⟨0, 3, 0, 0⟩, List.replicate 0x118 0⟩
  let space := ((space.write8 0x06 0x10).write8 0x34 0x40).write8 0x40 0x10
  let space := (space.write16 0x100 0x01).write16 0x4a status
  (space.write32 0x104 uncorrectable).write32 0x108 mask

/-- A platform with the given functions. -/
def sampleBus (spaces : List MemorySpace) : Bus :=
  .ofSpaces "/sys/bus/pci" (.ok (spaces.map (·.address))) (spaces.map fun m => (m.address, m))
    .notFound

def sampleDevice : Device := { address := ⟨0, 3, 0, 0⟩, express := some 0x40, aer := some 0x100 }

/-- A device that is gone is reported and counted, and its neighbour is polled all the same, on either
side of it. -/
theorem poll_of_absent_neighbour :
    let bus := sampleBus [sampleSpace 0x4 0 0]
    let absent : Device := { address := ⟨0, 4, 0, 0⟩, express := some 0x40 }
    let polled := poll {} bus ⟨[absent, sampleDevice]⟩
    let other := poll {} bus ⟨[sampleDevice, absent]⟩
    fails bus absent ∧ (poll {} bus ⟨[absent]⟩).fleet.devices = [absent] ∧
      polled.result = .error (.cycleFailed 1) ∧ [sampleDevice, absent].Perm [absent, sampleDevice] ∧
      other.events.Perm polled.events ∧ other.result = polled.result := by
  intro bus absent polled other
  have hfails : fails bus absent := by decide +kernel
  have hperm : [sampleDevice, absent].Perm [absent, sampleDevice] := .swap ..
  obtain ⟨-, -, halone, hresult, hother⟩ :=
    poll_of_independent_devices {} bus ⟨[absent, sampleDevice]⟩
  refine ⟨hfails, (halone absent List.mem_cons_self hfails).1, ?_, hperm, (hother _ hperm).2⟩
  rw [hresult, show List.countP _ _ = 1 by decide +kernel]
  rfl

end Sample

end AerWatch.Fleet
